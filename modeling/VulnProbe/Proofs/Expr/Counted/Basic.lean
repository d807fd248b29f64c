import VulnProbe.Proofs.Expr.Grammar.IntegerLiterals

namespace VulnProbe.Expr.Parser.Counted

/-- The state of the parser: the tokens that are not yet passed, and the number of expressions and signs
    that are open. `deepest` is no part of what the parser does: it keeps the greatest number of
    expressions and signs whose calls were open at once. -/
structure Cursor where
  rest : Tokens
  count : Nat
  deepest : Nat

/-- A call, which may go on for ever, fail or give a result, and moves the cursor in any case. -/
abbrev Call (α : Type) := ExceptT ExprError (StateT Cursor Option) α

section Steps

/-- The next token. -/
def next : Call Token := do
  return peek (← get).rest

/-- Moves past the next token. -/
def skip : Call Unit :=
  modify fun s => { s with rest := advance s.rest }

/-- A fault at the next token. -/
def refuse {α : Type} (issue : SyntaxIssue) : Call α := do
  throw (.syntaxError (position (← get).rest) issue)

/-- Moves past a given token, if it is the next one. -/
def eat (wanted : Token) : Call Bool := do
  if (← next) = wanted then
    skip
    return true
  return false

/-- Moves past a given token. -/
def expect (wanted : Token) : Call Unit := do
  if !(← eat wanted) then
    refuse (.expected wanted (← next))

/-- A tree one level above its tallest child. -/
def above (e : Expr) (childHeight : Nat) : Call Node := do
  if childHeight + 1 > maxDepth then
    refuse .tooDeep
  return (e, childHeight + 1)

/-- A sign over an operand: a minus over an integer literal is part of the literal. -/
def withSign (op : UnaryOp) (operand : Node) : Call Node :=
  match op, operand with
  | .neg, (.literal (.int i), h) => return (.literal (.int (-i)), h)
  | op, (e, h) => above (.unary op e) h

/-- Counts one more expression or sign. `outer` of them are open around it. -/
def enter (outer : Nat) : Call Unit := do
  modify fun s => { s with count := s.count + 1 }
  if (← get).count > maxDepth then
    refuse .tooDeep
  modify fun s => { s with deepest := max s.deepest (outer + 1) }

/-- Counts one expression or sign less, after a result and after a fault. -/
def leave : StateT Cursor Option Unit :=
  modify fun s => { s with count := s.count - 1 }

end Steps

/-- A call of the parser and what it gives. `outer` expressions and signs are open around it. -/
inductive Entry : Type → Type where
  /-- An expression. -/
  | expression (outer : Nat) : Entry Node
  /-- A conditional or what binds tighter. -/
  | conditional (outer : Nat) : Entry Node
  /-- A chain of operands of one level. -/
  | chain (l : Level) (outer : Nat) : Entry Node
  /-- The operand of a chain: the chain of the next tighter level, or an operand with its signs. -/
  | operand (l : Level) (outer : Nat) : Entry Node
  /-- The rest of a chain. -/
  | chainAfter (l : Level) (outer : Nat) (lhs : Node) : Entry Node
  /-- An operand with its signs. -/
  | unary (outer : Nat) : Entry Node
  /-- An operand with what follows it. -/
  | postfixed (outer : Nat) : Entry Node
  /-- The selections and indices that follow an operand. -/
  | postfixAfter (outer : Nat) (node : Node) : Entry Node
  /-- An operand without what may follow it. -/
  | primary (outer : Nat) : Entry Node
  /-- Expressions with commas between them up to a closing token, and the height of the tallest. -/
  | arguments (outer : Nat) (close : Token) : Entry (List Expr × Nat)
  /-- The rest of a bracketed list, after the trees already read. -/
  | argumentsAfter (outer : Nat) (close : Token) (read : List Expr) (height : Nat) : Entry (List Expr × Nat)
  /-- The entries of a map after its opening brace. -/
  | entries (outer : Nat) : Entry (List (Expr × Expr) × Nat)
  /-- The rest of a map, after the entries already read. -/
  | entriesAfter (outer : Nat) (read : List (Expr × Expr)) (height : Nat) : Entry (List (Expr × Expr) × Nat)
  /-- What an expression or a sign was opened for, up to where it is closed again. -/
  | closing (inner : Entry Node) : Entry Node

/-- What a call does. -/
def Entry.call {α : Type} : Entry α → Call α
  | .expression outer => do
    enter outer
    Entry.closing (.conditional (outer + 1)) |>.call
  | .conditional outer => do
    let (test, ht) ← Entry.chain .or outer |>.call
    if ← eat .question then
      let (yes, hy) ← Entry.chain .or outer |>.call
      expect .colon
      let (no, hn) ← Entry.expression outer |>.call
      above (.cond test yes no) (max (max ht hy) hn)
    else
      return (test, ht)
  | .chain l outer => do
    Entry.chainAfter l outer (← Entry.operand l outer |>.call) |>.call
  | .operand l outer =>
    match l.tighter? with
    | none | some .sign => Entry.unary outer |>.call
    | some l => Entry.chain l outer |>.call
  | .chainAfter l outer lhs => do
    match l.operator? (← next) with
    | none => return lhs
    | some op =>
      skip
      let rhs ← Entry.operand l outer |>.call
      let lhs ← above (.binary op lhs.1 rhs.1) (max lhs.2 rhs.2)
      Entry.chainAfter l outer lhs |>.call
  | .unary outer => do
    match signOp? (← next) with
    | none => Entry.postfixed outer |>.call
    | some op =>
      skip
      enter outer
      withSign op (← Entry.closing (.unary (outer + 1)) |>.call)
  | .postfixed outer => do
    Entry.postfixAfter outer (← Entry.primary outer |>.call) |>.call
  | .postfixAfter outer node => do
    if ← eat .dot then
      let name ← next
      skip
      match name with
      | .ident name =>
        if ← eat .lparen then
          let (args, h) ← Entry.arguments outer .rparen |>.call
          Entry.postfixAfter outer (← above (.method node.1 name args) (max node.2 h)) |>.call
        else
          Entry.postfixAfter outer (← above (.select node.1 name) node.2) |>.call
      | found => refuse (.noFieldName found)
    else if ← eat .lbracket then
      let (i, h) ← Entry.expression outer |>.call
      expect .rbracket
      Entry.postfixAfter outer (← above (.index node.1 i) (max node.2 h)) |>.call
    else
      return node
  | .primary outer => do
    let token ← next
    skip
    match token with
    | .int i => return (.literal (.int i), 1)
    | .str s => return (.literal (.string s), 1)
    | .bytes bs => return (.literal (.bytes bs), 1)
    | .ident name =>
      if name == "true" then return (.literal (.bool true), 1)
      else if name == "false" then return (.literal (.bool false), 1)
      else if name == "null" then return (.literal .null, 1)
      else if ← eat .lparen then
        let (args, h) ← Entry.arguments outer .rparen |>.call
        above (.call name args) h
      else return (.ident name, 1)
    | .lparen =>
      let inner ← Entry.expression outer |>.call
      expect .rparen
      return inner
    | .lbracket =>
      let (items, h) ← Entry.arguments outer .rbracket |>.call
      above (.list items) h
    | .lbrace =>
      let (es, h) ← Entry.entries outer |>.call
      above (.map es) h
    | found => refuse (.unexpected found)
  | .arguments outer close => do
    if ← eat close then return ([], 0)
    else Entry.argumentsAfter outer close [] 0 |>.call
  | .argumentsAfter outer close read height => do
    let (e, h) ← Entry.expression outer |>.call
    if ← eat close then return (read ++ [e], max height h)
    else
      expect .comma
      Entry.argumentsAfter outer close (read ++ [e]) (max height h) |>.call
  | .entries outer => do
    if ← eat .rbrace then return ([], 0)
    else Entry.entriesAfter outer [] 0 |>.call
  | .entriesAfter outer read height => do
    let (key, hk) ← Entry.expression outer |>.call
    expect .colon
    let (value, hv) ← Entry.expression outer |>.call
    let height := max (max height hk) hv
    if ← eat .rbrace then return (read ++ [(key, value)], height)
    else
      expect .comma
      Entry.entriesAfter outer (read ++ [(key, value)]) height |>.call
  | .closing inner =>
    (do
      let result ← (inner |>.call).run
      leave
      return result : StateT Cursor Option (Except ExprError Node))
partial_fixpoint

/-- The call that reads a tree of a level. -/
def call (l : Level) (outer : Nat) : Call Node :=
  match l with
  | .expression => (Entry.expression outer).call
  | .or | .and | .relation | .sum | .product => (Entry.chain l outer).call
  | .sign => (Entry.unary outer).call
  | .postfixed => (Entry.postfixed outer).call
  | .primary => (Entry.primary outer).call

/-- An expression that takes all tokens up to the end of input. -/
def whole : Call Expr := do
  let (e, _) ← (Entry.expression 0).call
  match ← next with
  | .endOfInput => return e
  | found => refuse (.trailing found)

section Outcomes

variable {α β : Type} (s : Cursor)

/-- What a call comes to from a state, with the state that it leaves. Nothing bounds the recursion of
    calls but the counter, so that a call may have no end; a call that goes on for ever has no outcome.
    -/
def outcome (x : Call α) (s : Cursor) : Option (Except ExprError α × Cursor) :=
  x.run s

/-- A result that is given at once leaves the state. -/
@[simp] theorem outcome_pure (a : α) : outcome (pure a) s = some (.ok a, s) :=
  rfl

/-- A sequence comes to what its second call comes to from the state that the first one leaves. A fault
    of the first call is that of the sequence, and leaves the state in which it arises. -/
theorem outcome_bind (x : Call α) (f : α → Call β) :
    outcome (x >>= f) s = (outcome x s).bind fun out =>
      match out with
      | (.ok a, s') => outcome (f a) s'
      | (.error e, s') => some (.error e, s') := by
  change (x.run s).bind _ = (x.run s).bind _
  congr 1
  funext out
  obtain ⟨r | r, s'⟩ := out <;> rfl

private theorem outcome_get : outcome (get : Call Cursor) s = some (.ok s, s) :=
  rfl

private theorem outcome_modify (f : Cursor → Cursor) : outcome (modify f) s = some (.ok (), f s) :=
  rfl

/-- Looking at the next token leaves the state. -/
@[simp] theorem outcome_next : outcome next s = some (.ok (peek s.rest), s) :=
  rfl

/-- Passing a token moves the cursor and leaves the counter. -/
@[simp] theorem outcome_skip : outcome skip s = some (.ok (), { s with rest := advance s.rest }) :=
  rfl

/-- A refusal has the position of the next token. -/
@[simp] theorem outcome_refuse (issue : SyntaxIssue) :
    outcome (refuse (α := α) issue) s = some (.error (.syntaxError (position s.rest) issue), s) :=
  rfl

/-- A token is passed if it is the wanted one, and stays otherwise. -/
theorem outcome_eat (wanted : Token) :
    outcome (eat wanted) s =
      if peek s.rest = wanted then some (.ok true, { s with rest := advance s.rest })
      else some (.ok false, s) := by
  unfold eat
  simp only [outcome_bind, outcome_next, Option.bind_some]
  split <;> rfl

/-- The call that wants a token moves the cursor as the reader that wants it does. -/
theorem outcome_expect (wanted : Token) :
    outcome (expect wanted) s =
      match Parser.expect wanted s.rest with
      | .ok rest => some (.ok (), { s with rest := rest })
      | .error e => some (.error e, s) := by
  unfold expect Parser.expect
  simp only [outcome_bind, outcome_eat]
  split <;> rfl

/-- A tree above its children is built or refused as the readers do, at the same cursor. -/
theorem outcome_above (e : Expr) (h : Nat) :
    outcome (above e h) s = some ((node e h s.rest).map Prod.fst, s) := by
  unfold above node
  by_cases hmax : h + 1 > maxDepth
  · rw [if_pos hmax, if_pos hmax]
    rfl
  · rw [if_neg hmax, if_neg hmax]
    rfl

/-- Opening a level counts it, and is refused at the next token if the counter passes its bound. -/
theorem outcome_enter (outer : Nat) :
    outcome (enter outer) s =
      if s.count + 1 > maxDepth then
        some (.error (.syntaxError (position s.rest) .tooDeep), { s with count := s.count + 1 })
      else some (.ok (), { s with count := s.count + 1, deepest := max s.deepest (outer + 1) }) := by
  unfold enter
  simp only [outcome_bind, outcome_modify, outcome_get, Option.bind_some]
  split <;> rfl

/-- What was opened is closed after a result and after a fault: the count goes down. -/
theorem outcome_closing (inner : Entry Node) :
    outcome (Entry.closing inner).call s =
      (outcome inner.call s).map fun out => (out.1, { out.2 with count := out.2.count - 1 }) := by
  rw [Entry.call]
  change (inner.call.run s).bind _ = (inner.call.run s).map _
  cases inner.call.run s <;> rfl

end Outcomes

end VulnProbe.Expr.Parser.Counted
