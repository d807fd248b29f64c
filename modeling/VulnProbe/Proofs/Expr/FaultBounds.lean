import VulnProbe.Proofs.Expr.Grammar.FaultPosition
import VulnProbe.Proofs.Expr.Literals.Collected

namespace VulnProbe.Expr

/-- A result that is there, or is not for a fault whose cause is known. -/
def Worded {α : Type} (r : Except ExprError α) : Prop :=
  ∀ err, r = .error err → ∃ pos issue, err = .syntaxError pos issue ∧ ∀ text, issue ≠ .reported text

/-- A fault whose cause is known, at a position that is not past a bound. -/
def FaultUpTo (last : Nat) (err : ExprError) : Prop :=
  ∃ pos issue, err = .syntaxError pos issue ∧ pos ≤ last ∧ ∀ text, issue ≠ .reported text

section Wording

private theorem head?_toList_append {s : String} {c : Char} (hs : s.toList.head? = some c) (t : String) :
    (s ++ t).toList.head? = some c := by
  rw [String.toList_append, List.head?_append, hs]
  rfl

/-- The wording of a cause that is known starts with one of three letters. -/
theorem SyntaxIssue.head?_message {issue : SyntaxIssue} (hissue : ∀ text, issue ≠ .reported text) :
    ∃ c ∈ ['e', 'i', 'u'], issue.message.toList.head? = some c := by
  have hexpected : "expected ".toList.head? = some 'e' := by decide
  have hnested : "expression nested deeper than ".toList.head? = some 'e' := by decide
  have hinvalid : "invalid \\".toList.head? = some 'i' := by decide
  have hcharacter : "unexpected character '".toList.head? = some 'u' := by decide
  cases issue with
  | reported text => exact absurd rfl (hissue text)
  | badInteger => exact ⟨'i', by decide, by decide⟩
  | badEscape letter => exact ⟨'i', by decide, head?_toList_append (head?_toList_append hinvalid _) _⟩
  | unfinishedEscape | unfinishedText => exact ⟨'u', by decide, by decide⟩
  | badCharacter c => exact ⟨'u', by decide, head?_toList_append (head?_toList_append hcharacter _) _⟩
  | unexpected found | trailing found =>
    exact ⟨'u', by decide, head?_toList_append (by decide) _⟩
  | expected wanted found =>
    exact ⟨'e', by decide,
      head?_toList_append (head?_toList_append (head?_toList_append hexpected _) _) _⟩
  | noFieldName found => exact ⟨'e', by decide, head?_toList_append (by decide) _⟩
  | tooDeep => exact ⟨'e', by decide, head?_toList_append (head?_toList_append hnested _) _⟩

/-- A cause that is known is never worded as that of a malformed literal. -/
theorem SyntaxIssue.message_ne {issue : SyntaxIssue} (hissue : ∀ text, issue ≠ .reported text) :
    issue.message ≠ malformedText := by
  obtain ⟨c, hc, hhead⟩ := SyntaxIssue.head?_message hissue
  have hs : malformedText.toList.head? = some 's' := by decide
  intro hmessage
  rw [hmessage, hs] at hhead
  cases hhead
  exact absurd hc (by decide)

end Wording

section Tokens

variable {last pos : Nat} {err : ExprError}

private theorem faultUpTo_syntaxError {issue : SyntaxIssue} (hpos : pos ≤ last)
    (hissue : ∀ text, issue ≠ .reported text) : FaultUpTo last (.syntaxError pos issue) :=
  ⟨pos, issue, rfl, hpos, hissue⟩

private theorem faultUpTo_escape {α : Type} {content : Content α} {letter : Char} {cs : List Char}
    (hpos : pos ≤ last) (hescape : escape content pos letter cs = .error err) : FaultUpTo last err := by
  unfold escape at hescape
  split at hescape
  · cases hescape
  split at hescape
  · split at hescape <;> cases hescape
    exact faultUpTo_syntaxError hpos (by simp)
  split at hescape
  · split at hescape <;> cases hescape
    exact faultUpTo_syntaxError hpos (by simp)
  · cases hescape

/-- A literal that is refused has its fault within the text: an escape takes no more characters than follow
    it, whether they hold digits or not. -/
theorem faultUpTo_readQuoted {α : Type} {content : Content α} {isRaw : Bool} {quote : Char} {start : Nat}
    {read : List α} {cs : List Char} (hstart : start ≤ last) (hcs : pos + cs.length ≤ last)
    (hread : readQuoted content isRaw quote start pos read cs = .error err) : FaultUpTo last err := by
  fun_induction readQuoted content isRaw quote start pos read cs with
  | case1 =>
    cases hread
    exact faultUpTo_syntaxError hstart (by simp)
  | case2 => cases hread
  | case3 pos read c =>
    cases hread
    exact faultUpTo_syntaxError (Nat.le_of_add_right_le hcs) (by simp)
  | case4 pos read c hc hbackslash letter rest err' hescape =>
    cases hread
    simp only [List.length_cons] at hcs
    exact faultUpTo_escape (by omega) hescape
  | case5 pos read c hc hbackslash letter rest items extra hescape ih =>
    have hextra := escape_fits hescape
    simp only [List.length_cons] at hcs
    refine ih ?_ hread
    rw [List.length_drop]
    omega
  | case6 pos read c rest hc hbackslash ih =>
    simp only [List.length_cons] at hcs
    exact ih (by omega) (by simpa using hread)

private theorem faultUpTo_quotedToken {m : QuoteMark} {rest : List Char}
    (hrest : pos + m.width + 1 + rest.length ≤ last) (hquoted : quotedToken m pos rest = .error err) :
    FaultUpTo last err := by
  have hread {α : Type} {content : Content α}
      (hread : readQuoted content m.isRaw m.quote (pos + m.width) (pos + m.width + 1) [] rest = .error err) :
      FaultUpTo last err := faultUpTo_readQuoted (by omega) hrest hread
  unfold quotedToken at hquoted
  split at hquoted
  all_goals
    rcases bind_eq_error_iff.mp hquoted with herror | ⟨_, _, hpure⟩
    · exact hread herror
    · cases hpure

private theorem faultUpTo_scanToken {c : Char} {rest : List Char} (hrest : pos + 1 + rest.length ≤ last)
    (hscan : scanToken pos c rest = .error err) : FaultUpTo last err := by
  have hpos : pos ≤ last := by omega
  unfold scanToken at hscan
  split at hscan
  · rename_i m hm
    have hwidth := QuoteMark.width_le_of_quoteMark? hm
    rcases bind_eq_error_iff.mp hscan with herror | ⟨_, _, hpure⟩
    · refine faultUpTo_quotedToken ?_ herror
      rw [List.length_drop]
      omega
    · cases hpure
  split at hscan
  · split at hscan <;> cases hscan
    exact faultUpTo_syntaxError hpos (by simp)
  split at hscan
  · cases hscan
  split at hscan <;> cases hscan
  exact faultUpTo_syntaxError hpos (by simp)

private theorem faultUpTo_tokensAfter {found : List Located} {cs : List Char} (hcs : pos + cs.length ≤ last)
    (herror : tokensAfter found pos cs = .error err) : FaultUpTo last err := by
  fun_induction tokensAfter found pos cs with
  | case1 => cases herror
  | case2 found pos c rest hblank ih =>
    rw [List.length_cons] at hcs
    exact ih (by omega) herror
  | case3 found pos c rest hblank err' hscan =>
    cases herror
    rw [List.length_cons] at hcs
    exact faultUpTo_scanToken (by omega) hscan
  | case4 found pos c rest hblank token extra hscan ih =>
    have hextra := scanToken_fits hscan
    rw [List.length_cons] at hcs
    refine ih ?_ herror
    rw [List.length_drop]
    omega

/-- A text that cannot be cut into tokens has its fault within it. -/
theorem faultUpTo_tokenize {source : String} (herror : tokenize source = .error err) :
    FaultUpTo source.length err := by
  have hlength : 0 + source.toList.length = source.length := by rw [Nat.zero_add, String.length_toList]
  exact faultUpTo_tokensAfter (Nat.le_of_eq hlength) herror

end Tokens

section Results

variable {α β : Type}

private theorem worded_ok (a : α) : Worded (.ok a) := by
  rintro _ ⟨⟩

/-- The fault of a result whose faults are known is known whatever the result would have been. -/
theorem Worded.error {r : Except ExprError α} (hr : Worded r) {err : ExprError} (herr : r = .error err) :
    Worded (α := β) (.error err) := by
  rintro _ ⟨⟩
  exact hr err herr

/-- Mapping a result does not change its faults. -/
theorem Worded.map {r : Except ExprError α} (hr : Worded r) (f : α → β) : Worded (r.map f) := by
  intro err herr
  cases r with
  | error _ => exact hr err (by simpa [Except.map] using herr)
  | ok a => cases herr

end Results

namespace Parser

private theorem worded_fail {α : Type} (ts : Tokens) {issue : SyntaxIssue}
    (hissue : ∀ text, issue ≠ .reported text) : Worded (fail (α := α) ts issue) := by
  rintro _ ⟨⟩
  exact ⟨_, issue, rfl, hissue⟩

private theorem worded_expect (wanted : Token) (ts : Tokens) : Worded (expect wanted ts) := by
  unfold expect
  split
  · exact worded_ok _
  · exact worded_fail ts (by simp)

private theorem worded_node (e : Expr) (h : Nat) (ts : Tokens) : Worded (node e h ts) := by
  unfold node
  split
  · exact worded_fail ts (by simp)
  · exact worded_ok _

section Readers

variable {p : Reader Node} (hp : ∀ ts, Worded (p ts))
include hp

private theorem worded_chainAfter (operator? : Token → Option BinaryOp) (fuel : Nat)
    (lhs : Node) (ts : Tokens) :
    Worded (chainAfter operator? p fuel lhs ts) := by
  fun_induction chainAfter operator? p fuel lhs ts with grind [worded_ok, worded_node, Worded.error]

private theorem worded_chain (operator? : Token → Option BinaryOp) (ts : Tokens) :
    Worded (chain operator? p ts) := by
  unfold chain
  grind [worded_chainAfter, Worded.error]

private theorem worded_argumentsAfter (close : Token) (fuel : Nat) (read : List Expr) (h : Nat)
    (ts : Tokens) :
    Worded (argumentsAfter p close fuel read h ts) := by
  fun_induction argumentsAfter p close fuel read h ts with
    grind [worded_ok, worded_fail, worded_expect, Worded.error]

private theorem worded_arguments (close : Token) (ts : Tokens) : Worded (arguments p close ts) := by
  unfold arguments
  grind [worded_argumentsAfter, worded_ok]

private theorem worded_entriesAfter (fuel : Nat) (read : List (Expr × Expr)) (h : Nat) (ts : Tokens) :
    Worded (entriesAfter p fuel read h ts) := by
  fun_induction entriesAfter p fuel read h ts with
    grind [worded_ok, worded_fail, worded_expect, Worded.error]

private theorem worded_entries (ts : Tokens) : Worded (entries p ts) := by
  unfold entries
  grind [worded_entriesAfter, worded_ok]

private theorem worded_named (name : String) (ts : Tokens) : Worded (named p name ts) := by
  unfold named
  grind [worded_arguments, worded_ok, worded_node, Worded.error]

private theorem worded_primary (ts : Tokens) : Worded (primary p ts) := by
  unfold primary
  grind [worded_named, worded_arguments, worded_entries, worded_ok, worded_fail, worded_node, worded_expect,
    Worded.error, Worded.map]

private theorem worded_selection (operand : Node) (ts : Tokens) : Worded (selection p operand ts) := by
  unfold selection
  grind [worded_arguments, worded_fail, worded_node, Worded.error]

private theorem worded_indexing (operand : Node) (ts : Tokens) : Worded (indexing p operand ts) := by
  unfold indexing
  grind [worded_expect, worded_node, Worded.error]

private theorem worded_postfixAfter (fuel : Nat) (operand : Node) (ts : Tokens) :
    Worded (postfixAfter p fuel operand ts) := by
  fun_induction postfixAfter p fuel operand ts with
    grind [worded_selection, worded_indexing, worded_ok, Worded.error]

private theorem worded_postfixed (ts : Tokens) : Worded (postfixed p ts) := by
  unfold postfixed
  grind [worded_primary, worded_postfixAfter, Worded.error]

private theorem worded_unary {inner : Reader Node} (hinner : ∀ ts, Worded (inner ts)) (ts : Tokens) :
    Worded (unary inner p ts) := by
  have hsigned (op : UnaryOp) (operand : Node) (ts : Tokens) : Worded (signed op operand ts) := by
    unfold signed
    split
    · exact worded_ok _
    · exact worded_node _ _ _
  unfold unary
  grind [worded_postfixed, Worded.error]

private theorem worded_conditional {operand : Reader Node}
    (hoperand : ∀ ts, Worded (operand ts)) (ts : Tokens) :
    Worded (conditional operand p ts) := by
  have hdisjunction (ts : Tokens) : Worded (disjunction operand ts) :=
    worded_chain (worded_chain (worded_chain (worded_chain (worded_chain hoperand _) _) _) _) _ _
  unfold conditional
  split
  · exact (hdisjunction _).error ‹_›
  split
  · split
    · exact (hdisjunction _).error ‹_›
    split
    · exact (worded_expect _ _).error ‹_›
    split
    · exact (hp _).error ‹_›
    · exact worded_node _ _ _
  · exact worded_ok _

end Readers

/-- Whatever may still be opened, the readers word the faults that they find. -/
theorem worded_readers (depth : Nat) :
    (∀ ts, Worded ((readers depth).1 ts)) ∧ ∀ ts, Worded ((readers depth).2 ts) := by
  have hdeep (ts : Tokens) : Worded (tooDeep ts) := worded_fail ts (by simp)
  induction depth with
  | zero => exact ⟨hdeep, worded_unary hdeep hdeep⟩
  | succ depth ih =>
    obtain ⟨hexpression, hoperand⟩ := ih
    have hconditional := worded_conditional hexpression hoperand
    exact ⟨hconditional, worded_unary hconditional hoperand⟩

private theorem worded_ofTokens (ts : Tokens) : Worded (ofTokens ts) := by
  have hexpression : Worded (expression maxDepth ts) := (worded_readers maxDepth).1 ts
  unfold ofTokens
  grind [worded_ok, worded_fail, Worded.error]

end Parser

open VulnProbe.Expr.Parser

private theorem StartsAt.le_length {text : List Char} {t : Located} (ht : StartsAt text t) :
    t.pos ≤ text.length := by
  rcases ht with ⟨-, hpos⟩ | ⟨c, rest, _, hdrop, -⟩
  · exact Nat.le_of_eq hpos
  · have hlength := congrArg List.length hdrop
    rw [List.length_drop, List.length_cons] at hlength
    omega

/-- A text that is cut into tokens and has no tree has its fault at one of them. -/
theorem faultUpTo_ofTokens {source : String} {ts : List Located} {err : ExprError}
    (htokens : tokenize source = .ok ts) (herror : ofTokens ts = .error err) :
    FaultUpTo source.length err := by
  obtain ⟨pos, issue, rfl, hissue⟩ := worded_ofTokens ts err herror
  have hle : ∀ t ∈ ts, t.pos ≤ source.length := fun t ht => by
    rw [← String.length_toList]
    exact ((tokenize_positions htokens).1 t ht).le_length
  rcases tokenize_cases source with ⟨_, herr, -⟩ | ⟨us, last, hus, -⟩
  · cases herr.symm.trans htokens
  obtain rfl : ts = us ++ [⟨.endOfInput, last⟩] := Except.ok.inj (htokens.symm.trans hus)
  have hclosed : Closed (us ++ [⟨.endOfInput, last⟩]) := ⟨us, _, rfl, rfl⟩
  obtain ⟨before, t, rest, issue', hts, -, herr⟩ := hclosed.faultIn_ofTokens herror
  have hafter : ∀ u ∈ t :: rest, u.pos ≤ source.length := fun u hu =>
    hle u (hts ▸ List.mem_append_right before hu)
  have hpos : pos = if issue'.isPast then position (advance (t :: rest)) else t.pos := by
    injection herr
  refine faultUpTo_syntaxError ?_ hissue
  rw [hpos, position_advance_cons]
  split
  · cases rest with
    | nil => exact hafter t List.mem_cons_self
    | cons next after => exact hafter next (by simp)
  · exact hafter t List.mem_cons_self

/-- A text that is refused has its fault within it, whether it cannot be cut into tokens or has no tree. -/
theorem faultUpTo_parse {source : String} {err : ExprError} (herror : parse source = .error err) :
    FaultUpTo source.length err := by
  rw [parse] at herror
  split at herror
  · cases herror
    exact faultUpTo_tokenize ‹_›
  · exact faultUpTo_ofTokens ‹_› herror

end VulnProbe.Expr
