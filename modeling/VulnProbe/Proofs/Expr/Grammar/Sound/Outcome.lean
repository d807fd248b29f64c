import VulnProbe.Proofs.Expr.Grammar.Readers

namespace VulnProbe.Expr

/-- The token that a fault names as found. -/
def SyntaxIssue.found? : SyntaxIssue → Option Token
  | .unexpected found | .trailing found | .expected _ found | .noFieldName found => some found
  | _ => none

/-- Whether a fault is raised with the token that it names already passed. -/
def SyntaxIssue.isPast : SyntaxIssue → Bool
  | .unexpected _ | .noFieldName _ => true
  | _ => false

namespace Parser

/-- Tokens that end with the end of input. -/
def Closed (ts : Tokens) : Prop :=
  ∃ us t, ts = us ++ [t] ∧ t.token = .endOfInput

/-- An error is a fault at one of some tokens, which is the one it names if it names any. It has the
    position of that token, but if the token was passed, that of the next one. -/
def FaultIn (ts : Tokens) (err : ExprError) : Prop :=
  ∃ before t rest issue, ts = before ++ t :: rest ∧
    (∀ found, issue.found? = some found → t.token = found) ∧
    err = .syntaxError (if issue.isPast then position (advance (t :: rest)) else t.pos) issue

/-- What a reader may come to: a result that is right for the tokens it has taken, with the others left
    over, or a fault at one of the tokens. -/
def Meets {α : Type} (ts : Tokens) (right : α → List Token → Prop) :
    Except ExprError (α × Tokens) → Prop
  | .ok (a, rest) => ∃ us, ts = us ++ rest ∧ Closed rest ∧ right a (us.map (·.token))
  | .error err => FaultIn ts err

/-- A tree of a level with its height, derived with fewer than `bound` expressions and signs open. -/
def TreeBelow (l : Level) (bound : Nat) (node : Node) (ts : List Token) : Prop :=
  node.2 = node.1.height ∧ node.2 ≤ maxDepth ∧ ∃ d < bound, Derives (.tree l node.1) ts d

/-- A reader gives only trees of a level. -/
def Sound (l : Level) (bound : Nat) (p : Reader Node) : Prop :=
  ∀ ts, Closed ts → Meets ts (TreeBelow l bound) (p ts)

/-- Tokens that end with the end of input have a first one, and what follows it ends so unless it was
    the end itself. -/
theorem Closed.exists_cons {ts : Tokens} (hclosed : Closed ts) :
    ∃ t rest, ts = t :: rest ∧ (t.token ≠ .endOfInput → Closed rest) := by
  obtain ⟨us, last, rfl, hlast⟩ := hclosed
  cases us with
  | nil => exact ⟨last, [], rfl, fun h => absurd hlast h⟩
  | cons t us => exact ⟨t, us ++ [last], rfl, fun _ => ⟨us, last, rfl, hlast⟩⟩

private theorem Closed.ne_nil {ts : Tokens} (hclosed : Closed ts) : ts ≠ [] := by
  obtain ⟨us, t, rfl, _⟩ := hclosed
  simp

/-- Any token but the end of input can be passed. -/
theorem Closed.advance {ts : Tokens} {token : Token} (hclosed : Closed ts) (hpeek : peek ts = token)
    (htoken : token ≠ .endOfInput) :
    ∃ t rest, ts = t :: rest ∧ t.token = token ∧ Closed rest ∧ Parser.advance ts = rest := by
  obtain ⟨t, rest, rfl, hrest⟩ := hclosed.exists_cons
  have hclosed := hrest (by rw [show t.token = token from hpeek]; exact htoken)
  exact ⟨t, rest, rfl, hpeek, hclosed, advance_cons hclosed.ne_nil⟩

/-- A fault at the next token, which has not been passed. -/
theorem Closed.faultIn_fail {ts : Tokens} (hclosed : Closed ts) (issue : SyntaxIssue)
    (hfound : ∀ found, issue.found? = some found → peek ts = found) (hpast : issue.isPast = false) :
    FaultIn ts (.syntaxError (position ts) issue) := by
  obtain ⟨t, rest, rfl, _⟩ := hclosed.exists_cons
  refine ⟨[], t, rest, issue, rfl, hfound, ?_⟩
  rw [hpast, if_neg Bool.false_ne_true]
  rfl

/-- A nesting that is too deep is a fault at the next token, whichever that is. -/
theorem Closed.faultIn_tooDeep {ts : Tokens} (hclosed : Closed ts) :
    FaultIn ts (.syntaxError (position ts) .tooDeep) :=
  hclosed.faultIn_fail .tooDeep (fun _ hfound => absurd hfound (Option.some_ne_none _).symm) rfl

/-- A fault that is raised once the token it names has been passed. -/
theorem Closed.faultIn_fail_advance {ts : Tokens} (hclosed : Closed ts) (issue : SyntaxIssue)
    (hfound : ∀ found, issue.found? = some found → peek ts = found) (hpast : issue.isPast = true) :
    FaultIn ts (.syntaxError (position (Parser.advance ts)) issue) := by
  obtain ⟨t, rest, rfl, _⟩ := hclosed.exists_cons
  refine ⟨[], t, rest, issue, rfl, hfound, ?_⟩
  rw [if_pos hpast]

/-- A fault at one of the last tokens is a fault at one of all. -/
theorem FaultIn.append {ts : Tokens} {err : ExprError} (hfault : FaultIn ts err) (us : Tokens) :
    FaultIn (us ++ ts) err := by
  obtain ⟨before, t, rest, issue, rfl, hfound, herr⟩ := hfault
  exact ⟨us ++ before, t, rest, issue, (List.append_assoc ..).symm, hfound, herr⟩

/-- A fault behind the first token is a fault at one of all. -/
theorem FaultIn.cons {t : Located} {ts : Tokens} {err : ExprError} (hfault : FaultIn ts err) :
    FaultIn (t :: ts) err :=
  hfault.append [t]

/-- Tokens taken before a reader was called are taken by the whole. -/
theorem Meets.after {α : Type} {ts : Tokens} {right right' : α → List Token → Prop}
    {r : Except ExprError (α × Tokens)} (hmeets : Meets ts right r) (us : Tokens)
    (hright : ∀ a vs, right a vs → right' a (us.map (·.token) ++ vs)) : Meets (us ++ ts) right' r := by
  rcases r with err | ⟨a, rest⟩
  · exact FaultIn.append hmeets us
  · obtain ⟨vs, hts, hrest, ha⟩ := hmeets
    refine ⟨us ++ vs, by rw [hts, List.append_assoc], hrest, ?_⟩
    rw [List.map_append]
    exact hright a _ ha

/-- What meets its description fails at one of its tokens or splits them into those it took, for which
    the result is right, and the others, which are still closed. -/
theorem Meets.cases {α : Type} {ts : Tokens} {right : α → List Token → Prop}
    {r : Except ExprError (α × Tokens)} (hmeets : Meets ts right r) :
    (∃ err, r = .error err ∧ FaultIn ts err) ∨
      ∃ a us rest, r = .ok (a, rest) ∧ ts = us ++ rest ∧ Closed rest ∧ right a (us.map (·.token)) := by
  rcases r with err | ⟨a, rest⟩
  · exact .inl ⟨err, rfl, hmeets⟩
  · obtain ⟨us, hts, hrest, ha⟩ := hmeets
    exact .inr ⟨a, us, rest, rfl, hts, hrest, ha⟩

/-- What a reader of trees comes to, case by case. Some of the tokens may be taken before. -/
theorem Meets.tree_cases {l : Level} {bound : Nat} {ts : Tokens} (vs : List Token)
    {r : Except ExprError (Node × Tokens)}
    (hmeets : Meets ts (fun node us => TreeBelow l bound node (vs ++ us)) r) :
    (∃ err, r = .error err ∧ FaultIn ts err) ∨
      ∃ e us rest d, r = .ok ((e, e.height), rest) ∧ ts = us ++ rest ∧ Closed rest ∧
        e.height ≤ maxDepth ∧ d < bound ∧ Derives (.tree l e) (vs ++ us.map (·.token)) d := by
  rcases hmeets.cases with herror | ⟨⟨e, h⟩, us, rest, hr, hts, hrest, hh, hmax, d, hd, hder⟩
  · exact .inl herror
  · obtain rfl : h = e.height := hh
    exact .inr ⟨e, us, rest, d, hr, hts, hrest, hmax, hd, hder⟩

/-- A sound reader fails at one of its tokens or gives a derived tree with its true height, within the
    bounds on height and depth. -/
theorem Sound.cases {l : Level} {bound : Nat} {p : Reader Node} {ts : Tokens} (hp : Sound l bound p)
    (hclosed : Closed ts) :
    (∃ err, p ts = .error err ∧ FaultIn ts err) ∨
      ∃ e us rest d, p ts = .ok ((e, e.height), rest) ∧ ts = us ++ rest ∧ Closed rest ∧
        e.height ≤ maxDepth ∧ d < bound ∧ Derives (.tree l e) (us.map (·.token)) d :=
  Meets.tree_cases [] (hp ts hclosed)

/-- A wanted token is there and passed, or it is not and that is the fault. -/
theorem expect_cases {ts : Tokens} (hclosed : Closed ts) (wanted : Token)
    (hwanted : wanted ≠ .endOfInput) :
    (∃ err, expect wanted ts = .error err ∧ FaultIn ts err) ∨
      ∃ t rest, expect wanted ts = .ok rest ∧ ts = t :: rest ∧ t.token = wanted ∧ Closed rest := by
  by_cases hpeek : peek ts = wanted
  · obtain ⟨t, rest, hts, ht, hrest, hadvance⟩ := hclosed.advance hpeek hwanted
    exact .inr ⟨t, rest, by rw [expect, if_pos hpeek, hadvance], hts, ht, hrest⟩
  · exact .inl ⟨_, by rw [expect, if_neg hpeek, fail],
      hclosed.faultIn_fail (.expected ..) (fun _ hfound => Option.some.inj hfound) rfl⟩

/-- A tree above its children is built, or it is too high and the fault is at the next token. -/
theorem node_cases {ts : Tokens} (hclosed : Closed ts) (e : Expr) (h : Nat) :
    (∃ err, node e h ts = .error err ∧ FaultIn ts err) ∨
      node e h ts = .ok ((e, h + 1), ts) ∧ h + 1 ≤ maxDepth := by
  by_cases hh : h + 1 > maxDepth
  · exact .inl ⟨_, by rw [node, if_pos hh, fail], hclosed.faultIn_tooDeep⟩
  · exact .inr ⟨by rw [node, if_neg hh], Nat.le_of_not_lt hh⟩

/-- A tree one level above its tallest child, whose tokens have been taken, is refused only for its
    height. Some of the tokens may be taken before those at hand. -/
theorem meets_node {l : Level} {bound d h : Nat} {e : Expr} {ts us rest : Tokens} (vs : List Token)
    (hts : ts = us ++ rest) (hrest : Closed rest) (hh : e.height = h + 1) (hd : d < bound)
    (hder : Derives (.tree l e) (vs ++ us.map (·.token)) d) :
    Meets ts (fun node ws => TreeBelow l bound node (vs ++ ws)) (node e h rest) := by
  rw [hts]
  rcases node_cases hrest e h with ⟨err, herr, hfault⟩ | ⟨hnode, hmax⟩
  · rw [herr]
    exact hfault.append _
  · rw [hnode]
    exact ⟨us, rfl, hrest, hh.symm, hmax, d, hd, hder⟩

end Parser

end VulnProbe.Expr
