import VulnProbe.Proofs.Expr.Printer
import VulnProbe.Proofs.Expr.Tokenize

namespace VulnProbe

/-- The tokens of a piece: an integer below zero is read as a minus and an integer. -/
def Token.parts : Token → List Token
  | .int i => if i < 0 then [.minus, .int (-i)] else [.int i]
  | t => [t]

namespace Expr

/-- Nothing, or something after a space. -/
def Spaced (cs : List Char) : Prop :=
  cs = [] ∨ ∃ rest, cs = ' ' :: rest

/-- A text is cut into some tokens wherever nothing or a space follows it. -/
def Spells (text : List Char) (ts : List Token) : Prop :=
  ∀ ⦃found : List Located⦄ ⦃pos : Nat⦄ ⦃rest : List Char⦄, Spaced rest →
    ∃ (us : List Located) (next : Nat), us.map (·.token) = ts ∧
      tokensAfter found pos (text ++ rest) = tokensAfter (us.reverse ++ found) next rest

/-- A token that takes a text up to its end is found, and what follows the text is left. -/
theorem tokensAfter_of_scan {found : List Located} {pos : Nat} {c : Char} {body rest : List Char}
    {token : Token} (hblank : Text.isBlank c = false)
    (hscan : scanToken pos c (body ++ rest) = .ok (token, body.length)) :
    tokensAfter found pos (c :: body ++ rest) =
      tokensAfter (⟨token, pos⟩ :: found) (pos + 1 + body.length) rest := by
  rw [List.cons_append, tokensAfter_scan found pos _ hblank hscan, List.drop_left]

/-- A text is cut into one token wherever a space or nothing follows if one step reads it so, from the
    first character on. -/
theorem spells_of_scan {c : Char} {body : List Char} {token : Token} (hblank : Text.isBlank c = false)
    (hscan : ∀ pos {rest}, Spaced rest → scanToken pos c (body ++ rest) = .ok (token, body.length)) :
    Spells (c :: body) [token] := by
  intro found pos rest hrest
  exact ⟨[⟨token, pos⟩], _, rfl, tokensAfter_of_scan hblank (hscan pos hrest)⟩

/-- What is taken up to the first character of another kind ends where the space is, if the space is of
    another kind. -/
theorem takeWhile_of_spaced {p : Char → Bool} {cs rest : List Char} (hcs : ∀ c ∈ cs, p c = true)
    (hspace : p ' ' = false) (hrest : Spaced rest) : (cs ++ rest).takeWhile p = cs := by
  rw [List.takeWhile_append_of_pos hcs]
  obtain rfl | ⟨rest, rfl⟩ := hrest
  · simp
  · simp [hspace]

end Expr

end VulnProbe
