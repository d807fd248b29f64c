import VulnProbe.Proofs.Expr.Literals.Denotes
import VulnProbe.Proofs.Expr.Spelling.Integers
import VulnProbe.Proofs.Text.Hex

namespace VulnProbe.Expr

section Quoted

/-- What stands for the characters of a text is read as those characters. -/
theorem readQuoted_escaped (start pos : Nat) (cs rest : List Char) :
    readQuoted .text false '"' start pos [] (cs.flatMap Token.escaped ++ '"' :: rest) =
      .ok (cs, pos + (cs.flatMap Token.escaped).length + 1) :=
  readQuoted_of_denotes (by decide) (denotes_escapedFor rfl cs) start pos [] rest

/-- What stands for some bytes is a byte string's body of an escape for each. -/
theorem byteEscapes_byteDigits (bs : List UInt8) :
    byteEscapes (bs.flatMap Hex.byteDigits) = bs.flatMap fun b => '\\' :: 'x' :: Hex.byteDigits b := by
  induction bs with
  | nil => rfl
  | cons b bs ih =>
    rw [List.flatMap_cons, List.flatMap_cons, ← ih]
    rfl

/-- What stands for some bytes is read as those bytes. -/
theorem readQuoted_byteDigits (start pos : Nat) (bs : List UInt8) (rest : List Char) :
    readQuoted .bytes false '"' start pos []
        (bs.flatMap (fun b => '\\' :: 'x' :: Hex.byteDigits b) ++ '"' :: rest) =
      .ok (bs, pos + (bs.flatMap fun b => '\\' :: 'x' :: Hex.byteDigits b).length + 1) := by
  have hbody := denotes_byteEscapes '"' (Hex.decodeChars?_byteDigits bs)
  rw [byteEscapes_byteDigits] at hbody
  exact readQuoted_of_denotes (by decide) hbody start pos [] rest

private theorem spells_str (s : String) : Spells (Token.str s).text.toList [.str s] := by
  rw [Token.text, String.toList_ofList, List.cons_append]
  refine spells_of_scan rfl fun pos rest hrest => ?_
  have hread := readQuoted_escaped pos (pos + 1) s.toList rest
  have hquoted := quotedToken_text (m := ⟨false, false, '"'⟩) rfl hread
  rw [String.ofList_toList] at hquoted
  rw [List.append_assoc]
  refine (scanToken_quoted rfl hquoted).trans (congrArg Except.ok (Prod.ext rfl ?_))
  simp only [List.length_append, List.length_singleton]
  omega

private theorem spells_bytes (bs : List UInt8) : Spells (Token.bytes bs).text.toList [.bytes bs] := by
  rw [Token.text, String.toList_ofList, List.cons_append]
  refine spells_of_scan rfl fun pos rest hrest => ?_
  have hread := readQuoted_byteDigits (pos + 1) (pos + 2) bs rest
  have hquoted := quotedToken_bytes (m := ⟨false, true, '"'⟩) rfl hread
  rw [List.append_assoc, List.cons_append]
  refine (scanToken_quoted rfl hquoted).trans (congrArg Except.ok (Prod.ext rfl ?_))
  simp only [List.length_append, List.length_cons, List.length_nil]
  omega

end Quoted

section Pieces

/-- The pieces that can be written and read back. -/
def IsPiece : Token → Prop
  | .int i => minInt < i ∧ i ≤ maxInt
  | .ident name => isAsciiName name = true
  | .endOfInput => False
  | _ => True

/-- Pieces that can all be written and read back. -/
def ArePieces (ts : List Token) : Prop :=
  ∀ t ∈ ts, IsPiece t

/-- No piece is one too many. -/
@[simp] theorem arePieces_nil : ArePieces [] :=
  List.forall_mem_nil _

/-- Pieces can be written if the first one can and the rest can. -/
@[simp] theorem arePieces_cons {t : Token} {ts : List Token} :
    ArePieces (t :: ts) ↔ IsPiece t ∧ ArePieces ts :=
  List.forall_mem_cons

/-- Pieces can be written one after another if both parts can. -/
@[simp] theorem arePieces_append {ts us : List Token} :
    ArePieces (ts ++ us) ↔ ArePieces ts ∧ ArePieces us :=
  List.forall_mem_append

/-- Every piece is read as its tokens. -/
theorem spells_text {t : Token} (ht : IsPiece t) : Spells t.text.toList t.parts := by
  cases t with
  | int i => exact spells_int ht.1 ht.2
  | str s => exact spells_str s
  | bytes bs => exact spells_bytes bs
  | ident name => exact spells_ident ht
  | endOfInput => exact ht.elim
  | _ =>
    refine spells_of_scan rfl fun pos rest hrest => ?_
    obtain rfl | ⟨rest, rfl⟩ := hrest <;> rfl

/-- Pieces with a space between each two of them are read one by one. -/
theorem tokensAfter_intercalate (pieces : List Token) (hpieces : ArePieces pieces) :
    ∀ (found : List Located) (pos : Nat), ∃ (us : List Located) (last : Nat),
      us.map (·.token) = pieces.flatMap Token.parts ∧
      tokensAfter found pos ([' '].intercalate (pieces.map (·.text.toList))) =
        .ok (found.reverse ++ us ++ [⟨.endOfInput, last⟩]) := by
  induction pieces with
  | nil => exact fun found pos => ⟨[], pos, rfl, by simp [tokensAfter_nil]⟩
  | cons t pieces ih =>
    intro found pos
    obtain ⟨ht, hpieces⟩ := arePieces_cons.mp hpieces
    have htext := spells_text ht
    cases pieces with
    | nil =>
      obtain ⟨us, next, hus, htokens⟩ : ∃ (us : List Located) (next : Nat), us.map (·.token) = t.parts ∧
          tokensAfter found pos (t.text.toList ++ []) = tokensAfter (us.reverse ++ found) next [] :=
        htext (.inl rfl)
      refine ⟨us, next, by simp [hus], ?_⟩
      rw [List.append_nil] at htokens
      rw [List.map_singleton, List.intercalate_singleton, htokens, tokensAfter_nil]
      simp
    | cons t' pieces =>
      obtain ⟨us, next, hus, htokens⟩ : ∃ (us : List Located) (next : Nat), us.map (·.token) = t.parts ∧
          tokensAfter found pos
              (t.text.toList ++ ' ' :: [' '].intercalate ((t' :: pieces).map (·.text.toList))) =
            tokensAfter (us.reverse ++ found) next
              (' ' :: [' '].intercalate ((t' :: pieces).map (·.text.toList))) := htext (.inr ⟨_, rfl⟩)
      obtain ⟨vs, last, hvs, hrest⟩ := ih hpieces (us.reverse ++ found) (next + 1)
      refine ⟨us ++ vs, last, by rw [List.flatMap_cons, List.map_append, hus, hvs], ?_⟩
      rw [tokensAfter_blank _ _ _ rfl, hrest] at htokens
      rw [List.map_cons, List.map_cons, List.intercalate_cons_cons, List.append_assoc,
        List.singleton_append]
      refine htokens.trans ?_
      simp

/-- Pieces with a space between each two of them are cut into their tokens. -/
theorem tokenize_intercalate {pieces : List Token} (hpieces : ArePieces pieces) :
    ∃ (us : List Located) (last : Nat),
      tokenize (" ".intercalate (pieces.map Token.text)) = .ok (us ++ [⟨.endOfInput, last⟩]) ∧
      us.map (·.token) = pieces.flatMap Token.parts := by
  obtain ⟨us, last, hus, htokens⟩ := tokensAfter_intercalate pieces hpieces [] 0
  refine ⟨us, last, ?_, hus⟩
  rw [tokenize, String.toList_intercalate, List.map_map]
  exact htokens

end Pieces

end VulnProbe.Expr
