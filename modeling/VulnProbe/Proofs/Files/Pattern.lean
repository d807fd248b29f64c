import Mathlib.Tactic.Common
import VulnProbe.Files.Pattern

namespace VulnProbe.Files

/-- A character that stands for itself in a pattern. -/
def IsLiteral (c : Char) : Prop :=
  c ≠ '?' ∧ c ≠ '[' ∧ c ≠ '*'

instance : DecidablePred IsLiteral :=
  fun _ => inferInstanceAs (Decidable (_ ∧ _ ∧ _))

namespace Pattern

variable {s : String} {c : Char} {cs ds : List Char}

/-- The pattern that stands for characters and nothing else. -/
def literal (cs : List Char) : Pattern :=
  cs.map .char

/-- The pattern that stands for whatever ends with characters. -/
def endingWith (cs : List Char) : Pattern :=
  .anyChars :: literal cs

private theorem piecesFrom_nil (fuel place : Nat) (before : Option Char) :
    piecesFrom fuel place before [] = .ok [] := by
  cases fuel <;> rw [piecesFrom]
  simp

private theorem piecesFrom_literal_append (hcs : ∀ c ∈ cs, IsLiteral c) (fuel place : Nat)
    (before : Option Char) (rest : List Char) :
    ∃ place' before', piecesFrom (cs.length + fuel) place before (cs ++ rest) =
      (piecesFrom fuel place' before' rest).map (literal cs ++ ·) := by
  induction cs generalizing place before with
  | nil =>
    refine ⟨place, before, ?_⟩
    rw [List.length_nil, Nat.zero_add, List.nil_append]
    cases piecesFrom fuel place before rest <;> rfl
  | cons c cs ih =>
    obtain ⟨hquery, hset, hstar⟩ := hcs c List.mem_cons_self
    obtain ⟨place', before', htail⟩ :=
      ih (fun d hd => hcs d (List.mem_cons_of_mem c hd)) (place + 1) (some c)
    refine ⟨place', before', ?_⟩
    rw [List.length_cons, Nat.succ_add, List.cons_append, piecesFrom, htail]
    simp only [beq_iff_eq, if_neg hquery, if_neg hset, if_neg hstar]
    cases piecesFrom fuel place' before' rest <;> rfl

private theorem piecesFrom_literal (hcs : ∀ c ∈ cs, IsLiteral c) (place : Nat) (before : Option Char) :
    piecesFrom cs.length place before cs = .ok (literal cs) := by
  obtain ⟨place', before', hpieces⟩ := piecesFrom_literal_append hcs 0 place before []
  rw [Nat.add_zero, List.append_nil, piecesFrom_nil] at hpieces
  rw [hpieces, Except.map, List.append_nil]

private theorem piecesFrom_star (hds : ∀ c ∈ ds, IsLiteral c) (place : Nat) (before : Option Char) :
    piecesFrom (ds.length + 1) place before ('*' :: ds) = .ok (endingWith ds) := by
  have hafter : ds.dropWhile (· == '*') = ds := by
    cases ds with
    | nil => rfl
    | cons d ds =>
      exact List.dropWhile_cons_of_neg (by simpa using (hds d List.mem_cons_self).2.2)
  rw [piecesFrom, hafter, piecesFrom_literal hds]
  simp only [Nat.sub_self]
  rfl

/-- Characters that are not special are a pattern that stands for them. -/
theorem parse_literal (hs : ∀ c ∈ s.toList, IsLiteral c) : parse s = .ok (literal s.toList) := by
  rw [parse, ← String.length_toList, piecesFrom_literal hs]

/-- A star between characters that are not special stands for whatever starts with the former and ends
    with the latter. -/
theorem parse_star (hs : s.toList = cs ++ '*' :: ds) (hcs : ∀ c ∈ cs, IsLiteral c)
    (hds : ∀ c ∈ ds, IsLiteral c) : parse s = .ok (literal cs ++ endingWith ds) := by
  obtain ⟨place, before, hpieces⟩ := piecesFrom_literal_append hcs (ds.length + 1) 0 none ('*' :: ds)
  rw [parse, ← String.length_toList, hs, List.length_append, List.length_cons, hpieces,
    piecesFrom_star hds]
  rfl

/-- A pattern without special characters is known to stand for one name. -/
theorem literal?_literal (cs : List Char) : literal? (literal cs) = some (String.ofList cs) := by
  have hmap : (literal cs).mapM Piece.char? = some cs := by
    induction cs with
    | nil => rfl
    | cons c cs ih =>
      rw [literal, List.map_cons, List.mapM_cons, ← literal, ih]
      rfl
  rw [literal?, hmap, Option.map_some]

/-- A pattern with a star is known to stand for more than one name. -/
theorem literal?_endingWith (cs : List Char) : literal? (endingWith cs) = none := by
  rw [literal?, endingWith, List.mapM_cons]
  rfl

private theorem accepts_literal_iff : accepts (literal ds) cs = true ↔ cs = ds := by
  induction ds generalizing cs with
  | nil => rw [literal, List.map_nil, accepts, List.isEmpty_iff]
  | cons d ds ih =>
    have hsingle : (Piece.char d).isRepeated = false := rfl
    rw [literal, List.map_cons, ← literal]
    cases cs with
    | nil =>
      rw [accepts, hsingle, Bool.false_and]
      exact iff_of_false Bool.false_ne_true (List.cons_ne_nil d ds).symm
    | cons c cs =>
      rw [accepts, hsingle, if_neg Bool.false_ne_true, Bool.and_eq_true, ih, Piece.admits,
        beq_iff_eq, List.cons.injEq]

/-- The pattern that stands for whatever ends with some characters accepts just that. -/
theorem accepts_endingWith_iff : accepts (endingWith ds) cs = true ↔ ds <:+ cs := by
  induction cs with
  | nil =>
    rw [endingWith, accepts, List.suffix_nil, Piece.isRepeated, Bool.true_and, accepts_literal_iff,
      eq_comm]
  | cons c cs ih =>
    rw [endingWith, accepts, ← endingWith, Piece.isRepeated, if_pos rfl, Bool.or_eq_true, ih,
      accepts_literal_iff, List.suffix_cons_iff, eq_comm]

end Pattern

end VulnProbe.Files
