import VulnProbe.Proofs.Expr.Yields
import VulnProbe.Proofs.Text.Utf8

namespace VulnProbe.Expr

section Lists

variable {α : Type} [BEq α] [LawfulBEq α] {needle hay : List α}

private theorem occursIn_iff_isInfix : occursIn needle hay = true ↔ needle <:+: hay := by
  induction hay with
  | nil => rw [occursIn, List.isEmpty_iff, List.infix_nil]
  | cons a hay ih =>
    rw [occursIn, Bool.or_eq_true, List.isPrefixOf_iff_prefix, ih, List.infix_cons_iff]

private theorem occursIn_iff : occursIn needle hay = true ↔ ∃ x y, hay = x ++ needle ++ y := by
  rw [occursIn_iff_isInfix]
  exact exists_congr fun x => exists_congr fun y => eq_comm

end Lists

section Texts

variable {s t : String}

private theorem occursIn_toList_iff : occursIn t.toList s.toList = true ↔ ∃ x y, s = x ++ t ++ y := by
  rw [occursIn_iff]
  constructor
  · rintro ⟨x, y, hs⟩
    refine ⟨String.ofList x, String.ofList y, ?_⟩
    rw [← String.toList_inj, String.toList_append, String.toList_append, String.toList_ofList,
      String.toList_ofList, hs]
  · rintro ⟨x, y, rfl⟩
    exact ⟨x.toList, y.toList, by rw [String.toList_append, String.toList_append]⟩

private theorem isPrefixOf_toList_iff : t.toList.isPrefixOf s.toList = true ↔ ∃ y, s = t ++ y := by
  rw [List.isPrefixOf_iff_prefix]
  constructor
  · rintro ⟨y, hs⟩
    refine ⟨String.ofList y, ?_⟩
    rw [← String.toList_inj, String.toList_append, String.toList_ofList, hs]
  · rintro ⟨y, rfl⟩
    exact ⟨y.toList, String.toList_append.symm⟩

private theorem occursIn_ofString (t s : String) :
    occursIn (Utf8.ofString t) (Utf8.ofString s) = occursIn t.toList s.toList := by
  rw [Bool.eq_iff_iff, occursIn_iff_isInfix, occursIn_iff_isInfix]
  exact Utf8.encode_infix_encode_iff

private theorem isPrefixOf_ofString (t s : String) :
    (Utf8.ofString t).isPrefixOf (Utf8.ofString s) = t.toList.isPrefixOf s.toList := by
  rw [Bool.eq_iff_iff, List.isPrefixOf_iff_prefix, List.isPrefixOf_iff_prefix]
  exact Utf8.encode_prefix_encode_iff

end Texts

section Methods

variable {env : String → Option Value} {hay needle : Expr} {v w : Value} {s t : String}
  {bs ns : List UInt8}

private theorem yields_contains (hhay : Yields env hay (.string s))
    (hneedle : Yields env needle (.string t)) :
    Yields env (.method hay "contains" [needle]) (.bool (occursIn t.toList s.toList)) :=
  .method .contains hhay (.cons hneedle .nil) rfl

private theorem yields_startsWith (hhay : Yields env hay (.string s))
    (hneedle : Yields env needle (.string t)) :
    Yields env (.method hay "startsWith" [needle]) (.bool (t.toList.isPrefixOf s.toList)) :=
  .method .startsWith hhay (.cons hneedle .nil) rfl

/-- Texts and byte strings are searched alike, by their bytes. -/
theorem yields_bcontains (hhay : Yields env hay v) (hneedle : Yields env needle w)
    (hv : v.bytes? = some bs) (hw : w.bytes? = some ns) :
    Yields env (.method hay "bcontains" [needle]) (.bool (occursIn ns bs)) := by
  refine .method .bcontains hhay (.cons hneedle .nil) ?_
  simp only [Method.apply, oneArg, bind, Except.bind, bytesArg_of_bytes? hv, bytesArg_of_bytes? hw]

private theorem yields_bstartsWith (hhay : Yields env hay v) (hneedle : Yields env needle w)
    (hv : v.bytes? = some bs) (hw : w.bytes? = some ns) :
    Yields env (.method hay "bstartsWith" [needle]) (.bool (ns.isPrefixOf bs)) := by
  refine .method .bstartsWith hhay (.cons hneedle .nil) ?_
  simp only [Method.apply, oneArg, bind, Except.bind, bytesArg_of_bytes? hv, bytesArg_of_bytes? hw]

end Methods

/-- A search tells whether the needle occurs, or starts the text; in a text and in the bytes of the text it
    tells the same. Byte strings are searched for every run of bytes, the empty one included. -/
theorem search_agrees (env : String → Option Value) :
    (∀ {hay needle : Expr} {s t : String},
      Yields env hay (.string s) → Yields env needle (.string t) →
        (∃ found : Bool, (found = true ↔ ∃ x y, s = x ++ t ++ y) ∧
          Yields env (.method hay "contains" [needle]) (.bool found) ∧
          Yields env (.method (.call "bytes" [hay]) "bcontains" [.call "bytes" [needle]]) (.bool found) ∧
          Yields env (.method hay "bcontains" [needle]) (.bool found)) ∧
        ∃ starts : Bool, (starts = true ↔ ∃ y, s = t ++ y) ∧
          Yields env (.method hay "startsWith" [needle]) (.bool starts) ∧
          Yields env (.method (.call "bytes" [hay]) "bstartsWith" [.call "bytes" [needle]])
            (.bool starts)) ∧
    ∀ {hay needle : Expr} {v w : Value} {bs ns : List UInt8},
      Yields env hay v → v.bytes? = some bs → Yields env needle w → w.bytes? = some ns →
        ∃ found : Bool, (found = true ↔ ∃ x y, bs = x ++ ns ++ y) ∧
          Yields env (.method hay "bcontains" [needle]) (.bool found) := by
  constructor
  · intro hay needle s t hhay hneedle
    have hbytes := hhay.bytes rfl
    have hneedleBytes := hneedle.bytes rfl
    constructor
    · refine ⟨_, occursIn_toList_iff, yields_contains hhay hneedle, ?_, ?_⟩
      all_goals rw [← occursIn_ofString]
      · exact yields_bcontains hbytes hneedleBytes rfl rfl
      · exact yields_bcontains hhay hneedle rfl rfl
    · refine ⟨_, isPrefixOf_toList_iff, yields_startsWith hhay hneedle, ?_⟩
      rw [← isPrefixOf_ofString]
      exact yields_bstartsWith hbytes hneedleBytes rfl rfl
  · intro hay needle v w bs ns hhay hbs hneedle hns
    exact ⟨_, occursIn_iff, yields_bcontains hhay hneedle hbs hns⟩

/-- The second byte of an accented letter occurs among the bytes of a text; the letter occurs in the text
    and does not start it. -/
theorem search_agrees_sample :
    let env : String → Option Value := fun name => if name = "h" then some (.string "naïve") else none
    let letter : Expr := .literal (.string "ï")
    Yields env (.method (.ident "h") "contains" [letter]) (.bool true) ∧
      Yields env (.method (.call "bytes" [.ident "h"]) "bcontains" [.call "bytes" [letter]]) (.bool true) ∧
      Yields env (.method (.ident "h") "startsWith" [letter]) (.bool false) ∧
      Yields env (.method (.ident "h") "bcontains" [.literal (.bytes [0xAF])]) (.bool true) := by
  intro env letter
  have hh : Yields env (.ident "h") (.string "naïve") := yields_ident rfl
  obtain ⟨htexts, hbytes⟩ := search_agrees env
  obtain ⟨⟨found, hfound, hcontains, hbcontains, -⟩, starts, hstarts, hstartsWith, -⟩ :=
    htexts hh (yields_literal (.string "ï"))
  obtain ⟨byteFound, hbyteFound, hbyte⟩ := hbytes hh rfl (yields_literal (.bytes [0xAF])) rfl
  obtain rfl : found = true := hfound.mpr ⟨"na", "ve", by decide⟩
  obtain rfl : byteFound = true := hbyteFound.mpr ⟨[0x6E, 0x61, 0xC3], [0x76, 0x65], by decide⟩
  have hnot : ¬ starts = true := by
    rw [hstarts]
    rintro ⟨y, hy⟩
    have hletters := congrArg String.toList hy
    rw [String.toList_append] at hletters
    exact absurd (List.cons.inj hletters).1 (by decide)
  obtain rfl : starts = false := (Bool.not_eq_true _).mp hnot
  exact ⟨hcontains, hbcontains, hstartsWith, hbyte⟩

end VulnProbe.Expr
