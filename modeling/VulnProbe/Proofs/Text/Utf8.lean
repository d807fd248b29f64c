import Mathlib.Data.Option.Basic
import Mathlib.Data.String.Basic
import Mathlib.Tactic.Common
import VulnProbe.Text.Utf8

namespace VulnProbe.Utf8

variable {b x y z : UInt8} {bytes rest : List UInt8} {c : Char} {cs ds : List Char}

section First

private theorem isTail_iff : isTail b = true ↔ 0x80 ≤ b.toNat ∧ b.toNat ≤ 0xBF := by
  simp [isTail, UInt8.le_iff_toNat_le]

private theorem isSecond_iff : isSecond b x = true ↔ 0x80 ≤ x.toNat ∧ x.toNat ≤ 0xBF ∧
    (b.toNat = 0xE0 → 0xA0 ≤ x.toNat) ∧ (b.toNat = 0xED → x.toNat ≤ 0x9F) ∧
    (b.toNat = 0xF0 → 0x90 ≤ x.toNat) ∧ (b.toNat = 0xF4 → x.toNat ≤ 0x8F) := by
  simp only [isSecond, secondBounds, beq_iff_eq, Bool.and_eq_true, decide_eq_true_eq,
    UInt8.le_iff_toNat_le, ← UInt8.toNat_inj]
  split_ifs <;> simp_all <;> omega

private theorem first_of_lt (hb : b.toNat < 0x80) (rest : List UInt8) :
    first b rest = (some (Char.ofNat b.toNat), 0) :=
  if_pos (UInt8.lt_iff_toNat_lt.mpr hb)

private theorem first_of_two (hlow : 0xC2 ≤ b.toNat) (hhigh : b.toNat ≤ 0xDF) (hx : isTail x = true) :
    first b (x :: rest) = (some (Char.ofNat (b.toNat % 32 * 64 + x.toNat % 64)), 1) := by
  have hone : ¬ b.toNat < 0x80 := by omega
  simp [first, UInt8.lt_iff_toNat_lt, UInt8.le_iff_toNat_le, hone, hlow, hhigh, hx]

private theorem first_of_three (hlow : 0xE0 ≤ b.toNat) (hhigh : b.toNat ≤ 0xEF) (hx : isSecond b x = true)
    (hy : isTail y = true) :
    first b (x :: y :: rest) =
      (some (Char.ofNat (b.toNat % 16 * 4096 + x.toNat % 64 * 64 + y.toNat % 64)), 2) := by
  have hone : ¬ b.toNat < 0x80 := by omega
  have htwo : ¬ b.toNat ≤ 0xDF := by omega
  simp [first, UInt8.lt_iff_toNat_lt, UInt8.le_iff_toNat_le, hone, htwo, hlow, hhigh, hx, hy]

private theorem first_of_four (hlow : 0xF0 ≤ b.toNat) (hhigh : b.toNat ≤ 0xF4) (hx : isSecond b x = true)
    (hy : isTail y = true) (hz : isTail z = true) :
    first b (x :: y :: z :: rest) =
      (some (Char.ofNat (b.toNat % 8 * 262144 + x.toNat % 64 * 4096 + y.toNat % 64 * 64 + z.toNat % 64)),
        3) := by
  have hone : ¬ b.toNat < 0x80 := by omega
  have htwo : ¬ b.toNat ≤ 0xDF := by omega
  have hthree : ¬ b.toNat ≤ 0xEF := by omega
  simp [first, UInt8.lt_iff_toNat_lt, UInt8.le_iff_toNat_le, hone, htwo, hthree, hlow, hhigh, hx, hy, hz]

private theorem toNat_bounds (c : Char) : c.toNat < 0x110000 ∧ (c.toNat < 0xD800 ∨ 0xDFFF < c.toNat) := by
  have hvalid : c.toNat < 0xD800 ∨ 0xDFFF < c.toNat ∧ c.toNat < 0x110000 := c.valid
  omega

/-- The bytes of a character are read as this character, whatever follows them. -/
theorem first_utf8EncodeChar (c : Char) (rest : List UInt8) :
    ∃ b bs, String.utf8EncodeChar c = b :: bs ∧ first b (bs ++ rest) = (some c, bs.length) := by
  have hbounds := toNat_bounds c
  have hval : c.val.toNat = c.toNat := rfl
  have hchar (n : Nat) (hn : n = c.toNat) : some (Char.ofNat n) = some c := by
    rw [hn, Char.ofNat_toNat]
  simp only [String.utf8EncodeChar, hval]
  split_ifs
  all_goals refine ⟨_, _, rfl, ?_⟩
  · refine (first_of_lt ?_ _).trans (congrArg₂ Prod.mk (hchar _ ?_) rfl)
    all_goals simp (disch := omega) only [UInt8.toNat_ofNat', Nat.mod_eq_of_lt]
    all_goals omega
  · refine (first_of_two ?_ ?_ ?_).trans (congrArg₂ Prod.mk (hchar _ ?_) rfl)
    all_goals simp (disch := omega) only [isTail_iff, UInt8.toNat_ofNat', Nat.mod_eq_of_lt]
    all_goals omega
  · refine (first_of_three ?_ ?_ ?_ ?_).trans (congrArg₂ Prod.mk (hchar _ ?_) rfl)
    all_goals
      simp (disch := omega) only [isTail_iff, isSecond_iff, UInt8.toNat_ofNat', Nat.mod_eq_of_lt]
    all_goals omega
  · refine (first_of_four ?_ ?_ ?_ ?_ ?_).trans (congrArg₂ Prod.mk (hchar _ ?_) rfl)
    all_goals
      simp (disch := omega) only [isTail_iff, isSecond_iff, UInt8.toNat_ofNat', Nat.mod_eq_of_lt]
    all_goals omega

private theorem toNat_val_ofNat {n : Nat} (hn : n < 0xD800 ∨ 0xDFFF < n ∧ n < 0x110000) :
    (Char.ofNat n).val.toNat = n := by
  have hvalid : n.isValidChar := hn
  rw [Char.ofNat, dif_pos hvalid]
  rfl

/-- A byte is told by its number. -/
theorem ofNat_eq {n : Nat} (hn : n = b.toNat) : UInt8.ofNat n = b := by
  rw [hn, UInt8.ofNat_toNat]

/-- An ASCII character is one byte. -/
theorem utf8EncodeChar_of_lt (hc : c.toNat < 0x80) :
    String.utf8EncodeChar c = [UInt8.ofNat c.toNat] :=
  if_pos (Nat.le_of_lt_succ hc)

/-- The character with a number below 128 is the byte with this number. -/
theorem utf8EncodeChar_ofNat {n : Nat} (hn : n < 0x80) :
    String.utf8EncodeChar (Char.ofNat n) = [UInt8.ofNat n] := by
  have hval : (Char.ofNat n).toNat = n := toNat_val_ofNat (by omega)
  rw [utf8EncodeChar_of_lt (by omega), hval]

/-- A byte below 128 is an ASCII character. -/
theorem utf8EncodeChar_of_one (hb : b.toNat < 0x80) :
    String.utf8EncodeChar (Char.ofNat b.toNat) = [b] := by
  rw [utf8EncodeChar_ofNat hb, UInt8.ofNat_toNat]

private theorem utf8EncodeChar_of_two {n : Nat} (hlow : 0x80 ≤ n) (hhigh : n < 0x800)
    (hb : b.toNat = n / 64 + 192) (hx : x.toNat = n % 64 + 128) :
    String.utf8EncodeChar (Char.ofNat n) = [b, x] := by
  rw [String.utf8EncodeChar, toNat_val_ofNat (by omega), if_neg (by omega), if_pos (by omega),
    ofNat_eq (b := b) (by omega), ofNat_eq (b := x) (by omega)]

private theorem utf8EncodeChar_of_three {n : Nat} (hlow : 0x800 ≤ n) (hhigh : n < 0x10000)
    (hn : n < 0xD800 ∨ 0xDFFF < n) (hb : b.toNat = n / 4096 + 224) (hx : x.toNat = n / 64 % 64 + 128)
    (hy : y.toNat = n % 64 + 128) : String.utf8EncodeChar (Char.ofNat n) = [b, x, y] := by
  rw [String.utf8EncodeChar, toNat_val_ofNat (by omega), if_neg (by omega), if_neg (by omega),
    if_pos (by omega), ofNat_eq (b := b) (by omega), ofNat_eq (b := x) (by omega),
    ofNat_eq (b := y) (by omega)]

private theorem utf8EncodeChar_of_four {n : Nat} (hlow : 0x10000 ≤ n) (hhigh : n < 0x110000)
    (hb : b.toNat = n / 262144 + 240) (hx : x.toNat = n / 4096 % 64 + 128)
    (hy : y.toNat = n / 64 % 64 + 128) (hz : z.toNat = n % 64 + 128) :
    String.utf8EncodeChar (Char.ofNat n) = [b, x, y, z] := by
  rw [String.utf8EncodeChar, toNat_val_ofNat (by omega), if_neg (by omega), if_neg (by omega),
    if_neg (by omega), ofNat_eq (b := b) (by omega), ofNat_eq (b := x) (by omega),
    ofNat_eq (b := y) (by omega), ofNat_eq (b := z) (by omega)]

/-- Bytes are read as a character only if they start with the bytes of this character. -/
theorem eq_append_of_first {extra : Nat} : first b rest = (some c, extra) →
    b :: rest = String.utf8EncodeChar c ++ rest.drop extra := by
  have hb := b.toNat_lt
  fun_cases first b rest with
  | case1 low hlt =>
    rintro ⟨⟩
    rw [utf8EncodeChar_of_one (UInt8.lt_iff_toNat_lt.mp hlt)]
    rfl
  | case2 low _ hrange x tail hx =>
    rintro ⟨⟩
    have hrange : 0xC2 ≤ b.toNat ∧ b.toNat ≤ 0xDF := by simpa [UInt8.le_iff_toNat_le] using hrange
    have hx := isTail_iff.mp hx
    simp only [low]
    rw [utf8EncodeChar_of_two (b := b) (x := x) (by omega) (by omega) (by omega) (by omega)]
    rfl
  | case6 low _ _ hrange x y tail hx hy =>
    rintro ⟨⟩
    have hrange : 0xE0 ≤ b.toNat ∧ b.toNat ≤ 0xEF := by simpa [UInt8.le_iff_toNat_le] using hrange
    have hx := isSecond_iff.mp (by simpa using hx)
    have hy := isTail_iff.mp hy
    simp only [low]
    rw [utf8EncodeChar_of_three (b := b) (x := x) (y := y) (by omega) (by omega) (by omega) (by omega)
      (by omega) (by omega)]
    rfl
  | case12 low _ _ _ hrange x y z tail hx hy hz =>
    rintro ⟨⟩
    have hrange : 0xF0 ≤ b.toNat ∧ b.toNat ≤ 0xF4 := by simpa [UInt8.le_iff_toNat_le] using hrange
    have hx := isSecond_iff.mp (by simpa using hx)
    have hy := isTail_iff.mp (by simpa using hy)
    have hz := isTail_iff.mp hz
    simp only [low]
    rw [utf8EncodeChar_of_four (b := b) (x := x) (y := y) (z := z) (by omega) (by omega) (by omega)
      (by omega) (by omega) (by omega)]
    rfl
  | _ => rintro ⟨⟩

end First

section Units

/-- No characters, no bytes. -/
@[simp] theorem encode_nil : encode [] = [] :=
  rfl

/-- The bytes of the first character come first. -/
@[simp] theorem encode_cons (c : Char) (cs : List Char) :
    encode (c :: cs) = String.utf8EncodeChar c ++ encode cs :=
  rfl

/-- The bytes of a text are those of its parts, one after the other. -/
@[simp] theorem encode_append (cs ds : List Char) : encode (cs ++ ds) = encode cs ++ encode ds :=
  List.flatMap_append

/-- Putting texts together puts their bytes together. -/
theorem ofString_append (s t : String) : ofString (s ++ t) = ofString s ++ ofString t := by
  rw [ofString, String.toList_append, encode_append]
  rfl

/-- Units read before stay in front of those of the rest. -/
theorem unitsAfter_append (before read : List (Option Char)) (bytes : List UInt8) :
    unitsAfter (read ++ before) bytes = before.reverse ++ unitsAfter read bytes := by
  fun_induction unitsAfter read bytes with
  | case1 read => rw [unitsAfter, List.reverse_append]
  | case2 read b rest ih => rw [unitsAfter, ← ih, List.cons_append]

/-- Without bytes there is nothing to read. -/
@[simp] theorem units_nil : units [] = [] := by
  rw [units, unitsAfter]
  rfl

/-- The first scalar value or malformed part is read first, and reading goes on behind it. -/
theorem units_cons (b : UInt8) (rest : List UInt8) :
    units (b :: rest) = (first b rest).1 :: units (rest.drop (first b rest).2) := by
  rw [units, unitsAfter]
  exact unitsAfter_append [(first b rest).1] [] _

private theorem units_encode_append (cs : List Char) (rest : List UInt8) :
    units (encode cs ++ rest) = cs.map some ++ units rest := by
  induction cs with
  | nil => rfl
  | cons c cs ih =>
    obtain ⟨b, bs, hbytes, hfirst⟩ := first_utf8EncodeChar c (encode cs ++ rest)
    rw [encode_cons, hbytes, List.append_assoc, List.cons_append, units_cons, hfirst,
      List.drop_left, ih]
    rfl

/-- Bytes are read as characters only, and as these, exactly if they are the bytes of these. -/
theorem units_eq_map_some_iff : units bytes = cs.map some ↔ encode cs = bytes := by
  constructor
  · intro hunits
    induction cs generalizing bytes with
    | nil =>
      cases bytes with
      | nil => rfl
      | cons b rest =>
        rw [units_cons] at hunits
        cases hunits
    | cons c cs ih =>
      cases bytes with
      | nil =>
        rw [units_nil] at hunits
        cases hunits
      | cons b rest =>
        rw [units_cons, List.map_cons, List.cons.injEq] at hunits
        obtain ⟨hc, hcs⟩ := hunits
        rw [encode_cons, ih hcs]
        exact (eq_append_of_first (Prod.ext hc rfl)).symm
  · rintro rfl
    have hunits := units_encode_append cs []
    rwa [List.append_nil, units_nil, List.append_nil] at hunits

/-- Units that are all characters are so many characters. -/
theorem units_eq_of_isSome (hsome : ∀ unit ∈ units bytes, unit.isSome = true) :
    units bytes = ((units bytes).filterMap id).map some := by
  rw [List.map_filterMap_some_eq_filter_map_isSome, List.map_id, List.filter_eq_self.mpr hsome]

/-- Bytes are those of some characters exactly if these are what they are read as. -/
theorem decodeChars?_eq_some_iff : decodeChars? bytes = some cs ↔ encode cs = bytes := by
  rw [decodeChars?, Option.ite_none_right_eq_some, List.all_eq_true, ← units_eq_map_some_iff]
  constructor
  · rintro ⟨hsome, hcs⟩
    cases hcs
    exact units_eq_of_isSome hsome
  · intro hunits
    rw [hunits]
    simp

end Units

section Texts

private theorem toByteArray_ofString (s : String) : (ofString s).toByteArray = s.toByteArray := by
  conv_rhs => rw [← String.ofList_toList (s := s), String.toByteArray_ofList]
  rfl

/-- A text has as many bytes as its size in UTF-8 says. -/
theorem length_ofString (s : String) : (ofString s).length = s.utf8ByteSize := by
  rw [← String.size_toByteArray, ← toByteArray_ofString, List.size_toByteArray]

private theorem ofString_eq_iff {s : String} : ofString s = bytes ↔ s.toByteArray = bytes.toByteArray := by
  rw [← toByteArray_ofString]
  constructor
  · exact congrArg List.toByteArray
  · intro harrays
    rw [← List.toList_data_toByteArray (l := ofString s), harrays, List.toList_data_toByteArray]

/-- The byte strings that are valid UTF-8 are those of the texts. -/
theorem isValidUTF8_iff : bytes.toByteArray.IsValidUTF8 ↔ ∃ s, ofString s = bytes := by
  constructor
  · intro hvalid
    exact ⟨.ofByteArray _ hvalid, ofString_eq_iff.mpr rfl⟩
  · rintro ⟨s, rfl⟩
    rw [toByteArray_ofString]
    exact s.isValidUTF8

/-- The text of valid bytes is the one with these bytes. -/
theorem exists_ofByteArray_iff {s : String} :
    (∃ hvalid : bytes.toByteArray.IsValidUTF8, s = .ofByteArray bytes.toByteArray hvalid) ↔
      ofString s = bytes := by
  constructor
  · rintro ⟨hvalid, rfl⟩
    exact ofString_eq_iff.mpr rfl
  · intro hbytes
    exact ⟨isValidUTF8_iff.mpr ⟨s, hbytes⟩, String.toByteArray_inj.mp (ofString_eq_iff.mp hbytes)⟩

private theorem units_ofString (s : String) : units (ofString s) = s.toList.map some :=
  units_eq_map_some_iff.mpr rfl

/-- Nothing of a text is lost in its bytes, even where malformed parts would be replaced. -/
@[simp] theorem decodeLossy_ofString (s : String) : decodeLossy (ofString s) = s := by
  rw [decodeLossy, units_ofString, List.map_map]
  exact (congrArg String.ofList (List.map_id _)).trans String.ofList_toList

/-- The mark that stands for a malformed part never gives its bytes back. -/
theorem ofString_decodeLossy_eq_iff :
    ofString (decodeLossy bytes) = bytes ↔ bytes.toByteArray.IsValidUTF8 := by
  rw [isValidUTF8_iff]
  constructor
  · exact fun hbytes => ⟨_, hbytes⟩
  · rintro ⟨s, rfl⟩
    rw [decodeLossy_ofString]

/-- Bytes have no malformed part exactly if they are those of a text. -/
theorem forall_isSome_units_iff :
    (∀ unit ∈ units bytes, unit.isSome = true) ↔ ∃ s, ofString s = bytes := by
  constructor
  · intro hsome
    refine ⟨String.ofList ((units bytes).filterMap id), ?_⟩
    rw [ofString, String.toList_ofList, ← units_eq_map_some_iff]
    exact units_eq_of_isSome hsome
  · rintro ⟨s, rfl⟩
    simp [units_ofString]

/-- A text without the mark that stands for a malformed part is read from its own bytes only. -/
theorem decodeLossy_eq_iff {s : String} (hs : '\uFFFD' ∉ s.toList) :
    decodeLossy bytes = s ↔ ofString s = bytes := by
  constructor
  · intro htext
    have hchars : (units bytes).map (·.getD '\uFFFD') = s.toList := by
      rw [← htext, decodeLossy, String.toList_ofList]
    have hsome : ∀ unit ∈ units bytes, unit.isSome = true := by
      intro unit hunit
      cases unit with
      | some c => rfl
      | none => exact absurd (hchars ▸ List.mem_map_of_mem hunit) hs
    obtain ⟨t, rfl⟩ := forall_isSome_units_iff.mp hsome
    rw [← htext, decodeLossy_ofString]
  · rintro rfl
    exact decodeLossy_ofString s

end Texts

section Borders

variable {before after bs : List UInt8}

/-- The first byte of a character starts it, and no other one does. -/
theorem isTail_of_utf8EncodeChar (hbytes : String.utf8EncodeChar c = b :: bs) :
    isTail b = false ∧ ∀ x ∈ bs, isTail x = true := by
  have hbounds := toNat_bounds c
  have hval : c.val.toNat = c.toNat := rfl
  simp only [String.utf8EncodeChar, hval] at hbytes
  rw [← Bool.not_eq_true]
  split_ifs at hbytes
  all_goals
    obtain ⟨rfl, rfl⟩ := List.cons.inj hbytes
    simp only [List.forall_mem_cons, List.not_mem_nil, false_imp_iff, implies_true, and_true, isTail_iff,
      UInt8.toNat_ofNat']
    omega

/-- A byte that starts a character stands at a border of characters. -/
theorem exists_split_of_encode (hb : isTail b = false) (hcs : encode cs = before ++ b :: after) :
    ∃ ds es, cs = ds ++ es ∧ encode ds = before ∧ encode es = b :: after := by
  induction cs generalizing before with
  | nil => simp at hcs
  | cons c cs ih =>
    cases before with
    | nil => exact ⟨[], c :: cs, rfl, rfl, hcs⟩
    | cons a before =>
      obtain ⟨x, bs, hc, -⟩ := first_utf8EncodeChar c []
      rw [encode_cons, hc, List.cons_append, List.cons_append, List.cons.injEq,
        List.append_eq_append_iff] at hcs
      obtain ⟨rfl, ⟨between, rfl, hcs⟩ | ⟨left, rfl, hleft⟩⟩ := hcs
      · obtain ⟨ds, es, rfl, rfl, hes⟩ := ih hcs
        exact ⟨c :: ds, es, rfl, by rw [encode_cons, hc, List.cons_append], hes⟩
      · cases left with
        | nil => exact ⟨[c], cs, rfl, by simp [hc], hleft.symm⟩
        | cons l left =>
          -- the byte would be one of those that go on with the character
          obtain ⟨rfl, -⟩ := List.cons.inj hleft
          have htail := (isTail_of_utf8EncodeChar hc).2 b (by simp)
          cases hb.symm.trans htail

/-- A character of ASCII is one byte with its number. -/
theorem mem_encode (hc : c.toNat < 0x80) (hmem : c ∈ cs) : UInt8.ofNat c.toNat ∈ encode cs := by
  refine List.mem_flatMap.mpr ⟨c, hmem, ?_⟩
  rw [utf8EncodeChar_of_lt hc]
  exact List.mem_singleton_self _

/-- A byte of ASCII in well-formed UTF-8 is the character with its number. -/
theorem mem_of_decodeChars? (hb : b.toNat < 0x80) (hdecode : decodeChars? bytes = some cs)
    (hmem : b ∈ bytes) : Char.ofNat b.toNat ∈ cs := by
  have hbytes := decodeChars?_eq_some_iff.mp hdecode
  obtain ⟨before, after, rfl⟩ := List.append_of_mem hmem
  have htail : isTail b = false := by
    rw [← Bool.not_eq_true, isTail_iff]
    omega
  obtain ⟨ds, es, rfl, -, hes⟩ := exists_split_of_encode htail hbytes
  cases es with
  | nil => cases hes
  | cons c es =>
    obtain ⟨x, bs, hc, hfirst⟩ := first_utf8EncodeChar c []
    rw [encode_cons, hc, List.cons_append] at hes
    obtain ⟨rfl, -⟩ := List.cons.inj hes
    rw [first_of_lt hb] at hfirst
    obtain ⟨hchar, -⟩ := Prod.ext_iff.mp hfirst
    rw [Option.some.inj hchar]
    exact List.mem_append_right _ List.mem_cons_self

/-- A text starts with another one exactly if its bytes start with those of the other. -/
theorem encode_prefix_encode_iff : encode cs <+: encode ds ↔ cs <+: ds := by
  constructor
  · rintro ⟨rest, hrest⟩
    have hunits := units_encode_append cs rest
    rw [hrest, units_eq_map_some_iff.mpr rfl] at hunits
    exact (List.prefix_map_iff_of_injective (Option.some_injective _)).mp ⟨_, hunits.symm⟩
  · rintro ⟨es, rfl⟩
    exact ⟨encode es, (encode_append cs es).symm⟩

/-- A text occurs in another one exactly if its bytes occur among those of the other. -/
theorem encode_infix_encode_iff : encode cs <:+: encode ds ↔ cs <:+: ds := by
  constructor
  · rintro ⟨before, after, hbytes⟩
    cases cs with
    | nil => exact List.nil_infix
    | cons c cs =>
      obtain ⟨b, bs, hc, -⟩ := first_utf8EncodeChar c []
      rw [encode_cons, hc, List.cons_append, List.append_assoc] at hbytes
      obtain ⟨es, fs, rfl, -, hfs⟩ := exists_split_of_encode (isTail_of_utf8EncodeChar hc).1 hbytes.symm
      have hprefix : encode (c :: cs) <+: encode fs := by
        rw [encode_cons, hc, hfs]
        exact ⟨after, rfl⟩
      exact (encode_prefix_encode_iff.mp hprefix).isInfix.trans (List.suffix_append es fs).isInfix
  · rintro ⟨before, after, rfl⟩
    exact ⟨encode before, encode after, by rw [encode_append, encode_append]⟩

end Borders

section Order

private theorem ofNat_cons_lt {m n : Nat} {as bs : List UInt8} (hm : m < 256) (hn : n < 256)
    (hlt : m < n ∨ m = n ∧ as < bs) : UInt8.ofNat m :: as < UInt8.ofNat n :: bs := by
  rw [List.cons_lt_cons_iff, UInt8.ofNat_lt_iff_lt hm hn]
  exact hlt.imp_right (And.imp_left (congrArg _))

/-- The last bytes of two characters of one length, which agree before them. -/
theorem tail_lt {m n : Nat} (hlt : m < n) (hsame : m / 64 = n / 64) (as bs : List UInt8) :
    UInt8.ofNat (m % 64 + 128) :: as < UInt8.ofNat (n % 64 + 128) :: bs :=
  ofNat_cons_lt (by omega) (by omega) (.inl (by omega))

private theorem tails_lt {m n : Nat} (hlt : m < n) (hsame : m / 4096 = n / 4096) (as bs : List UInt8) :
    UInt8.ofNat (m / 64 % 64 + 128) :: UInt8.ofNat (m % 64 + 128) :: as <
      UInt8.ofNat (n / 64 % 64 + 128) :: UInt8.ofNat (n % 64 + 128) :: bs := by
  apply ofNat_cons_lt (by omega) (by omega)
  by_cases htail : m / 64 = n / 64
  · exact .inr ⟨by omega, tail_lt hlt htail as bs⟩
  · exact .inl (by omega)

/-- The bytes of two characters differ before either of them ends, and the first byte that differs
    decides as the code points do. So nothing that follows can change the order. -/
theorem utf8EncodeChar_append_lt {a b : Char} (hlt : a < b) (as bs : List UInt8) :
    String.utf8EncodeChar a ++ as < String.utf8EncodeChar b ++ bs := by
  have hval : a.val.toNat < b.val.toNat := hlt
  have hbound : b.val.toNat < 1114112 := by
    rcases b.valid with h | h
    · exact Nat.lt_trans h (by decide)
    · exact h.2
  simp only [String.utf8EncodeChar]
  generalize a.val.toNat = m at hval ⊢
  generalize b.val.toNat = n at hval hbound ⊢
  split_ifs <;> try omega
  all_goals apply ofNat_cons_lt (by omega) (by omega)
  -- A longer code starts with a greater byte; codes of one length are left.
  any_goals (left; omega)
  · by_cases hsame : m / 64 = n / 64
    · exact .inr ⟨by omega, tail_lt hval hsame as bs⟩
    · exact .inl (by omega)
  · by_cases hsame : m / 4096 = n / 4096
    · exact .inr ⟨by omega, tails_lt hval hsame as bs⟩
    · exact .inl (by omega)
  · by_cases hsame : m / 262144 = n / 262144
    · refine .inr ⟨by omega, ofNat_cons_lt (by omega) (by omega) ?_⟩
      by_cases hnext : m / 4096 = n / 4096
      · exact .inr ⟨by omega, tails_lt hval hnext as bs⟩
      · exact .inl (by omega)
    · exact .inl (by omega)

private theorem encode_lt_encode {cs ds : List Char} (hlt : cs < ds) : encode cs < encode ds := by
  induction hlt with
  | nil =>
    rename_i c cs
    obtain ⟨b, bs, hbytes⟩ := List.exists_cons_of_ne_nil (String.utf8EncodeChar_ne_nil (c := c))
    rw [encode, encode, List.flatMap_nil, List.flatMap_cons, hbytes]
    exact .nil
  | rel hhead => exact utf8EncodeChar_append_lt hhead _ _
  | cons _ ih => exact List.append_left_lt ih

/-- Texts are in the order of their bytes. -/
theorem ofString_lt_ofString_iff {s t : String} : ofString s < ofString t ↔ s < t := by
  constructor
  · intro hlt
    rcases lt_trichotomy s t with h | rfl | h
    · exact h
    · exact absurd hlt (List.lt_irrefl _)
    · exact absurd hlt (List.lt_asymm (encode_lt_encode h))
  · exact encode_lt_encode

end Order

end VulnProbe.Utf8
