import VulnProbe.Proofs.Text.Utf8
import VulnProbe.Text.Percent

namespace VulnProbe.Percent

section Bytes

variable {b : UInt8}

/-- The capital digit of a value, as its byte. -/
def digitByte (n : Nat) : UInt8 :=
  UInt8.ofNat (Hex.digit n).toUpper.toNat

private theorem toNat_toUpper_digit_lt : ∀ n < 16, (Hex.digit n).toUpper.toNat < 0x80 := by
  decide

private theorem digitValue?_digitByte : ∀ n < 16, digitValue? (digitByte n) = some n := by
  decide

private theorem toNat_lt_of_isUnreserved (hb : isUnreserved b = true) : b.toNat < 0x80 ∧ b.toNat ≠ 37 := by
  simp only [isUnreserved, Bool.or_eq_true, Bool.and_eq_true, decide_eq_true_eq, beq_iff_eq] at hb
  omega

private theorem decodeBytes_cons_of_ne (hb : b.toNat ≠ 37) (rest : List UInt8) :
    decodeBytes (b :: rest) = b :: decodeBytes rest := by
  have hsign : (b == 37) = false := by
    rw [beq_eq_false_iff_ne, ne_eq, ← UInt8.toNat_inj]
    exact hb
  rcases rest with _ | ⟨x, _ | ⟨y, rest⟩⟩
  · rfl
  · rfl
  · rw [decodeBytes, hsign, if_neg Bool.false_ne_true]

private theorem encode_escaped (b : UInt8) :
    Utf8.encode (escaped b) = [37, digitByte (b.toNat / 16), digitByte (b.toNat % 16)] := by
  have hb := b.toNat_lt
  rw [escaped, Utf8.encode_cons, Utf8.encode_cons, Utf8.encode_cons, Utf8.encode_nil,
    Utf8.utf8EncodeChar_of_lt (toNat_toUpper_digit_lt _ (by omega)),
    Utf8.utf8EncodeChar_of_lt (toNat_toUpper_digit_lt _ (by omega))]
  rfl

private theorem decodeBytes_escaped (b : UInt8) (rest : List UInt8) :
    decodeBytes (Utf8.encode (escaped b) ++ rest) = b :: decodeBytes rest := by
  have hb := b.toNat_lt
  rw [encode_escaped, List.cons_append, List.cons_append, List.cons_append, List.nil_append, decodeBytes,
    if_pos (beq_self_eq_true _), digitValue?_digitByte _ (by omega), digitValue?_digitByte _ (by omega)]
  dsimp only
  rw [Utf8.ofNat_eq (b := b) (by omega)]

private theorem decodeBytes_encodeByte (b : UInt8) (rest : List UInt8) :
    decodeBytes (Utf8.encode (encodeByte b) ++ rest) = b :: decodeBytes rest := by
  unfold encodeByte
  split_ifs with hb
  · obtain ⟨hlow, hsign⟩ := toNat_lt_of_isUnreserved hb
    rw [Utf8.encode_cons, Utf8.utf8EncodeChar_of_one hlow]
    exact decodeBytes_cons_of_ne hsign rest
  · exact decodeBytes_escaped b rest

/-- Bytes come back from what is written for them, whether they are UTF-8 or not. -/
theorem decodeBytes_encode (bytes : List UInt8) :
    decodeBytes (Utf8.ofString (encode bytes)) = bytes := by
  rw [encode, Utf8.ofString, String.toList_ofList]
  induction bytes with
  | nil => rfl
  | cons b bytes ih => rw [List.flatMap_cons, Utf8.encode_append, decodeBytes_encodeByte, ih]

end Bytes

section Controls

variable {b : UInt8} {bytes : List UInt8}

/-- Neither a control character nor the space is a digit. -/
theorem digitValue?_of_le (hb : b.toNat ≤ 32) : digitValue? b = none := by
  have hnone : ∀ n ≤ 32, Hex.value? (Char.ofNat n) = none := by decide
  exact hnone _ hb

/-- Reading percent-encoded bytes takes no control character and no space away. -/
theorem mem_decodeBytes (hb : b.toNat ≤ 32) (hmem : b ∈ bytes) : b ∈ decodeBytes bytes := by
  fun_induction decodeBytes bytes with
  | case1 => exact hmem
  | case2 => exact hmem
  | case3 => exact hmem
  | case4 p x y rest hp high low hlow hhigh ih =>
    -- neither the percent sign nor its digits are such bytes
    have hpercent : b ≠ p := by
      rintro rfl
      rw [beq_iff_eq.mp hp] at hb
      exact absurd hb (by decide)
    have hfirst : b ≠ x := by
      rintro rfl
      cases (digitValue?_of_le hb).symm.trans hhigh
    have hsecond : b ≠ y := by
      rintro rfl
      cases (digitValue?_of_le hb).symm.trans hlow
    simp only [List.mem_cons, hpercent, hfirst, hsecond, false_or] at hmem
    exact List.mem_cons_of_mem _ (ih hmem)
  | case5 p x y rest hp hdigits ih =>
    exact List.mem_cons.mpr ((List.mem_cons.mp hmem).imp_right ih)
  | case6 p x y rest hp ih =>
    exact List.mem_cons.mpr ((List.mem_cons.mp hmem).imp_right ih)

end Controls

section Texts

variable {bytes : List UInt8} {s : String}

/-- Bytes have an issue exactly if some part of them is malformed. -/
theorem issue?_eq_none_iff (index : Nat) (bytes : List UInt8) :
    issue? index bytes = none ↔ ∀ unit ∈ Utf8.units bytes, unit.isSome = true := by
  fun_induction issue? index bytes with
  | case1 => simp
  | case2 index b rest c extra hfirst ih => rw [ih, Utf8.units_cons, hfirst]; simp
  | case3 index b rest extra hfirst | case4 index b rest extra hfirst =>
    rw [Utf8.units_cons, hfirst]
    simp

/-- What is read is a text exactly if the bytes are those of this text. -/
theorem decode_eq_ok_iff : decode bytes = .ok s ↔ Utf8.ofString s = decodeBytes bytes := by
  have hissue := (issue?_eq_none_iff 0 (decodeBytes bytes)).trans Utf8.forall_isSome_units_iff
  simp only [decode]
  constructor
  · intro hs
    cases hfound : issue? 0 (decodeBytes bytes) with
    | some issue =>
      rw [hfound] at hs
      cases hs
    | none =>
      obtain ⟨t, ht⟩ := hissue.mp hfound
      rw [hfound, ← ht, Utf8.decodeLossy_ofString] at hs
      cases hs
      exact ht
  · intro hs
    rw [hissue.mpr ⟨s, hs⟩, ← hs, Utf8.decodeLossy_ofString]

end Texts

end VulnProbe.Percent
