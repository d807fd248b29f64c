import VulnProbe.Text.Hex

namespace VulnProbe.Hex

variable {bs cs : List UInt8}

section Digits

private theorem value?_digit : ∀ n < 16, value? (digit n) = some n := by
  decide

private theorem mem_digits_of_lt : ∀ n < 16, digit n ∈ "0123456789abcdef".toList := by
  decide

private theorem digits_lt (b : UInt8) : b.toNat / 16 < 16 ∧ b.toNat % 16 < 16 := by
  have hb := b.toNat_lt
  omega

end Digits

section Bytes

/-- The digits of any bytes write these bytes. -/
theorem decodeChars?_byteDigits (bs : List UInt8) :
    decodeChars? (bs.flatMap byteDigits) = some bs := by
  induction bs with
  | nil => rfl
  | cons b bs ih =>
    obtain ⟨hhigh, hlow⟩ := digits_lt b
    have hbyte : UInt8.ofNat (b.toNat / 16 * 16 + b.toNat % 16) = b := by
      rw [Nat.div_add_mod', UInt8.ofNat_toNat]
    simp only [List.flatMap_cons, byteDigits, List.cons_append, List.nil_append, decodeChars?,
      value?_digit _ hhigh, value?_digit _ hlow, ih, Option.bind_eq_bind, Option.bind_some, hbyte]
    rfl

private theorem decodeChars?_encode (bs : List UInt8) : decodeChars? (encode bs).toList = some bs := by
  rw [encode, String.toList_ofList]
  exact decodeChars?_byteDigits bs

/-- Different bytes are written differently. -/
theorem encode_injective (hbs : encode bs = encode cs) : bs = cs := by
  have hread := decodeChars?_encode bs
  rw [hbs, decodeChars?_encode] at hread
  exact (Option.some.inj hread).symm

/-- Each byte is written as two digits. -/
theorem length_encode (bs : List UInt8) : (encode bs).length = 2 * bs.length := by
  rw [encode, String.length_ofList]
  induction bs with
  | nil => rfl
  | cons b bs ih =>
    rw [List.flatMap_cons, List.length_append, ih, List.length_cons, Nat.mul_add, Nat.add_comm]
    rfl

/-- Nothing but digits in base 16 is written, and these are small. -/
theorem mem_encode {c : Char} (hc : c ∈ (encode bs).toList) : c ∈ "0123456789abcdef".toList := by
  rw [encode, String.toList_ofList, List.mem_flatMap] at hc
  obtain ⟨b, -, hc⟩ := hc
  obtain ⟨hhigh, hlow⟩ := digits_lt b
  obtain rfl | hc := List.mem_cons.mp hc
  · exact mem_digits_of_lt _ hhigh
  · obtain rfl := List.mem_singleton.mp hc
    exact mem_digits_of_lt _ hlow

end Bytes

end VulnProbe.Hex
