import VulnProbe.Proofs.Text.Utf8
import VulnProbe.Text.Base64

namespace VulnProbe.Base64

section Symbols

/-- The symbol of a value, as its byte. -/
def symbolByte (n : Nat) : UInt8 :=
  UInt8.ofNat (symbol n).toNat

private theorem toNat_symbol_lt : ∀ n < 64, (symbol n).toNat < 0x80 := by
  decide

private theorem value?_symbolByte : ∀ n < 64, value? (symbolByte n) = some n := by
  decide

private theorem symbolByte_beq_pad : ∀ n < 64, (symbolByte n == 61) = false := by
  decide

private theorem encode_symbol_cons {n : Nat} (hn : n < 64) (cs : List Char) :
    Utf8.encode (symbol n :: cs) = symbolByte n :: Utf8.encode cs := by
  rw [Utf8.encode_cons, Utf8.utf8EncodeChar_of_lt (toNat_symbol_lt n hn)]
  rfl

private theorem encode_pad_cons (cs : List Char) : Utf8.encode ('=' :: cs) = 61 :: Utf8.encode cs :=
  rfl

end Symbols

section Groups

variable {k l m n : Nat}

private theorem decodeGroup_one (hk : k < 64) (hl : l < 64) (hspare : l % 16 = 0) (position : Nat) :
    decodeGroup position [symbolByte k, symbolByte l, 61, 61] = .ok [UInt8.ofNat (k * 4 + l / 16)] := by
  simp [decodeGroup, values, symbolByte_beq_pad l hl, value?_symbolByte k hk, value?_symbolByte l hl,
    hspare, Except.map]

private theorem decodeGroup_two (hk : k < 64) (hl : l < 64) (hm : m < 64) (hspare : m % 4 = 0)
    (position : Nat) :
    decodeGroup position [symbolByte k, symbolByte l, symbolByte m, 61] =
      .ok [UInt8.ofNat (k * 4 + l / 16), UInt8.ofNat (l % 16 * 16 + m / 4)] := by
  simp [decodeGroup, values, symbolByte_beq_pad m hm, value?_symbolByte k hk, value?_symbolByte l hl,
    value?_symbolByte m hm, hspare, Except.map]

private theorem decodeGroup_three (hk : k < 64) (hl : l < 64) (hm : m < 64) (hn : n < 64) (position : Nat) :
    decodeGroup position [symbolByte k, symbolByte l, symbolByte m, symbolByte n] =
      .ok [UInt8.ofNat (k * 4 + l / 16), UInt8.ofNat (l % 16 * 16 + m / 4),
        UInt8.ofNat (m % 4 * 64 + n)] := by
  simp [decodeGroup, values, symbolByte_beq_pad n hn, value?_symbolByte k hk, value?_symbolByte l hl,
    value?_symbolByte m hm, value?_symbolByte n hn, Except.map]

end Groups

section Written

/-- The bytes of the symbols of a byte string. -/
def written (bytes : List UInt8) : List UInt8 :=
  Utf8.encode (encodeChars bytes)

private theorem written_one (a : UInt8) :
    written [a] = [symbolByte (a.toNat * 16 / 64), symbolByte (a.toNat * 16 % 64), 61, 61] := by
  have ha := a.toNat_lt
  rw [written, encodeChars, encode_symbol_cons (by omega), encode_symbol_cons (by omega), encode_pad_cons,
    encode_pad_cons, Utf8.encode_nil]

private theorem written_two (a b : UInt8) :
    written [a, b] = [symbolByte ((a.toNat * 256 + b.toNat) * 4 / 4096),
      symbolByte ((a.toNat * 256 + b.toNat) * 4 / 64 % 64),
      symbolByte ((a.toNat * 256 + b.toNat) * 4 % 64), 61] := by
  have ha := a.toNat_lt
  have hb := b.toNat_lt
  rw [written, encodeChars, encode_symbol_cons (by omega), encode_symbol_cons (by omega),
    encode_symbol_cons (by omega), encode_pad_cons, Utf8.encode_nil]

private theorem written_three (a b c : UInt8) (rest : List UInt8) :
    written (a :: b :: c :: rest) =
      symbolByte (((a.toNat * 256 + b.toNat) * 256 + c.toNat) / 262144) ::
      symbolByte (((a.toNat * 256 + b.toNat) * 256 + c.toNat) / 4096 % 64) ::
      symbolByte (((a.toNat * 256 + b.toNat) * 256 + c.toNat) / 64 % 64) ::
      symbolByte (((a.toNat * 256 + b.toNat) * 256 + c.toNat) % 64) :: written rest := by
  have ha := a.toNat_lt
  have hb := b.toNat_lt
  have hc := c.toNat_lt
  rw [written, encodeChars, encode_symbol_cons (by omega), encode_symbol_cons (by omega),
    encode_symbol_cons (by omega), encode_symbol_cons (by omega), written]

private theorem length_written (bytes : List UInt8) : (written bytes).length % 4 = 0 := by
  fun_induction encodeChars bytes with
  | case1 => rfl
  | case2 a => simp [written_one]
  | case3 a b => simp [written_two]
  | case4 a b c rest n ih =>
    rw [written_three]
    simp only [List.length_cons]
    omega

/-- The symbols of a byte string are read as these bytes, wherever they stand. -/
theorem decodeGroups_written (bytes : List UInt8) (position : Nat) :
    decodeGroups position (written bytes) = .ok bytes := by
  fun_induction encodeChars bytes generalizing position with
  | case1 => rfl
  | case2 a =>
    have ha := a.toNat_lt
    rw [written_one, decodeGroups, decodeGroup_one (by omega) (by omega) (by omega),
      Utf8.ofNat_eq (b := a) (by omega)]
    rfl
  | case3 a b =>
    have ha := a.toNat_lt
    have hb := b.toNat_lt
    rw [written_two, decodeGroups, decodeGroup_two (by omega) (by omega) (by omega) (by omega),
      Utf8.ofNat_eq (b := a) (by omega), Utf8.ofNat_eq (b := b) (by omega)]
    rfl
  | case4 a b c rest n ih =>
    have ha := a.toNat_lt
    have hb := b.toNat_lt
    have hc := c.toNat_lt
    rw [written_three, decodeGroups, decodeGroup_three (by omega) (by omega) (by omega) (by omega), ih,
      Utf8.ofNat_eq (b := a) (by omega), Utf8.ofNat_eq (b := b) (by omega),
      Utf8.ofNat_eq (b := c) (by omega)]
    rfl

end Written

/-- Bytes come back from what is written for them. -/
theorem decode_encode (bytes : List UInt8) : decode (Utf8.ofString (encode bytes)) = .ok bytes := by
  have hwritten : Utf8.ofString (encode bytes) = written bytes := by
    rw [Utf8.ofString, encode, String.toList_ofList, written]
  rw [hwritten, decode, length_written, if_pos (by decide), decodeGroups_written]

end VulnProbe.Base64
