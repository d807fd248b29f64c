import VulnProbe.Proofs.Expr.Yields
import VulnProbe.Proofs.Text.Base64
import VulnProbe.Proofs.Text.Hex
import VulnProbe.Proofs.Text.Percent

namespace VulnProbe.Expr

variable {env : String → Option Value} {e : Expr} {v w : Value} {bs : List UInt8} {t : String}

section Functions

private theorem yields_base64 (he : Yields env e v) (hv : v.bytes? = some bs) :
    Yields env (.call "base64" [e]) (.string (Base64.encode bs)) :=
  .callBytes .base64 (fun _ _ => rfl) he hv rfl

private theorem yields_base64Decode {found : List UInt8} (he : Yields env e v) (hv : v.bytes? = some bs)
    (hfound : Base64.decode bs = .ok found) : Yields env (.call "base64Decode" [e]) (.bytes found) := by
  refine .callBytes .base64Decode (fun _ _ => rfl) he hv ?_
  rw [hfound]

private theorem yields_urlencode (he : Yields env e v) (hv : v.bytes? = some bs) :
    Yields env (.call "urlencode" [e]) (.string (Percent.encode bs)) :=
  .callBytes .urlencode (fun _ _ => rfl) he hv rfl

private theorem yields_hexEncode (he : Yields env e v) (hv : v.bytes? = some bs) :
    Yields env (.call "hexEncode" [e]) (.string (Hex.encode bs)) :=
  .callBytes .hexEncode (fun _ _ => rfl) he hv rfl

/-- A text is decoded exactly to what it stands for. -/
theorem evaluate_urldecode_iff (he : Yields env e (.string t)) (draws : Draws) :
    (Expr.call "urldecode" [e]).evaluate env draws = .ok w ↔
      ∃ s, Percent.decode (Utf8.ofString t) = .ok s ∧ w = .string s := by
  have hvalue := value_call .urldecode (.cons he .nil) draws
  rw [evaluate_eq_ok_iff]
  refine (iff_of_eq (congrArg (· = _) hvalue)).trans ?_
  simp only [Builtin.apply, oneArg, bind, Except.bind, bytesArg_of_bytes? (v := .string t) rfl,
    Utf8.decodeLossy_ofString]
  cases Percent.decode (Utf8.ofString t) with
  | error issue => simp
  | ok s => simp [eq_comm]

end Functions

/-- The percent-encoding of bytes is decoded exactly to the text that has these bytes. -/
theorem evaluate_urldecode_urlencode_iff (he : Yields env e v) (hv : v.bytes? = some bs) (draws : Draws) :
    (Expr.call "urldecode" [.call "urlencode" [e]]).evaluate env draws = .ok w ↔
      ∃ s, Utf8.ofString s = bs ∧ w = .string s := by
  rw [evaluate_urldecode_iff (yields_urlencode he hv)]
  refine exists_congr fun s => and_congr_left fun _ => ?_
  rw [Percent.decode_eq_ok_iff, Percent.decodeBytes_encode]

/-- Encoded bytes come back in base 64, and so do texts from percent-encoding. Byte strings come back from
    it as texts, exactly if they are valid UTF-8. Two small digits in base 16 stand for each byte, and
    only these bytes have these digits. -/
theorem encodings_undone (he : Yields env e v) (hv : v.bytes? = some bs) :
    Yields env (.call "base64Decode" [.call "base64" [e]]) (.bytes bs) ∧
      (∀ s, v = .string s → Yields env (.call "urldecode" [.call "urlencode" [e]]) (.string s)) ∧
      (∀ draws w, (Expr.call "urldecode" [.call "urlencode" [e]]).evaluate env draws = .ok w ↔
        ∃ hvalid : bs.toByteArray.IsValidUTF8, w = .string (.ofByteArray bs.toByteArray hvalid)) ∧
      ∃ digits : String, Yields env (.call "hexEncode" [e]) (.string digits) ∧
        digits.length = 2 * bs.length ∧ (∀ c ∈ digits.toList, c ∈ "0123456789abcdef".toList) ∧
        ∀ {other : Expr} {u : Value} {cs : List UInt8}, Yields env other u → u.bytes? = some cs →
          Yields env (.call "hexEncode" [other]) (.string digits) → cs = bs := by
  refine ⟨?_, ?_, ?_, Hex.encode bs, ?_, Hex.length_encode bs, ?_, ?_⟩
  · exact yields_base64Decode (yields_base64 he hv) rfl (Base64.decode_encode bs)
  · rintro s rfl draws
    obtain rfl : Utf8.ofString s = bs := Option.some.inj hv
    exact (evaluate_urldecode_urlencode_iff he rfl draws).mpr ⟨s, rfl, rfl⟩
  · intro draws w
    rw [evaluate_urldecode_urlencode_iff he hv]
    constructor
    · rintro ⟨s, hs, rfl⟩
      obtain ⟨hvalid, rfl⟩ := Utf8.exists_ofByteArray_iff.mpr hs
      exact ⟨hvalid, rfl⟩
    · rintro ⟨hvalid, rfl⟩
      exact ⟨_, Utf8.exists_ofByteArray_iff.mp ⟨hvalid, rfl⟩, rfl⟩
  · exact yields_hexEncode he hv
  · exact fun c hc => Hex.mem_encode hc
  · intro other u cs hother hu hdigits
    have hsame := (hdigits (.ofSeed 0)).symm.trans (yields_hexEncode hother hu (.ofSeed 0))
    exact Hex.encode_injective (Value.string.inj (Except.ok.inj hsame)).symm

/-- An accented letter comes back from both encodings. Its first byte alone comes back in base 64, is no
    text, and has digits of its own. -/
theorem encodings_undone_sample :
    let env : String → Option Value := fun _ => none
    let letter : Expr := .literal (.string "é")
    let cut : Expr := .literal (.bytes [0xC3])
    Yields env (.call "base64Decode" [.call "base64" [letter]]) (.bytes [0xC3, 0xA9]) ∧
      Yields env (.call "urldecode" [.call "urlencode" [letter]]) (.string "é") ∧
      Yields env (.call "base64Decode" [.call "base64" [cut]]) (.bytes [0xC3]) ∧
      (∀ draws w, (Expr.call "urldecode" [.call "urlencode" [cut]]).evaluate env draws ≠ .ok w) ∧
      ∃ digits : String, Yields env (.call "hexEncode" [cut]) (.string digits) ∧ digits.length = 2 ∧
        ¬ Yields env (.call "hexEncode" [letter]) (.string digits) := by
  intro env letter cut
  have hletter : Yields env letter (.string "é") := yields_literal _
  have hcut : Yields env cut (.bytes [0xC3]) := yields_literal _
  have hbytes : (Value.string "é").bytes? = some [0xC3, 0xA9] := by decide
  obtain ⟨hbase, htext, -⟩ := encodings_undone hletter hbytes
  obtain ⟨hcutBase, -, hcutText, digits, hdigits, hlength, -, honly⟩ := encodings_undone hcut rfl
  refine ⟨hbase, htext _ rfl, hcutBase, ?_, digits, hdigits, hlength, ?_⟩
  · intro draws w hw
    obtain ⟨hvalid, -⟩ := (hcutText draws w).mp hw
    exact absurd hvalid (by decide)
  · intro hsame
    cases honly hletter hbytes hsame

end VulnProbe.Expr
