import VulnProbe.Proofs.Text.Hex
import VulnProbe.Report.RunId

namespace VulnProbe.RunId

/-- Five groups with hyphens between them are read as their digits in a row. -/
theorem ofGroups?_append {a b c d e : List Char} (ha : a.length = 8) (hb : b.length = 4)
    (hc : c.length = 4) (hd : d.length = 4) (he : e.length = 12) :
    ofGroups? (a ++ '-' :: (b ++ '-' :: (c ++ '-' :: (d ++ '-' :: e)))) =
      ofDigits? (a ++ b ++ c ++ d ++ e) := by
  simp [ofGroups?, List.drop_append, List.drop_eq_nil_of_le, ha, hb, hc, hd, he]

/-- The digits of a part of an identifier. -/
def group (id : RunId) (start count : Nat) : List Char :=
  (Hex.encode ((id.bytes.drop start).take count)).toList

/-- An identifier is written in five groups of digits with hyphens between them. -/
theorem toList_text (id : RunId) :
    id.text.toList = id.group 0 4 ++ '-' :: (id.group 4 2 ++ '-' :: (id.group 6 2 ++ '-' ::
      (id.group 8 2 ++ '-' :: id.group 10 6))) := by
  simp [text, group]

private theorem length_group (id : RunId) (start count : Nat) (hcount : start + count ≤ 16) :
    (id.group start count).length = 2 * count := by
  have hlength := Hex.length_encode ((id.bytes.drop start).take count)
  rw [List.length_take, List.length_drop, id.length_bytes] at hlength
  rw [group, String.length_toList, hlength]
  omega

/-- The groups in a row are the digits of all bytes. -/
theorem ofDigits?_groups (id : RunId) :
    ofDigits? (id.group 0 4 ++ id.group 4 2 ++ id.group 6 2 ++ id.group 8 2 ++ id.group 10 6) =
      some id := by
  have hcut (start count : Nat) :
      (id.bytes.drop start).take count ++ id.bytes.drop (start + count) = id.bytes.drop start := by
    rw [← List.drop_drop, List.take_append_drop]
  have hlast : (id.bytes.drop 10).take 6 = id.bytes.drop 10 :=
    List.take_of_length_le (by simp [id.length_bytes])
  have hbytes : (id.bytes.drop 0).take 4 ++ ((id.bytes.drop 4).take 2 ++ ((id.bytes.drop 6).take 2 ++
      ((id.bytes.drop 8).take 2 ++ (id.bytes.drop 10).take 6))) = id.bytes := by
    rw [hlast, hcut 8 2, hcut 6 2, hcut 4 2, hcut 0 4, List.drop_zero]
  have hdigits : id.group 0 4 ++ id.group 4 2 ++ id.group 6 2 ++ id.group 8 2 ++ id.group 10 6 =
      id.bytes.flatMap Hex.byteDigits := by
    simp only [group, Hex.encode, String.toList_ofList, List.append_assoc, ← List.flatMap_append, hbytes]
  rw [hdigits, ofDigits?, Hex.decodeChars?_byteDigits]
  exact dif_pos id.length_bytes

/-- The text of an identifier is read back as the identifier. -/
theorem parse?_text (id : RunId) : parse? id.text = some id := by
  have hlength : id.text.toList.length = 36 := by
    simp [toList_text, length_group]
  have hmark : "urn:uuid:".toList.isPrefixOf id.text.toList = false := by
    have hopening : "urn:uuid:".toList = ['u', 'r', 'n', ':', 'u', 'u', 'i', 'd', ':'] := by rfl
    rw [hopening, toList_text]
    cases hdigits : id.group 0 4 with
    | nil => simpa [hdigits] using id.length_group 0 4 (by decide)
    | cons c cs =>
      have hc : c ∈ "0123456789abcdef".toList := Hex.mem_encode (hdigits ▸ List.mem_cons_self)
      have hne : ('u' == c) = false := by
        rw [beq_eq_false_iff_ne]
        rintro rfl
        exact absurd hc (by decide)
      rw [List.cons_append, List.isPrefixOf_cons_cons, hne, Bool.false_and]
  have hgroups : ofGroups? id.text.toList = some id := by
    rw [toList_text, ofGroups?_append (id.length_group 0 4 (by decide)) (id.length_group 4 2 (by decide))
      (id.length_group 6 2 (by decide)) (id.length_group 8 2 (by decide))
      (id.length_group 10 6 (by decide)), ofDigits?_groups]
  simp only [parse?, hlength, hmark, hgroups, Nat.reduceBEq, Bool.false_and, Bool.false_eq_true, ↓reduceIte]

end VulnProbe.RunId
