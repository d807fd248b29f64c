import VulnProbe.Proofs.Expr.Yields
import VulnProbe.Proofs.Text.Utf8

namespace VulnProbe.Expr

variable {env : String → Option Value} {e lhs rhs : Expr} {v : Value} {bs cs : List UInt8}

section Functions

/-- The call of `string` has the text form of the value of its argument, whatever its type. -/
theorem yields_string (he : Yields env e v) : Yields env (.call "string" [e]) (.string v.text) :=
  .call .string (.cons he .nil) fun _ => rfl

private theorem yields_size_bytes (he : Yields env e (.bytes bs)) :
    Yields env (.call "size" [e]) (.int bs.length) :=
  .call .size (.cons he .nil) fun _ => rfl

private theorem Yields.appendBytes (hlhs : Yields env lhs (.bytes bs)) (hrhs : Yields env rhs (.bytes cs)) :
    Yields env (.binary .add lhs rhs) (.bytes (bs ++ cs)) :=
  .binary (by decide) hlhs hrhs rfl

private theorem yields_concat (hlhs : Yields env lhs (.bytes bs)) (hrhs : Yields env rhs v)
    (hv : v.bytes? = some cs) : Yields env (.method lhs "concat" [rhs]) (.bytes (bs ++ cs)) := by
  refine .method .concat hlhs (.cons hrhs .nil) ?_
  simp only [Method.apply, joinedBytes, bind, Except.bind, bytesArg_of_bytes? hv, List.append_nil]

end Functions

/-- A text comes back from its bytes, of which it has as many as its UTF-8. Bytes come back from their text
    exactly if they are valid UTF-8. The bytes of joined texts are their bytes joined, by the operator or
    by the method. -/
theorem conversions_lossless (env : String → Option Value) :
    (∀ {e : Expr} {s : String}, Yields env e (.string s) →
      Yields env (.call "string" [.call "bytes" [e]]) (.string s) ∧
        Yields env (.call "size" [.call "bytes" [e]]) (.int s.utf8ByteSize)) ∧
    (∀ {e : Expr} {bs : List UInt8}, Yields env e (.bytes bs) →
      ∃ found : List UInt8, Yields env (.call "bytes" [.call "string" [e]]) (.bytes found) ∧
        (found = bs ↔ bs.toByteArray.IsValidUTF8)) ∧
    ∀ {lhs rhs : Expr} {s t : String}, Yields env lhs (.string s) → Yields env rhs (.string t) →
      ∃ joined : List UInt8, Yields env (.call "bytes" [.binary .add lhs rhs]) (.bytes joined) ∧
        Yields env (.binary .add (.call "bytes" [lhs]) (.call "bytes" [rhs])) (.bytes joined) ∧
        Yields env (.method (.call "bytes" [lhs]) "concat" [rhs]) (.bytes joined) := by
  refine ⟨?_, ?_, ?_⟩
  · intro e s he
    have hbytes := he.bytes rfl
    have htext := yields_string hbytes
    have hsize := yields_size_bytes hbytes
    rw [Value.text, Utf8.decodeLossy_ofString] at htext
    rw [Utf8.length_ofString] at hsize
    exact ⟨htext, hsize⟩
  · intro e bs he
    exact ⟨_, (yields_string he).bytes rfl, Utf8.ofString_decodeLossy_eq_iff⟩
  · intro lhs rhs s t hlhs hrhs
    have hjoined := (hlhs.append hrhs).bytes rfl
    rw [Utf8.ofString_append] at hjoined
    exact ⟨_, hjoined, (hlhs.bytes rfl).appendBytes (hrhs.bytes rfl), yields_concat (hlhs.bytes rfl) hrhs rfl⟩

/-- An accented letter has two bytes and comes back from them; its first byte alone does not come back.
    Another letter is joined to it alike as a text and as bytes. -/
theorem conversions_lossless_sample :
    let env : String → Option Value := fun name => if name = "s" then some (.string "é") else none
    let cut : Expr := .literal (.bytes [0xC3])
    let letter : Expr := .literal (.string "x")
    Yields env (.call "string" [.call "bytes" [.ident "s"]]) (.string "é") ∧
      Yields env (.call "size" [.call "bytes" [.ident "s"]]) (.int 2) ∧
      ¬ Yields env (.call "bytes" [.call "string" [cut]]) (.bytes [0xC3]) ∧
      ∃ joined : List UInt8,
        Yields env (.call "bytes" [.binary .add (.ident "s") letter]) (.bytes joined) ∧
          Yields env (.method (.call "bytes" [.ident "s"]) "concat" [letter]) (.bytes joined) := by
  intro env cut letter
  have hs : Yields env (.ident "s") (.string "é") := yields_ident rfl
  obtain ⟨htexts, hbytes, hjoins⟩ := conversions_lossless env
  obtain ⟨htext, hsize⟩ := htexts hs
  obtain ⟨found, hfound, hvalid⟩ := hbytes (yields_literal (.bytes [0xC3]))
  obtain ⟨joined, hjoined, -, hconcat⟩ := hjoins hs (yields_literal (.string "x"))
  refine ⟨htext, hsize, ?_, joined, hjoined, hconcat⟩
  intro hcut
  have hsame := (hfound (.ofSeed 0)).symm.trans (hcut (.ofSeed 0))
  have hkept := hvalid.mp (Value.bytes.inj (Except.ok.inj hsame))
  exact absurd hkept (by decide)

end VulnProbe.Expr
