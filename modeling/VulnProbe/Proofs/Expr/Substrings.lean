import VulnProbe.Proofs.Expr.Yields

namespace VulnProbe.Expr

variable {env : String → Option Value} {text start count lhs rhs : Expr} {s : String} {a n i j : Int}

section Parts

private theorem length_substring (s : String) (start length : Nat) :
    (substring s start length).length = min length (s.length - start) := by
  rw [substring, String.length_ofList, List.length_take, List.length_drop, String.length_toList]

private theorem substring_append_substring (s : String) (cut : Nat) :
    substring s 0 cut ++ substring s cut (s.length - cut) = s := by
  have hlength : (s.toList.drop cut).length = s.length - cut := by
    rw [List.length_drop, String.length_toList]
  rw [substring, substring, ← hlength, List.take_length, List.drop_zero, ← String.ofList_append,
    List.take_append_drop, String.ofList_toList]

private theorem substring_substring (s : String) (start length start' length' : Nat) :
    substring (substring s start length) start' length' =
      substring s (start + start') (min length' (length - start')) := by
  rw [substring, substring, substring, String.toList_ofList, List.drop_take, List.drop_drop, List.take_take]

end Parts

section Calls

/-- The part of a text from a place on. -/
def substrCall (text start count : Expr) : Expr :=
  .call "substr" [text, start, count]

/-- The size of a value. -/
def sizeCall (operand : Expr) : Expr :=
  .call "size" [operand]

private theorem yields_sizeCall (htext : Yields env text (.string s)) :
    Yields env (sizeCall text) (.int s.length) :=
  .call .size (.cons htext .nil) fun _ => rfl

/-- No start or length that is not negative makes a part fail. -/
theorem yields_substrCall (htext : Yields env text (.string s)) (hstart : Yields env start (.int a))
    (hcount : Yields env count (.int n)) (ha : 0 ≤ a) (hn : 0 ≤ n) :
    Yields env (substrCall text start count) (.string (substring s a.toNat n.toNat)) := by
  refine .call .substr (.cons htext (.cons hstart (.cons hcount .nil))) fun draws => ?_
  have hsigns : (a < 0 || n < 0) = false := by simp [ha, hn]
  simp only [Builtin.apply, threeArgs, textArg, intArg, bind, Except.bind]
  rw [hsigns]
  rfl

private theorem yields_eq (hlhs : Yields env lhs (.string s)) (hrhs : Yields env rhs (.string s)) :
    Yields env (.binary .eq lhs rhs) (.bool true) :=
  .binary (by decide) hlhs hrhs (congrArg (fun same => Except.ok (Value.bool same)) (beq_self_eq_true s))

private theorem yields_add (hlhs : Yields env lhs (.int i)) (hrhs : Yields env rhs (.int j))
    (hsum : inRange (i + j) = true) : Yields env (.binary .add lhs rhs) (.int (i + j)) :=
  .binary (by decide) hlhs hrhs (if_pos hsum)

private theorem yields_sub (hlhs : Yields env lhs (.int i)) (hrhs : Yields env rhs (.int j))
    (hdifference : inRange (i - j) = true) : Yields env (.binary .sub lhs rhs) (.int (i - j)) :=
  .binary (by decide) hlhs hrhs (if_pos hdifference)

end Calls

/-- What `substr`, `size` and `+` make of a text, all counted in characters: its size, the size of a part, the
    parts on both sides of a cut, a part of a part, and the size of two texts put together. Lengths may
    come from any expression, and from the operators where 64 bits hold them. -/
theorem substr_laws (env : String → Option Value) {text : Expr} {s : String}
    (htext : Yields env text (.string s)) :
    Yields env (sizeCall text) (.int s.length) ∧
    (∀ {start count : Expr} {a n : Int}, Yields env start (.int a) → Yields env count (.int n) →
      0 ≤ a → 0 ≤ n →
        Yields env (sizeCall (substrCall text start count)) (.int (min n (max 0 (s.length - a))))) ∧
    (∀ {zero cut : Expr} {k : Int}, Yields env zero (.int 0) → Yields env cut (.int k) →
      0 ≤ k → k ≤ s.length →
        (inRange s.length = true → Yields env (.binary .sub (sizeCall text) cut) (.int (s.length - k))) ∧
        ∀ {rest : Expr}, Yields env rest (.int (s.length - k)) →
          Yields env (.binary .eq (.binary .add (substrCall text zero cut) (substrCall text cut rest)) text)
            (.bool true)) ∧
    (∀ {start count start' count' : Expr} {a n b m : Int}, Yields env start (.int a) →
      Yields env count (.int n) → Yields env start' (.int b) → Yields env count' (.int m) →
      0 ≤ a → 0 ≤ n → 0 ≤ b → 0 ≤ m →
        (inRange (a + b) = true → Yields env (.binary .add start start') (.int (a + b))) ∧
        ∀ {sum least : Expr}, Yields env sum (.int (a + b)) →
          Yields env least (.int (min m (max 0 (n - b)))) →
            Yields env (.binary .eq (substrCall (substrCall text start count) start' count')
              (substrCall text sum least)) (.bool true)) ∧
    ∀ {other : Expr} {t : String}, Yields env other (.string t) →
      Yields env (sizeCall (.binary .add text other)) (.int (s.length + t.length)) ∧
      (inRange (s.length + t.length) = true →
        Yields env (.binary .add (sizeCall text) (sizeCall other)) (.int (s.length + t.length))) := by
  have hsize := yields_sizeCall htext
  refine ⟨hsize, ?_, ?_, ?_, ?_⟩
  · intro start count a n hstart hcount ha hn
    have hpart := yields_sizeCall (yields_substrCall htext hstart hcount ha hn)
    have hlength : min n (max 0 (s.length - a)) = (substring s a.toNat n.toNat).length := by
      rw [length_substring]
      omega
    rwa [hlength]
  · intro zero cut k hzero hcut hk hle
    constructor
    · intro hrange
      apply yields_sub hsize hcut
      rw [inRange_iff] at hrange ⊢
      unfold minInt at hrange ⊢
      omega
    · intro rest hrest
      have hbefore := yields_substrCall htext hzero hcut (Int.le_refl 0) hk
      have hafter := yields_substrCall htext hcut hrest hk (by omega)
      have hjoined := hbefore.append hafter
      have hlength : ((s.length : Int) - k).toNat = s.length - k.toNat := by omega
      rw [hlength, Int.toNat_zero, substring_append_substring] at hjoined
      exact yields_eq hjoined htext
  · intro start count start' count' a n b m hstart hcount hstart' hcount' ha hn hb hm
    constructor
    · exact yields_add hstart hstart'
    · intro sum least hsum hleast
      have hinner := yields_substrCall htext hstart hcount ha hn
      have hpart := yields_substrCall hinner hstart' hcount' hb hm
      have hwhole := yields_substrCall htext hsum hleast (by omega) (by omega)
      have hfrom : (a + b).toNat = a.toNat + b.toNat := by omega
      have hlength : (min m (max 0 (n - b))).toNat = min m.toNat (n.toNat - b.toNat) := by omega
      rw [hfrom, hlength, ← substring_substring] at hwhole
      exact yields_eq hpart hwhole
  · intro other t hother
    constructor
    · have hjoined := yields_sizeCall (htext.append hother)
      rwa [String.length_append, Int.natCast_add] at hjoined
    · exact yields_add hsize (yields_sizeCall hother)

/-- A text of three letters with an accent: the greatest integer as start and length leaves nothing, the parts
    on both sides of its first letter make it again, and a part of a part ends where the outer part does. -/
theorem substr_laws_sample :
    let env : String → Option Value := fun name => if name = "s" then some (.string "añb") else none
    let text : Expr := .ident "s"
    let int : Int → Expr := fun i => .literal (.int i)
    Yields env (sizeCall (substrCall text (int maxInt) (int maxInt))) (.int 0) ∧
      Yields env (.binary .eq (.binary .add (substrCall text (int 0) (int 1))
        (substrCall text (int 1) (.binary .sub (sizeCall text) (int 1)))) text) (.bool true) ∧
      Yields env (.binary .eq (substrCall (substrCall text (int 1) (int 2)) (int 1) (int 5))
        (substrCall text (.binary .add (int 1) (int 1)) (int 1))) (.bool true) ∧
      Yields env (sizeCall (.binary .add text (.literal (.string "é")))) (.int 4) := by
  intro env text int
  have htext : Yields env text (.string "añb") := yields_ident rfl
  have hint (i : Int) : Yields env (int i) (.int i) := yields_literal (.int i)
  obtain ⟨-, hsize, hcut, hpart, hjoin⟩ := substr_laws env htext
  obtain ⟨hrest, hcut⟩ := hcut (hint 0) (hint 1) (by omega) (by decide)
  obtain ⟨hsum, hpart⟩ := hpart (hint 1) (hint 2) (hint 1) (hint 5) (by omega) (by omega) (by omega) (by omega)
  have hfar := hsize (hint maxInt) (hint maxInt) (by decide) (by decide)
  exact ⟨hfar, hcut (hrest (by decide)), hpart (hsum (by decide)) (hint 1),
    (hjoin (yields_literal (.string "é"))).1⟩

end VulnProbe.Expr
