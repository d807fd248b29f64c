import VulnProbe.Proofs.Expr.Grammar.Sound.Brackets

namespace VulnProbe.Expr.Parser

variable {bound : Nat} {expression : Reader Node}

/-- A name and what follows it, once the token of the name has been taken. -/
theorem meets_named (hexpression : Sound .expression bound expression) (hbound : 0 < bound)
    {name : String} {ts : Tokens} (hclosed : Closed ts) :
    Meets ts (fun node us => TreeBelow .primary bound node (.ident name :: us))
      (named expression name ts) := by
  have hleaf {e : Expr} (he : e.height = 1) (hder : Derives (.tree .primary e) [.ident name] 0) :
      Meets ts (fun node us => TreeBelow .primary bound node (.ident name :: us)) (.ok ((e, 1), ts)) :=
    ⟨[], rfl, hclosed, he.symm, show 1 ≤ maxDepth by decide, 0, hbound, hder⟩
  simp only [named, beq_iff_eq]
  split
  · subst name
    exact hleaf rfl (.literal .true)
  split
  · subst name
    exact hleaf rfl (.literal .false)
  split
  · subst name
    exact hleaf rfl (.literal .null)
  have hname : ¬ IsConstantName name := by simp [IsConstantName, *]
  split
  · rename_i hpeek
    obtain ⟨t, rest, rfl, ht, hrest, hadvance⟩ := hclosed.advance hpeek (by simp)
    rw [hadvance]
    rcases arguments_cases hexpression hbound (show Token.rparen ≠ .endOfInput by simp) hrest with
      ⟨err, herr, hfault⟩ | ⟨es, us, close, rest, d, hes, rfl, hclose, hrest, hd, hder⟩
    · simp only [herr]
      exact hfault.cons
    · simp only [hes]
      refine meets_node [.ident name] (show _ = t :: us ++ [close] ++ rest by simp) hrest rfl hd ?_
      simpa [ht, hclose] using DerivesBy.call hname hder
  · exact hleaf rfl (.ident hname)

/-- An operand without what may follow it. -/
theorem sound_primary (hexpression : Sound .expression bound expression) (hbound : 0 < bound) :
    Sound .primary bound (primary expression) := by
  intro ts hclosed
  rw [primary]
  have hleaf {t : Token} {v : Value} (hpeek : peek ts = t) (ht : LiteralToken t v) :
      Meets ts (TreeBelow .primary bound) (.ok ((.literal v, 1), advance ts)) := by
    obtain ⟨t', rest, rfl, ht', hrest, hadvance⟩ := hclosed.advance hpeek (by cases ht <;> simp)
    rw [hadvance]
    refine ⟨[t'], rfl, hrest, rfl, show 1 ≤ maxDepth by decide, 0, hbound, ?_⟩
    simpa [ht'] using DerivesBy.literal ht
  split
  case h_1 i hpeek => exact hleaf hpeek (.int i)
  case h_2 s hpeek => exact hleaf hpeek (.str s)
  case h_3 bs hpeek => exact hleaf hpeek (.bytes bs)
  case h_4 name hpeek =>
    obtain ⟨t, rest, rfl, ht, hrest, hadvance⟩ := hclosed.advance hpeek (by simp)
    rw [hadvance]
    refine (meets_named hexpression hbound hrest).after [t] fun _ _ h => ?_
    simpa [ht] using h
  case h_5 hpeek =>
    obtain ⟨t, rest, rfl, ht, hrest, hadvance⟩ := hclosed.advance hpeek (by simp)
    rw [hadvance]
    rcases hexpression.cases hrest with
      ⟨err, herr, hfault⟩ | ⟨e, us, rest, d, he, rfl, hrest, hmax, hd, hder⟩
    · simp only [herr]
      exact hfault.cons
    simp only [he]
    rcases expect_cases hrest .rparen (by simp) with
      ⟨err, herr, hfault⟩ | ⟨close, rest, hexpect, rfl, hclose, hrest⟩
    · simp only [herr]
      exact (hfault.append _).cons
    · simp only [hexpect]
      refine ⟨t :: us ++ [close], by simp, hrest, rfl, hmax, d, hd, ?_⟩
      simpa [ht, hclose] using DerivesBy.paren hder
  case h_6 hpeek =>
    obtain ⟨t, rest, rfl, ht, hrest, hadvance⟩ := hclosed.advance hpeek (by simp)
    rw [hadvance]
    rcases arguments_cases hexpression hbound (show Token.rbracket ≠ .endOfInput by simp) hrest with
      ⟨err, herr, hfault⟩ | ⟨es, us, close, rest, d, hes, rfl, hclose, hrest, hd, hder⟩
    · simp only [herr]
      exact hfault.cons
    · simp only [hes]
      refine meets_node [] (show _ = t :: us ++ [close] ++ rest by simp) hrest rfl hd ?_
      simpa [ht, hclose] using DerivesBy.list hder
  case h_7 hpeek =>
    obtain ⟨t, rest, rfl, ht, hrest, hadvance⟩ := hclosed.advance hpeek (by simp)
    rw [hadvance]
    rcases entries_cases hexpression hbound hrest with
      ⟨err, herr, hfault⟩ | ⟨ps, us, close, rest, d, hps, rfl, hclose, hrest, hd, hder⟩
    · simp only [herr]
      exact hfault.cons
    · simp only [hps]
      refine meets_node [] (show _ = t :: us ++ [close] ++ rest by simp) hrest rfl hd ?_
      simpa [ht, hclose] using DerivesBy.map hder
  case h_8 => exact hclosed.faultIn_fail_advance (.unexpected _) (fun _ hfound => Option.some.inj hfound) rfl

/-- A field or a method call, after the operand and once the dot has been taken. -/
theorem meets_selection (hexpression : Sound .expression bound expression) (hbound : 0 < bound)
    {operand : Expr} {vs : List Token} {d : Nat} {ts : Tokens} (hclosed : Closed ts) (hd : d < bound)
    (hder : Derives (.tree .postfixed operand) vs d) :
    Meets ts (fun node us => TreeBelow .postfixed bound node (vs ++ [Token.dot] ++ us))
      (selection expression (operand, operand.height) ts) := by
  rw [selection]
  split
  · rename_i name hpeek
    obtain ⟨t, rest, rfl, ht, hrest, hadvance⟩ := hclosed.advance hpeek (by simp)
    rw [hadvance]
    split
    · rename_i hpeek
      obtain ⟨paren, rest, rfl, hparen, hrest, hadvance⟩ := hrest.advance hpeek (by simp)
      rw [hadvance]
      rcases arguments_cases hexpression hbound (show Token.rparen ≠ .endOfInput by simp) hrest with
        ⟨err, herr, hfault⟩ | ⟨es, us, close, rest, ds, hes, rfl, hclose, hrest, hds, hargs⟩
      · simp only [herr]
        exact hfault.cons.cons
      · simp only [hes]
        have hts : t :: paren :: (us ++ close :: rest) = t :: paren :: us ++ [close] ++ rest := by simp
        refine meets_node (vs ++ [Token.dot]) hts hrest
          (show (Expr.method operand name es).height = _ from rfl) (show max d ds < bound by omega) ?_
        simpa [ht, hparen, hclose] using DerivesBy.method hder hargs
    · refine meets_node (vs ++ [Token.dot]) (show t :: rest = [t] ++ rest from rfl) hrest
        (show (Expr.select operand name).height = _ from rfl) hd ?_
      simpa [ht] using DerivesBy.select hder
  · exact hclosed.faultIn_fail_advance (.noFieldName _) (fun _ hfound => Option.some.inj hfound) rfl

/-- An index, after the operand and once the opening bracket has been taken. -/
theorem meets_indexing (hexpression : Sound .expression bound expression) {operand : Expr}
    {vs : List Token} {d : Nat} {ts : Tokens} (hclosed : Closed ts) (hd : d < bound)
    (hder : Derives (.tree .postfixed operand) vs d) :
    Meets ts (fun node us => TreeBelow .postfixed bound node (vs ++ [Token.lbracket] ++ us))
      (indexing expression (operand, operand.height) ts) := by
  rw [indexing]
  rcases hexpression.cases hclosed with
    ⟨err, herr, hfault⟩ | ⟨i, us, rest, di, hi, rfl, hrest, -, hdi, hindex⟩
  · simp only [herr]
    exact hfault
  simp only [hi]
  rcases expect_cases hrest .rbracket (by simp) with
    ⟨err, herr, hfault⟩ | ⟨close, rest, hexpect, rfl, hclose, hrest⟩
  · simp only [herr]
    exact hfault.append _
  · simp only [hexpect]
    have hts : us ++ close :: rest = us ++ [close] ++ rest := by simp
    refine meets_node (vs ++ [Token.lbracket]) hts hrest (show (Expr.index operand i).height = _ from rfl)
      (show max d di < bound by omega) ?_
    simpa [hclose] using DerivesBy.index hder hindex

/-- The selections and indices that follow an operand. -/
theorem meets_postfixAfter (hexpression : Sound .expression bound expression) (hbound : 0 < bound)
    (fuel : Nat) :
    ∀ (operand : Expr) {vs : List Token} {d : Nat} {ts : Tokens}, Closed ts →
      operand.height ≤ maxDepth → d < bound → Derives (.tree .postfixed operand) vs d →
      Meets ts (fun node us => TreeBelow .postfixed bound node (vs ++ us))
        (postfixAfter expression fuel (operand, operand.height) ts) := by
  have hdone {operand : Expr} {vs : List Token} {d : Nat} {ts : Tokens} (hclosed : Closed ts)
      (hmax : operand.height ≤ maxDepth) (hd : d < bound)
      (hder : Derives (.tree .postfixed operand) vs d) :
      Meets ts (fun node us => TreeBelow .postfixed bound node (vs ++ us))
        (.ok ((operand, operand.height), ts)) :=
    ⟨[], rfl, hclosed, rfl, hmax, d, hd, by simpa using hder⟩
  induction fuel with
  | zero => exact fun _ _ _ _ hclosed hmax hd hder => hdone hclosed hmax hd hder
  | succ fuel ih =>
    intro operand vs d ts hclosed hmax hd hder
    rw [postfixAfter]
    split
    · rename_i hpeek
      obtain ⟨t, rest, rfl, ht, hrest, hadvance⟩ := hclosed.advance hpeek (by simp)
      rw [hadvance]
      rcases Meets.tree_cases _ (meets_selection hexpression hbound hrest hd hder) with
        ⟨err, herr, hfault⟩ | ⟨e, us, rest, d, he, rfl, hrest, hmax, hd, hder⟩
      · simp only [herr]
        exact hfault.cons
      · simp only [he]
        refine (ih e hrest hmax hd hder).after (t :: us) fun _ _ h => ?_
        simpa [ht] using h
    · split
      · rename_i hpeek
        obtain ⟨t, rest, rfl, ht, hrest, hadvance⟩ := hclosed.advance hpeek (by simp)
        rw [hadvance]
        rcases Meets.tree_cases _ (meets_indexing hexpression hrest hd hder) with
          ⟨err, herr, hfault⟩ | ⟨e, us, rest, d, he, rfl, hrest, hmax, hd, hder⟩
        · simp only [herr]
          exact hfault.cons
        · simp only [he]
          refine (ih e hrest hmax hd hder).after (t :: us) fun _ _ h => ?_
          simpa [ht] using h
      · exact hdone hclosed hmax hd hder

/-- Operands with selections are read soundly if expressions are. Neither the operand nor its selections
    open a level around the operand. -/
theorem sound_postfixed (hexpression : Sound .expression bound expression) (hbound : 0 < bound) :
    Sound .postfixed bound (postfixed expression) := by
  intro ts hclosed
  rw [postfixed]
  rcases (sound_primary hexpression hbound).cases hclosed with
    ⟨err, herr, hfault⟩ | ⟨e, us, rest, d, he, rfl, hrest, hmax, hd, hder⟩
  · simp only [herr]
    exact hfault
  · simp only [he]
    have hmeets := meets_postfixAfter hexpression hbound maxDepth e hrest hmax hd (.tighten rfl hder)
    exact hmeets.after us fun _ _ h => h

end VulnProbe.Expr.Parser
