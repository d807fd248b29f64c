import VulnProbe.Proofs.Expr.Grammar.Sound.Outcome

namespace VulnProbe.Expr.Parser

variable {bound : Nat} {expression : Reader Node}

/-- More trees up to a closing token, after those already read. -/
def MoreItems (bound : Nat) (close : Token) (read : List Expr) (height : Nat) (items : List Expr × Nat)
    (ts : List Token) : Prop :=
  ∃ es us d, items = (read.reverse ++ es, max height (heightAll es)) ∧ ts = us ++ [close] ∧ d < bound ∧
    Derives (.items es) us d

private theorem meets_argumentsAfter (hexpression : Sound .expression bound expression) {close : Token}
    (hclose : close ≠ .endOfInput) (fuel : Nat) :
    ∀ (read : List Expr) (height : Nat) {ts : Tokens}, Closed ts → ts.length < fuel →
      Meets ts (MoreItems bound close read height)
        (argumentsAfter expression close fuel read height ts) := by
  induction fuel with
  | zero => exact fun _ _ _ _ hfuel => absurd hfuel (Nat.not_lt_zero _)
  | succ fuel ih =>
    intro read height ts hclosed hfuel
    rw [argumentsAfter]
    rcases hexpression.cases hclosed with
      ⟨err, herr, hfault⟩ | ⟨e, us, rest, d, he, rfl, hrest, -, hd, hder⟩
    · simp only [herr]
      exact hfault
    · simp only [he]
      split
      · rename_i hpeek
        obtain ⟨t, rest, rfl, ht, hrest, hadvance⟩ := hrest.advance hpeek hclose
        rw [hadvance]
        refine ⟨us ++ [t], by simp, hrest, [e], us.map (·.token), d, ?_, ?_, hd, .lastItem hder⟩
        · simp [heightAll]
        · simp [ht]
      · rcases expect_cases hrest .comma (by simp) with
          ⟨err, herr, hfault⟩ | ⟨t, rest, hexpect, rfl, ht, hrest⟩
        · simp only [herr]
          exact hfault.append _
        · simp only [hexpect]
          have hfuel : rest.length < fuel := by
            rw [List.length_append, List.length_cons] at hfuel
            omega
          rw [List.append_cons]
          refine (ih (e :: read) (max height e.height) hrest hfuel).after (us ++ [t])
            fun items _ hitems => ?_
          obtain ⟨es, vs, ds, rfl, rfl, hds, hes⟩ := hitems
          refine ⟨e :: es, us.map (·.token) ++ .comma :: vs, max d ds, ?_, ?_, by omega,
            .nextItem hder hes⟩
          · simp [heightAll, Nat.max_assoc]
          · simp [ht]

/-- What the reader of bracketed trees comes to, case by case. -/
theorem arguments_cases (hexpression : Sound .expression bound expression) (hbound : 0 < bound)
    {close : Token} (hclose : close ≠ .endOfInput) {ts : Tokens} (hclosed : Closed ts) :
    (∃ err, arguments expression close ts = .error err ∧ FaultIn ts err) ∨
      ∃ es us t rest d, arguments expression close ts = .ok ((es, heightAll es), rest) ∧
        ts = us ++ t :: rest ∧ t.token = close ∧ Closed rest ∧ d < bound ∧
        Derives (.arguments es) (us.map (·.token)) d := by
  rw [arguments]
  split
  · rename_i hpeek
    obtain ⟨t, rest, rfl, ht, hrest, hadvance⟩ := hclosed.advance hpeek hclose
    exact .inr ⟨[], [], t, rest, 0, by rw [hadvance]; rfl, rfl, ht, hrest, hbound, .noItems⟩
  · have hmeets := meets_argumentsAfter hexpression hclose (ts.length + 1) [] 0 hclosed
      (Nat.lt_add_one _)
    rcases hmeets.cases with herror | ⟨_, us, rest, hr, rfl, hrest, es, vs, d, rfl, hus, hd, hes⟩
    · exact .inl herror
    · obtain ⟨us, t, rfl, rfl, ht⟩ := map_token_eq_append_singleton hus
      exact .inr ⟨es, us, t, rest, d, by simpa using hr, by simp, ht, hrest, hd, .someItems hes⟩

/-- More entries up to the closing brace, after those already read. -/
def MoreEntries (bound : Nat) (read : List (Expr × Expr)) (height : Nat)
    (entries : List (Expr × Expr) × Nat) (ts : List Token) : Prop :=
  ∃ ps us d, entries = (read.reverse ++ ps, max height (heightEntries ps)) ∧ ts = us ++ [.rbrace] ∧
    d < bound ∧ Derives (.pairs ps) us d

private theorem meets_entriesAfter (hexpression : Sound .expression bound expression) (fuel : Nat) :
    ∀ (read : List (Expr × Expr)) (height : Nat) {ts : Tokens}, Closed ts → ts.length < fuel →
      Meets ts (MoreEntries bound read height) (entriesAfter expression fuel read height ts) := by
  induction fuel with
  | zero => exact fun _ _ _ _ hfuel => absurd hfuel (Nat.not_lt_zero _)
  | succ fuel ih =>
    intro read height ts hclosed hfuel
    rw [entriesAfter]
    rcases hexpression.cases hclosed with
      ⟨err, herr, hfault⟩ | ⟨k, us, rest, dk, hk, rfl, hrest, -, hdk, hkey⟩
    · simp only [herr]
      exact hfault
    simp only [hk]
    rcases expect_cases hrest .colon (by simp) with
      ⟨err, herr, hfault⟩ | ⟨colon, rest, hexpect, rfl, hcolon, hrest⟩
    · simp only [herr]
      exact hfault.append _
    simp only [hexpect]
    rcases hexpression.cases hrest with
      ⟨err, herr, hfault⟩ | ⟨v, vs, rest, dv, hv, rfl, hrest, -, hdv, hvalue⟩
    · simp only [herr]
      exact hfault.cons.append _
    simp only [hv]
    split
    · rename_i hpeek
      obtain ⟨t, rest, rfl, ht, hrest, hadvance⟩ := hrest.advance hpeek (by simp)
      rw [hadvance]
      refine ⟨us ++ colon :: vs ++ [t], by simp, hrest, [(k, v)],
        us.map (·.token) ++ .colon :: vs.map (·.token), max dk dv, ?_, ?_, by omega,
        .lastPair hkey hvalue⟩
      · simp [heightEntries, Nat.max_assoc]
      · simp [ht, hcolon]
    rcases expect_cases hrest .comma (by simp) with
      ⟨err, herr, hfault⟩ | ⟨comma, rest, hexpect, rfl, hcomma, hrest⟩
    · simp only [herr]
      exact (hfault.append _).cons.append _
    simp only [hexpect]
    have htokens : us ++ colon :: (vs ++ comma :: rest) = us ++ colon :: vs ++ [comma] ++ rest := by
      simp
    have hfuel : rest.length < fuel := by
      simp only [List.length_append, List.length_cons] at hfuel
      omega
    rw [htokens]
    refine (ih ((k, v) :: read) _ hrest hfuel).after (us ++ colon :: vs ++ [comma])
      fun entries _ hentries => ?_
    obtain ⟨ps, ws, ds, rfl, rfl, hds, hps⟩ := hentries
    refine ⟨(k, v) :: ps, us.map (·.token) ++ .colon :: vs.map (·.token) ++ .comma :: ws,
      max (max dk dv) ds, ?_, ?_, by omega, .nextPair hkey hvalue hps⟩
    · simp [heightEntries, Nat.max_assoc]
    · simp [hcolon, hcomma]

/-- What the reader of the entries of a map comes to, case by case. -/
theorem entries_cases (hexpression : Sound .expression bound expression) (hbound : 0 < bound)
    {ts : Tokens} (hclosed : Closed ts) :
    (∃ err, entries expression ts = .error err ∧ FaultIn ts err) ∨
      ∃ ps us t rest d, entries expression ts = .ok ((ps, heightEntries ps), rest) ∧
        ts = us ++ t :: rest ∧ t.token = .rbrace ∧ Closed rest ∧ d < bound ∧
        Derives (.entries ps) (us.map (·.token)) d := by
  rw [entries]
  split
  · rename_i hpeek
    obtain ⟨t, rest, rfl, ht, hrest, hadvance⟩ := hclosed.advance hpeek (by simp)
    exact .inr ⟨[], [], t, rest, 0, by rw [hadvance]; rfl, rfl, ht, hrest, hbound, .noPairs⟩
  · have hmeets := meets_entriesAfter hexpression (ts.length + 1) [] 0 hclosed (Nat.lt_add_one _)
    rcases hmeets.cases with herror | ⟨_, us, rest, hr, rfl, hrest, ps, vs, d, rfl, hus, hd, hps⟩
    · exact .inl herror
    · obtain ⟨us, t, rfl, rfl, ht⟩ := map_token_eq_append_singleton hus
      exact .inr ⟨ps, us, t, rest, d, by simpa using hr, by simp, ht, hrest, hd, .somePairs hps⟩

end VulnProbe.Expr.Parser
