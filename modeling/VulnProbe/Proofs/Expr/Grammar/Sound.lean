import VulnProbe.Proofs.Expr.Grammar.Sound.Operands

namespace VulnProbe.Expr.Parser

section Chain

variable {l l' : Level} {bound : Nat} {operand : Reader Node}

/-- The rest of a chain, after operands that derive a tree of the level of the chain. -/
theorem meets_chainAfter (hl : l.tighter? = some l') (hoperand : Sound l' bound operand) (fuel : Nat) :
    ∀ (lhs : Expr) {us : List Token} {d : Nat} {ts : Tokens}, Closed ts → lhs.height ≤ maxDepth →
      d < bound → Derives (.tree l lhs) us d →
      Meets ts (fun node vs => TreeBelow l bound node (us ++ vs))
        (chainAfter l.operator? operand fuel (lhs, lhs.height) ts) := by
  induction fuel with
  | zero =>
    intro lhs us d ts hclosed hmax hd hder
    exact ⟨[], rfl, hclosed, rfl, hmax, d, hd, by simpa using hder⟩
  | succ fuel ih =>
    intro lhs us d ts hclosed hmax hd hder
    rw [chainAfter]
    cases hop : l.operator? (peek ts) with
    | none => exact ⟨[], rfl, hclosed, rfl, hmax, d, hd, by simpa using hder⟩
    | some op =>
      obtain ⟨rfl, hpeek⟩ := Level.operator?_eq_some_iff.mp hop
      obtain ⟨t, rest, rfl, ht, hrest, hadvance⟩ :=
        hclosed.advance hpeek.symm (by cases op <;> simp [BinaryOp.token])
      simp only [hadvance]
      rcases hoperand.cases hrest with
        ⟨err, herr, hfault⟩ | ⟨rhs, vs, rest, dr, hrhs, rfl, hrest, -, hdr, hder'⟩
      · simp only [herr]
        exact hfault.cons
      · have hd : max d dr < bound := by omega
        have hbinary := DerivesBy.binary hl hder hder'
        simp only [hrhs]
        rcases node_cases hrest (.binary op lhs rhs) (max lhs.height rhs.height) with
          ⟨err, herr, hfault⟩ | ⟨hnode, hmax⟩
        · simp only [herr]
          exact (hfault.append _).cons
        · simp only [hnode]
          refine (ih (.binary op lhs rhs) hrest hmax hd hbinary).after (t :: vs) fun node ws hws => ?_
          simpa [ht, hpeek] using hws

/-- A chain over a sound reader of operands is sound. -/
theorem sound_chain (hl : l.tighter? = some l') (hoperand : Sound l' bound operand) :
    Sound l bound (chain l.operator? operand) := by
  intro ts hclosed
  rw [chain]
  rcases hoperand.cases hclosed with
    ⟨err, herr, hfault⟩ | ⟨e, us, rest, d, he, rfl, hrest, hmax, hd, hder⟩
  · simp only [herr]
    exact hfault
  · simp only [he]
    have hmeets := meets_chainAfter hl hoperand maxDepth e hrest hmax hd (.tighten hl hder)
    exact hmeets.after us fun _ _ h => h

end Chain

section Levels

variable {bound : Nat} {inner operand expression : Reader Node}

/-- An operand with its signs. What stands under a sign has one less of them to open. -/
theorem sound_unary (hinner : Sound .sign bound inner)
    (hexpression : Sound .expression (bound + 1) expression) :
    Sound .sign (bound + 1) (unary inner expression) := by
  intro ts hclosed
  rw [unary]
  cases hop : signOp? (peek ts) with
  | none =>
    have hmeets := sound_postfixed hexpression (Nat.succ_pos bound) ts hclosed
    refine hmeets.after [] fun node us hnode => ?_
    obtain ⟨hh, hmax, d, hd, hder⟩ := hnode
    exact ⟨hh, hmax, d, hd, .tighten rfl hder⟩
  | some op =>
    obtain ⟨t, rest, rfl, ht, hrest, hadvance⟩ :=
      hclosed.advance (signOp?_eq_some_iff.mp hop) (by cases op <;> simp [UnaryOp.token])
    simp only [hadvance]
    rcases hinner.cases hrest with
      ⟨err, herr, hfault⟩ | ⟨e, us, rest, d, he, rfl, hrest, hmax, hd, hder⟩
    · simp only [herr]
      exact hfault.cons
    · simp only [he]
      have hsign : Derives (.tree .sign (op.over e)) (t.token :: us.map (·.token)) (d + 1) := by
        rw [ht]
        exact .sign hder
      rcases signed_cases op e rest with ⟨hheight, hsigned⟩ | ⟨hover, hsigned⟩
      · rw [hsigned]
        exact ⟨t :: us, rfl, hrest, rfl, by omega, d + 1, by omega, hsign⟩
      · rw [hsigned]
        rw [hover] at hsign
        exact meets_node [] (show _ = t :: us ++ rest from rfl) hrest rfl (by omega) hsign

/-- Everything that binds tighter than the conditional. -/
theorem sound_disjunction (hoperand : Sound .sign bound operand) :
    Sound .or bound (disjunction operand) := by
  have hproduct := sound_chain (l := .product) rfl hoperand
  have hsum := sound_chain (l := .sum) rfl hproduct
  have hrelation := sound_chain (l := .relation) rfl hsum
  have hand := sound_chain (l := .and) rfl hrelation
  exact sound_chain (l := .or) rfl hand

/-- A conditional or what binds tighter, which opens one expression more than its parts. -/
theorem sound_conditional (hoperand : Sound .sign bound operand)
    (hexpression : Sound .expression bound expression) :
    Sound .expression (bound + 1) (conditional operand expression) := by
  intro ts hclosed
  rw [conditional]
  have hor := sound_disjunction hoperand
  rcases hor.cases hclosed with
    ⟨err, herr, hfault⟩ | ⟨test, us, rest, dt, he, rfl, hrest, hmax, hdt, htest⟩
  · simp only [herr]
    exact hfault
  simp only [he]
  split
  · rename_i hpeek
    obtain ⟨question, rest, rfl, hquestion, hrest, hadvance⟩ := hrest.advance hpeek (by simp)
    rw [hadvance]
    rcases hor.cases hrest with
      ⟨err, herr, hfault⟩ | ⟨yes, vs, rest, dy, he, rfl, hrest, -, hdy, hyes⟩
    · simp only [herr]
      exact hfault.cons.append _
    simp only [he]
    rcases expect_cases hrest .colon (by simp) with
      ⟨err, herr, hfault⟩ | ⟨colon, rest, hexpect, rfl, hcolon, hrest⟩
    · simp only [herr]
      exact (hfault.append _).cons.append _
    simp only [hexpect]
    rcases hexpression.cases hrest with
      ⟨err, herr, hfault⟩ | ⟨no, ws, rest, dn, he, rfl, hrest, -, hdn, hno⟩
    · simp only [herr]
      exact (hfault.cons.append _).cons.append _
    · simp only [he]
      have hts : us ++ question :: (vs ++ colon :: (ws ++ rest)) =
          us ++ question :: vs ++ colon :: ws ++ rest := by simp
      have hnode := meets_node [] hts hrest (show (Expr.cond test yes no).height = _ from rfl)
        (show max (max dt dy) dn + 1 < bound + 1 by omega)
        (by simpa [hquestion, hcolon] using DerivesBy.conditional htest hyes hno)
      exact hnode.after [] fun _ _ h => h
  · exact ⟨us, rfl, hrest, rfl, hmax, dt + 1, by omega, .plain htest⟩

end Levels

/-- The reader that refuses every text is sound, since it gives no tree. -/
theorem sound_tooDeep (l : Level) (bound : Nat) : Sound l bound tooDeep :=
  fun _ hclosed => hclosed.faultIn_tooDeep

/-- The readers for so many more expressions and signs are sound: each new expression and each new sign
    uses up one of them. -/
theorem sound_readers (n : Nat) :
    Sound .expression (n + 1) (readers n).1 ∧ Sound .sign (n + 1) (readers n).2 := by
  induction n with
  | zero => exact ⟨sound_tooDeep _ _, sound_unary (sound_tooDeep _ _) (sound_tooDeep _ _)⟩
  | succ n ih =>
    have hexpression := sound_conditional ih.2 ih.1
    exact ⟨hexpression, sound_unary ih.2 hexpression⟩

end VulnProbe.Expr.Parser
