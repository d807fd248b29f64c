import VulnProbe.Proofs.Expr.Grammar.Complete.Steps

namespace VulnProbe.Expr

open VulnProbe.Expr.Parser

/-- The tokens of bracketed trees are read up to the token that closes them. -/
def ReadsArguments (es : List Expr) (ts : List Token) (d : Nat) : Prop :=
  ∀ ⦃n : Nat⦄ ⦃us : Tokens⦄ ⦃close t : Located⦄ ⦃rest : Tokens⦄ ⦃wanted : Token⦄, us.map (·.token) = ts →
    d ≤ n → close.token = wanted → Level.closesList wanted = true → heightAll es ≤ maxDepth →
    arguments (readers n).1 wanted (us ++ close :: t :: rest) = .ok ((es, heightAll es), t :: rest)

/-- More trees are read up to the token that closes them, after those already read. -/
def ReadsItems (es : List Expr) (ts : List Token) (d : Nat) : Prop :=
  ∀ ⦃n : Nat⦄ ⦃us : Tokens⦄ ⦃close t : Located⦄ ⦃rest : Tokens⦄ ⦃wanted : Token⦄ ⦃fuel : Nat⦄
    (read : List Expr) (height : Nat), us.map (·.token) = ts → d ≤ n → close.token = wanted →
    Level.closesList wanted = true → us.length < fuel → heightAll es ≤ maxDepth →
    argumentsAfter (readers n).1 wanted fuel read height (us ++ close :: t :: rest) =
      .ok ((read.reverse ++ es, max height (heightAll es)), t :: rest)

/-- The tokens of the entries of a map are read up to the closing brace. -/
def ReadsEntries (ps : List (Expr × Expr)) (ts : List Token) (d : Nat) : Prop :=
  ∀ ⦃n : Nat⦄ ⦃us : Tokens⦄ ⦃close t : Located⦄ ⦃rest : Tokens⦄, us.map (·.token) = ts → d ≤ n →
    close.token = .rbrace → heightEntries ps ≤ maxDepth →
    entries (readers n).1 (us ++ close :: t :: rest) = .ok ((ps, heightEntries ps), t :: rest)

/-- More entries are read up to the closing brace, after those already read. -/
def ReadsPairs (ps : List (Expr × Expr)) (ts : List Token) (d : Nat) : Prop :=
  ∀ ⦃n : Nat⦄ ⦃us : Tokens⦄ ⦃close t : Located⦄ ⦃rest : Tokens⦄ ⦃fuel : Nat⦄
    (read : List (Expr × Expr)) (height : Nat), us.map (·.token) = ts → d ≤ n → close.token = .rbrace →
    us.length < fuel → heightEntries ps ≤ maxDepth →
    entriesAfter (readers n).1 fuel read height (us ++ close :: t :: rest) =
      .ok ((read.reverse ++ ps, max height (heightEntries ps)), t :: rest)

/-- One tree that is read makes a list of trees that is read. -/
theorem readsItems_last {e : Expr} {ts : List Token} {d : Nat} (he : ReadsTree .expression e ts d) :
    ReadsItems [e] ts d := by
  intro n us close t rest wanted fuel read height hus hd hclose hwanted hfuel hmax
  have htree : (readers n).1 (us ++ close :: t :: rest) = .ok ((e, e.height), close :: t :: rest) :=
    he.stopped hus hd (Level.stops_of_endsTree hclose (Level.endsTree_of_closesList hwanted) _)
      (by simpa [heightAll] using hmax)
  cases fuel with
  | zero => omega
  | succ fuel =>
    rw [argumentsAfter, htree]
    simp [peek_cons, hclose, advance, heightAll]

/-- A list of trees that is read is so with one more before a comma. Its depth is that of the deepest.
    -/
theorem readsItems_next {e : Expr} {es : List Expr} {ts us : List Token} {d ds : Nat}
    (he : ReadsTree .expression e ts d) (hes : ReadsItems es us ds) :
    ReadsItems (e :: es) (ts ++ .comma :: us) (max d ds) := by
  intro n vs close t rest wanted fuel read height hvs hd hclose hwanted hfuel hmax
  obtain ⟨first, comma, others, rfl, hfirst, hcomma, hothers⟩ := map_token_eq_append_cons hvs
  rw [heightAll] at hmax
  have htree : (readers n).1 (first ++ comma :: (others ++ close :: t :: rest)) =
      .ok ((e, e.height), comma :: (others ++ close :: t :: rest)) :=
    he.stopped hfirst (by omega) (Level.stops_of_endsTree hcomma rfl _) (by omega)
  have hother : comma.token ≠ wanted := by
    rw [hcomma]
    rintro rfl
    cases hwanted
  cases fuel with
  | zero => omega
  | succ fuel =>
    have hlength : others.length < fuel := by
      simp only [List.length_append, List.length_cons] at hfuel
      omega
    have hrest : argumentsAfter (readers n).1 wanted fuel (e :: read) (max height e.height)
        (others ++ close :: t :: rest) =
        .ok (((e :: read).reverse ++ es, max (max height e.height) (heightAll es)), t :: rest) :=
      hes _ _ hothers (by omega) hclose hwanted hlength (by omega)
    rw [List.append_assoc, List.cons_append, argumentsAfter, htree]
    simp only [peek_cons, if_neg hother, expect_of_token hcomma (append_cons_ne_nil others close _),
      hrest]
    simp [heightAll, Nat.max_assoc]

/-- Between brackets there may be nothing. -/
theorem readsArguments_none : ReadsArguments [] [] 0 := by
  intro n us close t rest wanted hus _ hclose _ _
  obtain rfl := List.map_eq_nil_iff.mp hus
  rw [arguments]
  exact if_pos hclose

/-- Trees that are read may stand between brackets: what derives them does not start with the closing
    token. -/
theorem readsArguments_some {es : List Expr} {ts : List Token} {d : Nat} (hes : ReadsItems es ts d)
    (hder : Derives (.items es) ts d) : ReadsArguments es ts d := by
  intro n us close t rest wanted hus hd hclose hwanted hmax
  obtain ⟨first, vs, hts, hfirst⟩ := hder.starts.resolve_left id
  obtain ⟨u, us', rfl, rfl, -⟩ := List.map_eq_cons_iff.mp (hus.trans hts)
  have hpeek : peek (u :: us' ++ close :: t :: rest) ≠ wanted := Level.ne_of_closesList hwanted hfirst
  have hlength : (u :: us').length < (u :: us' ++ close :: t :: rest).length + 1 := by
    rw [List.length_append]
    omega
  rw [arguments, if_neg hpeek, hes [] 0 hus hd hclose hwanted hlength hmax]
  simp

/-- An entry whose key and value are read makes a list of entries that is read. -/
theorem readsPairs_last {k v : Expr} {ts us : List Token} {dk dv : Nat}
    (hk : ReadsTree .expression k ts dk) (hv : ReadsTree .expression v us dv) :
    ReadsPairs [(k, v)] (ts ++ .colon :: us) (max dk dv) := by
  intro n vs close t rest fuel read height hvs hd hclose hfuel hmax
  obtain ⟨key, colon, value, rfl, hkey, hcolon, hvalue⟩ := map_token_eq_append_cons hvs
  simp only [heightEntries] at hmax
  have hktree : (readers n).1 (key ++ colon :: (value ++ close :: t :: rest)) =
      .ok ((k, k.height), colon :: (value ++ close :: t :: rest)) :=
    hk.stopped hkey (by omega) (Level.stops_of_endsTree hcolon rfl _) (by omega)
  have hvtree : (readers n).1 (value ++ close :: t :: rest) = .ok ((v, v.height), close :: t :: rest) :=
    hv.stopped hvalue (by omega) (Level.stops_of_endsTree hclose rfl _) (by omega)
  cases fuel with
  | zero => omega
  | succ fuel =>
    rw [List.append_assoc, List.cons_append, entriesAfter, hktree]
    simp only [expect_of_token hcolon (append_cons_ne_nil value close _), hvtree, peek_cons, hclose,
      ↓reduceIte]
    simp [advance, heightEntries, Nat.max_assoc]

/-- A list of entries that is read is so with one more before a comma. -/
theorem readsPairs_next {k v : Expr} {ps : List (Expr × Expr)} {ts us vs : List Token} {dk dv ds : Nat}
    (hk : ReadsTree .expression k ts dk) (hv : ReadsTree .expression v us dv)
    (hps : ReadsPairs ps vs ds) :
    ReadsPairs ((k, v) :: ps) (ts ++ .colon :: us ++ .comma :: vs) (max (max dk dv) ds) := by
  intro n ws close t rest fuel read height hws hd hclose hfuel hmax
  rw [List.append_assoc] at hws
  obtain ⟨key, colon, ws, rfl, hkey, hcolon, hws⟩ := map_token_eq_append_cons hws
  obtain ⟨value, comma, others, rfl, hvalue, hcomma, hothers⟩ := map_token_eq_append_cons hws
  simp only [heightEntries] at hmax
  have hktree : (readers n).1 (key ++ colon :: (value ++ comma :: (others ++ close :: t :: rest))) =
      .ok ((k, k.height), colon :: (value ++ comma :: (others ++ close :: t :: rest))) :=
    hk.stopped hkey (by omega) (Level.stops_of_endsTree hcolon rfl _) (by omega)
  have hvtree : (readers n).1 (value ++ comma :: (others ++ close :: t :: rest)) =
      .ok ((v, v.height), comma :: (others ++ close :: t :: rest)) :=
    hv.stopped hvalue (by omega) (Level.stops_of_endsTree hcomma rfl _) (by omega)
  cases fuel with
  | zero => omega
  | succ fuel =>
    have hlength : others.length < fuel := by
      simp only [List.length_append, List.length_cons] at hfuel
      omega
    have hrest : entriesAfter (readers n).1 fuel ((k, v) :: read) (max (max height k.height) v.height)
        (others ++ close :: t :: rest) =
        .ok ((((k, v) :: read).reverse ++ ps,
          max (max (max height k.height) v.height) (heightEntries ps)), t :: rest) :=
      hps _ _ hothers (by omega) hclose hlength (by omega)
    simp only [List.append_assoc, List.cons_append]
    rw [entriesAfter, hktree]
    simp only [expect_of_token hcolon (append_cons_ne_nil value comma _), hvtree, peek_cons, hcomma,
      reduceCtorEq, ↓reduceIte, expect_of_token hcomma (append_cons_ne_nil others close _), hrest]
    simp [heightEntries, Nat.max_assoc]

/-- Between braces there may be nothing. -/
theorem readsEntries_none : ReadsEntries [] [] 0 := by
  intro n us close t rest hus _ hclose _
  obtain rfl := List.map_eq_nil_iff.mp hus
  rw [entries]
  exact if_pos hclose

/-- Entries that are read may stand between braces: what derives them does not start with the closing
    brace. -/
theorem readsEntries_some {ps : List (Expr × Expr)} {ts : List Token} {d : Nat}
    (hps : ReadsPairs ps ts d) (hder : Derives (.pairs ps) ts d) : ReadsEntries ps ts d := by
  intro n us close t rest hus hd hclose hmax
  obtain ⟨first, vs, hts, hfirst⟩ := hder.starts.resolve_left id
  obtain ⟨u, us', rfl, rfl, -⟩ := List.map_eq_cons_iff.mp (hus.trans hts)
  have hpeek : peek (u :: us' ++ close :: t :: rest) ≠ .rbrace := Level.ne_of_closesList rfl hfirst
  have hlength : (u :: us').length < (u :: us' ++ close :: t :: rest).length + 1 := by
    rw [List.length_append]
    omega
  rw [entries, if_neg hpeek, hps [] 0 hus hd hclose hlength hmax]
  simp

end VulnProbe.Expr
