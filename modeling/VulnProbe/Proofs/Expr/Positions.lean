import VulnProbe.Proofs.Expr.Tokenize

namespace VulnProbe.Expr

/-- A token stands in a text at its position: it is read there, or it is the end of input and the text
    ends there. -/
def StartsAt (text : List Char) (t : Located) : Prop :=
  (t.token = .endOfInput ∧ t.pos = text.length) ∨
    ∃ c rest extra, text.drop t.pos = c :: rest ∧ scanToken t.pos c rest = .ok (t.token, extra)

section Width

private theorem escapeNumber?_fits {count n : Nat} {cs : List Char} (hn : escapeNumber? count cs = some n) :
    count ≤ cs.length := by
  unfold escapeNumber? at hn
  dsimp only at hn
  split at hn
  · rename_i hlength
    have hlength := eq_of_beq hlength
    rw [List.length_take] at hlength
    omega
  · cases hn

/-- An escape takes no more characters than there are. -/
theorem escape_fits {α : Type} {content : Content α} {pos extra : Nat} {letter : Char} {cs : List Char}
    {items : List α} (hescape : escape content pos letter cs = .ok (items, extra)) :
    extra ≤ cs.length := by
  cases (escape_eq_ok_iff content _).mp hescape with
  | plain | unknown => exact Nat.zero_le _
  | byte _ hn | scalar _ hn => exact escapeNumber?_fits hn

/-- A literal ends within the text. -/
theorem readQuoted_fits {α : Type} {content : Content α} {isRaw : Bool} {quote : Char}
    {start pos next : Nat} {read items : List α} {cs : List Char}
    (hread : readQuoted content isRaw quote start pos read cs = .ok (items, next)) :
    next ≤ pos + cs.length := by
  fun_induction readQuoted content isRaw quote start pos read cs with
  | case1 | case3 | case4 => cases hread
  | case2 =>
    cases hread
    simp
  | case5 pos read c letter rest _ _ found extra hescape ih =>
    have hextra := escape_fits hescape
    have hnext := ih hread
    simp only [List.length_drop] at hnext
    simp only [List.length_cons]
    omega
  | case6 pos read c rest _ _ ih =>
    have hnext := ih (by simpa using hread)
    simp only [List.length_cons]
    omega

/-- No letter marks a literal as raw and as one of bytes. -/
theorem isBytesMark_of_isRawMark (c : Char) : isRawMark c = true → isBytesMark c = false := by
  intro hraw
  simp only [isRawMark, Bool.or_eq_true, beq_iff_eq] at hraw
  rcases hraw with rfl | rfl <;> rfl

/-- The marks of a literal are no longer than what is left of the text. -/
theorem QuoteMark.width_le_of_quoteMark? {c : Char} {rest : List Char} {m : QuoteMark}
    (hm : quoteMark? (c :: rest) = some m) : m.width ≤ rest.length := by
  have hmark := isBytesMark_of_isRawMark c
  unfold quoteMark? at hm
  grind [QuoteMark.width]

private theorem quotedToken_fits {m : QuoteMark} {pos next : Nat} {rest : List Char} {token : Token}
    (htoken : quotedToken m pos rest = .ok (token, next)) :
    next ≤ pos + m.width + 1 + rest.length := by
  rcases quotedToken_cases htoken with ⟨_, hread, -⟩ | ⟨_, hread, -⟩
  · exact readQuoted_fits hread
  · exact readQuoted_fits hread

private theorem numberToken?_fits {c : Char} {rest : List Char} {token? : Option Token} {extra : Nat}
    (hnumber : numberToken? c rest = (token?, extra)) : extra ≤ rest.length := by
  have htake (p : Char → Bool) (cs : List Char) : (cs.takeWhile p).length ≤ cs.length :=
    (List.takeWhile_prefix p).length_le
  unfold numberToken? at hnumber
  dsimp only at hnumber
  split at hnumber
  · rename_i x rest
    split at hnumber
    · have hdigits := htake (fun d => (Hex.value? d).isSome) rest
      obtain ⟨-, rfl⟩ := Prod.mk.inj hnumber
      simp only [List.length_cons]
      omega
    · obtain ⟨-, rfl⟩ := Prod.mk.inj hnumber
      exact htake _ _
  · obtain ⟨-, rfl⟩ := Prod.mk.inj hnumber
    exact htake _ _

private theorem symbolToken?_fits (c : Char) (rest : List Char) :
    ∀ t ∈ symbolToken? c rest.head?, t.2 ≤ rest.length := by
  unfold symbolToken?
  repeat' refine forall_ite (fun hc => ?_) ?_
  all_goals rintro _ ⟨⟩
  all_goals cases rest <;> simp_all

/-- A token ends within the text. -/
theorem scanToken_fits {pos : Nat} {c : Char} {rest : List Char} {token : Token} {extra : Nat}
    (htoken : scanToken pos c rest = .ok (token, extra)) : extra ≤ rest.length := by
  rcases scanToken_cases htoken with
    ⟨m, next, hm, hquoted, rfl⟩ | ⟨-, hnumber | ⟨_, -, rfl⟩ | hsymbol⟩
  · have hwidth := QuoteMark.width_le_of_quoteMark? hm
    have hnext := quotedToken_fits hquoted
    rw [List.length_drop] at hnext
    omega
  · exact numberToken?_fits hnumber
  · exact (List.takeWhile_prefix _).length_le
  · exact symbolToken?_fits c rest _ hsymbol

end Width

/-- Tokens in reverse that stand in a text one after another, all before a position. -/
structure FoundBefore (text : List Char) (pos : Nat) (found : List Located) : Prop where
  starts : ∀ t ∈ found, StartsAt text t
  before : ∀ t ∈ found, t.pos < pos
  descending : found.Pairwise (·.pos > ·.pos)

/-- Tokens that stand before a position stand before every later one. -/
theorem FoundBefore.later {text : List Char} {pos next : Nat} {found : List Located}
    (hfound : FoundBefore text pos found) (hnext : pos ≤ next) : FoundBefore text next found :=
  ⟨hfound.starts, fun t ht => Nat.lt_of_lt_of_le (hfound.before t ht) hnext, hfound.descending⟩

/-- A token that stands behind those found can be added to them. -/
theorem FoundBefore.cons {text : List Char} {t : Located} {found : List Located}
    (hfound : FoundBefore text t.pos found) (ht : StartsAt text t) :
    FoundBefore text (t.pos + 1) (t :: found) := by
  refine ⟨?_, ?_, List.pairwise_cons.mpr ⟨hfound.before, hfound.descending⟩⟩
  · rintro u (_ | ⟨_, hu⟩)
    · exact ht
    · exact hfound.starts u hu
  · rintro u (_ | ⟨_, hu⟩)
    · exact Nat.lt_succ_self _
    · exact Nat.lt_succ_of_lt (hfound.before u hu)

/-- The tokens found so far stand before the characters that are left, and so do the ones found in
    these. -/
theorem tokensAfter_positions {text : List Char} {found ts : List Located} {pos : Nat} {cs : List Char}
    (hcs : text.drop pos = cs) (hpos : pos ≤ text.length) (hfound : FoundBefore text pos found)
    (hts : tokensAfter found pos cs = .ok ts) :
    (∀ t ∈ ts, StartsAt text t) ∧ ts.Pairwise (·.pos < ·.pos) := by
  fun_induction tokensAfter found pos cs with
  | case1 found pos =>
    cases hts
    have hlength : text.length = pos := Nat.le_antisymm (List.drop_eq_nil_iff.mp hcs) hpos
    have hall := hfound.cons (t := ⟨.endOfInput, pos⟩) (.inl ⟨rfl, hlength.symm⟩)
    exact ⟨fun t ht => hall.starts t (List.mem_reverse.mp ht),
      List.pairwise_reverse.mpr hall.descending⟩
  | case2 found pos c rest hblank ih =>
    have hrest : text.drop (pos + 1) = rest := by rw [← List.tail_drop, hcs, List.tail_cons]
    have hlength := congrArg List.length hcs
    rw [List.length_drop, List.length_cons] at hlength
    exact ih hrest (by omega) (hfound.later (Nat.le_succ pos)) hts
  | case3 => cases hts
  | case4 found pos c rest hblank token extra hscan ih =>
    have hrest : text.drop (pos + 1 + extra) = rest.drop extra := by
      rw [← List.drop_drop, ← List.tail_drop, hcs, List.tail_cons]
    have hlength := congrArg List.length hcs
    rw [List.length_drop, List.length_cons] at hlength
    have hextra := scanToken_fits hscan
    have hcons := hfound.cons (t := ⟨token, pos⟩) (.inr ⟨c, rest, extra, hcs, hscan⟩)
    exact ih hrest (by omega) (hcons.later (Nat.le_add_right _ _)) hts

/-- Every token stands in the text at its position, and after the tokens before it. -/
theorem tokenize_positions {source : String} {ts : List Located} (hts : tokenize source = .ok ts) :
    (∀ t ∈ ts, StartsAt source.toList t) ∧ ts.Pairwise (·.pos < ·.pos) :=
  tokensAfter_positions rfl (Nat.zero_le _) ⟨by simp, by simp, .nil⟩ hts

end VulnProbe.Expr
