import Mathlib.Data.List.TakeWhile
import VulnProbe.Proofs.Expr.FaultBounds
import VulnProbe.Proofs.Expr.Literals

namespace VulnProbe.Expr

/-- What the body of a literal stands for. In a raw one each character stands for itself, and the quote does
    not occur. -/
def BodyOf {α : Type} (content : Content α) (m : QuoteMark) (body : List Char) (items : List α) : Prop :=
  if m.isRaw then m.quote ∉ body ∧ items = body.flatMap content.char
  else Denotes content m.quote body items

/-- What a token is written as: a symbol by its one or two characters, a name by its own, an integer by digits
    in base 10 or 16, and a text or a byte string by its marks and a body between quotes. -/
inductive Written : Token → List Char → Prop where
  | symbol {t : Token} (ht : IsSymbol t) : Written t t.text.toList
  | name {c : Char} {cs : List Char} (hhead : Text.isNameHead c = true)
      (htail : ∀ d ∈ cs, Text.isNameTail d = true) : Written (.ident (String.ofList (c :: cs))) (c :: cs)
  | decimal {ds : List Char} (hne : ds ≠ []) (hds : ∀ d ∈ ds, d.isDigit = true)
      (hmax : (decimalNumber ds : Int) ≤ maxInt) : Written (.int (decimalNumber ds)) ds
  | hex {mark : Char} {ds : List Char} {n : Nat} (hmark : isHexMark mark = true) (hne : ds ≠ [])
      (hn : hexNumber? ds = some n) (hmax : (n : Int) ≤ maxInt) : Written (.int n) ('0' :: mark :: ds)
  | str {marks body cs : List Char} {m : QuoteMark} (hmarks : MarksOf marks m) (hm : m.isBytes = false)
      (hbody : BodyOf .text m body cs) :
      Written (.str (String.ofList cs)) (marks ++ m.quote :: (body ++ [m.quote]))
  | bytes {marks body : List Char} {bs : List UInt8} {m : QuoteMark} (hmarks : MarksOf marks m)
      (hm : m.isBytes = true) (hbody : BodyOf .bytes m body bs) :
      Written (.bytes bs) (marks ++ m.quote :: (body ++ [m.quote]))

/-- How tokens are laid out in a text that starts at a position: blanks, what a token is written as, and so on
    up to blanks that the end of input follows. -/
inductive LaidOut : Nat → List Char → List Located → Prop where
  | finish {pos : Nat} {blanks : List Char} (hblanks : ∀ c ∈ blanks, Text.isBlank c = true) :
      LaidOut pos blanks [⟨.endOfInput, pos + blanks.length⟩]
  | token {pos : Nat} {blanks piece rest : List Char} {t : Token} {ts : List Located}
      (hblanks : ∀ c ∈ blanks, Text.isBlank c = true) (hpiece : Written t piece)
      (hrest : LaidOut (pos + blanks.length + piece.length) rest ts) :
      LaidOut pos (blanks ++ piece ++ rest) (⟨t, pos + blanks.length⟩ :: ts)

section Consequences

/-- The end of input is not written at all. -/
theorem Written.ne_endOfInput {t : Token} {piece : List Char} (hpiece : Written t piece) :
    t ≠ .endOfInput := by
  rintro rfl
  cases hpiece with
  | symbol ht => exact ht

private theorem Written.length_pos {t : Token} {piece : List Char} (hpiece : Written t piece) :
    0 < piece.length := by
  cases hpiece with
  | symbol ht =>
    cases t <;> first
      | exact ht.elim
      | exact Nat.lt_of_sub_ne_zero (by decide)
  | name | hex => exact Nat.succ_pos _
  | decimal hne => exact List.length_pos_iff.mpr hne
  | str | bytes =>
    rw [List.length_append, List.length_cons]
    omega

variable {pos : Nat} {text : List Char} {ts : List Located}

/-- The end of input stands last, where the text ends, and nowhere else. -/
theorem LaidOut.exists_concat (hts : LaidOut pos text ts) :
    ∃ us : List Located,
      ts = us ++ [⟨.endOfInput, pos + text.length⟩] ∧ ∀ t ∈ us, t.token ≠ .endOfInput := by
  induction hts with
  | finish => exact ⟨[], rfl, List.forall_mem_nil _⟩
  | @token pos blanks piece rest t ts hblanks hpiece _ ih =>
    obtain ⟨us, rfl, hus⟩ := ih
    refine ⟨⟨t, pos + blanks.length⟩ :: us, ?_, List.forall_mem_cons.mpr ⟨hpiece.ne_endOfInput, hus⟩⟩
    simp only [List.cons_append, List.length_append, Nat.add_assoc]

private theorem LaidOut.le_pos (hts : LaidOut pos text ts) : ∀ t ∈ ts, pos ≤ t.pos := by
  induction hts with
  | finish => exact List.forall_mem_singleton.mpr (Nat.le_add_right _ _)
  | token _ _ _ ih =>
    refine List.forall_mem_cons.mpr ⟨Nat.le_add_right _ _, fun t ht => ?_⟩
    have hle := ih t ht
    omega

/-- Each token stands before the ones after it. -/
theorem LaidOut.pairwise_lt (hts : LaidOut pos text ts) : ts.Pairwise (·.pos < ·.pos) := by
  induction hts with
  | finish => exact List.pairwise_singleton _ _
  | token _ hpiece hrest ih =>
    refine List.pairwise_cons.mpr ⟨fun t ht => ?_, ih⟩
    have hle := hrest.le_pos t ht
    have hlength := hpiece.length_pos
    dsimp only
    omega

/-- A blank may stand before what is laid out. -/
theorem LaidOut.cons_blank {c : Char} (hts : LaidOut (pos + 1) text ts) (hc : Text.isBlank c = true) :
    LaidOut pos (c :: text) ts := by
  have hmove (blanks : List Char) : pos + 1 + blanks.length = pos + (c :: blanks).length := by
    rw [List.length_cons, Nat.add_assoc, Nat.add_comm 1]
  cases hts with
  | @finish _ blanks hblanks =>
    rw [hmove]
    exact .finish (List.forall_mem_cons.mpr ⟨hc, hblanks⟩)
  | @token _ blanks piece rest t ts hblanks hpiece hrest =>
    rw [hmove] at hrest ⊢
    have hblanks : ∀ d ∈ c :: blanks, Text.isBlank d = true := List.forall_mem_cons.mpr ⟨hc, hblanks⟩
    exact .token hblanks hpiece hrest

end Consequences

section Quoted

variable {c quote : Char} {rest : List Char} {m : QuoteMark}

/-- The marks of a literal stand before its quote. -/
theorem exists_marks_of_quoteMark? (hm : quoteMark? (c :: rest) = some m) :
    ∃ marks, c :: rest = marks ++ m.quote :: rest.drop m.width ∧ MarksOf marks m := by
  unfold quoteMark? at hm
  split at hm
  · cases hm
  rename_i a rest' hcons
  obtain ⟨rfl, rfl⟩ := List.cons.inj hcons
  split at hm
  · rename_i ha
    cases hm
    exact ⟨[], rfl, fun cs => by simp [quoteMark?, ha], rfl⟩
  rename_i ha
  split at hm
  on_goal 2 => cases hm
  rename_i hmark
  have hwidth := isBytesMark_of_isRawMark c
  split at hm
  · cases hm
  rename_i b rest'
  split at hm
  · rename_i hb
    cases hm
    have hone : QuoteMark.width ⟨isRawMark c, isBytesMark c, b⟩ = 1 := by grind [QuoteMark.width]
    exact ⟨[c], by rw [hone]; rfl, fun cs => by simp [quoteMark?, ha, hmark, hb], hone.symm⟩
  rename_i hb
  split at hm
  on_goal 2 => cases hm
  rename_i hboth
  split at hm
  · cases hm
  split at hm <;> cases hm
  rename_i hquote
  exact ⟨[c, b], rfl, fun cs => by simp [quoteMark?, ha, hmark, hb, hboth, hquote], rfl⟩

/-- A raw literal goes on to the first quote in it. -/
theorem body_of_readQuoted_raw {α : Type} {content : Content α} {start pos next : Nat}
    {read found : List α} {cs : List Char}
    (hread : readQuoted content true quote start pos read cs = .ok (found, next)) :
    ∃ body tail, cs = body ++ quote :: tail ∧ quote ∉ body ∧
      found = read.reverse ++ body.flatMap content.char ∧ next = pos + body.length + 1 := by
  induction cs generalizing pos read with
  | nil => simp [readQuoted] at hread
  | cons c cs ih =>
    rw [readQuoted.eq_def] at hread
    simp only [Bool.not_true, Bool.and_false, Bool.false_eq_true, if_false] at hread
    split at hread
    · rename_i hc
      cases hread
      exact ⟨[], cs, by rw [eq_of_beq hc]; rfl, List.not_mem_nil, (List.append_nil _).symm, rfl⟩
    · rename_i hc
      obtain ⟨body, tail, rfl, hbody, rfl, rfl⟩ := ih hread
      refine ⟨c :: body, tail, rfl, ?_, by simp, by simp only [List.length_cons]; omega⟩
      rw [List.mem_cons, not_or]
      exact ⟨fun h => hc (by rw [h]; exact beq_self_eq_true c), hbody⟩

/-- What is read up to a closing quote is what the body before it stands for. -/
theorem bodyOf_of_readQuoted {α : Type} {content : Content α} {start pos next : Nat} {found : List α}
    {cs : List Char} (hread : readQuoted content m.isRaw m.quote start pos [] cs = .ok (found, next)) :
    ∃ body tail, cs = body ++ m.quote :: tail ∧ BodyOf content m body found ∧
      next = pos + body.length + 1 := by
  unfold BodyOf
  cases hraw : m.isRaw with
  | true =>
    rw [hraw] at hread
    obtain ⟨body, tail, hcs, hquote, hfound, hnext⟩ := body_of_readQuoted_raw hread
    exact ⟨body, tail, hcs, ⟨hquote, hfound⟩, hnext⟩
  | false =>
    rw [hraw] at hread
    obtain ⟨body, items, tail, hcs, hbody, hfound, hnext⟩ := denotes_of_readQuoted hread
    obtain rfl : found = items := hfound
    exact ⟨body, tail, hcs, hbody, hnext⟩

/-- A literal takes its marks, its quotes and what is between them. -/
theorem written_of_quotedToken {pos next : Nat} {token : Token} (hm : quoteMark? (c :: rest) = some m)
    (hquoted : quotedToken m pos (rest.drop m.width) = .ok (token, next)) :
    Written token (c :: rest.take (next - pos - 1)) := by
  obtain ⟨marks, hcs, hmarks⟩ := exists_marks_of_quoteMark? hm
  have hpiece {body tail : List Char} (hrest : rest.drop m.width = body ++ m.quote :: tail)
      (hnext : next = pos + m.width + 1 + body.length + 1) :
      c :: rest.take (next - pos - 1) = marks ++ m.quote :: (body ++ [m.quote]) := by
    have hlength : next - pos = (marks ++ m.quote :: (body ++ [m.quote])).length := by
      simp only [List.length_append, List.length_cons, List.length_nil, hmarks.width]
      omega
    have hwhole : c :: rest = marks ++ m.quote :: (body ++ [m.quote]) ++ tail := by
      rw [hcs, hrest]
      simp
    rw [← List.take_succ_cons, hwhole, show next - pos - 1 + 1 = next - pos by omega, hlength,
      List.take_left]
  unfold quotedToken at hquoted
  split at hquoted
  all_goals
    rename_i hbytes
    obtain ⟨⟨items, _⟩, hread, hpure⟩ := bind_eq_ok_iff.mp hquoted
    cases hpure
    obtain ⟨body, tail, hrest, hbody, hnext⟩ := bodyOf_of_readQuoted hread
    rw [hpiece hrest hnext]
  · exact .bytes hmarks hbytes hbody
  · exact .str hmarks (Bool.eq_false_iff.mpr hbytes) hbody

end Quoted

section Scan

variable {pos extra : Nat} {c : Char} {rest : List Char} {token : Token}

private theorem written_of_numberToken? (hc : c.isDigit = true)
    (hnumber : numberToken? c rest = (some token, extra)) : Written token (c :: rest.take extra) := by
  have htake {p : Char → Bool} {cs : List Char} :
      cs.take (cs.takeWhile p).length = cs.takeWhile p :=
    (List.prefix_iff_eq_take.mp (List.takeWhile_prefix p)).symm
  have hdecimal {ds : List Char} (hds : rest.takeWhile Char.isDigit = ds)
      (htoken : (intToken? (decimalNumber (c :: ds)), ds.length) = (some token, extra)) :
      Written token (c :: rest.take extra) := by
    obtain ⟨hint, rfl⟩ := Prod.mk.inj htoken
    obtain ⟨rfl, hmax⟩ := intToken?_eq_some hint
    rw [← hds, htake, hds]
    refine .decimal (List.cons_ne_nil _ _) (List.forall_mem_cons.mpr ⟨hc, ?_⟩) hmax
    rw [← hds]
    exact fun d hd => List.mem_takeWhile_imp hd
  unfold numberToken? at hnumber
  dsimp only at hnumber
  split at hnumber
  · rename_i mark rest
    split at hnumber
    · rename_i hmark
      obtain ⟨hzero, hmark⟩ := Bool.and_eq_true_iff.mp hmark
      obtain ⟨hint, rfl⟩ := Prod.mk.inj hnumber
      obtain ⟨n, hn, hint⟩ := Option.bind_eq_some_iff.mp hint
      obtain ⟨rfl, hmax⟩ := intToken?_eq_some hint
      split at hn
      · cases hn
      rename_i hne
      rw [eq_of_beq hzero, List.take_succ_cons, htake]
      exact .hex hmark (by simpa using hne) hn hmax
    · exact hdecimal rfl hnumber
  · exact hdecimal rfl hnumber

private theorem text_of_symbolToken? (c : Char) (rest : List Char) :
    ∀ t ∈ symbolToken? c rest.head?, t.1.text.toList = c :: rest.take t.2 := by
  unfold symbolToken?
  repeat' refine forall_ite (fun hc => ?_) ?_
  all_goals rintro _ ⟨⟩
  all_goals cases rest <;> simp_all [Token.text]

/-- A token that is scanned takes what it is written as. -/
theorem written_of_scanToken (hscan : scanToken pos c rest = .ok (token, extra)) :
    Written token (c :: rest.take extra) := by
  unfold scanToken at hscan
  split at hscan
  · rename_i m hm
    obtain ⟨⟨_, next⟩, hquoted, hpure⟩ := bind_eq_ok_iff.mp hscan
    cases hpure
    exact written_of_quotedToken hm hquoted
  split at hscan
  · rename_i hdigit
    split at hscan <;> cases hscan
    exact written_of_numberToken? hdigit ‹_›
  split at hscan
  · rename_i hhead
    cases hscan
    rw [← List.prefix_iff_eq_take.mp (List.takeWhile_prefix _)]
    exact .name hhead fun d hd => List.mem_takeWhile_imp hd
  split at hscan <;> cases hscan
  rename_i hsymbol
  rw [← text_of_symbolToken? c rest _ hsymbol]
  exact .symbol (symbolToken?_isSymbol _ _ _ hsymbol)

/-- The tokens that are found from a position on are laid out in what is left of the text there. -/
theorem laidOut_of_tokensAfter {found ts : List Located} {cs : List Char}
    (hts : tokensAfter found pos cs = .ok ts) : ∃ us, ts = found.reverse ++ us ∧ LaidOut pos cs us := by
  fun_induction tokensAfter found pos cs with
  | case1 found pos =>
    cases hts
    exact ⟨_, List.reverse_cons, @LaidOut.finish pos [] (List.forall_mem_nil _)⟩
  | case2 found pos c rest hblank ih =>
    obtain ⟨us, hus, hlaid⟩ := ih hts
    exact ⟨us, hus, hlaid.cons_blank hblank⟩
  | case3 => cases hts
  | case4 found pos c rest hblank token extra hscan ih =>
    obtain ⟨us, rfl, hlaid⟩ := ih hts
    have hextra := scanToken_fits hscan
    have hpiece := written_of_scanToken hscan
    have hrest : LaidOut (pos + ([] : List Char).length + (c :: rest.take extra).length)
        (rest.drop extra) us := by
      have hlength : pos + ([] : List Char).length + (c :: rest.take extra).length = pos + 1 + extra := by
        simp only [List.length_nil, List.length_cons, List.length_take]
        omega
      rwa [hlength]
    have hcs : c :: rest = [] ++ c :: rest.take extra ++ rest.drop extra := by
      rw [List.nil_append, List.cons_append, List.take_append_drop]
    refine ⟨⟨token, pos⟩ :: us, by simp, ?_⟩
    rw [hcs]
    exact .token (List.forall_mem_nil _) hpiece hrest

end Scan

/-- The tokens of any text are laid out in it one after another, up to a single end of input where the text
    ends. A text that is refused has its fault within it, and the fault is not that of a text literal that is
    malformed: collected in bytes and decoded, every such literal is read as it is character by character. -/
theorem tokenize_laidOut (source : String) :
    (∀ ts, tokenize source = .ok ts → LaidOut 0 source.toList ts ∧ ts.Pairwise (·.pos < ·.pos) ∧
      ∃ us, ts = us ++ [⟨.endOfInput, source.length⟩] ∧ ∀ t ∈ us, t.token ≠ .endOfInput) ∧
    (∀ err, tokenize source = .error err ∨ parse source = .error err →
      ∃ pos issue, err = .syntaxError pos issue ∧ pos ≤ source.length ∧ issue.message ≠ malformedText) ∧
    ∀ m pos rest, m.isBytes = false → collectedToken m pos rest = quotedToken m pos rest := by
  refine ⟨fun ts hts => ?_, fun err herror => ?_, fun m pos rest hm => collectedToken_eq hm pos rest⟩
  · obtain ⟨us, rfl, hlaid⟩ := laidOut_of_tokensAfter hts
    have hend := hlaid.exists_concat
    rw [Nat.zero_add, String.length_toList] at hend
    exact ⟨hlaid, hlaid.pairwise_lt, hend⟩
  · obtain ⟨pos, issue, rfl, hpos, hissue⟩ := herror.elim faultUpTo_tokenize faultUpTo_parse
    exact ⟨pos, issue, rfl, hpos, SyntaxIssue.message_ne hissue⟩

end VulnProbe.Expr
