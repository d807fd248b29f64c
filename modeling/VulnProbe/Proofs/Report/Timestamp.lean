import Mathlib.Algebra.Group.Nat.Defs
import VulnProbe.Proofs.Expr.Spelling.Integers
import VulnProbe.Proofs.Text.Stripped
import VulnProbe.Report.Timestamp

namespace VulnProbe.Timestamp

section Digits

variable {width n : Nat} {ds rest : List Char}

/-- So many digits that write a number. -/
structure Writes (width : Nat) (ds : List Char) (n : Nat) : Prop where
  width_pos : 0 < width
  length_eq : ds.length = width
  isDigit_of_mem : ∀ d ∈ ds, d.isDigit = true
  ofDigits_eq : ofDigits ds = n

private theorem ofDigits_replicate_zero (count : Nat) (ds : List Char) :
    ofDigits (List.replicate count '0' ++ ds) = ofDigits ds := by
  induction count with
  | zero => rfl
  | succ count ih => exact ih

/-- A number is padded with zeros, unless it has more digits. -/
theorem writes_padded (hwidth : 0 < width) (hn : n < 10 ^ width) :
    Writes width (padded width n).toList n := by
  have hlength := (Nat.length_toDigits_le_iff (by decide) hwidth).mpr hn
  rw [padded, String.toList_ofList]
  refine ⟨hwidth, ?_, fun d hd => ?_, ?_⟩
  · rw [List.length_append, List.length_replicate]
    omega
  · rcases List.mem_append.mp hd with hzero | hdigit
    · obtain rfl := (List.mem_replicate.mp hzero).2
      rfl
    · exact Expr.isDigit_of_mem_toDigits hdigit
  · rw [ofDigits_replicate_zero]
    exact Expr.decimalNumber_toDigits n

/-- Where digits write a number, there is a first one. -/
theorem Writes.exists_cons (hds : Writes width ds n) : ∃ d rest, ds = d :: rest ∧ d.isDigit = true := by
  have hpos := hds.width_pos
  have hlength := hds.length_eq
  cases ds with
  | nil =>
    rw [List.length_nil] at hlength
    omega
  | cons d rest => exact ⟨d, rest, rfl, hds.isDigit_of_mem d List.mem_cons_self⟩

/-- As many digits as are read at most are read, whatever stands behind them. -/
theorem Writes.digits? (hds : Writes width ds n) (rest : List Char) :
    Timestamp.digits? width (ds ++ rest) = some (n, rest) := by
  have htaken : ((ds ++ rest).takeWhile Char.isDigit).take width = ds := by
    rw [List.takeWhile_append_of_pos hds.isDigit_of_mem, ← hds.length_eq, List.take_left]
  obtain ⟨d, more, hcons, -⟩ := hds.exists_cons
  have hnonempty : ds.isEmpty = false := by rw [hcons, List.isEmpty_cons]
  simp only [Timestamp.digits?, htaken, hnonempty, hds.ofDigits_eq, List.drop_left, Bool.false_eq_true,
    ↓reduceIte]

/-- Digits are no blanks. -/
theorem Writes.dropWhile (hds : Writes width ds n) (rest : List Char) :
    (ds ++ rest).dropWhile Text.isBlank = ds ++ rest := by
  obtain ⟨d, more, rfl, hd⟩ := hds.exists_cons
  have hblank : Text.isBlank d = false := Expr.isBlank_of_isAsciiTail (Expr.isAsciiTail_of_isDigit hd)
  exact Text.dropWhile_eq_self fun c hc => Option.some.inj hc ▸ hblank

end Digits

section Fields

variable {n : Nat}

private theorem pair?_padded (hn : n < 100) (rest : List Char) :
    pair? ((padded 2 n).toList ++ rest) = some (n, rest) := by
  have hwrites : Writes 2 (padded 2 n).toList n := writes_padded (by decide) hn
  rw [pair?, hwrites.dropWhile]
  exact hwrites.digits? rest

private theorem year?_padded (hn : n < 10000) (rest : List Char) :
    year? ((padded 4 n).toList ++ rest) = some ((n : Int), rest) := by
  have hwrites : Writes 4 (padded 4 n).toList n := writes_padded (by decide) hn
  have hdigits := hwrites.digits? rest
  obtain ⟨d, more, hcons, hd⟩ := hwrites.exists_cons
  have hunsigned : d ≠ '-' ∧ d ≠ '+' := by
    constructor <;> (rintro rfl; exact absurd hd (by decide))
  rw [year?, hwrites.dropWhile]
  rw [hcons, List.cons_append] at hdigits ⊢
  split
  · exact absurd (List.cons.inj ‹_›).1 hunsigned.1
  · exact absurd (List.cons.inj ‹_›).1 hunsigned.2
  · rw [hdigits]
    rfl

private theorem pass?_cons {c : Char} (hc : Text.isBlank c = false) (rest : List Char) :
    pass? c (c :: rest) = some rest := by
  simp [pass?, hc]

/-- Digits that write a fraction are read as so many nanoseconds. -/
theorem fraction?_of_writes {width : Nat} {ds : List Char} (hds : Writes width ds n) (hwidth : width ≤ 9)
    {c : Char} (hc : c.isDigit = false) (rest : List Char) :
    fraction? ('.' :: (ds ++ c :: rest)) = some (n * 10 ^ (9 - width), c :: rest) := by
  have htakeWhile : (ds ++ c :: rest).takeWhile Char.isDigit = ds := by
    rw [List.takeWhile_append_of_pos hds.isDigit_of_mem, List.takeWhile_cons_of_neg (by simp [hc]),
      List.append_nil]
  have hkept : ds.take 9 = ds := List.take_of_length_le (by rw [hds.length_eq]; exact hwidth)
  obtain ⟨d, more, hcons, -⟩ := hds.exists_cons
  have hnonempty : ds.isEmpty = false := by rw [hcons, List.isEmpty_cons]
  have hdrop : (ds ++ c :: rest).drop width = c :: rest := by rw [← hds.length_eq, List.drop_left]
  simp only [fraction?, htakeWhile, hnonempty, hkept, hds.ofDigits_eq, hds.length_eq, hdrop,
    Bool.false_eq_true, ↓reduceIte]
  rfl

/-- The fraction of a second is read back, up to what is no digit. -/
theorem fraction?_fractionText {nanos : Nat} (hnanos : nanos < 1000000000) {c : Char}
    (hc : c.isDigit = false) (hpoint : c ≠ '.') (rest : List Char) :
    fraction? ((fractionText nanos).toList ++ c :: rest) = some (nanos, c :: rest) := by
  have hread {width m : Nat} (hwidth : 0 < width ∧ width ≤ 9) (hm : m < 10 ^ width)
      (hvalue : m * 10 ^ (9 - width) = nanos) :
      fraction? (("." ++ padded width m).toList ++ c :: rest) = some (nanos, c :: rest) := by
    rw [String.toList_append, ← hvalue]
    exact fraction?_of_writes (writes_padded hwidth.1 hm) hwidth.2 hc rest
  unfold fractionText
  split_ifs with hzero hmillis hmicros
  · rw [String.toList_empty, List.nil_append, fraction?, beq_iff_eq.mp hzero]
    exact fun more h => hpoint (List.cons.inj h).1
  · have hrest := beq_iff_eq.mp hmillis
    exact hread (by decide) (by omega) (by omega)
  · have hrest := beq_iff_eq.mp hmicros
    exact hread (by decide) (by omega) (by omega)
  · exact hread (by decide) (by omega) (by omega)

end Fields

section Whole

private theorem ofParts?_eq (t : Timestamp) :
    ofParts? t.year t.month t.day t.hour t.minute t.second t.nanos = some t := by
  rw [ofParts?, dif_pos t.isDate, dif_pos t.isTime]

private theorem daysIn_le (year : Int) (month : Nat) : Calendar.daysIn year month ≤ 31 := by
  unfold Calendar.daysIn
  split_ifs <;> decide

/-- What the calendar says about the parts of a point in time. -/
theorem bounds (t : Timestamp) :
    t.month ≤ 12 ∧ t.day ≤ 31 ∧ t.hour < 24 ∧ t.minute < 60 ∧ t.second < 60 ∧
      (t.nanos < 1000000000 ∨ t.second = 59 ∧ t.nanos < 2000000000) := by
  have hdate := t.isDate
  have htime := t.isTime
  have hdays := daysIn_le t.year t.month
  simp only [Calendar.isDate, Calendar.isTime, Bool.and_eq_true, Bool.or_eq_true, decide_eq_true_eq,
    beq_iff_eq] at hdate htime
  omega

/-- A point in time without an offset stays what it is. -/
theorem before?_zero (t : Timestamp) : t.before? 0 = some t := by
  obtain ⟨-, -, hhour, hminute, hsecond, -⟩ := t.bounds
  let n := t.hour * 3600 + t.minute * 60 + t.second
  have hhour' : n / 3600 = t.hour := by omega
  have hminute' : n / 60 % 60 = t.minute := by omega
  have hsecond' : n % 60 = t.second := by omega
  have hsub : ((n : Int) - 0).toNat = n := by omega
  have hneg : ¬ ((n : Int) - 0 < 0) := by omega
  have hover : ¬ (86400 ≤ (n : Int) - 0) := by omega
  unfold before?
  simp only [n] at hhour' hminute' hsecond' hsub hneg hover
  simp only [hsub, hneg, hover, if_false, hhour', hminute', hsecond', ofParts?_eq]

/-- A point in time is written as its date, a `T`, its time and a `Z`. A second that is put in is
    written as the second 60. -/
theorem toList_text {t : Timestamp} (hmin : 0 ≤ t.year) (hmax : t.year ≤ 9999) :
    t.text.toList = (padded 4 t.year.natAbs).toList ++ '-' :: ((padded 2 t.month).toList ++ '-' ::
      ((padded 2 t.day).toList ++ 'T' :: ((padded 2 t.hour).toList ++ ':' ::
        ((padded 2 t.minute).toList ++ ':' :: ((padded 2 (t.second + t.nanos / 1000000000)).toList ++
          ((fractionText (t.nanos % 1000000000)).toList ++ ['Z'])))))) := by
  rw [text, yearText, if_neg (Int.not_lt.mpr hmin), if_neg (Int.not_lt.mpr hmax)]
  simp

private theorem date?_text (t : Timestamp) (hmin : 0 ≤ t.year) (hmax : t.year ≤ 9999) (rest : List Char) :
    date? ((padded 4 t.year.natAbs).toList ++ '-' :: ((padded 2 t.month).toList ++ '-' ::
      ((padded 2 t.day).toList ++ rest))) = some ((t.year, t.month, t.day), rest) := by
  obtain ⟨hmonth, hday, -⟩ := t.bounds
  have hyear : (t.year.natAbs : Int) = t.year := by omega
  have hhyphen (cs : List Char) : pass? '-' ('-' :: cs) = some cs := pass?_cons rfl cs
  simp only [date?, year?_padded (show t.year.natAbs < 10000 by omega), hhyphen,
    pair?_padded (show t.month < 100 by omega), pair?_padded (show t.day < 100 by omega), hyear,
    Option.bind_eq_bind, Option.bind_some, t.isDate, if_true]

private theorem time?_text (t : Timestamp) :
    time? ((padded 2 t.hour).toList ++ ':' :: ((padded 2 t.minute).toList ++ ':' ::
      ((padded 2 (t.second + t.nanos / 1000000000)).toList ++
        ((fractionText (t.nanos % 1000000000)).toList ++ ['Z'])))) =
      some ((t.hour, t.minute, t.second, t.nanos), ['Z']) := by
  obtain ⟨-, -, hhour, hminute, hsecond, hnanos⟩ := t.bounds
  have hcolon (cs : List Char) : pass? ':' (':' :: cs) = some cs := pass?_cons rfl cs
  simp only [time?, hcolon, pair?_padded (show t.hour < 100 by omega),
    pair?_padded (show t.minute < 100 by omega),
    pair?_padded (show t.second + t.nanos / 1000000000 < 100 by omega),
    fraction?_fractionText (Nat.mod_lt t.nanos (by decide)) (show 'Z'.isDigit = false from rfl) (by decide),
    Option.bind_eq_bind, Option.bind_some]
  have hbounds : (decide (t.hour < 24) && decide (t.minute < 60) &&
      decide (t.second + t.nanos / 1000000000 ≤ 60)) = true := by
    simp only [Bool.and_eq_true, decide_eq_true_eq]
    omega
  have hlast : min (t.second + t.nanos / 1000000000) 59 = t.second := by omega
  -- The second 60 is written for the second 59 that is longer than others, and for no other.
  have hlonger : (if (t.second + t.nanos / 1000000000 == 60) = true then
      t.nanos % 1000000000 + 1000000000 else t.nanos % 1000000000) = t.nanos := by
    simp only [beq_iff_eq]
    split <;> omega
  rw [if_pos hbounds, hlast, hlonger]

/-- The text of a point in time is read back. -/
theorem parse?_text {t : Timestamp} (hmin : 0 ≤ t.year) (hmax : t.year ≤ 9999) : parse? t.text = some t := by
  have hseparator : isSeparator 'T' = true := rfl
  have hzone : (['Z'].dropWhile Text.isBlank) = ['Z'] := rfl
  have hoffset : offset? ['Z'] = some (0, []) := rfl
  rw [parse?, toList_text hmin hmax]
  simp only [date?_text t hmin hmax, time?_text, hseparator, hzone, hoffset, ofParts?_eq, before?_zero,
    List.all_nil, Option.bind_eq_bind, Option.bind_some, if_true]

end Whole

end VulnProbe.Timestamp
