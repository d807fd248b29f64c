import VulnProbe.Text.Basic

namespace VulnProbe

namespace Calendar

/-- Whether a year has a leap day. -/
def isLeapYear (year : Int) : Bool :=
  year % 4 == 0 && (year % 100 != 0 || year % 400 == 0)

/-- The number of days of a month. -/
def daysIn (year : Int) (month : Nat) : Nat :=
  if month == 2 then if isLeapYear year then 29 else 28
  else if month == 4 || month == 6 || month == 9 || month == 11 then 30
  else 31

/-- The years that can be told. -/
def isYear (year : Int) : Bool :=
  -262143 ≤ year && year ≤ 262142

/-- A date that the calendar has. -/
def isDate (year : Int) (month day : Nat) : Bool :=
  isYear year && 1 ≤ month && month ≤ 12 && 1 ≤ day && day ≤ daysIn year month

/-- A time that a day has. Only the last second of a minute can be longer than others. -/
def isTime (hour minute second nanos : Nat) : Bool :=
  hour < 24 && minute < 60 && second < 60
    && (nanos < 1000000000 || (second == 59 && nanos < 2000000000))

end Calendar

open Calendar

/-- A point in time of the world calendar, without an offset. The second that is sometimes put in before
    the end of a minute is the second 59 with a billion nanoseconds more. -/
structure Timestamp where
  year : Int
  month : Nat
  day : Nat
  hour : Nat
  minute : Nat
  second : Nat
  nanos : Nat
  isDate : isDate year month day = true
  isTime : isTime hour minute second nanos = true
  deriving DecidableEq, Repr

namespace Timestamp

/-- The date and the time of a point in time, if the calendar has them. -/
def ofParts? (year : Int) (month day hour minute second nanos : Nat) : Option Timestamp :=
  if hd : Calendar.isDate year month day = true then
    if ht : Calendar.isTime hour minute second nanos = true then
      some ⟨year, month, day, hour, minute, second, nanos, hd, ht⟩
    else none
  else none

/-- The start of the year 1970. -/
def epoch : Timestamp :=
  ⟨1970, 1, 1, 0, 0, 0, 0, by decide, by decide⟩

instance : Inhabited Timestamp := ⟨epoch⟩

/-- The point in time so many seconds and nanoseconds after the start of the year 1970. Years are
    counted from March, so that a leap day comes last, in cycles of 400 years. -/
def ofUnix? (seconds : Int) (nanos : Nat) : Option Timestamp :=
  let days := seconds / 86400 + 719468
  let rest := (seconds % 86400).toNat
  let dayOfCycle := (days % 146097).toNat
  let yearOfCycle :=
    (dayOfCycle - dayOfCycle / 1460 + dayOfCycle / 36524 - dayOfCycle / 146096) / 365
  let dayOfYear := dayOfCycle - (365 * yearOfCycle + yearOfCycle / 4 - yearOfCycle / 100)
  let fromMarch := (5 * dayOfYear + 2) / 153
  let month := if fromMarch < 10 then fromMarch + 3 else fromMarch - 9
  let year := days / 146097 * 400 + yearOfCycle + (if month ≤ 2 then 1 else 0)
  ofParts? year month (dayOfYear - (153 * fromMarch + 2) / 5 + 1) (rest / 3600) (rest / 60 % 60)
    (rest % 60) nanos

/-- The date after a date. -/
def nextDate (year : Int) (month day : Nat) : Int × Nat × Nat :=
  if day < daysIn year month then (year, month, day + 1)
  else if month < 12 then (year, month + 1, 1)
  else (year + 1, 1, 1)

/-- The date before a date. -/
def previousDate (year : Int) (month day : Nat) : Int × Nat × Nat :=
  if 1 < day then (year, month, day - 1)
  else if 1 < month then (year, month - 1, daysIn year (month - 1))
  else (year - 1, 12, 31)

/-- The point in time so many seconds before, less than a day. -/
def before? (t : Timestamp) (seconds : Int) : Option Timestamp :=
  let n := (t.hour * 3600 + t.minute * 60 + t.second : Nat) - seconds
  let at_ (date : Int × Nat × Nat) (n : Int) : Option Timestamp :=
    let n := n.toNat
    ofParts? date.1 date.2.1 date.2.2 (n / 3600) (n / 60 % 60) (n % 60) t.nanos
  if n < 0 then at_ (previousDate t.year t.month t.day) (n + 86400)
  else if 86400 ≤ n then at_ (nextDate t.year t.month t.day) (n - 86400)
  else at_ (t.year, t.month, t.day) n

/-- A number in decimal with at least so many digits. -/
def padded (width n : Nat) : String :=
  let digits := Nat.toDigits 10 n
  String.ofList (List.replicate (width - digits.length) '0' ++ digits)

/-- A year: four digits, and a sign for those that have more or are before the first. -/
def yearText (year : Int) : String :=
  if year < 0 then "-" ++ padded 4 year.natAbs
  else if 9999 < year then "+" ++ padded 4 year.natAbs
  else padded 4 year.natAbs

/-- A fraction of a second with no digits, or as few of three, six and nine as tell it. -/
def fractionText (nanos : Nat) : String :=
  if nanos == 0 then ""
  else if nanos % 1000000 == 0 then "." ++ padded 3 (nanos / 1000000)
  else if nanos % 1000 == 0 then "." ++ padded 6 (nanos / 1000)
  else "." ++ padded 9 nanos

/-- The text of a point in time. -/
def text (t : Timestamp) : String :=
  let extra := t.nanos / 1000000000
  yearText t.year ++ "-" ++ padded 2 t.month ++ "-" ++ padded 2 t.day ++ "T" ++ padded 2 t.hour
    ++ ":" ++ padded 2 t.minute ++ ":" ++ padded 2 (t.second + extra)
    ++ fractionText (t.nanos % 1000000000) ++ "Z"

/-- The number that decimal digits write. -/
def ofDigits (cs : List Char) : Nat :=
  cs.foldl (fun n c => n * 10 + (c.toNat - 48)) 0

/-- Reads at least one and at most so many digits. -/
def digits? (most : Nat) (cs : List Char) : Option (Nat × List Char) :=
  let digits := (cs.takeWhile Char.isDigit).take most
  if digits.isEmpty then none else some (ofDigits digits, cs.drop digits.length)

/-- Reads a number of at most two digits after blanks. -/
def pair? (cs : List Char) : Option (Nat × List Char) :=
  digits? 2 (cs.dropWhile Text.isBlank)

/-- Reads a year after blanks: four digits, or any number of them after a sign. -/
def year? (cs : List Char) : Option (Int × List Char) :=
  match cs.dropWhile Text.isBlank with
  | '-' :: rest => (digits? rest.length rest).map fun (n, rest) => (-(n : Int), rest)
  | '+' :: rest => (digits? rest.length rest).map fun (n, rest) => ((n : Int), rest)
  | cs => (digits? 4 cs).map fun (n, rest) => ((n : Int), rest)

/-- Passes a character after blanks. -/
def pass? (c : Char) (cs : List Char) : Option (List Char) :=
  match cs.dropWhile Text.isBlank with
  | d :: rest => if d == c then some rest else none
  | [] => none

/-- Reads a fraction of a second, if there is one. Digits after the ninth do not count. -/
def fraction? (cs : List Char) : Option (Nat × List Char) :=
  match cs with
  | '.' :: rest =>
    let digits := rest.takeWhile Char.isDigit
    if digits.isEmpty then none
    else
      let kept := digits.take 9
      some (ofDigits kept * Nat.pow 10 (9 - kept.length), rest.drop digits.length)
  | cs => some (0, cs)

/-- Reads the two digits of an offset and what follows. -/
def offsetDigits? : List Char → Option (Nat × List Char)
  | a :: b :: rest => if a.isDigit && b.isDigit then some (ofDigits [a, b], rest) else none
  | _ => none

/-- The seconds of an offset: none for the letter Z and the word UTC, else hours and minutes with a
    sign. Colons and blanks may stand between them. -/
def offset? (cs : List Char) : Option (Int × List Char) :=
  if (cs.take 3).map Char.toUpper == ['U', 'T', 'C'] then some (0, cs.drop 3)
  else
    match cs with
    | [] => none
    | c :: rest =>
      if c == 'Z' || c == 'z' then some (0, rest)
      else if c == '+' || c == '-' || c == '\u2212' then do
        let (hours, rest) ← offsetDigits? rest
        let (minutes, rest) ← offsetDigits? (rest.dropWhile fun c => c == ':' || Text.isBlank c)
        let seconds : Int := (hours * 3600 + minutes * 60 : Nat)
        if minutes < 60 && hours < 24 then some (if c == '+' then seconds else -seconds, rest)
        else none
      else none

/-- Reads a date. -/
def date? (cs : List Char) : Option ((Int × Nat × Nat) × List Char) := do
  let (year, cs) ← year? cs
  let cs ← pass? '-' cs
  let (month, cs) ← pair? cs
  let cs ← pass? '-' cs
  let (day, cs) ← pair? cs
  if Calendar.isDate year month day then some ((year, month, day), cs) else none

/-- Reads a time of a day with its fraction. -/
def time? (cs : List Char) : Option ((Nat × Nat × Nat × Nat) × List Char) := do
  let (hour, cs) ← pair? cs
  let cs ← pass? ':' cs
  let (minute, cs) ← pair? cs
  let cs ← pass? ':' cs
  let (second, cs) ← pair? cs
  let (nanos, cs) ← fraction? cs
  if hour < 24 && minute < 60 && second ≤ 60 then
    some ((hour, minute, min second 59, if second == 60 then nanos + 1000000000 else nanos), cs)
  else none

/-- A character between a date and a time. -/
def isSeparator (c : Char) : Bool :=
  c == 'T' || c == 't' || c == ' '

/-- The point in time that a text tells. A time with an offset is the same point without one. -/
def parse? (s : String) : Option Timestamp := do
  let ((year, month, day), cs) ← date? s.toList
  match cs with
  | [] => none
  | c :: cs =>
    if isSeparator c then
      let ((hour, minute, second, nanos), cs) ← time? cs
      let (offset, cs) ← offset? (cs.dropWhile Text.isBlank)
      let t ← ofParts? year month day hour minute second nanos
      if cs.all Text.isBlank then t.before? offset else none
    else none

end Timestamp

end VulnProbe
