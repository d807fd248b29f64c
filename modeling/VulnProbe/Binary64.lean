namespace VulnProbe.Binary64

/-- The quotient rounded to the nearest integer, a half going to the even neighbour. -/
def roundDiv (num den : Nat) : Nat :=
  let q := num / den
  let r := num % den
  if 2 * r > den || (2 * r == den && q % 2 == 1) then q + 1 else q

/-- `m · 2^e` as a ratio. -/
def scaled (m : Nat) (e : Int) : Nat × Nat :=
  if 0 ≤ e then (m * Nat.pow 2 e.toNat, 1) else (m, Nat.pow 2 (-e).toNat)

/-- The quotient of the ratio by `2^e`, rounded. -/
def significand (num den : Nat) (e : Int) : Nat :=
  if 0 ≤ e then roundDiv num (den * Nat.pow 2 e.toNat) else roundDiv (num * Nat.pow 2 (-e).toNat) den

/-- The bits of the number nearest to `num / den`, or `none` beyond the largest number. -/
def ofRatio? (num den : Nat) : Option UInt64 :=
  if num == 0 then some 0
  else
    let guess : Int := (Nat.log2 num : Int) - (Nat.log2 den : Int) - 53
    let e₀ : Int := max guess (-1074)
    -- the significand has 53 bits unless the number is subnormal
    let e : Int := if significand num den e₀ < Nat.pow 2 53 then e₀ else e₀ + 1
    let e : Int := if significand num den e < Nat.pow 2 53 then e else e + 1
    let q := significand num den e
    if e > 971 then none
    else if q < Nat.pow 2 52 then some (UInt64.ofNat q)
    else some (UInt64.ofNat ((e + 1075).toNat * Nat.pow 2 52 + (q - Nat.pow 2 52)))

/-- The same number with a minus sign. -/
def negative (bits : UInt64) : UInt64 :=
  bits ||| 0x8000000000000000

/-- Whether the number carries a minus sign. -/
def isNegative (bits : UInt64) : Bool :=
  bits ≥ 0x8000000000000000

/-- The magnitude of a finite number as `(m, e)` with the meaning `m · 2^e`. -/
def parts (bits : UInt64) : Nat × Int :=
  let n : Nat := bits.toNat % Nat.pow 2 63
  let exponent : Nat := n / Nat.pow 2 52
  let fraction : Nat := n % Nat.pow 2 52
  if exponent == 0 then (fraction, -1074) else (Nat.pow 2 52 + fraction, (exponent : Int) - 1075)

/-- The magnitude of a finite number as a ratio. -/
def toRatio (bits : UInt64) : Nat × Nat :=
  let (m, e) := parts bits
  scaled m e

/-- Digits and a power of ten: the decimal `digits · 10^exponent`. -/
structure Decimal where
  digits : Nat
  exponent : Int

/-- The decimals next to a ratio on the grid of multiples of `10^p`, lower one first. -/
def neighbours (num den : Nat) (p : Int) : List Decimal :=
  let q : Nat := if 0 ≤ p then num / (den * Nat.pow 10 p.toNat) else num * Nat.pow 10 (-p).toNat / den
  [⟨q, p⟩, ⟨q + 1, p⟩]

/-- The ratio of a decimal. -/
def Decimal.ratio (d : Decimal) : Nat × Nat :=
  if 0 ≤ d.exponent then (d.digits * Nat.pow 10 d.exponent.toNat, 1)
  else (d.digits, Nat.pow 10 (-d.exponent).toNat)

/-- How far a decimal is from a ratio, times a common denominator. -/
def Decimal.distance (d : Decimal) (num den : Nat) : Nat × Nat :=
  let (a, b) := d.ratio
  (max (a * den) (num * b) - min (a * den) (num * b), b)

/-- The shorter list of candidates for a ratio with at most `count` digits. -/
def candidate? (bits : UInt64) (num den count : Nat) : Option Decimal :=
  let magnitude : Int :=
    ((Nat.log2 num : Int) - (Nat.log2 den : Int)) * 30103 / 100000
  let tries := [magnitude - count - 1, magnitude - count, magnitude - count + 1, magnitude - count + 2]
  let fits := (tries.flatMap (neighbours num den)).filter fun d =>
    0 < d.digits && d.digits < Nat.pow 10 count && ofRatio? d.ratio.1 d.ratio.2 == some bits
  fits.foldl (fun best d =>
    match best with
    | none => some d
    | some b =>
      let (x, s) := b.distance num den
      let (y, t) := d.distance num den
      if y * s < x * t || (y * s == x * t && d.digits % 2 == 0) then some d else some b) none

/-- A decimal without zeros at its end. -/
def Decimal.trimmed : Nat → Decimal → Decimal
  | 0, d => d
  | fuel + 1, d =>
    if d.digits % 10 == 0 && d.digits != 0 then trimmed fuel ⟨d.digits / 10, d.exponent + 1⟩ else d

/-- The decimal with the fewest digits that reads back as a positive number, the nearest of those. -/
def shortest (bits : UInt64) : Decimal :=
  let (num, den) := toRatio bits
  let found := (List.range 17).findSome? fun n => candidate? bits num den (n + 1)
  (found.getD ⟨0, 0⟩).trimmed 20

/-- The text of a number: positional with a point from `1e-5` up to sixteen digits before the point,
    with an exponent elsewhere. -/
def toText (bits : UInt64) : String :=
  let mark := if isNegative bits then "-" else ""
  let magnitude := bits &&& 0x7FFFFFFFFFFFFFFF
  if magnitude == 0 then mark ++ "0.0"
  else
    let d := shortest magnitude
    let ds := Nat.toDigits 10 d.digits
    let point : Int := ds.length + d.exponent
    let zeros (n : Int) : List Char := List.replicate n.toNat '0'
    let body : List Char :=
      if 0 ≤ d.exponent && point ≤ 16 then ds ++ zeros d.exponent ++ ['.', '0']
      else if 0 < point && point ≤ 16 then ds.take point.toNat ++ ['.'] ++ ds.drop point.toNat
      else if -5 < point && point ≤ 0 then ['0', '.'] ++ zeros (-point) ++ ds
      else
        let mantissa := match ds with
          | [] => []
          | [x] => [x]
          | x :: rest => x :: '.' :: rest
        mantissa ++ ['e'] ++ (toString (point - 1)).toList
    mark ++ String.ofList body

/-- The nearest number to `digits · 10^exponent`, found by one multiplication or division with a
    rounded power of ten; `none` beyond the largest number. -/
def ofScientific? (digits : Nat) (exponent : Int) : Option UInt64 :=
  let rec go (fuel : Nat) (value : UInt64) (exponent : Int) : Option UInt64 :=
    let (a, b) := toRatio value
    let power (k : Nat) : Nat × Nat := ((ofRatio? (Nat.pow 10 k) 1).map toRatio).getD (0, 1)
    if 0 ≤ exponent then
      if value == 0 then some value
      else if exponent ≤ 308 then
        let (c, d) := power exponent.toNat
        ofRatio? (a * c) (b * d)
      else none
    else if -308 ≤ exponent then
      let (c, d) := power (-exponent).toNat
      ofRatio? (a * d) (b * c)
    else
      match fuel with
      | 0 => some 0
      | fuel + 1 =>
        if value == 0 then some value
        else
          let (c, d) := power 308
          match ofRatio? (a * d) (b * c) with
          | some smaller => go fuel smaller (exponent + 308)
          | none => none
  match ofRatio? digits 1 with
  | some value => go 8 value exponent
  | none => none

end VulnProbe.Binary64
