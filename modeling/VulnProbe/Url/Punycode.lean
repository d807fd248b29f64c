namespace VulnProbe.Punycode

/-- The letter or digit with a value below 36. -/
def digit (n : Nat) : Char :=
  if n < 26 then Char.ofNat (97 + n) else Char.ofNat (22 + n)

/-- The value of a letter or digit. -/
def digitValue? (c : Char) : Option Nat :=
  if c.isLower then some (c.toNat - 97)
  else if c.isUpper then some (c.toNat - 65)
  else if c.isDigit then some (c.toNat - 22)
  else none

/-- The threshold of the digit at a place, places counting by 36. -/
def threshold (place bias : Nat) : Nat :=
  if place ≤ bias then 1 else if bias + 26 ≤ place then 26 else place - bias

/-- Divides a difference by 35 until it is at most 455, counting the places passed. -/
def scaleDown : Nat → Nat → Nat → Nat × Nat
  | 0, delta, place => (delta, place)
  | fuel + 1, delta, place =>
    if delta > 455 then scaleDown fuel (delta / 35) (place + 36) else (delta, place)

/-- The bias after a difference. -/
def adapt (delta count : Nat) (isFirst : Bool) : Nat :=
  let delta := if isFirst then delta / 700 else delta / 2
  let (delta, place) := scaleDown 64 (delta + delta / count) 0
  place + 36 * delta / (delta + 38)

/-- The digits of a difference, from a place on. -/
def encodeDelta (bias : Nat) : Nat → Nat → Nat → List Char
  | 0, _, _ => []
  | fuel + 1, place, q =>
    let t := threshold place bias
    if q < t then [digit q]
    else digit (t + (q - t) % (36 - t)) :: encodeDelta bias fuel (place + 36) ((q - t) / (36 - t))

/-- The state of an encoder: the difference since the last digit, the bias, the number of characters
    handled, and the text written. -/
structure Encoder where
  delta : Nat
  bias : Nat
  handled : Nat
  written : List Char

/-- Writes every occurrence of one character, the smaller ones being handled. -/
def Encoder.writeChar (basic n : Nat) (e : Encoder) (cs : List Char) : Encoder :=
  cs.foldl (fun e c =>
    if c.toNat < n then { e with delta := e.delta + 1 }
    else if c.toNat == n then
      { delta := 0
        bias := adapt e.delta (e.handled + 1) (e.handled == basic)
        handled := e.handled + 1
        written := e.written ++ encodeDelta e.bias 16 36 e.delta }
    else e) e

/-- The ASCII form of a label. The ASCII characters stand before the last hyphen; the others follow as
    increasing differences in base 36, whose digit thresholds adapt to what was written. -/
def encode (cs : List Char) : List Char :=
  let basic := cs.filter (·.toNat < 128)
  let others := ((cs.map Char.toNat).filter (128 ≤ ·)).mergeSort.eraseDups
  let step (state : Encoder × Nat) (n : Nat) : Encoder × Nat :=
    let e := state.1
    let e := { e with delta := e.delta + (n - state.2) * (e.handled + 1) }
    let e := e.writeChar basic.length n cs
    ({ e with delta := e.delta + 1 }, n + 1)
  let start : Encoder :=
    ⟨0, 72, basic.length, if basic.isEmpty then [] else basic ++ ['-']⟩
  (others.foldl step (start, 128)).1.written

/-- One difference at the front of a text: its value and the rest. -/
def decodeDelta (bias : Nat) (place weight sum : Nat) : List Char → Option (Nat × List Char)
  | [] => none
  | c :: rest => do
    let d ← digitValue? c
    let sum := sum + d * weight
    let t := threshold place bias
    if sum ≥ 4294967296 then none
    else if d < t then pure (sum, rest)
    else decodeDelta bias (place + 36) (weight * (36 - t)) sum rest

/-- Puts characters into a label, one for each difference, at most `fuel` of them. -/
def decodeAfter : Nat → Nat → Nat → Nat → List Char → List Char → Option (List Char)
  | _, _, _, _, label, [] => some label
  | 0, _, _, _, _, _ => none
  | fuel + 1, n, i, bias, label, text => do
    let (delta, rest) ← decodeDelta bias 36 1 0 text
    let length := label.length + 1
    let i' := i + delta
    let n := n + i' / length
    if h : n.isValidChar then
      let place := i' % length
      let label := label.take place ++ [Char.ofNatAux n h] ++ label.drop place
      decodeAfter fuel n (place + 1) (adapt delta length (i == 0)) label rest
    else none

/-- The label that an ASCII form writes. -/
def decode? (cs : List Char) : Option (List Char) :=
  let tail := (cs.reverse.takeWhile (· != '-')).reverse
  if tail.length == cs.length then decodeAfter (cs.length + 1) 128 0 72 [] cs
  else
    let basic := cs.take (cs.length - tail.length - 1)
    if basic.isEmpty then none else decodeAfter (cs.length + 1) 128 0 72 basic tail

end VulnProbe.Punycode
