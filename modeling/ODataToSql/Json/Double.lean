/-!
# Numbers in double precision

A double is kept as its 64 bits, so that two of them are equal exactly if they are the same number
with the same sign.

* `Double.ofDecimal?` scales a whole significand by a power of ten. A result beyond the largest
  double is none.
* `Double.digits` finds the fewest decimal digits that read back as the number, and of those the
  ones nearest to it.
* `Double.format` writes them: with a point for numbers from `1e-5` up to `1e16`, with an exponent
  for all others.
-/

namespace ODataToSql

/-- A finite number in double precision, as its bits. -/
structure Double where
  /-- Sign, exponent and fraction as they are stored. -/
  bits : UInt64
deriving DecidableEq, Repr

namespace Double

/-! ## From decimal notation -/

/-- Scales a magnitude by a power of ten, `10 ^ 308` at most at a time. A number that has become
zero stays zero, and an infinite one is none. -/
def scale? (magnitude : Float) (exponent : Int) : Nat → Option Float
  | 0 => some magnitude
  | steps + 1 =>
    if 0 ≤ exponent then
      if exponent ≤ 308 then
        let scaled := magnitude * Float.ofScientific 1 false exponent.toNat
        if scaled.isInf then none else some scaled
      else if magnitude == 0 then some magnitude
      else none
    else if -308 ≤ exponent then
      some (magnitude / Float.ofScientific 1 false (-exponent).toNat)
    else if magnitude == 0 then some magnitude
    else scale? (magnitude / Float.ofScientific 1 false 308) (exponent + 308) steps

/-- The number with a sign, a significand below `2 ^ 64` and a power of ten. Three steps bring any
such number down to zero. -/
def ofDecimal? (negative : Bool) (significand : Nat) (exponent : Int) : Option Double :=
  (scale? (UInt64.ofNat significand).toFloat exponent 4).map fun magnitude =>
    ⟨(if negative then -magnitude else magnitude).toBits⟩

/-- The whole number with a sign, rounded to the nearest double. -/
def ofWhole (negative : Bool) (magnitude : Nat) : Double :=
  let float := (UInt64.ofNat magnitude).toFloat
  ⟨(if negative then -float else float).toBits⟩

/-! ## Shortest digits -/

/-- Whether the sign is negative. -/
def isNegative (d : Double) : Bool :=
  d.bits.toNat / Nat.pow 2 63 = 1

/-- The exponent as it is stored. -/
def storedExponent (d : Double) : Nat :=
  d.bits.toNat / Nat.pow 2 52 % Nat.pow 2 11

/-- The fraction as it is stored. -/
def fraction (d : Double) : Nat :=
  d.bits.toNat % Nat.pow 2 52

/-- The magnitude is this number of units `2 ^ (unitExponent d)`. -/
def significand (d : Double) : Nat :=
  if d.storedExponent = 0 then d.fraction else Nat.pow 2 52 + d.fraction

/-- The power of two that the significand counts. -/
def unitExponent (d : Double) : Int :=
  (max d.storedExponent 1 : Nat) - 1075

/-- A magnitude and the ends of the interval of the numbers that are rounded to it, as multiples of
`numerator / denominator`. -/
structure Interval where
  low : Nat
  value : Nat
  high : Nat
  numerator : Nat
  denominator : Nat
  /-- Whether the ends belong to the interval. -/
  closed : Bool

/-- The interval that is rounded to the magnitude, in quarters of a unit. Below a power of two the
neighbouring numbers are twice as dense. -/
def interval (d : Double) : Interval :=
  let quarter := d.unitExponent - 2
  { low := 4 * d.significand - (if d.fraction = 0 ∧ 1 < d.storedExponent then 1 else 2)
    value := 4 * d.significand
    high := 4 * d.significand + 2
    numerator := Nat.pow 2 quarter.toNat
    denominator := Nat.pow 2 (-quarter).toNat
    closed := d.significand % 2 = 0 }

/-- Whether `count` times the power of ten lies in the interval. -/
def Interval.containsDecimal (i : Interval) (count : Nat) (exponent : Int) : Bool :=
  let decimal := count * Nat.pow 10 exponent.toNat * i.denominator
  let unit := i.numerator * Nat.pow 10 (-exponent).toNat
  if i.closed then i.low * unit ≤ decimal && decimal ≤ i.high * unit
  else i.low * unit < decimal && decimal < i.high * unit

/-- The multiple of the power of ten that lies in the interval and is nearest to its value; of two
that are equally near the even one. -/
def Interval.nearest? (i : Interval) (exponent : Int) : Option Nat :=
  let value := i.value * i.numerator * Nat.pow 10 (-exponent).toNat
  let unit := i.denominator * Nat.pow 10 exponent.toNat
  let below := value / unit
  let twiceRest := 2 * (value % unit)
  let preferBelow := twiceRest < unit || (twiceRest = unit && below % 2 = 0)
  let candidates := if preferBelow then [below, below + 1] else [below + 1, below]
  candidates.find? fun count => i.containsDecimal count exponent

/-- The number of digits in front of the decimal point of the value, negative where zeros follow
the point. -/
def Interval.pointPlace (i : Interval) : Int :=
  (Nat.toDigits 10 (i.value * i.numerator * Nat.pow 10 400 / i.denominator)).length - 400

/-- Takes the zeros off the end of a digit string. -/
def dropTrailingZeros (digits : List Char) : List Char :=
  (digits.reverse.dropWhile (· == '0')).reverse

/-- The fewest digits that read back as the magnitude, and the number of them in front of the
decimal point. Seventeen digits are always enough. -/
def digits (d : Double) : List Char × Int :=
  let i := d.interval
  let found := (List.range 17).findSome? fun (n : Nat) =>
    let exponent := i.pointPlace - (n + 1)
    (i.nearest? exponent).map fun count => (Nat.toDigits 10 count, exponent)
  match found with
  | some (digits, exponent) => (dropTrailingZeros digits, digits.length + exponent)
  | none => ([], 0)

/-! ## Decimal notation -/

/-- Digits with a point after the first `point` of them. -/
def formatDigits (digits : List Char) (point : Int) : List Char :=
  let count := digits.length
  if count ≤ point ∧ point ≤ 16 then
    digits ++ List.replicate (point.toNat - count) '0' ++ ['.', '0']
  else if 0 < point ∧ point ≤ 16 then
    digits.take point.toNat ++ '.' :: digits.drop point.toNat
  else if -5 < point ∧ point ≤ 0 then
    ['0', '.'] ++ List.replicate (-point).toNat '0' ++ digits
  else
    let power := (if point - 1 < 0 then ['-'] else []) ++ Nat.toDigits 10 (point - 1).natAbs
    match digits with
    | [first] => first :: 'e' :: power
    | first :: rest => first :: '.' :: rest ++ 'e' :: power
    | [] => []

/-- The number in decimal notation, always with a point or an exponent. -/
def format (d : Double) : List Char :=
  let sign := if d.isNegative then ['-'] else []
  if d.significand = 0 then sign ++ ['0', '.', '0']
  else
    let (digits, point) := d.digits
    sign ++ formatDigits digits point

end Double
end ODataToSql
