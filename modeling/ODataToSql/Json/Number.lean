import ODataToSql.Json.Basic

/-!
# Numbers in a JSON text

A number is an integer if it is written without point and exponent and fits 64 bits, with or without
a sign; any other number is a double. The digits of a double are taken into a significand of 64 bits
for as long as they fit, and the power of ten accounts for the place of the point and for the whole
digits that were left out.
-/

namespace ODataToSql.Json.Number

/-- The value of a decimal digit. -/
def digitValue (c : Char) : Nat :=
  c.toNat - '0'.toNat

/-- The number that the digits stand for. -/
def naturalOfDigits (digits : List Char) : Nat :=
  digits.foldl (fun value c => 10 * value + digitValue c) 0

/-- Whether a significand with one more digit still fits 64 bits. -/
def fits (significand : Nat) (digit : Char) : Bool :=
  10 * significand + digitValue digit < UInt64.size

/-- Takes whole digits into a significand and counts those that no longer fit. -/
def takeWhole (digits : List Char) : Nat × Nat :=
  digits.foldl
    (fun (significand, leftOut) c =>
      if leftOut = 0 && fits significand c then (10 * significand + digitValue c, 0)
      else (significand, leftOut + 1))
    (0, 0)

/-- Takes the digits after the point into a significand up to the first that does not fit. -/
def takeFraction (significand : Nat) (exponent : Int) : List Char → Nat × Int
  | [] => (significand, exponent)
  | c :: rest =>
    if fits significand c then takeFraction (10 * significand + digitValue c) (exponent - 1) rest
    else (significand, exponent)

/-- The exponent of a number as written: its sign and its digits. -/
structure Exponent where
  negative : Bool
  digits : List Char

/-- The value of an integer whose digits fit a significand. A zero with a sign is a double, and so
is a number below the integers of 64 bits. -/
def ofInteger (negative : Bool) (significand : Nat) : Json :=
  if !negative then .int significand
  else if significand ≠ 0 ∧ significand ≤ Nat.pow 2 63 then .int (-significand)
  else .double (Double.ofWhole true significand)

/-- The double of a significand and a power of ten, unreadable if it is too large. -/
def ofScaled (negative : Bool) (significand : Nat) (exponent : Int) : Json :=
  match Double.ofDecimal? negative significand exponent with
  | some value => .double value
  | none => .unreadable

/-- The double with an exponent. An exponent beyond 32 bits makes the number zero or too large. -/
def ofExponent (negative : Bool) (significand : Nat) (place : Int) (exponent : Exponent) : Json :=
  let shift := naturalOfDigits exponent.digits
  if Nat.pow 2 31 ≤ shift then
    if significand ≠ 0 ∧ !exponent.negative then .unreadable
    else .double (Double.ofWhole negative 0)
  else ofScaled negative significand (if exponent.negative then place - shift else place + shift)

/-- The value of a number from its parts as written. -/
def ofParts (negative : Bool) (whole fraction : List Char) (exponent : Option Exponent) : Json :=
  let (significand, leftOut) := takeWhole whole
  if fraction.isEmpty && exponent.isNone && leftOut = 0 then ofInteger negative significand
  else
    let (significand, place) := takeFraction significand leftOut fraction
    match exponent with
    | none => ofScaled negative significand place
    | some exponent => ofExponent negative significand place exponent

/-- Reads a point and the digits after it, of which there is at least one. Without a point there are
none. -/
def readFraction? (text : List Char) : Option (List Char × List Char) :=
  match text with
  | '.' :: rest =>
    let (digits, rest) := rest.span Char.isDigit
    if digits.isEmpty then none else some (digits, rest)
  | rest => some ([], rest)

/-- Reads the digits of an exponent, of which there is at least one. -/
def readExponentDigits? (negative : Bool) (text : List Char) :
    Option (Option Exponent × List Char) :=
  let (digits, rest) := text.span Char.isDigit
  if digits.isEmpty then none else some (some ⟨negative, digits⟩, rest)

/-- Reads an exponent, if one follows. -/
def readExponent? (text : List Char) : Option (Option Exponent × List Char) :=
  match text with
  | c :: rest =>
    if c = 'e' ∨ c = 'E' then
      match rest with
      | '+' :: rest => readExponentDigits? false rest
      | '-' :: rest => readExponentDigits? true rest
      | rest => readExponentDigits? false rest
    else some (none, c :: rest)
  | [] => some (none, [])

/-- Reads a number without its sign. A zero is not followed by another digit. -/
def readUnsigned? (negative : Bool) (text : List Char) : Option (Json × List Char) := do
  let (whole, rest) := text.span Char.isDigit
  guard (!whole.isEmpty && (whole.head? != some '0' || whole.length = 1))
  let (fraction, rest) ← readFraction? rest
  let (exponent, rest) ← readExponent? rest
  return (ofParts negative whole fraction exponent, rest)

/-- Reads a number. -/
def read? (text : List Char) : Option (Json × List Char) :=
  match text with
  | '-' :: rest => readUnsigned? true rest
  | rest => readUnsigned? false rest

end ODataToSql.Json.Number
