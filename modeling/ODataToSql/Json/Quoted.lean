import ODataToSql.Json.Basic

/-!
# Strings in a JSON text

* `encode` writes the characters of a string between its quotes: `"`, `\` and the control
  characters are escaped, everything else stands for itself.
* `read?` reads the rest of a string after its opening quote. Escapes of the form `\u` stand for
  units of 16 bits, of which two may form one character; a unit that is half of such a pair alone
  makes the string unreadable.
-/

namespace ODataToSql.Json.Quoted

/-! ## Writing -/

/-- A digit of base sixteen, in lower case. -/
def hexDigit (n : Nat) : Char :=
  Nat.digitChar n

/-- A character as it is written inside of a string. -/
def encodeChar (c : Char) : List Char :=
  if c = '"' then ['\\', '"']
  else if c = '\\' then ['\\', '\\']
  else if c = '\x08' then ['\\', 'b']
  else if c = '\x0c' then ['\\', 'f']
  else if c = '\n' then ['\\', 'n']
  else if c = '\r' then ['\\', 'r']
  else if c = '\t' then ['\\', 't']
  else if c.toNat < 0x20 then
    ['\\', 'u', '0', '0', hexDigit (c.toNat / 16), hexDigit (c.toNat % 16)]
  else [c]

/-- A string as it is written, with its quotes. -/
def encode (text : String) : List Char :=
  '"' :: text.toList.flatMap encodeChar ++ ['"']

/-! ## Reading -/

/-- A piece of a string as written: a character, or the unit of 16 bits of an escape. -/
inductive Piece where
  | char (c : Char)
  | unit (code : Nat)

/-- The value of a digit of base sixteen, in either case. -/
def hexValue? (c : Char) : Option Nat :=
  if '0' ≤ c ∧ c ≤ '9' then some (c.toNat - '0'.toNat)
  else if 'a' ≤ c ∧ c ≤ 'f' then some (c.toNat - 'a'.toNat + 10)
  else if 'A' ≤ c ∧ c ≤ 'F' then some (c.toNat - 'A'.toNat + 10)
  else none

/-- The unit that four digits of base sixteen stand for. -/
def unitOfDigits? (a b c d : Char) : Option Nat := do
  return (← hexValue? a) * 0x1000 + (← hexValue? b) * 0x100 + (← hexValue? c) * 0x10
    + (← hexValue? d)

/-- The character that an escape of one letter stands for. -/
def unescape? (c : Char) : Option Char :=
  if c = '"' then some '"'
  else if c = '\\' then some '\\'
  else if c = '/' then some '/'
  else if c = 'b' then some '\x08'
  else if c = 'f' then some '\x0c'
  else if c = 'n' then some '\n'
  else if c = 'r' then some '\r'
  else if c = 't' then some '\t'
  else none

/-- Reads the pieces of a string up to its closing quote. -/
def readPieces? : List Char → Option (List Piece × List Char)
  | [] => none
  | '"' :: rest => some ([], rest)
  | '\\' :: 'u' :: a :: b :: c :: d :: rest =>
    match unitOfDigits? a b c d, readPieces? rest with
    | some code, some (pieces, rest) => some (.unit code :: pieces, rest)
    | _, _ => none
  | '\\' :: c :: rest =>
    match unescape? c, readPieces? rest with
    | some c, some (pieces, rest) => some (.char c :: pieces, rest)
    | _, _ => none
  | c :: rest =>
    if c.toNat < 0x20 ∨ c = '\\' then none
    else (readPieces? rest).map fun read => (.char c :: read.1, read.2)

/-- Whether a unit is the first half of a pair. -/
def isHighHalf (code : Nat) : Bool :=
  0xd800 ≤ code && code < 0xdc00

/-- Whether a unit is the second half of a pair. -/
def isLowHalf (code : Nat) : Bool :=
  0xdc00 ≤ code && code < 0xe000

/-- The characters of a string, if no unit is half of a pair alone. -/
def join? : List Piece → Option (List Char)
  | [] => some []
  | .char c :: rest => (join? rest).map (c :: ·)
  | .unit code :: rest =>
    if isHighHalf code then
      match rest with
      | .unit low :: rest =>
        if isLowHalf low then
          (join? rest).map (Char.ofNat (0x10000 + (code - 0xd800) * 0x400 + (low - 0xdc00)) :: ·)
        else none
      | _ => none
    else if isLowHalf code then none
    else (join? rest).map (Char.ofNat code :: ·)

/-- Reads the rest of a string after its opening quote. The string itself is missing if it is
unreadable. -/
def read? (text : List Char) : Option (Option String × List Char) :=
  (readPieces? text).map fun read => ((join? read.1).map String.ofList, read.2)

end ODataToSql.Json.Quoted
