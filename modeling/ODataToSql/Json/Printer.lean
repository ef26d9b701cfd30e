import ODataToSql.Json.Quoted

/-!
# Writing JSON values

`Json.pretty` writes every item and every entry on a line of its own, two blanks deeper than what
encloses it. Empty arrays and objects stay on one line.
-/

namespace ODataToSql.Json

/-- A whole number in decimal digits. -/
def formatInt (n : Int) : List Char :=
  if n < 0 then '-' :: Nat.toDigits 10 n.natAbs else Nat.toDigits 10 n.natAbs

/-- A value other than an array or object. -/
def formatScalar : Json → List Char
  | .bool true => "true".toList
  | .bool false => "false".toList
  | .int n => formatInt n
  | .double d => d.format
  | .string s => Quoted.encode s
  | _ => "null".toList

/-- A line end and the blanks in front of what stands at a level. -/
def lineBreak (level : Nat) : List Char :=
  '\n' :: List.replicate (2 * level) ' '

mutual

/-- The value at a level, one item or entry a line. -/
def prettyChars (level : Nat) : Json → List Char
  | .array [] => ['[', ']']
  | .array (item :: rest) =>
    '[' :: lineBreak (level + 1) ++ prettyItems (level + 1) (item :: rest) ++
      lineBreak level ++ [']']
  | .object [] => ['\x7b', '\x7d']
  | .object (field :: rest) =>
    '\x7b' :: lineBreak (level + 1) ++ prettyFields (level + 1) (field :: rest) ++
      lineBreak level ++ ['\x7d']
  | scalar => formatScalar scalar

/-- Items at a level, each on a line of its own. -/
def prettyItems (level : Nat) : List Json → List Char
  | [] => []
  | [item] => prettyChars level item
  | item :: rest => prettyChars level item ++ ',' :: lineBreak level ++ prettyItems level rest

/-- Entries at a level, each on a line of its own. -/
def prettyFields (level : Nat) : List (String × Json) → List Char
  | [] => []
  | [(key, value)] => Quoted.encode key ++ ':' :: ' ' :: prettyChars level value
  | (key, value) :: rest =>
    Quoted.encode key ++ ':' :: ' ' :: prettyChars level value ++
      ',' :: lineBreak level ++ prettyFields level rest

end

/-- Writes a value, followed by a line end. -/
def pretty (json : Json) : String :=
  String.ofList (prettyChars 0 json ++ ['\n'])

end ODataToSql.Json
