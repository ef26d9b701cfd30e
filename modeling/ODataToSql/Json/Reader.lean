import ODataToSql.Json.Number
import ODataToSql.Json.Quoted

/-!
# Reading JSON texts

`Json.ofText?` reads a text that holds one value. The grammar is the strict one: no comments, no
trailing commas, no white space but blanks, tabs and line ends. Arrays and objects may stand inside
one another up to `depthLimit`; what lies deeper has to be well formed and is unreadable.
-/

namespace ODataToSql.Json

/-- The number of arrays and objects that may stand inside one another. -/
def depthLimit : Nat := 127

/-- The white space between the parts of a value. -/
def isSeparator (c : Char) : Bool :=
  c = ' ' || c = '\t' || c = '\n' || c = '\r'

/-- The text without the white space at its beginning. -/
def skipSeparators (text : List Char) : List Char :=
  text.dropWhile isSeparator

/-- An array or object inside of `depth` others. -/
def within (depth : Nat) (value : Json) : Json :=
  if depth < depthLimit then value else .unreadable

/-- The object of entries, some of whose keys may be missing because they are unreadable. -/
def ofEntries (entries : List (Option String × Json)) : Json :=
  match entries.mapM fun entry => entry.1.map fun key => (key, entry.2) with
  | some fields => .object fields
  | none => .unreadable

mutual

/-- Reads a value that stands inside of `depth` arrays and objects. -/
def readValue? : (fuel depth : Nat) → List Char → Option (Json × List Char)
  | 0, _, _ => none
  | fuel + 1, depth, text =>
    match skipSeparators text with
    | 'n' :: 'u' :: 'l' :: 'l' :: rest => some (.null, rest)
    | 't' :: 'r' :: 'u' :: 'e' :: rest => some (.bool true, rest)
    | 'f' :: 'a' :: 'l' :: 's' :: 'e' :: rest => some (.bool false, rest)
    | '"' :: rest =>
      (Quoted.read? rest).map fun read => ((read.1.map .string).getD .unreadable, read.2)
    | '[' :: rest =>
      match skipSeparators rest with
      | ']' :: rest => some (within depth (.array []), rest)
      | rest =>
        (readItems? fuel (depth + 1) rest).map fun read => (within depth (.array read.1), read.2)
    | '\x7b' :: rest =>
      match skipSeparators rest with
      | '\x7d' :: rest => some (within depth (.object []), rest)
      | rest =>
        (readEntries? fuel (depth + 1) rest).map fun read =>
          (within depth (ofEntries read.1), read.2)
    | rest => Number.read? rest

/-- Reads the items of an array up to its closing bracket. There is at least one. -/
def readItems? : (fuel depth : Nat) → List Char → Option (List Json × List Char)
  | 0, _, _ => none
  | fuel + 1, depth, text =>
    match readValue? fuel depth text with
    | none => none
    | some (item, rest) =>
      match skipSeparators rest with
      | ',' :: rest => (readItems? fuel depth rest).map fun read => (item :: read.1, read.2)
      | ']' :: rest => some ([item], rest)
      | _ => none

/-- Reads the entries of an object up to its closing brace. There is at least one. -/
def readEntries? : (fuel depth : Nat) → List Char →
    Option (List (Option String × Json) × List Char)
  | 0, _, _ => none
  | fuel + 1, depth, text =>
    match skipSeparators text with
    | '"' :: rest =>
      match Quoted.read? rest with
      | none => none
      | some (key, rest) =>
        match skipSeparators rest with
        | ':' :: rest =>
          match readValue? fuel depth rest with
          | none => none
          | some (value, rest) =>
            match skipSeparators rest with
            | ',' :: rest =>
              (readEntries? fuel depth rest).map fun read => ((key, value) :: read.1, read.2)
            | '\x7d' :: rest => some ([(key, value)], rest)
            | _ => none
        | _ => none
    | _ => none

end

/-- Reads a text that holds one value and nothing else. Every step takes a character, but for the
first item of an array and the first entry of an object. -/
def ofText? (text : String) : Option Json := do
  let (value, rest) ← readValue? (2 * text.length + 1) 0 text.toList
  guard (skipSeparators rest).isEmpty
  return value

end ODataToSql.Json
