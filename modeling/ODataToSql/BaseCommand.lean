import ODataToSql.Text.Blank
import ODataToSql.Text.DecimalDigit
import ODataToSql.Text.Keyword
import ODataToSql.Text.Quoted

/-!
# Base commands

A base command is the `SELECT … FROM …` text that a query is spliced into. Reading one gives its
four parts:

* `top`, the text `TOP(n)` if the caller limits the rows, else nothing,
* `columns`, the caller's own column list, else nothing,
* `source`, which runs from the first word `FROM` to the end of the text,
* `isFiltered`, whether the word `WHERE` stands outside of bracketed names and string literals.
-/

namespace ODataToSql

open Text

/-- The command that a query is built upon, taken apart. -/
structure BaseCommand where
  /-- `TOP(n)` as the caller wrote it, or nothing. -/
  top : String
  /-- The column list as the caller wrote it, or nothing. -/
  columns : String
  /-- The text from the word `FROM` on. -/
  source : String
  /-- Whether the command has a `WHERE` of its own. -/
  isFiltered : Bool
deriving DecidableEq, Repr

namespace BaseCommand

/-- The command that is built upon where the caller names none. -/
def defaultText : String := "SELECT FROM"

/-- Splits a text that starts with `TOP(n)` after it, where `n` has at least one digit. -/
def splitTop (text : List Char) : List Char × List Char :=
  match Keyword.strip? "TOP(".toList text with
  | none => ([], text)
  | some rest =>
    match rest.span isDecimalDigit with
    | (digit :: digits, ')' :: after) =>
      (text.take 4 ++ (digit :: digits) ++ [')'], after)
    | _ => ([], text)

/-- Splits a text in front of its first `FROM` that ends where a word ends. -/
def splitAtSource? : List Char → Option (List Char × List Char)
  | [] => none
  | c :: rest =>
    if Keyword.startsWithWord "FROM".toList (c :: rest) then some ([], c :: rest)
    else (splitAtSource? rest).map fun split => (c :: split.1, split.2)

/-- Reads a base command. It starts with `SELECT` and white space, and `FROM` follows. -/
def ofText? (text : String) : Option BaseCommand := do
  let trimmed := trim text.toList
  let afterSelect ← Keyword.strip? "SELECT".toList trimmed
  guard (afterSelect.head?.any isBlank)
  let (top, afterTop) := splitTop (afterSelect.dropWhile isBlank)
  let (columns, source) ← splitAtSource? (afterTop.dropWhile isBlank)
  return {
    top := String.ofList top
    columns := String.ofList (trimEnd columns)
    source := String.ofList source
    isFiltered := Keyword.containsWord "WHERE".toList (maskQuoted trimmed) }

end BaseCommand
end ODataToSql
