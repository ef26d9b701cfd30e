import ODataToSql.Json.Basic
import ODataToSql.Text.Decimal

/-!
# Statements and fragments of them

A statement is a command text with the list of arguments that its placeholders refer to: the
argument at position `n` is bound to the placeholder `@pn`. A fragment is text that is yet to be
appended to a statement, in pieces; a placeholder gets its number when its argument is appended.

* `Statement.append` appends a fragment.
* `Fragment.spaced` puts one space in front of a fragment that is not left out.
* `Fragment.separated` puts commas between fragments.
-/

namespace ODataToSql.Sql

/-- A part of a text that is appended at once. -/
inductive Piece where
  | text (text : String)
  /-- A value for which a placeholder is written. -/
  | argument (value : Datum)

/-- Text with arguments that are not numbered yet. -/
abbrev Fragment := List Piece

namespace Fragment

/-- A text without arguments. -/
def ofText (text : String) : Fragment := [.text text]

/-- Fragments with a comma and a space between them. -/
def separated : List Fragment → Fragment
  | [] => []
  | [fragment] => fragment
  | fragment :: rest => fragment ++ .text ", " :: separated rest

/-- The fragment after one space, or nothing if it is left out. -/
def spaced (leftOut : Bool) (fragment : Fragment) : Fragment :=
  if leftOut then [] else .text " " :: fragment

/-- The values of the fragment in the order of their placeholders. -/
def values (fragment : Fragment) : List Datum :=
  fragment.filterMap fun
    | .argument value => some value
    | .text _ => none

end Fragment

/-- A command text and the arguments that its placeholders refer to. -/
structure Statement where
  text : String
  arguments : List Datum

namespace Statement

/-- What every placeholder starts with. -/
def placeholderSigil : String := "@p"

/-- The placeholder of the argument at a position. -/
def placeholder (position : Nat) : String :=
  placeholderSigil ++ Text.decimal position

/-- No text yet, with arguments that are bound already. -/
def start (arguments : List Datum) : Statement := ⟨"", arguments⟩

/-- Appends text. -/
def appendText (statement : Statement) (text : String) : Statement :=
  { statement with text := statement.text ++ text }

/-- Appends text after a space. Empty text is left out together with its space. -/
def appendSpaced (statement : Statement) (text : String) : Statement :=
  if text.isEmpty then statement else statement.appendText (" " ++ text)

/-- Binds a value and appends its placeholder. -/
def appendArgument (statement : Statement) (value : Datum) : Statement :=
  { text := statement.text ++ placeholder statement.arguments.length
    arguments := statement.arguments ++ [value] }

/-- Appends a piece. -/
def appendPiece (statement : Statement) : Piece → Statement
  | .text text => statement.appendText text
  | .argument value => statement.appendArgument value

/-- Appends a fragment. -/
def append (statement : Statement) (fragment : Fragment) : Statement :=
  fragment.foldl appendPiece statement

/-- Text after a space is a fragment after a space. -/
theorem appendSpaced_eq (statement : Statement) (text : String) :
    statement.appendSpaced text =
      statement.append (Fragment.spaced text.isEmpty (.ofText text)) := by
  cases h : text.isEmpty <;>
    simp [appendSpaced, h, append, Fragment.spaced, Fragment.ofText, appendPiece, appendText,
      String.append_assoc]

/-- Appending two fragments is appending one after the other. -/
theorem append_append (statement : Statement) (first second : Fragment) :
    statement.append (first ++ second) = (statement.append first).append second :=
  List.foldl_append

/-- The values of a fragment become the arguments after those that are bound already. -/
@[simp]
theorem arguments_append (statement : Statement) (fragment : Fragment) :
    (statement.append fragment).arguments = statement.arguments ++ fragment.values := by
  induction fragment generalizing statement with
  | nil => simp [append, Fragment.values]
  | cons piece rest ih =>
    have hrest := ih (statement.appendPiece piece)
    cases piece <;>
      simpa [append, appendPiece, appendText, appendArgument, Fragment.values] using hrest

end Statement
end ODataToSql.Sql
