import ODataToSql.Text.WordCharacter

/-!
# Keywords

A keyword is written in any case, and it ends where a word ends.

* `strip? keyword text`: the text after the keyword, if it starts with the letters.
* `startsWithWord keyword text`: the letters and the end of a word follow.
* `containsWord keyword text`: the keyword stands somewhere as a whole word.
-/

namespace ODataToSql.Text.Keyword

/-- The letter that a character folds to. Beside the upper-case letters of ASCII there are two
characters with a fold in ASCII: the long s and the sign for kelvin. -/
def fold (c : Char) : Char :=
  if c = '\u017f' then 's' else if c = '\u212a' then 'k' else c.toLower

/-- The text after the letters of the keyword, which are matched in any case. -/
def strip? : List Char → List Char → Option (List Char)
  | [], text => some text
  | _ :: _, [] => none
  | k :: keyword, c :: text => if fold c = fold k then strip? keyword text else none

/-- Whether a word that has just been read ends in front of this text. -/
def endsWord : List Char → Bool
  | [] => true
  | c :: _ => !isWordCharacter c

/-- Whether the text starts with the keyword and a word ends there. -/
def startsWithWord (keyword text : List Char) : Bool :=
  match strip? keyword text with
  | some rest => endsWord rest
  | none => false

/-- Whether the keyword stands as a word in the text that comes after `previous`. -/
def containsWordAfter (keyword : List Char) : Option Char → List Char → Bool
  | _, [] => false
  | previous, c :: rest =>
    (!previous.any isWordCharacter && startsWithWord keyword (c :: rest))
      || containsWordAfter keyword (some c) rest

/-- Whether the keyword stands somewhere in the text with no word character on either side. -/
def containsWord (keyword text : List Char) : Bool :=
  containsWordAfter keyword none text

end ODataToSql.Text.Keyword
