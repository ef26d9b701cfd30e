import ODataToSql.Text.CodePoints

/-!
# White space

* `isBlank`: the characters with the property `White_Space`.
* `trim`: a text without the white space at its two ends.
* `isBlankText`: the texts that hold nothing else. A column name must not be one of them.
-/

namespace ODataToSql.Text

/-- The code points with the property `White_Space`. -/
def blankCodePoints : CodePoints :=
  [(0x9, 0xd), (0x20, 0x20), (0x85, 0x85), (0xa0, 0xa0), (0x1680, 0x1680), (0x2000, 0x200a),
    (0x2028, 0x2029), (0x202f, 0x202f), (0x205f, 0x205f), (0x3000, 0x3000)]

/-- Whether the character is white space. -/
def isBlank (c : Char) : Bool :=
  blankCodePoints.contains c

/-- The text without the white space at its end. -/
def trimEnd (text : List Char) : List Char :=
  (text.reverse.dropWhile isBlank).reverse

/-- The text without the white space at its beginning and its end. -/
def trim (text : List Char) : List Char :=
  trimEnd (text.dropWhile isBlank)

/-- Whether the text holds white space only. The empty text does. -/
def isBlankText (text : String) : Bool :=
  text.toList.all isBlank

end ODataToSql.Text
