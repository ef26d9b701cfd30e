/-!
# Sets of characters given by ranges of code points

The character classes that the base command is read with are those of the Unicode character
database. Each is a list of inclusive ranges in ascending order.
-/

namespace ODataToSql.Text

/-- A set of characters as inclusive ranges of code points, in ascending order. -/
abbrev CodePoints := List (Nat × Nat)

/-- Whether the character lies in one of the ranges. -/
def CodePoints.contains (ranges : CodePoints) (c : Char) : Bool :=
  ranges.any fun range => range.1 ≤ c.toNat && c.toNat ≤ range.2

end ODataToSql.Text
