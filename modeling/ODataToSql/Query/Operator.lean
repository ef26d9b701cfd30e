import ODataToSql.Enumeration

/-!
# Operators of the filter language

The operators that take two operands, those that take one, and the two quantifiers over a
collection.
-/

namespace ODataToSql

/-- An operator with two operands. -/
inductive BinaryOp where
  | and
  | or
  | equal
  | notEqual
  | greaterThan
  | greaterThanOrEqual
  | lessThan
  | lessThanOrEqual
  | has
  | add
  | subtract
  | multiply
  | divide
  | modulo
deriving DecidableEq, Repr

namespace BinaryOp

/-- The operator as it is written in a query document. -/
def name : BinaryOp → String
  | .and => "and"
  | .or => "or"
  | .equal => "equal"
  | .notEqual => "not_equal"
  | .greaterThan => "greater_than"
  | .greaterThanOrEqual => "greater_than_or_equal"
  | .lessThan => "less_than"
  | .lessThanOrEqual => "less_than_or_equal"
  | .has => "has"
  | .add => "add"
  | .subtract => "subtract"
  | .multiply => "multiply"
  | .divide => "divide"
  | .modulo => "modulo"

instance : Enumeration BinaryOp where
  values :=
    [.and, .or, .equal, .notEqual, .greaterThan, .greaterThanOrEqual, .lessThan, .lessThanOrEqual,
      .has, .add, .subtract, .multiply, .divide, .modulo]
  complete op := by cases op <;> decide
  name := name
  distinct := by decide

end BinaryOp

/-- An operator with one operand. -/
inductive UnaryOp where
  | not
  | negate
deriving DecidableEq, Repr

namespace UnaryOp

/-- The operator as it is written in a query document. -/
def name : UnaryOp → String
  | .not => "not"
  | .negate => "negate"

instance : Enumeration UnaryOp where
  values := [.not, .negate]
  complete op := by cases op <;> decide
  name := name
  distinct := by decide

end UnaryOp

/-- How many items of a collection have to satisfy a predicate. -/
inductive Quantifier where
  | any
  | all
deriving DecidableEq, Repr

namespace Quantifier

/-- The quantifier as it is written, also as the name under which a policy allows it. -/
def name : Quantifier → String
  | .any => "any"
  | .all => "all"

instance : Enumeration Quantifier where
  values := [.any, .all]
  complete quantifier := by cases quantifier <;> decide
  name := name
  distinct := by decide

end Quantifier
end ODataToSql
