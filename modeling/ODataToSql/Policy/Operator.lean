import ODataToSql.Query.Operator

/-!
# Operators in a policy

A policy allows operators by one name each, whatever the number of their operands. Both operators
with one operand are allowed together.
-/

namespace ODataToSql.Policy

/-- An operator that a policy can allow. -/
inductive Operator where
  | equal
  | notEqual
  | greaterThan
  | greaterThanOrEqual
  | lessThan
  | lessThanOrEqual
  | and
  | or
  | not
  | has
  | add
  | subtract
  | multiply
  | divide
  | modulo
deriving DecidableEq, Repr

namespace Operator

/-- The operator as it is written in a policy. -/
def name : Operator → String
  | .equal => "equal"
  | .notEqual => "notEqual"
  | .greaterThan => "greaterThan"
  | .greaterThanOrEqual => "greaterThanOrEqual"
  | .lessThan => "lessThan"
  | .lessThanOrEqual => "lessThanOrEqual"
  | .and => "and"
  | .or => "or"
  | .not => "not"
  | .has => "has"
  | .add => "add"
  | .subtract => "subtract"
  | .multiply => "multiply"
  | .divide => "divide"
  | .modulo => "modulo"

instance : Enumeration Operator where
  values :=
    [.equal, .notEqual, .greaterThan, .greaterThanOrEqual, .lessThan, .lessThanOrEqual, .and, .or,
      .not, .has, .add, .subtract, .multiply, .divide, .modulo]
  complete op := by cases op <;> decide
  name := name
  distinct := by decide

/-- The operator as it is written in a filter. -/
def sign : Operator → String
  | .equal => "eq"
  | .notEqual => "ne"
  | .greaterThan => "gt"
  | .greaterThanOrEqual => "ge"
  | .lessThan => "lt"
  | .lessThanOrEqual => "le"
  | .and => "and"
  | .or => "or"
  | .not => "not"
  | .has => "has"
  | .add => "add"
  | .subtract => "sub"
  | .multiply => "mul"
  | .divide => "div"
  | .modulo => "mod"

/-- Whether the operator calculates. The others compare or connect. -/
def isArithmetic : Operator → Bool
  | .add | .subtract | .multiply | .divide | .modulo => true
  | _ => false

/-- The operator under which an operator with two operands is allowed. -/
def ofBinary : BinaryOp → Operator
  | .and => .and
  | .or => .or
  | .equal => .equal
  | .notEqual => .notEqual
  | .greaterThan => .greaterThan
  | .greaterThanOrEqual => .greaterThanOrEqual
  | .lessThan => .lessThan
  | .lessThanOrEqual => .lessThanOrEqual
  | .has => .has
  | .add => .add
  | .subtract => .subtract
  | .multiply => .multiply
  | .divide => .divide
  | .modulo => .modulo

/-- The operator under which an operator with one operand is allowed. -/
def ofUnary : UnaryOp → Operator
  | .not | .negate => .not

end Operator
end ODataToSql.Policy
