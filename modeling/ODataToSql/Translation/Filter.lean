import ODataToSql.Query.Basic
import ODataToSql.Sql.Select
import ODataToSql.Translation.Basic

/-!
# The condition of a command

`Translation.term` turns an expression of the filter language into a scalar term.

* Conversions vanish, and a null literal binds nothing.
* A comparison with the null literal on the right is `IS` or `IS NOT`.
* `contains`, `startswith` and `endswith` are conditions of their own: where one of them is the left
  operand of an operator, the operator and its right operand are dropped.
* The arguments of a call are translated in the order in which they stand in the text, and those
  that do not occur there not at all.
-/

namespace ODataToSql.Translation

open Sql

variable {σ : Type}

/-! ## Operators -/

/-- The operator of a comparison or calculation. -/
def operator : BinaryOp → Except Error Operator
  | .and => .ok .and
  | .or => .ok .or
  | .equal => .ok .equals
  | .notEqual => .ok .notEquals
  | .greaterThan => .ok .greaterThan
  | .greaterThanOrEqual => .ok .greaterThanOrEqualTo
  | .lessThan => .ok .lessThan
  | .lessThanOrEqual => .ok .lessThanOrEqualTo
  | .has => .error (.unsupportedNode .has)
  | .add => .ok .add
  | .subtract => .ok .subtract
  | .multiply => .ok .multiply
  | .divide => .ok .divide
  | .modulo => .ok .modulo

/-- The operator in front of `NULL`. -/
def nullOperator : BinaryOp → Except Error Operator
  | .equal => .ok .is
  | .notEqual => .ok .isNot
  | op => operator op

/-! ## Calls -/

/-- The pattern of a function that is a `LIKE` in SQL. -/
def likePattern? : FilterFunction → Option LikePattern
  | .contains => some .contains
  | .endsWith => some .endsWith
  | .startsWith => some .startsWith
  | _ => none

/-- Whether the expression is a call of a function that is a `LIKE` in SQL. -/
def isLikeCall : Expr → Bool
  | .call name _ => ((FilterFunction.ofName? name).bind likePattern?).isSome
  | _ => false

/-- The argument at a position, or the error that the call has not enough of them. -/
def argument (function : FilterFunction) (arguments : List (Translation σ Term)) (position : Nat) :
    Translation σ Term :=
  match arguments[position]? with
  | some argument => argument
  | none => throw (.missingArgument function.name (position + 1))

/-- All arguments, from left to right. -/
def allArguments : List (Translation σ Term) → Translation σ (List Term)
  | [] => return []
  | argument :: rest => do
    let argument ← argument
    let rest ← allArguments rest
    return argument :: rest

/-- The term of a call of a function, from the translations of its arguments. -/
def callTerm (function : FilterFunction) (arguments : List (Translation σ Term)) :
    Translation σ Term :=
  let like (pattern : LikePattern) : Translation σ Term := do
    let operand ← argument function arguments 0
    let value ← argument function arguments 1
    return .like operand pattern value
  let part (part : DatePart) : Translation σ Term := do
    return .call .datePart [.datePart part, ← argument function arguments 0]
  let cast (type : ScalarType) : Translation σ Term := do
    return .cast (← argument function arguments 0) type
  let call (scalar : ScalarFunction) : Translation σ Term := do
    return .call scalar (← allArguments arguments)
  match function with
  | .contains => like .contains
  | .endsWith => like .endsWith
  | .startsWith => like .startsWith
  | .indexOf => do
    let sought ← argument function arguments 1
    let text ← argument function arguments 0
    return .call .charIndex [sought, text]
  | .trim => return .call .lTrim [.call .rTrim [← argument function arguments 0]]
  | .hour => part .hour
  | .minute => part .minute
  | .second => part .second
  | .totalOffsetMinutes => part .tzOffset
  | .date => cast .date
  | .time => cast .time
  | .totalSeconds =>
    return .call .dateDiff [.datePart .second, .int 0, ← argument function arguments 0]
  | .length => call .len
  | .toLower => call .lower
  | .toUpper => call .upper
  | .now => call .getUtcDate
  | .substring => call .substring
  | .concat => call .concat
  | .year => call .year
  | .month => call .month
  | .day => call .day
  | .round => call .round
  | .floor => call .floor
  | .ceiling => call .ceiling
  | .fractionalSeconds | .maxDateTime | .minDateTime | .isOf | .cast | .any | .all =>
    throw (.unsupportedFunction function.name)

/-! ## Expressions -/

mutual

/-- The term of an expression. -/
def term (naming : Naming σ) : Expr → Translation σ Term
  | .cast operand => term naming operand
  | .constant value => return if value.isNull then .null else .parameter value
  | .property property => return .column (← column naming property)
  | .binary op left right => do
    let leftTerm ← term naming left
    if isLikeCall left then return .nested leftTerm
    else if right.isNull then
      let operator ← nullOperator op
      return .binary leftTerm operator .null
    else
      let operator ← operator op
      let rightTerm ← term naming right
      return .binary leftTerm operator rightTerm
  | .unary .not operand => return .not (← term naming operand)
  | .unary .negate _ => throw (.unsupportedNode .negation)
  | .call name arguments =>
    match FilterFunction.ofName? name with
    | some function => callTerm function (terms naming arguments)
    | none => throw (.unsupportedFunction name)
  | .lambda quantifier _ _ => throw (.unsupportedNode (.lambda quantifier))

/-- The translations of the arguments of a call, each of which runs only when it is needed. -/
def terms (naming : Naming σ) : List Expr → List (Translation σ Term)
  | [] => []
  | argument :: rest => term naming argument :: terms naming rest

end

/-- The arguments of a call are translated each on its own. -/
@[simp]
theorem terms_eq_map (naming : Naming σ) (arguments : List Expr) :
    terms naming arguments = arguments.map (term naming) := by
  induction arguments with
  | nil => rfl
  | cons argument rest ih => rw [terms, ih, List.map_cons]

/-- The condition that a filter stands for. -/
def condition (naming : Naming σ) (filter : Option Expr) (keyword : ConditionKeyword) :
    Translation σ Condition :=
  match filter with
  | some filter => return ⟨keyword, some (← term naming filter)⟩
  | none => return .none keyword

end ODataToSql.Translation
