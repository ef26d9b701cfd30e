import ODataToSql.Policy.Basic
import ODataToSql.Query.Basic
import ODataToSql.Text.Decimal

/-!
# Checking queries against a policy

The options of a query are checked one after the other, and the first violation is reported. An
option has to be allowed; then its own value is checked before the next option is looked at. Of a
filter each node is checked before what stands below it.
-/

namespace ODataToSql.Policy

/-- How a query violates a policy. -/
inductive Violation where
  | optionNotAllowed (option : QueryOption)
  | operatorNotAllowed (op : Operator)
  /-- The function is not allowed, or there is none of that name. -/
  | functionNotAllowed (name : String)
  | skipExceeded (skip max : UInt64)
  | topExceeded (top max : UInt64)
deriving DecidableEq, Repr

namespace Violation

/-- The violation in words. -/
def message : Violation → String
  | .optionNotAllowed option => "The '" ++ option.key ++ "' query option is not allowed."
  | .operatorNotAllowed op =>
    "The '" ++ op.sign ++ "' " ++ (if op.isArithmetic then "arithmetic" else "logical") ++
      " operator is not allowed."
  | .functionNotAllowed name => "The '" ++ name ++ "' function is not allowed."
  | .skipExceeded skip max =>
    "The $skip query option exceeded the maximum of " ++ Text.decimal max.toNat ++ ": " ++
      Text.decimal skip.toNat ++ "."
  | .topExceeded top max =>
    "The $top query option exceeded the maximum of " ++ Text.decimal max.toNat ++ ": " ++
      Text.decimal top.toNat ++ "."

end Violation

/-! ## Filters -/

/-- Checks that an operator is allowed. -/
def checkOperator (policy : Policy) (op : Operator) : Except Violation Unit :=
  if policy.operators.allows op then .ok () else .error (.operatorNotAllowed op)

/-- Checks that there is a function of the name and that it is allowed. -/
def checkFunction (policy : Policy) (name : String) : Except Violation Unit :=
  if (FilterFunction.ofName? name).any policy.functions.allows then .ok ()
  else .error (.functionNotAllowed name)

mutual

/-- Checks an expression, each node before what stands below it. -/
def checkExpr (policy : Policy) : Expr → Except Violation Unit
  | .constant _ => .ok ()
  | .property _ => .ok ()
  | .cast operand => checkExpr policy operand
  | .binary op left right => do
    checkOperator policy (.ofBinary op)
    checkExpr policy left
    checkExpr policy right
  | .unary op operand => do
    checkOperator policy (.ofUnary op)
    checkExpr policy operand
  | .call name arguments => do
    checkFunction policy name
    checkExprs policy arguments
  | .lambda quantifier _ none => checkFunction policy quantifier.name
  | .lambda quantifier _ (some predicate) => do
    checkFunction policy quantifier.name
    checkExpr policy predicate

/-- Checks expressions from left to right. -/
def checkExprs (policy : Policy) : List Expr → Except Violation Unit
  | [] => .ok ()
  | expr :: rest => do
    checkExpr policy expr
    checkExprs policy rest

end

/-! ## Queries -/

/-- Checks a number of rows against its ceiling, if there are both. -/
def checkCeiling (violation : UInt64 → UInt64 → Violation) :
    (value max : Option UInt64) → Except Violation Unit
  | some value, some max => if max < value then .error (violation value max) else .ok ()
  | _, _ => .ok ()

/-- Checks the value of an option that is allowed. -/
def checkValue (policy : Policy) (query : Query) : QueryOption → Except Violation Unit
  | .filter =>
    match query.filter with
    | some filter => checkExpr policy filter
    | none => .ok ()
  | .skip => checkCeiling .skipExceeded query.skip policy.maxSkip
  | .top => checkCeiling .topExceeded query.top policy.maxTop
  | _ => .ok ()

/-- Checks an option, if the query has it. -/
def checkOption (policy : Policy) (query : Query) (option : QueryOption) :
    Except Violation Unit :=
  if !query.hasOption option then .ok ()
  else if policy.options.allows option then checkValue policy query option
  else .error (.optionNotAllowed option)

/-- Checks options from first to last. -/
def checkOptions (policy : Policy) (query : Query) : List QueryOption → Except Violation Unit
  | [] => .ok ()
  | option :: rest => do
    checkOption policy query option
    checkOptions policy query rest

/-- Checks a query: its options in their order, up to the first violation. -/
def check (policy : Policy) (query : Query) : Except Violation Unit :=
  checkOptions policy query Enumeration.values

end ODataToSql.Policy
