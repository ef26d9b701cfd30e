import ODataToSql.Json.Basic
import ODataToSql.Query.FilterFunction
import ODataToSql.Query.Operator
import ODataToSql.Query.Property

/-!
# Expressions of the filter language

An expression is a tree of constants, properties, operators, function calls, type conversions and
quantified predicates. A conversion has no effect on what the expression selects; `stripCasts` looks
through those at the root.
-/

namespace ODataToSql

/-- An expression of the filter language. -/
inductive Expr where
  /-- A literal, which may be null. -/
  | constant (value : Datum)
  | property (property : Property)
  | binary (op : BinaryOp) (left right : Expr)
  | unary (op : UnaryOp) (operand : Expr)
  /-- A call of a function by its name, known or not. -/
  | call (name : String) (arguments : List Expr)
  /-- A conversion to the type that the context asks for. -/
  | cast (operand : Expr)
  /-- A predicate over the items of a collection. -/
  | lambda (quantifier : Quantifier) (collection : Property) (predicate : Option Expr)

namespace Expr

/-- Induction over expressions. The arguments of a call and the predicate of a quantifier are given
by membership. -/
@[elab_as_elim, induction_eliminator]
theorem induct {motive : Expr → Prop}
    (constant : ∀ value, motive (.constant value))
    (property : ∀ property, motive (.property property))
    (binary : ∀ op left right, motive left → motive right → motive (.binary op left right))
    (unary : ∀ op operand, motive operand → motive (.unary op operand))
    (call : ∀ name arguments, (∀ argument ∈ arguments, motive argument) →
      motive (.call name arguments))
    (cast : ∀ operand, motive operand → motive (.cast operand))
    (lambda : ∀ quantifier collection predicate, (∀ expr ∈ predicate, motive expr) →
      motive (.lambda quantifier collection predicate))
    (expr : Expr) : motive expr :=
  Expr.rec (motive_2 := fun arguments => ∀ argument ∈ arguments, motive argument)
    (motive_3 := fun predicate => ∀ expr ∈ predicate, motive expr)
    constant property binary unary call cast lambda
    (fun _ hmem => nomatch hmem)
    (fun _ _ hfirst hrest => List.forall_mem_cons.2 ⟨hfirst, hrest⟩)
    (fun _ hmem => nomatch hmem)
    (fun _ hexpr _ hmem => Option.mem_some_iff.1 hmem ▸ hexpr)
    expr

/-- The null literal. -/
def null : Expr := .constant Datum.null

/-- A property of the queried entity. -/
def ofName (name : String) : Expr := .property (Property.ofName name)

/-- The expression under the conversions at its root. -/
def stripCasts : Expr → Expr
  | .cast operand => operand.stripCasts
  | other => other

/-- Whether the expression is the null literal, if need be under conversions. -/
def isNull (expr : Expr) : Bool :=
  match expr.stripCasts with
  | .constant value => value.isNull
  | _ => false

/-! ## Kinds of expressions -/

/-- What stands at the root of an expression. -/
inductive Kind where
  | constant
  | property
  | binary
  | unary
  | call
  | cast
  | lambda
deriving DecidableEq, Repr

/-- What stands at the root of the expression. -/
def kind : Expr → Kind
  | .constant _ => .constant
  | .property _ => .property
  | .binary .. => .binary
  | .unary .. => .unary
  | .call .. => .call
  | .cast _ => .cast
  | .lambda .. => .lambda

/-- The kind as it is written in a query document. -/
def Kind.name : Kind → String
  | .constant => "constant"
  | .property => "property"
  | .binary => "binary_operation"
  | .unary => "unary_operation"
  | .call => "function_call"
  | .cast => "cast"
  | .lambda => "lambda"

instance : Enumeration Kind where
  values := [.constant, .property, .binary, .unary, .call, .cast, .lambda]
  complete kind := by cases kind <;> decide
  name := Kind.name
  distinct := by decide

/-- The kind of an expression in words. -/
def Kind.describe : Kind → String
  | .constant => "a constant"
  | .property => "a property"
  | .binary => "a binary operation"
  | .unary => "a unary operation"
  | .call => "a function call"
  | .cast => "a cast"
  | .lambda => "a lambda operator"

end Expr
end ODataToSql
