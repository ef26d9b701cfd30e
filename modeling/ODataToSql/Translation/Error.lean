import ODataToSql.Query.Expr
import ODataToSql.Text.Decimal

/-!
# Errors of the translation

Why a query has no command, as a cause and in words.
-/

namespace ODataToSql.Translation

/-- A part of a query that has no counterpart in SQL. -/
inductive Unsupported where
  /-- A property of another entity. -/
  | navigation (property : Property)
  /-- A navigation property in a projection. -/
  | expansion (navigation : Property)
  /-- A wildcard among the columns of a projection. -/
  | wildcard
  | negation
  | has
  | lambda (quantifier : Quantifier)
  /-- An ordering by something else than a property. -/
  | orderingBy (kind : Expr.Kind)
deriving DecidableEq, Repr

/-- The part of the query in words. -/
def Unsupported.describe : Unsupported → String
  | .navigation property => "the navigation property '" ++ property.display ++ "'"
  | .expansion target => "the expanded navigation property '" ++ target.display ++ "'"
  | .wildcard => "a wildcard"
  | .negation => "the negation operator"
  | .has => "the 'has' operator"
  | .lambda quantifier => "the '" ++ quantifier.name ++ "' lambda operator"
  | .orderingBy kind => "ordering by " ++ kind.describe

/-- Why a query has no command. -/
inductive Error where
  /-- The base command is none. -/
  | unsupportedShape (command : String)
  /-- A property has no column. -/
  | invalidColumn (property : Property)
  | unsupportedNode (node : Unsupported)
  /-- The function has no counterpart, or there is no such function. -/
  | unsupportedFunction (name : String)
  /-- A call has fewer arguments than the term is made of. -/
  | missingArgument (function : String) (expected : Nat)
deriving DecidableEq, Repr

/-- The error in words. -/
def Error.message : Error → String
  | .unsupportedShape command =>
    "The SQL command text '" ++ command ++
      "' does not contain any of the supported SELECT clauses."
  | .invalidColumn property =>
    "The column name of property '" ++ property.display ++ "' is invalid."
  | .unsupportedNode node => "Queries containing " ++ node.describe ++ " are not supported."
  | .unsupportedFunction name => "The function '" ++ name ++ "' is not supported."
  | .missingArgument function expected =>
    "The function '" ++ function ++ "' requires at least " ++
      Text.decimal expected ++ " argument(s)."

end ODataToSql.Translation
