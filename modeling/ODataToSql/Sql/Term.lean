import ODataToSql.Sql.Statement

/-!
# Scalar terms

The scalar expressions of a command: columns, literals, bound values, operators, `LIKE` matches and
function calls. `Term.fragment` is the text of a term. An operator with two operands has parentheses
around it, and so have the pattern of a `LIKE` and what is nested; a negation has none.
-/

namespace ODataToSql.Sql

/-- The name of a column, quoted as far as it needs to be. -/
structure Column where
  text : String
deriving DecidableEq, Repr

/-- An operator with two operands. -/
inductive Operator where
  | and
  | or
  | equals
  | notEquals
  | greaterThan
  | greaterThanOrEqualTo
  | lessThan
  | lessThanOrEqualTo
  | is
  | isNot
  | add
  | subtract
  | multiply
  | divide
  | modulo
deriving DecidableEq, Repr

/-- The operator with the spaces around it. -/
def Operator.text : Operator → String
  | .and => " AND "
  | .or => " OR "
  | .equals => " = "
  | .notEquals => " <> "
  | .greaterThan => " > "
  | .greaterThanOrEqualTo => " >= "
  | .lessThan => " < "
  | .lessThanOrEqualTo => " <= "
  | .is => " IS "
  | .isNot => " IS NOT "
  | .add => " + "
  | .subtract => " - "
  | .multiply => " * "
  | .divide => " / "
  | .modulo => " % "

/-- A scalar function. -/
inductive ScalarFunction where
  | charIndex
  | lTrim
  | rTrim
  | datePart
  | dateDiff
  | len
  | lower
  | upper
  | getUtcDate
  | substring
  | concat
  | year
  | month
  | day
  | round
  | floor
  | ceiling
deriving DecidableEq, Repr

/-- The name of the function. -/
def ScalarFunction.text : ScalarFunction → String
  | .charIndex => "CHARINDEX"
  | .lTrim => "LTRIM"
  | .rTrim => "RTRIM"
  | .datePart => "DATEPART"
  | .dateDiff => "DATEDIFF"
  | .len => "LEN"
  | .lower => "LOWER"
  | .upper => "UPPER"
  | .getUtcDate => "GETUTCDATE"
  | .substring => "SUBSTRING"
  | .concat => "CONCAT"
  | .year => "YEAR"
  | .month => "MONTH"
  | .day => "DAY"
  | .round => "ROUND"
  | .floor => "FLOOR"
  | .ceiling => "CEILING"

/-- A part of a point in time, as `DATEPART` and `DATEDIFF` take it. -/
inductive DatePart where
  | hour
  | minute
  | second
  | tzOffset
deriving DecidableEq, Repr

/-- The keyword of the part. -/
def DatePart.text : DatePart → String
  | .hour => "hour"
  | .minute => "minute"
  | .second => "second"
  | .tzOffset => "TZoffset"

/-- A type that a value is converted to. -/
inductive ScalarType where
  | date
  | time
deriving DecidableEq, Repr

/-- The name of the type. -/
def ScalarType.text : ScalarType → String
  | .date => "DATE"
  | .time => "TIME"

/-- On which side of the value a `LIKE` pattern has wildcards. -/
inductive LikePattern where
  | contains
  | startsWith
  | endsWith
deriving DecidableEq, Repr

/-- A scalar expression. -/
inductive Term where
  | column (column : Column)
  | null
  /-- An integer that is written into the text. -/
  | int (value : Int)
  /-- A value that is bound to a placeholder. -/
  | parameter (value : Datum)
  | binary (left : Term) (operator : Operator) (right : Term)
  | not (operand : Term)
  | like (operand : Term) (pattern : LikePattern) (value : Term)
  /-- A term in parentheses. -/
  | nested (inner : Term)
  | call (function : ScalarFunction) (arguments : List Term)
  | datePart (part : DatePart)
  | cast (operand : Term) (type : ScalarType)

/-- Induction over terms. The arguments of a call are given by membership. -/
@[elab_as_elim, induction_eliminator]
theorem Term.induct {motive : Term → Prop}
    (column : ∀ column, motive (.column column))
    (null : motive .null)
    (int : ∀ value, motive (.int value))
    (parameter : ∀ value, motive (.parameter value))
    (binary : ∀ left operator right, motive left → motive right →
      motive (.binary left operator right))
    (not : ∀ operand, motive operand → motive (.not operand))
    (like : ∀ operand pattern value, motive operand → motive value →
      motive (.like operand pattern value))
    (nested : ∀ inner, motive inner → motive (.nested inner))
    (call : ∀ function arguments, (∀ argument ∈ arguments, motive argument) →
      motive (.call function arguments))
    (datePart : ∀ part, motive (.datePart part))
    (cast : ∀ operand type, motive operand → motive (.cast operand type))
    (term : Term) : motive term :=
  Term.rec (motive_2 := fun arguments => ∀ argument ∈ arguments, motive argument)
    column null int parameter binary not like nested call datePart cast
    (fun _ hmem => nomatch hmem)
    (fun _ _ hfirst hrest => List.forall_mem_cons.2 ⟨hfirst, hrest⟩)
    term

/-! ## The text of a term -/

/-- The pattern of a `LIKE` in its parentheses. -/
def LikePattern.fragment (pattern : LikePattern) (value : Fragment) : Fragment :=
  match pattern with
  | .contains => .text "('%' + " :: value ++ [.text " + '%')"]
  | .startsWith => .text "(" :: value ++ [.text " + '%')"]
  | .endsWith => .text "('%' + " :: value ++ [.text ")"]

namespace Term

/-- The text of a whole number. -/
def intText (value : Int) : String :=
  (if value < 0 then "-" else "") ++ Text.decimal value.natAbs

mutual

/-- The text of a term, with its values still to be numbered. -/
def fragment : Term → Fragment
  | .column name => [.text name.text]
  | .null => [.text "NULL"]
  | .int value => [.text (intText value)]
  | .parameter value => [.argument value]
  | .binary left operator right =>
    .text "(" :: left.fragment ++ .text operator.text :: right.fragment ++ [.text ")"]
  | .not operand => .text "NOT " :: operand.fragment
  | .like operand pattern value =>
    operand.fragment ++ .text " LIKE " :: pattern.fragment value.fragment
  | .nested inner => .text "(" :: inner.fragment ++ [.text ")"]
  | .call function arguments =>
    .text function.text :: .text "(" :: Fragment.separated (fragments arguments) ++ [.text ")"]
  | .datePart part => [.text part.text]
  | .cast operand type =>
    .text "CAST(" :: operand.fragment ++ [.text " AS ", .text type.text, .text ")"]

/-- The texts of the arguments of a call. -/
def fragments : List Term → List Fragment
  | [] => []
  | argument :: rest => argument.fragment :: fragments rest

end

/-- The texts of the arguments are the texts of each of them. -/
@[simp]
theorem fragments_eq_map (arguments : List Term) : fragments arguments = arguments.map fragment := by
  induction arguments with
  | nil => rfl
  | cons argument rest ih => rw [fragments, ih, List.map_cons]

end Term
end ODataToSql.Sql
