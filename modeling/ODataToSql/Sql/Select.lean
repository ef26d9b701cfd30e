import ODataToSql.Sql.Term

/-!
# Select commands

A command is put together from clauses, some of which the caller's base command supplies as text.
Each clause knows whether it is empty; those that are not are joined by single spaces after the
word `SELECT`.

* `Select.opening` and `Select.ending` are what stands in front of the source of a command and
  behind it. The source is appended between them as it is.
* `Select.fragment` is the text of a command as a whole, and `Select.statement_eq` says so.
-/

namespace ODataToSql.Sql

/-- A `TOP` clause. -/
inductive Top where
  | empty
  /-- The caller's own clause. -/
  | verbatim (text : String)
  | rows (count : UInt64)
deriving DecidableEq, Repr

/-- What a command selects. -/
inductive SelectList where
  /-- The caller's own column list. -/
  | verbatim (text : String)
  | star
  | columns (columns : List Column)
  /-- The number of rows, counted by a key. -/
  | count (key : Column)
deriving DecidableEq, Repr

/-- The keyword in front of a generated condition. -/
inductive ConditionKeyword where
  /-- The condition is the first of the command. -/
  | introduce
  /-- The base command has a condition already. -/
  | extend
deriving DecidableEq, Repr

/-- The keyword with the space after it. -/
def ConditionKeyword.text : ConditionKeyword → String
  | .introduce => "WHERE "
  | .extend => "AND "

/-- A generated condition, if there is one. -/
structure Condition where
  keyword : ConditionKeyword
  predicate : Option Term

/-- The direction of an ordering. -/
inductive SortDirection where
  | ascending
  | descending
deriving DecidableEq, Repr

/-- What follows a column that is sorted in a direction. -/
def SortDirection.text : SortDirection → String
  | .ascending => ""
  | .descending => " DESC"

/-- A column that rows are sorted by. -/
structure SortKey where
  column : Column
  direction : SortDirection
deriving DecidableEq, Repr

/-- An `OFFSET` clause, and the `FETCH` clause that may follow it. -/
structure Paging where
  offset : Option UInt64
  fetch : Option UInt64
deriving DecidableEq, Repr

/-- A command from its clauses. -/
structure Select where
  top : Top
  list : SelectList
  /-- The base command from its `FROM` on. -/
  source : String
  condition : Condition
  orderBy : List SortKey
  paging : Paging

/-! ## The text of the clauses -/

namespace Top

/-- Whether the clause has no text. -/
def isEmpty : Top → Bool
  | .empty => true
  | .verbatim text => text.isEmpty
  | .rows _ => false

/-- The text of the clause. -/
def fragment : Top → Fragment
  | .empty => []
  | .verbatim text => [.text text]
  | .rows count => [.text ("TOP(" ++ Text.decimal count.toNat ++ ")")]

end Top

namespace SelectList

/-- Whether the list has no text. -/
def isEmpty : SelectList → Bool
  | .verbatim text => text.isEmpty
  | .columns list => list.isEmpty
  | .star | .count _ => false

/-- The text of the list. -/
def fragment : SelectList → Fragment
  | .verbatim text => [.text text]
  | .star => [.text "*"]
  | .columns list => Fragment.separated (list.map fun column => [.text column.text])
  | .count key => [.text "COUNT(", .text key.text, .text ")"]

end SelectList

namespace Condition

/-- No condition. -/
def none (keyword : ConditionKeyword) : Condition := ⟨keyword, .none⟩

/-- Whether there is no condition. -/
def isEmpty (condition : Condition) : Bool :=
  condition.predicate.isNone

/-- The condition after its keyword, if there is one. -/
def fragment (condition : Condition) : Fragment :=
  match condition.predicate with
  | some predicate => .text condition.keyword.text :: predicate.fragment
  | .none => []

end Condition

/-- The text of a column that rows are sorted by. -/
def SortKey.fragment (key : SortKey) : Fragment :=
  [.text key.column.text, .text key.direction.text]

/-- The `ORDER BY` clause of a list of columns. Without a column there is none. -/
def orderByFragment (keys : List SortKey) : Fragment :=
  match keys with
  | [] => []
  | keys => .text "ORDER BY " :: Fragment.separated (keys.map SortKey.fragment)

namespace Paging

/-- No paging. -/
def none : Paging := ⟨.none, .none⟩

/-- Whether the clause has no text: without an offset there is no paging. -/
def isEmpty (paging : Paging) : Bool :=
  paging.offset.isNone

/-- The text of the clause. Rows are fetched after an offset only. -/
def fragment (paging : Paging) : Fragment :=
  match paging.offset, paging.fetch with
  | .none, _ => []
  | some offset, .none => [.text ("OFFSET " ++ Text.decimal offset.toNat ++ " ROWS")]
  | some offset, some fetch =>
    [.text ("OFFSET " ++ Text.decimal offset.toNat ++ " ROWS"),
      .text (" FETCH NEXT " ++ Text.decimal fetch.toNat ++ " ROWS ONLY")]

end Paging

namespace Select

/-- The command `SELECT COUNT(key)` over a source. -/
def counting (key : Column) (source : String) (condition : Condition) : Select :=
  { top := .empty
    list := .count key
    source := source
    condition := condition
    orderBy := []
    paging := .none }

/-- What stands in front of the source of a command. -/
def opening (select : Select) : Fragment :=
  .text "SELECT" ::
    Fragment.spaced select.top.isEmpty select.top.fragment ++
    Fragment.spaced select.list.isEmpty select.list.fragment

/-- What stands behind the source of a command. -/
def ending (select : Select) : Fragment :=
  Fragment.spaced select.condition.isEmpty select.condition.fragment ++
    Fragment.spaced select.orderBy.isEmpty (orderByFragment select.orderBy) ++
    Fragment.spaced select.paging.isEmpty select.paging.fragment

/-- The command as a statement whose placeholders are numbered after the given arguments. -/
def statement (select : Select) (arguments : List Datum) : Statement :=
  let opened := (Statement.start arguments).append select.opening
  (opened.appendSpaced select.source).append select.ending

/-- The text of the command, with its values still to be numbered. -/
def fragment (select : Select) : Fragment :=
  select.opening ++ Fragment.spaced select.source.isEmpty (.ofText select.source) ++ select.ending

/-- Piece by piece, it is the text of the command that is appended. -/
theorem statement_eq (select : Select) (arguments : List Datum) :
    select.statement arguments = (Statement.start arguments).append select.fragment := by
  rw [statement, Statement.appendSpaced_eq, fragment, Statement.append_append,
    Statement.append_append]

end Select
end ODataToSql.Sql
