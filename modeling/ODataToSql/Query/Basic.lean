import ODataToSql.Query.Expr
import ODataToSql.Query.Option

/-!
# Queries

A query names the entity type it is about and gives the options of a request in typed form, each
of which may be missing, together with the raw texts of the options.

* `Projection.ofItems` and `Projection.isAll` treat an empty list and a list with a wildcard as a
  projection onto all columns.
* `Query.hasOption`: the option was supplied, in either form.
-/

namespace ODataToSql

/-- The direction of an ordering. -/
inductive Direction where
  | ascending
  | descending
deriving DecidableEq, Repr

namespace Direction

/-- The direction as it is written in a query document. -/
def name : Direction → String
  | .ascending => "ascending"
  | .descending => "descending"

instance : Enumeration Direction where
  values := [.ascending, .descending]
  complete direction := by cases direction <;> decide
  name := name
  distinct := by decide

end Direction

/-- One criterion of an ordering. -/
structure OrderItem where
  expr : Expr
  direction : Direction

/-- The ordering by a property of the queried entity. -/
def OrderItem.ofName (name : String) (direction : Direction) : OrderItem :=
  ⟨.ofName name, direction⟩

/-! ## Projections -/

/-- One item of a projection. -/
inductive SelectItem where
  /-- All columns. -/
  | wildcard
  | property (property : Property)
  /-- A navigation property whose entities are to be included. -/
  | expansion (navigation : Property)
deriving DecidableEq, Repr

namespace SelectItem

/-- What an item of a projection is. -/
inductive Kind where
  | wildcard
  | property
  | expansion
deriving DecidableEq, Repr

/-- The kind as it is written in a query document. -/
def Kind.name : Kind → String
  | .wildcard => "wildcard"
  | .property => "property"
  | .expansion => "expand"

instance : Enumeration Kind where
  values := [.wildcard, .property, .expansion]
  complete kind := by cases kind <;> decide
  name := Kind.name
  distinct := by decide

end SelectItem

/-- The columns that a query asks for. -/
inductive Projection where
  | all
  | items (items : List SelectItem)
deriving DecidableEq, Repr

namespace Projection

/-- What a projection is. -/
inductive Kind where
  | all
  | items
deriving DecidableEq, Repr

/-- The kind as it is written in a query document. -/
def Kind.name : Kind → String
  | .all => "all"
  | .items => "items"

instance : Enumeration Kind where
  values := [.all, .items]
  complete kind := by cases kind <;> decide
  name := Kind.name
  distinct := by decide

/-- The projection onto a list of items. Nothing and a wildcard both stand for all columns. -/
def ofItems (list : List SelectItem) : Projection :=
  if list.isEmpty || list.contains .wildcard then .all else .items list

/-- Whether the projection stands for all columns. -/
def isAll : Projection → Bool
  | .all => true
  | .items list => list.isEmpty || list.contains .wildcard

end Projection

/-! ## Queries -/

/-- The options of a request. -/
structure Query where
  /-- The entity type that the query is about. -/
  entityType : String
  filter : Option Expr := none
  orderBy : Option (List OrderItem) := none
  select : Option Projection := none
  /-- The number of rows to leave out. -/
  skip : Option UInt64 := none
  /-- The number of rows to return at most. -/
  top : Option UInt64 := none
  /-- Whether the number of all rows is asked for. -/
  count : Option Bool := none
  rawValues : RawValues := .empty

namespace Query

/-- Whether the number of all matching rows is asked for beside the rows. -/
def wantsCount (query : Query) : Bool :=
  query.count == some true

/-- Whether the option was supplied in typed form. -/
def hasTyped (query : Query) : QueryOption → Bool
  | .count => query.count.isSome
  | .filter => query.filter.isSome
  | .orderBy => query.orderBy.isSome
  | .select => query.select.isSome
  | .skip => query.skip.isSome
  | .top => query.top.isSome
  | .deltaToken | .format | .search | .expand | .skipToken | .apply => false

/-- Whether the option was supplied in typed form or as a raw text. -/
def hasOption (query : Query) (option : QueryOption) : Bool :=
  query.hasTyped option || query.rawValues.contains option

end Query
end ODataToSql
