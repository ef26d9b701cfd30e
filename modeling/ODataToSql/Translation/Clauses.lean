import ODataToSql.Query.Basic
import ODataToSql.Sql.Select
import ODataToSql.Translation.Basic

/-!
# The other clauses of a command

* `selectList`: the columns of a projection, or `*` for all of them.
* `top` and `paging`: rows are limited by `TOP` as long as none are skipped. Skipped rows need an
  ordering; with one, the limit follows the offset, and without one nothing is skipped.
* `orderBy`: rows are sorted by properties of the queried entity only.
-/

namespace ODataToSql.Translation

open Sql

variable {σ : Type}

/-- The column of an item of a projection. -/
def itemColumn (naming : Naming σ) : SelectItem → Translation σ Column
  | .property property => column naming property
  | .expansion navigation => throw (.unsupportedNode (.expansion navigation))
  | .wildcard => throw (.unsupportedNode .wildcard)

/-- The columns of a list of items, from first to last. -/
def itemColumns (naming : Naming σ) : List SelectItem → Translation σ (List Column)
  | [] => return []
  | item :: rest => do
    let column ← itemColumn naming item
    let columns ← itemColumns naming rest
    return column :: columns

/-- The select list of a projection. -/
def selectList (naming : Naming σ) (select : Option Projection) : Translation σ SelectList :=
  match select with
  | some (.items items) =>
    if (Projection.items items).isAll then return .star
    else return .columns (← itemColumns naming items)
  | _ => return .star

/-- The `TOP` clause of a query. -/
def top (query : Query) : Top :=
  match query.top, query.skip with
  | some count, none => .rows count
  | _, _ => .empty

/-- The paging of a query. -/
def paging (query : Query) : Paging :=
  match query.skip, query.orderBy with
  | some skip, some (_ :: _) => ⟨some skip, query.top⟩
  | _, _ => .none

/-- The direction of a sort key. -/
def sortDirection : Direction → SortDirection
  | .ascending => .ascending
  | .descending => .descending

/-- The sort key of one criterion. -/
def sortKey (naming : Naming σ) (item : OrderItem) : Translation σ SortKey :=
  match item.expr with
  | .property property => return ⟨← column naming property, sortDirection item.direction⟩
  | other => throw (.unsupportedNode (.orderingBy other.kind))

/-- The sort keys of a list of criteria, from first to last. -/
def sortKeys (naming : Naming σ) : List OrderItem → Translation σ (List SortKey)
  | [] => return []
  | item :: rest => do
    let key ← sortKey naming item
    let keys ← sortKeys naming rest
    return key :: keys

/-- The sort keys of a query. -/
def orderBy (naming : Naming σ) (items : Option (List OrderItem)) : Translation σ (List SortKey) :=
  sortKeys naming (items.getD [])

end ODataToSql.Translation
