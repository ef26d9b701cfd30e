import ODataToSql.BaseCommand
import ODataToSql.Translation.Clauses
import ODataToSql.Translation.Filter

/-!
# Commands

A query is spliced into a base command, and what the base command specifies wins over what the query
asks for.

* `rows` is the command for the rows that the query asks for.
* `count` is the command for the number of all rows that match the filter, whatever the projection,
  the ordering and the paging. A query has one if it asks for the number.
-/

namespace ODataToSql.Translation

open Sql

variable {σ : Type}

/-- The parts of a base command. -/
def baseCommand (command : String) : Except Error BaseCommand :=
  match BaseCommand.ofText? command with
  | some base => .ok base
  | none => .error (.unsupportedShape command)

/-- The keyword in front of a condition that follows the base command. -/
def conditionKeyword (base : BaseCommand) : ConditionKeyword :=
  if base.isFiltered then .extend else .introduce

/-- The `TOP` clause: the base command's own, else the query's. -/
def chosenTop (base : BaseCommand) (query : Query) : Top :=
  if base.top.isEmpty then top query else .verbatim base.top

/-- The select list: the base command's own, else the query's. -/
def chosenList (naming : Naming σ) (base : BaseCommand) (query : Query) :
    Translation σ SelectList :=
  if base.columns.isEmpty then selectList naming query.select
  else return .verbatim base.columns

/-- The clauses of the command for the rows of a query. -/
def rowsSelect (naming : Naming σ) (command : String) (query : Query) : Translation σ Select := do
  let base ← baseCommand command
  let list ← chosenList naming base query
  let condition ← condition naming query.filter (conditionKeyword base)
  let orderBy ← orderBy naming query.orderBy
  return {
    top := chosenTop base query
    list := list
    source := base.source
    condition := condition
    orderBy := orderBy
    paging := paging query }

/-- The clauses of the command for the number of rows of a query. -/
def countSelect (naming : Naming σ) (command : String) (query : Query) : Translation σ Select := do
  let base ← baseCommand command
  let condition ← condition naming query.filter (conditionKeyword base)
  let key ← keyColumn naming query.entityType
  return .counting key base.source condition

/-- The command for the rows of a query, whose placeholders are numbered after the arguments that
the base command uses already. -/
def rows (naming : Naming σ) (command : String) (arguments : List Datum) (query : Query) :
    Translation σ Statement := do
  return (← rowsSelect naming command query).statement arguments

/-- The command for the number of rows that match the filter of a query. -/
def total (naming : Naming σ) (command : String) (arguments : List Datum) (query : Query) :
    Translation σ Statement := do
  return (← countSelect naming command query).statement arguments

/-- The command for the number of rows, if the query asks for it. -/
def count (naming : Naming σ) (command : String) (arguments : List Datum) (query : Query) :
    Translation σ (Option Statement) := do
  if query.wantsCount then return some (← total naming command arguments query)
  else return none

end ODataToSql.Translation
