import ODataToSql.Translation.Command

/-!
# Prepared queries

A prepared query is translated when it is first asked for, and a command that was found is kept:
the command text and the arguments always belong together, and the naming is not asked again. The
command for the number of rows is kept apart from the one for the rows. A failure is not kept.
-/

namespace ODataToSql

/-- A query with the commands that were found for it so far. -/
structure PreparedQuery where
  command : String
  /-- The arguments that the base command uses already. -/
  arguments : List Datum
  query : Query
  /-- The command for the rows, once it is found. -/
  rows : Option Sql.Statement
  /-- The command for the number of rows, once it is found. -/
  total : Option Sql.Statement

namespace PreparedQuery

variable {σ : Type}

/-- A query on top of a base command, not translated yet. -/
def new (command : String) (arguments : List Datum) (query : Query) : PreparedQuery :=
  ⟨command, arguments, query, none, none⟩

/-- A computation that asks a naming and may find commands of a prepared query. -/
abbrev Session (σ α : Type) := ExceptT Translation.Error (StateM (PreparedQuery × σ)) α

/-- Runs a translation, which asks the naming and finds nothing by itself. -/
def Session.translate {α : Type} (translation : Translation σ α) : Session σ α :=
  ExceptT.mk fun (prepared, state) =>
    let (result, state) := translation.run.run state
    (result, (prepared, state))

/-- The command for the rows. -/
def rowsStatement (naming : Naming σ) : Session σ Sql.Statement := do
  let (prepared, _) ← get
  match prepared.rows with
  | some statement => return statement
  | none =>
    let statement ← Session.translate <|
      Translation.rows naming prepared.command prepared.arguments prepared.query
    modify fun (prepared, state) => ({ prepared with rows := some statement }, state)
    return statement

/-- The command for the number of rows. -/
def totalStatement (naming : Naming σ) : Session σ Sql.Statement := do
  let (prepared, _) ← get
  match prepared.total with
  | some statement => return statement
  | none =>
    let statement ← Session.translate <|
      Translation.total naming prepared.command prepared.arguments prepared.query
    modify fun (prepared, state) => ({ prepared with total := some statement }, state)
    return statement

/-! ## Questions -/

/-- What a prepared query can be asked for. -/
inductive Question where
  | commandText
  | arguments
  | countCommandText
  | countArguments
deriving DecidableEq, Repr

/-- What a prepared query answers. -/
inductive Answer where
  | text (text : String)
  | arguments (values : List Datum)
  /-- The number of rows is not asked for, so there is no command for it. -/
  | absent

/-- Asks for the number of rows only if the query does. -/
def ifCounted (session : Session σ Answer) : Session σ Answer := do
  let (prepared, _) ← get
  if prepared.query.wantsCount then session else return .absent

/-- Answers a question. -/
def answer (naming : Naming σ) : Question → Session σ Answer
  | .commandText => return .text (← rowsStatement naming).text
  | .arguments => return .arguments (← rowsStatement naming).arguments
  | .countCommandText => ifCounted do return .text (← totalStatement naming).text
  | .countArguments => ifCounted do return .arguments (← totalStatement naming).arguments

end PreparedQuery
end ODataToSql
