import ODataToSql.CommandLine.Invocation
import ODataToSql.Policy.Check
import ODataToSql.PreparedQuery
import ODataToSql.Storage.ConfigurationDirectory

/-!
# The program

What each subcommand does with the files.

* `translate` reads a configuration and a request and gives the commands for it.
* `create` stores the configuration to start from, unless there is one already.
* `run` does what an invocation asks for.
-/

namespace ODataToSql.Program

open Json (orDefault orNone)

/-! ## Requests -/

/-- A query with the base command that it is built upon and the arguments of that command. -/
structure Request where
  /-- The base command, if the request names one. -/
  command : Option String
  arguments : List Datum
  query : Query

namespace Request

/-- Reads a request. -/
def ofJson? (json : Json) : Option Request := do
  let field ← json.record? ["command", "arguments", "query"]
  let command ← orNone (field "command") Json.asString?
  let arguments ← orDefault (field "arguments") [] (Json.asList? Datum.ofJson?)
  let query ← Query.ofJson? (← field "query")
  return ⟨command, arguments, query⟩

/-- The request that a text holds. -/
def ofText? (text : String) : Option Request := do
  ofJson? (← Json.ofText? text)

end Request

/-! ## Outcomes -/

/-- Why a subcommand came to nothing. -/
inductive Failure where
  /-- There is no configuration, or it cannot be read. -/
  | configuration (error : ConfigurationDirectory.LoadError)
  | version (error : UnsupportedVersion)
  /-- The file of the request cannot be read. -/
  | requestMissing (path : String)
  /-- The file holds no request. -/
  | requestMalformed (path : String)
  | violation (violation : Policy.Violation)
  | translation (error : Translation.Error)
  /-- There is a configuration already. -/
  | configurationExists (directory : String)
  /-- A file cannot be written. -/
  | unwritable (directory : String)

/-- The failure in words. -/
def Failure.message : Failure → String
  | .configuration .missing => "the configuration cannot be read"
  | .configuration .malformed => "the configuration is malformed"
  | .version error => error.message
  | .requestMissing path => "reading " ++ path
  | .requestMalformed path => "parsing " ++ path
  | .violation found => found.message
  | .translation error => error.message
  | .configurationExists directory => "a configuration already exists in " ++ directory
  | .unwritable directory => "writing " ++ directory

/-- The commands for a request. -/
structure Output where
  rows : Sql.Statement
  /-- The command for the number of rows, if the query asks for it. -/
  count : Option Sql.Statement

namespace Output

/-- The fields of a command. -/
def statementFields (statement : Sql.Statement) : List (String × Json) :=
  [("sql", .string statement.text), ("arguments", .array (statement.arguments.map Datum.json))]

/-- The commands as a record. -/
def toJson (output : Output) : Json :=
  .object <|
    statementFields output.rows ++
      [("count", (output.count.map fun count => .object (statementFields count)).getD .null)]

end Output

/-! ## Subcommands -/

/-- The configuration of a directory, ready for use. -/
def configuration (files : Files) (directory : String) : Except Failure Configuration := do
  let stored ← (ConfigurationDirectory.load files directory).mapError .configuration
  stored.use.mapError .version

/-- The request in a file. -/
def request (files : Files) (path : String) : Except Failure Request :=
  match files.read? path with
  | none => .error (.requestMissing path)
  | some text =>
    match Request.ofText? text with
    | some request => .ok request
    | none => .error (.requestMalformed path)

/-- The commands of a prepared query, the one for the number of rows first. -/
def commands (naming : Naming Unit) : PreparedQuery.Session Unit Output := do
  let (prepared, _) ← get
  let count ←
    if prepared.query.wantsCount then some <$> PreparedQuery.totalStatement naming
    else pure none
  let rows ← PreparedQuery.rowsStatement naming
  return ⟨rows, count⟩

/-- Translates the request in a file with the configuration in a directory. The base command is the
given one, else that of the request, else the default. -/
def translate (files : Files) (directory path : String) (command : Option String)
    (validate : Bool) : Except Failure Output := do
  let configuration ← configuration files directory
  let request ← request files path
  if validate then
    (configuration.policy.check request.query).mapError .violation
  let command := (command <|> request.command).getD BaseCommand.defaultText
  let naming := Naming.ofCatalogue configuration.catalogue request.query.entityType
  let prepared := PreparedQuery.new command request.arguments request.query
  ((commands naming).run.run (prepared, ())).1.mapError .translation

/-- What a subcommand does with the files. It may fail, and what was changed until then stays. -/
abbrev Action (α : Type) := ExceptT Failure (StateM Files) α

/-- Changes files, where it is told why that may fail. -/
def Action.perform {α : Type} (change : Files.Change α) (failure : Failure) : Action α :=
  ExceptT.mk do
    match ← change.run with
    | some result => return .ok result
    | none => return .error failure

/-- Stores the configuration to start from in a directory that has none. -/
def create (directory : String) : Action Unit := do
  if ConfigurationDirectory.isTaken (← get) directory then
    throw (.configurationExists directory)
  else
    Action.perform (ConfigurationDirectory.store directory .initial) (.unwritable directory)

/-- The files that an invocation asks about. -/
def sources : Invocation → List String
  | .translate directory path _ _ =>
    [Path.join directory ConfigurationDirectory.fileName, path]
  | .create directory =>
    [Path.join directory ConfigurationDirectory.fileName,
      Path.join directory ConfigurationDirectory.schemaFileName]
  | .printSchema => []

/-- Does what an invocation asks for, and gives what is printed. -/
def run : Invocation → Action String
  | .translate directory path command validate => do
    let output ← ExceptT.mk (pure (translate (← get) directory path command validate))
    return output.toJson.pretty
  | .create directory => do
    create directory
    return ""
  | .printSchema => return StoredConfiguration.schema.pretty

end ODataToSql.Program
