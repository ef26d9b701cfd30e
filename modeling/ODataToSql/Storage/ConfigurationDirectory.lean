import ODataToSql.Document.Configuration
import ODataToSql.Json.Printer
import ODataToSql.Json.Reader
import ODataToSql.Storage.Files

/-!
# Configuration directories

A directory holds one configuration, in a file of its own, and beside it the schema of such files.
-/

namespace ODataToSql.ConfigurationDirectory

/-- The file that holds the configuration. -/
def fileName : String := "configuration.json"

/-- The file that holds the schema. -/
def schemaFileName : String := "schema.json"

/-- Why no configuration was found. -/
inductive LoadError where
  /-- There is no file to be read. -/
  | missing
  /-- The file holds no configuration. -/
  | malformed
deriving DecidableEq, Repr

/-- The configuration that a text holds. -/
def ofText? (text : String) : Option StoredConfiguration := do
  StoredConfiguration.ofJson? (← Json.ofText? text)

/-- Whether there is a configuration in a directory, valid or not. -/
def isTaken (files : Files) (directory : String) : Bool :=
  files.exists? (Path.join directory fileName)

/-- Loads the configuration of a directory. -/
def load (files : Files) (directory : String) : Except LoadError StoredConfiguration :=
  match files.read? (Path.join directory fileName) with
  | none => .error .missing
  | some text =>
    match ofText? text with
    | some stored => .ok stored
    | none => .error .malformed

/-- Stores a configuration in a directory, which is made if need be, in place of what is there. -/
def store (directory : String) (stored : StoredConfiguration) : Files.Change Unit := do
  Files.makeDirectory directory
  Files.write (Path.join directory fileName) stored.toJson.pretty
  Files.write (Path.join directory schemaFileName) StoredConfiguration.schema.pretty

end ODataToSql.ConfigurationDirectory
