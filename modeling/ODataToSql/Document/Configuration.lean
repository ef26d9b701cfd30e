import ODataToSql.Configuration
import ODataToSql.Document.Catalogue
import ODataToSql.Document.Policy

/-!
# Configuration documents

The JSON form of stored configurations, and its schema.
-/

namespace ODataToSql

open Json (orDefault)

namespace StoredConfiguration

/-- The configuration as a record. -/
def toJson (stored : StoredConfiguration) : Json :=
  .object
    [("version", .int stored.version.toNat),
      ("metadata", stored.catalogue.toJson),
      ("validation", stored.policy.toJson)]

/-- Reads a configuration. Only the version is required. -/
def ofJson? (json : Json) : Option StoredConfiguration := do
  let field ← json.record? ["version", "metadata", "validation"]
  let version ← (← field "version").asUInt32?
  let catalogue ← orDefault (field "metadata") .empty Catalogue.ofJson?
  let policy ← orDefault (field "validation") .permissive Policy.ofJson?
  return ⟨version, catalogue, policy⟩

/-! ## Schema -/

/-- The schema of values of a type. -/
def typeSchema (name : String) : Json :=
  .object [("type", .string name)]

/-- The schema of records with given fields, of which some are required. -/
def recordSchema (required : List String) (fields : List (String × Json)) :
    List (String × Json) :=
  [("type", .string "object"),
    ("required", .array (required.map .string)),
    ("properties", .object fields)]

/-- The schema of dictionaries with given values. -/
def dictSchema (values : Json) : Json :=
  .object [("type", .string "object"), ("additionalProperties", values)]

/-- The schema of lists of the names of an enumeration. -/
def namesSchema (α : Type) [Enumeration α] : Json :=
  let names := (Enumeration.values (α := α)).map fun a => Json.string (Enumeration.name a)
  .object
    [("type", .string "array"), ("items", .object [("enum", .array names)]),
      ("uniqueItems", .bool true)]

/-- The schema of numbers that may be left out, from zero on. -/
def ceilingSchema : Json :=
  .object
    [("type", .array [.string "integer", .string "null"]), ("minimum", .int 0)]

/-- The schema of configuration documents. -/
def schema : Json :=
  let mapping := recordSchema []
    [("key", .object [("type", .array [.string "string", .string "null"])]),
      ("columns", dictSchema (typeSchema "string"))]
  let metadata := recordSchema [] [("entities", dictSchema (.object mapping))]
  let validation := recordSchema []
    [("allowedOptions", namesSchema QueryOption),
      ("allowedOperators", namesSchema Policy.Operator),
      ("allowedFunctions", namesSchema FilterFunction),
      ("maxSkip", ceilingSchema),
      ("maxTop", ceilingSchema)]
  let version := Json.object [("type", .string "integer"), ("minimum", .int 0)]
  .object <| ("title", .string "ParsedConfiguration") ::
    recordSchema ["version"]
      [("version", version), ("metadata", .object metadata), ("validation", .object validation)]

end StoredConfiguration
end ODataToSql
