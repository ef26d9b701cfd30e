import ODataToSql.Catalogue
import ODataToSql.Document.Query

/-!
# Catalogue documents

The JSON form of catalogues and of what they say about an entity type.
-/

namespace ODataToSql

open Json (orDefault orNone)

/-- A dictionary as an object. -/
def Dict.toJson {α : Type} (write : α → Json) (dict : Dict α) : Json :=
  .object (dict.entries.map fun entry => (entry.1, write entry.2))

namespace EntityMapping

/-- The mapping as a record. -/
def toJson (mapping : EntityMapping) : Json :=
  .object <|
    optionalField "key" mapping.key .string ++
      if mapping.columns.isEmpty then [] else [("columns", mapping.columns.toJson .string)]

/-- Reads a mapping. -/
def ofJson? (json : Json) : Option EntityMapping := do
  let field ← json.record? ["key", "columns"]
  let key ← orNone (field "key") Json.asString?
  let columns ← orDefault (field "columns") .empty (Json.asDict? Json.asString?)
  return ⟨key, columns⟩

end EntityMapping

namespace Catalogue

/-- The catalogue as a record. -/
def toJson (catalogue : Catalogue) : Json :=
  .object [("entities", catalogue.entities.toJson EntityMapping.toJson)]

/-- Reads a catalogue. -/
def ofJson? (json : Json) : Option Catalogue := do
  let field ← json.record? ["entities"]
  let entities ← orDefault (field "entities") .empty (Json.asDict? EntityMapping.ofJson?)
  return ⟨entities⟩

end Catalogue
end ODataToSql
