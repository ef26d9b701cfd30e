import ODataToSql.Catalogue
import ODataToSql.Query.Property
import ODataToSql.Text.Blank

/-!
# Names of columns

A naming answers two questions: which column holds a property, and which column is the key of an
entity type. It may keep a state, and an answer may depend on the questions before.

* `Naming.standard`: a property is held by the column of its name, and the key is `[Id]`.
* `Naming.ofCatalogue`: what a catalogue says, and the standard for all else.
* `Naming.columnOf`: an answer for a property counts only if it is more than white space.
-/

namespace ODataToSql

/-- How properties and entity types are turned into columns, with a state of type `σ`. -/
structure Naming (σ : Type) where
  /-- The column of a property, if there is one. -/
  column : Property → StateM σ (Option String)
  /-- The key column of an entity type. -/
  key : String → StateM σ String

namespace Naming

variable {σ : Type}

/-- The column that has the name of the property. -/
def standardColumn (property : Property) : String :=
  "[" ++ property.name ++ "]"

/-- The key column where nothing else is known. -/
def standardKey : String := "[Id]"

/-- A naming whose answers depend on the question alone. -/
def ofFunctions (column : Property → Option String) (key : String → String) : Naming σ where
  column property := pure (column property)
  key entityType := pure (key entityType)

/-- The naming that knows of no exceptions. -/
def standard : Naming σ :=
  ofFunctions (fun property => some (standardColumn property)) fun _ => standardKey

/-- The naming that a mapping gives for its entity type. -/
def ofMapping (mapping : EntityMapping) : Naming σ :=
  ofFunctions
    (fun property => some ((mapping.columns.get? property.name).getD (standardColumn property)))
    fun _ => mapping.key.getD standardKey

/-- The naming that a catalogue gives for an entity type. -/
def ofCatalogue (catalogue : Catalogue) (entityType : String) : Naming σ :=
  ofMapping (catalogue.mapping entityType)

/-- The column of a property, if the answer is more than white space. -/
def columnOf (naming : Naming σ) (property : Property) : StateM σ (Option String) := do
  return (← naming.column property).filter fun column => !Text.isBlankText column

end Naming
end ODataToSql
