import ODataToSql.Naming
import ODataToSql.Sql.Term
import ODataToSql.Translation.Error

/-!
# Translations

A translation asks a naming for columns and ends with a result or an error. What the naming
remembers of the questions is kept either way.
-/

namespace ODataToSql

/-- A computation that asks a naming with a state of type `σ`, and may fail. -/
abbrev Translation (σ α : Type) := ExceptT Translation.Error (StateM σ) α

namespace Translation

variable {σ : Type}

/-- The column of a property of the queried entity. -/
def column (naming : Naming σ) (property : Property) : Translation σ Sql.Column := do
  if property.isRoot then
    match ← naming.columnOf property with
    | some text => return ⟨text⟩
    | none => throw (.invalidColumn property)
  else throw (.unsupportedNode (.navigation property))

/-- The key column of an entity type, as the naming answers it. -/
def keyColumn (naming : Naming σ) (entityType : String) : Translation σ Sql.Column := do
  return ⟨← naming.key entityType⟩

/-- The result of a translation whose naming keeps no state. -/
def result {α : Type} (translation : Translation Unit α) : Except Error α :=
  (translation.run.run ()).1

end Translation
end ODataToSql
