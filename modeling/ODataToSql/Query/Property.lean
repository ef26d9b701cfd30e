/-!
# Properties

A property belongs to the entity that a query is about, or it is reached from there through
navigation properties.
-/

namespace ODataToSql

/-- A reference to a property of an entity. -/
structure Property where
  name : String
  /-- The navigation properties that lead to the property, from the queried entity on. -/
  path : List String
deriving DecidableEq, Repr

namespace Property

/-- A property of the queried entity itself. -/
def ofName (name : String) : Property := ⟨name, []⟩

/-- Whether the property belongs to the queried entity itself. -/
def isRoot (property : Property) : Bool :=
  property.path.isEmpty

/-- The path and the name with slashes between them. -/
def display (property : Property) : String :=
  property.path.foldr (fun segment rest => segment ++ "/" ++ rest) property.name

end Property
end ODataToSql
