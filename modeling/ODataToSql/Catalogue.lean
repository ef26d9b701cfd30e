import ODataToSql.Dict

/-!
# The catalogue of entity types

How entity types are stored: the key column of each, and the columns of those properties whose
column has not the name of the property.
-/

namespace ODataToSql

/-- How one entity type is stored. -/
structure EntityMapping where
  /-- The key column, quoted as far as it needs to be. -/
  key : Option String
  /-- The columns of properties, likewise. -/
  columns : Dict String
deriving DecidableEq

/-- Nothing is known about the entity type. -/
def EntityMapping.unknown : EntityMapping := ⟨none, .empty⟩

/-- How entity types are stored. -/
structure Catalogue where
  entities : Dict EntityMapping
deriving DecidableEq

namespace Catalogue

/-- The catalogue of no entity type. -/
def empty : Catalogue := ⟨.empty⟩

/-- What is known about an entity type. -/
def mapping (catalogue : Catalogue) (entityType : String) : EntityMapping :=
  (catalogue.entities.get? entityType).getD .unknown

end Catalogue
end ODataToSql
