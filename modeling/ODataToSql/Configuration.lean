import ODataToSql.Catalogue
import ODataToSql.Policy.Basic
import ODataToSql.Text.Decimal

/-!
# Configurations

What the program is told about a database: the catalogue of its entity types and the policy for
queries. A stored configuration also says in which version of the format it is written, and only the
current version is used.
-/

namespace ODataToSql

/-- What queries are translated and checked with. -/
structure Configuration where
  catalogue : Catalogue
  policy : Policy
deriving DecidableEq

/-- A configuration with the version of the format that it is stored in. -/
structure StoredConfiguration where
  version : UInt32
  catalogue : Catalogue
  policy : Policy
deriving DecidableEq

/-- The configuration is stored in a version that is not supported. -/
structure UnsupportedVersion where
  version : UInt32
deriving DecidableEq, Repr

namespace StoredConfiguration

/-- The version that is supported. -/
def currentVersion : UInt32 := 1

/-- The configuration to start from: nothing is known about entity types, and every query is
allowed. -/
def initial : StoredConfiguration :=
  ⟨currentVersion, .empty, .permissive⟩

/-- The configuration without its version, if that is supported. -/
def use (stored : StoredConfiguration) : Except UnsupportedVersion Configuration :=
  if stored.version = currentVersion then .ok ⟨stored.catalogue, stored.policy⟩
  else .error ⟨stored.version⟩

end StoredConfiguration

/-- The error in words. -/
def UnsupportedVersion.message (error : UnsupportedVersion) : String :=
  "unsupported configuration version " ++ Text.decimal error.version.toNat ++
    ", expected version " ++ Text.decimal StoredConfiguration.currentVersion.toNat

end ODataToSql
