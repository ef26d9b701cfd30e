import ODataToSql.Dict
import ODataToSql.Enumeration

/-!
# Query options

The options that a request may carry, and the raw texts under which they were supplied. Keys that
belong to no option are dropped, and of several texts for one option the last one stays.
-/

namespace ODataToSql

/-- An option of a query. They are checked in this order. -/
inductive QueryOption where
  | count
  | deltaToken
  | format
  | filter
  | orderBy
  | search
  | select
  | expand
  | skip
  | skipToken
  | top
  | apply
deriving DecidableEq, Repr

namespace QueryOption

/-- The option without its sigil. -/
def name : QueryOption → String
  | .count => "count"
  | .deltaToken => "deltatoken"
  | .format => "format"
  | .filter => "filter"
  | .orderBy => "orderby"
  | .search => "search"
  | .select => "select"
  | .expand => "expand"
  | .skip => "skip"
  | .skipToken => "skiptoken"
  | .top => "top"
  | .apply => "apply"

instance : Enumeration QueryOption where
  values :=
    [.count, .deltaToken, .format, .filter, .orderBy, .search, .select, .expand, .skip, .skipToken,
      .top, .apply]
  complete option := by cases option <;> decide
  name := name
  distinct := by decide

/-- The key of the option in a query string. -/
def key (option : QueryOption) : String :=
  "$" ++ option.name

/-- The option with a key. -/
def ofKey? (key : String) : Option QueryOption :=
  (Enumeration.values (α := QueryOption)).find? fun option => option.key == key

end QueryOption

/-! ## Raw values -/

/-- The texts under which options were supplied. -/
structure RawValues where
  /-- The text of an option, if there is one. -/
  get? : QueryOption → Option String

namespace RawValues

/-- No option was supplied. -/
def empty : RawValues := ⟨fun _ => none⟩

/-- Sets the text of an option. -/
def set (values : RawValues) (option : QueryOption) (text : String) : RawValues :=
  ⟨fun other => if other = option then some text else values.get? other⟩

/-- Takes up a key and its text, if the key belongs to an option. -/
def addPair (values : RawValues) (pair : String × String) : RawValues :=
  match QueryOption.ofKey? pair.1 with
  | some option => values.set option pair.2
  | none => values

/-- The raw values of a sequence of keys and texts. -/
def ofPairs (pairs : List (String × String)) : RawValues :=
  pairs.foldl addPair empty

/-- Whether an option was supplied. -/
def contains (values : RawValues) (option : QueryOption) : Bool :=
  (values.get? option).isSome

/-- Whether no option was supplied. -/
def isEmpty (values : RawValues) : Bool :=
  (Enumeration.values (α := QueryOption)).all fun option => !values.contains option

/-- The keys and texts of the options that were supplied, in the order of the options. -/
def toPairs (values : RawValues) : List (String × String) :=
  (Enumeration.values (α := QueryOption)).filterMap fun option =>
    (values.get? option).map fun text => (option.key, text)

/-- The raw values under their keys. -/
def toDict (values : RawValues) : Dict String :=
  Dict.ofList values.toPairs

end RawValues
end ODataToSql
