import ODataToSql.Enumeration
import ODataToSql.Json.Basic

/-!
# Records in JSON

How the parts of a document are read out of JSON values.

* A record is an object with named fields, or an array of its fields in their order. Fields that are
  not known are ignored, and a known one is not given twice.
* A tagged value is a record whose field `type` says what kind of value it is; the kind may decide
  what other fields there are.
* A value of an enumeration is its name, also as the only key of an object whose value is null.

The parts of a tagged value are held back until its tag is known. That makes a little more
acceptable in them: a name may be a key with an empty object, and a tag may be the number of its
kind.
-/

namespace ODataToSql.Json

/-! ## Plain values -/

/-- A text. -/
def asString? : Json → Option String
  | .string text => some text
  | _ => none

/-- A truth value. -/
def asBool? : Json → Option Bool
  | .bool value => some value
  | _ => none

/-- The items of an array. -/
def asArray? : Json → Option (List Json)
  | .array items => some items
  | _ => none

/-- The entries of an object. -/
def asObject? : Json → Option (List (String × Json))
  | .object fields => some fields
  | _ => none

/-- A number that was written as an integer from zero up to the largest of 64 bits. -/
def asUInt64? : Json → Option UInt64
  | .int value => if 0 ≤ value ∧ value < UInt64.size then some (UInt64.ofNat value.toNat) else none
  | _ => none

/-- A number that was written as an integer from zero up to the largest of 32 bits. -/
def asUInt32? : Json → Option UInt32
  | .int value => if 0 ≤ value ∧ value < UInt32.size then some (UInt32.ofNat value.toNat) else none
  | _ => none

/-- A list of values that are all read in one way. -/
def asList? {α : Type} (read : Json → Option α) (json : Json) : Option (List α) := do
  (← json.asArray?).mapM read

/-- A value that may be null. -/
def asNullable? {α : Type} (read : Json → Option α) : Json → Option (Option α)
  | .null => some none
  | json => (read json).map some

/-- The entries of an object, whose values are all read in one way. -/
def asEntries? {α : Type} (read : Json → Option α) (json : Json) :
    Option (List (String × α)) := do
  (← json.asObject?).mapM fun field => (read field.2).map fun value => (field.1, value)

/-- A dictionary. Of several values of one key the last one stays. -/
def asDict? {α : Type} (read : Json → Option α) (json : Json) : Option (Dict α) :=
  (json.asEntries? read).map Dict.ofList

/-! ## Records -/

/-- The value of the first field with a name. -/
def lookup? (fields : List (String × Json)) (name : String) : Option Json :=
  (fields.find? fun field => field.1 == name).map Prod.snd

/-- Whether a name occurs at most once among the names of fields. -/
def isSingle (fields : List (String × Json)) (name : String) : Bool :=
  (fields.filter fun field => field.1 == name).length ≤ 1

/-- The fields of a record with the given names, where those that are left out are missing. -/
def record? (names : List String) : Json → Option (String → Option Json)
  | .object fields =>
    if names.all (isSingle fields) then some (lookup? fields) else none
  | .array items =>
    if items.length ≤ names.length then some fun name => items[names.idxOf name]? else none
  | _ => none

/-- A field that may be left out, in which case it has a default. -/
def orDefault {α : Type} (field : Option Json) (default : α) (read : Json → Option α) : Option α :=
  match field with
  | some json => read json
  | none => some default

/-- A field that may be left out or null. -/
def orNone {α : Type} (field : Option Json) (read : Json → Option α) : Option (Option α) :=
  orDefault field none (asNullable? read)

/-! ## Tagged values -/

/-- The tag of a tagged value and its other fields. -/
def tagged? : Json → Option (Json × Json)
  | .object fields =>
    if isSingle fields "type" then
      (lookup? fields "type").map fun tag =>
        (tag, .object (fields.filter fun field => field.1 != "type"))
    else none
  | .array (tag :: items) => some (tag, .array items)
  | _ => none

/-- The value of an enumeration. In a part that was held back, its name may also be the key of an
empty object. -/
def asEnumerated? {α : Type} [Enumeration α] (heldBack : Bool) : Json → Option α
  | .string name => Enumeration.ofName? name
  | .object [(name, .null)] => Enumeration.ofName? name
  | .object [(name, .object [])] => if heldBack then Enumeration.ofName? name else none
  | _ => none

/-- The kind that a tag names. In a part that was held back it may be numbered instead. -/
def asTag? {α : Type} [Enumeration α] (heldBack : Bool) : Json → Option α
  | .string name => Enumeration.ofName? name
  | .int value =>
    if heldBack ∧ 0 ≤ value then (Enumeration.values (α := α))[value.toNat]? else none
  | _ => none

/-! ## Heights -/

mutual

/-- The number of arrays and objects inside of one another. -/
def height : Json → Nat
  | .array items => heightOfItems items + 1
  | .object fields => heightOfFields fields + 1
  | _ => 0

/-- The height of the highest item. -/
def heightOfItems : List Json → Nat
  | [] => 0
  | item :: rest => max item.height (heightOfItems rest)

/-- The height of the highest value of an entry. -/
def heightOfFields : List (String × Json) → Nat
  | [] => 0
  | (_, value) :: rest => max value.height (heightOfFields rest)

end

end ODataToSql.Json
