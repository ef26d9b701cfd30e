import ODataToSql.Dict
import ODataToSql.Json.Double

/-!
# JSON values

`Json` is what reading a text gives: the entries of an object stand in the order of the text, also
those that repeat a key, and a part that is well formed but stands for no value is `unreadable`.
Such a part may be skipped over, but not used.

`Datum` is a JSON value in canonical form: readable throughout, and every object with its keys in
ascending order. Equal values are equal data, which is what a bound argument has to be.

* `Json.isReadable`: no part of the value is unreadable.
* `Json.isCanonical`: readable, and the keys of each object ascend.
* `Datum.ofJson?`: the canonical form of a readable value. The last entry of a key wins.
-/

namespace ODataToSql

/-- A JSON value as it was read. -/
inductive Json where
  | null
  | bool (value : Bool)
  /-- A number that was written as an integer. -/
  | int (value : Int)
  /-- Any other number. -/
  | double (value : Double)
  | string (value : String)
  | array (items : List Json)
  /-- The entries in the order of the text. -/
  | object (fields : List (String × Json))
  /-- A part that is well formed and stands for no value: a number beyond the doubles, half of a
  surrogate pair, or an array or object too deep inside of others. -/
  | unreadable

namespace Json

mutual

/-- Whether no part of the value is unreadable. -/
def isReadable : Json → Bool
  | .array items => allReadable items
  | .object fields => fieldsReadable fields
  | .unreadable => false
  | _ => true

/-- Whether all items are readable. -/
def allReadable : List Json → Bool
  | [] => true
  | item :: rest => item.isReadable && allReadable rest

/-- Whether the values of all entries are readable. -/
def fieldsReadable : List (String × Json) → Bool
  | [] => true
  | (_, value) :: rest => value.isReadable && fieldsReadable rest

end

mutual

/-- Whether the value is readable and the keys of all its objects ascend. -/
def isCanonical : Json → Bool
  | .array items => allCanonical items
  | .object fields =>
    decide (fields.Pairwise fun a b => a.1 < b.1) && fieldsCanonical fields
  | .unreadable => false
  | _ => true

/-- Whether all items are canonical. -/
def allCanonical : List Json → Bool
  | [] => true
  | item :: rest => item.isCanonical && allCanonical rest

/-- Whether the values of all entries are canonical. -/
def fieldsCanonical : List (String × Json) → Bool
  | [] => true
  | (_, value) :: rest => value.isCanonical && fieldsCanonical rest

end

/-- All items are canonical if each of them is. -/
theorem allCanonical_eq_true {items : List Json} :
    allCanonical items = true ↔ ∀ item ∈ items, item.isCanonical = true := by
  induction items with
  | nil => simp [allCanonical]
  | cons item rest ih => simp [allCanonical, ih]

/-- The values of all entries are canonical if each of them is. -/
theorem fieldsCanonical_eq_true {fields : List (String × Json)} :
    fieldsCanonical fields = true ↔ ∀ field ∈ fields, field.2.isCanonical = true := by
  induction fields with
  | nil => simp [fieldsCanonical]
  | cons field rest ih => simp [fieldsCanonical, ih]

/-! ## Canonical form -/

mutual

/-- The value with the keys of all its objects in ascending order, if it is readable. -/
def canonical? : Json → Option Json
  | .array items => (canonicalAll? items).map .array
  | .object fields =>
    (canonicalFields? fields).map fun fields => .object (Dict.ofList fields).entries
  | .unreadable => none
  | .null => some .null
  | .bool value => some (.bool value)
  | .int value => some (.int value)
  | .double value => some (.double value)
  | .string value => some (.string value)

/-- The canonical forms of all items. -/
def canonicalAll? : List Json → Option (List Json)
  | [] => some []
  | item :: rest =>
    match item.canonical?, canonicalAll? rest with
    | some item, some rest => some (item :: rest)
    | _, _ => none

/-- The entries in their order, with the canonical forms of their values. -/
def canonicalFields? : List (String × Json) → Option (List (String × Json))
  | [] => some []
  | (key, value) :: rest =>
    match value.canonical?, canonicalFields? rest with
    | some value, some rest => some ((key, value) :: rest)
    | _, _ => none

end

mutual

/-- A canonical form is canonical. -/
theorem isCanonical_of_canonical? : ∀ {json form : Json},
    json.canonical? = some form → form.isCanonical = true
  | .array items, form, h => by
    obtain ⟨forms, hforms, rfl⟩ := Option.map_eq_some_iff.1 h
    exact allCanonical_eq_true.2 (isCanonical_of_canonicalAll? hforms)
  | .object fields, form, h => by
    obtain ⟨forms, hforms, rfl⟩ := Option.map_eq_some_iff.1 h
    have hall := isCanonical_of_canonicalFields? hforms
    simp only [isCanonical, Bool.and_eq_true, decide_eq_true_eq]
    exact ⟨(Dict.ofList forms).ascending,
      fieldsCanonical_eq_true.2 fun field hfield => hall field (Dict.mem_of_mem_ofList hfield)⟩
  | .unreadable, _, h => by cases h
  | .null, _, h => by cases h; rfl
  | .bool _, _, h => by cases h; rfl
  | .int _, _, h => by cases h; rfl
  | .double _, _, h => by cases h; rfl
  | .string _, _, h => by cases h; rfl

/-- The canonical forms of items are canonical. -/
theorem isCanonical_of_canonicalAll? : ∀ {items forms : List Json},
    canonicalAll? items = some forms → ∀ form ∈ forms, form.isCanonical = true
  | [], _, h => by cases h; exact fun _ h => nomatch h
  | item :: rest, forms, h => by
    simp only [canonicalAll?] at h
    split at h
    · rename_i hitem hrest
      cases h
      intro form hform
      rcases List.mem_cons.1 hform with rfl | hform
      · exact isCanonical_of_canonical? hitem
      · exact isCanonical_of_canonicalAll? hrest form hform
    · cases h

/-- The canonical forms of the values of entries are canonical. -/
theorem isCanonical_of_canonicalFields? : ∀ {fields forms : List (String × Json)},
    canonicalFields? fields = some forms → ∀ form ∈ forms, form.2.isCanonical = true
  | [], _, h => by cases h; exact fun _ h => nomatch h
  | (key, value) :: rest, forms, h => by
    simp only [canonicalFields?] at h
    split at h
    · rename_i hvalue hrest
      cases h
      intro form hform
      rcases List.mem_cons.1 hform with rfl | hform
      · exact isCanonical_of_canonical? hvalue
      · exact isCanonical_of_canonicalFields? hrest form hform
    · cases h

end

end Json

/-! ## Data -/

/-- A JSON value in canonical form. -/
structure Datum where
  json : Json
  canonical : json.isCanonical = true

namespace Datum

/-- The value that stands for the absence of one. -/
def null : Datum := ⟨.null, rfl⟩

def ofBool (truth : Bool) : Datum := ⟨.bool truth, rfl⟩

def ofInt (number : Int) : Datum := ⟨.int number, rfl⟩

def ofString (text : String) : Datum := ⟨.string text, rfl⟩

/-- Whether the value is `null`. -/
def isNull (datum : Datum) : Bool :=
  match datum.json with
  | .null => true
  | _ => false

/-- The canonical form of a JSON value, if it is readable. -/
def ofJson? (json : Json) : Option Datum :=
  match h : json.canonical? with
  | some form => some ⟨form, Json.isCanonical_of_canonical? h⟩
  | none => none

end Datum
end ODataToSql
