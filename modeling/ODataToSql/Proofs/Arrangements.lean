import ODataToSql.Document.Record
import ODataToSql.Proofs.Dictionaries
import Mathlib.Data.Option.Basic
import Mathlib.Data.List.Forall2

/-!
# Arrangements of JSON values

The entries of an object may stand in any order. `Json.Restates` relates two values that differ in
nothing but the order of the entries of their objects, and where no object repeats a key.

* `Json.isUnambiguous`: readable, and no object repeats a key.
* `Json.Restates.eq_string`, `Json.Restates.array`, `Json.Restates.object`: what an arrangement of a
  value looks like. Objects are compared by what they have under each name (`FieldsRestate`).
* `Json.Restates.of_datum`: the canonical form is an arrangement of the value.
* `Json.Restates.height_eq`: all arrangements have the same height.
-/

namespace ODataToSql

/-- A list is read if each of its items is. -/
lemma mapM_eq_some_iff {α β : Type} {read : α → Option β} {items : List α} {values : List β} :
    items.mapM read = some values ↔
      List.Forall₂ (fun item value => read item = some value) items values := by
  induction items generalizing values with
  | nil => cases values <;> simp
  | cons item rest ih =>
    cases values with
    | nil => cases hitem : read item <;> cases hrest : rest.mapM read <;> simp [hitem, hrest]
    | cons value values =>
      rw [List.forall₂_cons, ← ih]
      cases hitem : read item <;> cases hrest : rest.mapM read <;> simp [hitem, hrest]

/-- If every item of a list is related to something, so is the list as a whole. -/
lemma exists_forall₂ {α β : Type} {R : α → β → Prop} {items : List α}
    (h : ∀ item ∈ items, ∃ value, R item value) : ∃ values, List.Forall₂ R items values := by
  induction items with
  | nil => exact ⟨[], .nil⟩
  | cons item rest ih =>
    obtain ⟨hitem, hrest⟩ := List.forall_mem_cons.1 h
    obtain ⟨value, hvalue⟩ := hitem
    obtain ⟨values, hvalues⟩ := ih hrest
    exact ⟨value :: values, .cons hvalue hvalues⟩

namespace Json

/-- Induction over JSON values. The items of an array and the entries of an object are given by
membership. -/
@[elab_as_elim, induction_eliminator]
theorem induct {motive : Json → Prop}
    (null : motive .null)
    (bool : ∀ value, motive (.bool value))
    (int : ∀ value, motive (.int value))
    (double : ∀ value, motive (.double value))
    (string : ∀ value, motive (.string value))
    (array : ∀ items, (∀ item ∈ items, motive item) → motive (.array items))
    (object : ∀ fields, (∀ field ∈ fields, motive field.2) → motive (.object fields))
    (unreadable : motive .unreadable)
    (json : Json) : motive json :=
  Json.rec (motive_2 := fun items => ∀ item ∈ items, motive item)
    (motive_3 := fun fields => ∀ field ∈ fields, motive field.2)
    (motive_4 := fun field => motive field.2)
    null bool int double string array object unreadable
    (List.forall_mem_nil _)
    (fun _ _ hfirst hrest => List.forall_mem_cons.2 ⟨hfirst, hrest⟩)
    (List.forall_mem_nil _)
    (fun _ _ hfirst hrest => List.forall_mem_cons.2 ⟨hfirst, hrest⟩)
    (fun _ _ hvalue => hvalue)
    json

/-! ## Unambiguous values -/

mutual

/-- Whether the value is readable and none of its objects repeats a key. -/
def isUnambiguous : Json → Bool
  | .array items => allUnambiguous items
  | .object fields => decide (fields.map Prod.fst).Nodup && fieldsUnambiguous fields
  | .unreadable => false
  | _ => true

/-- Whether all items are unambiguous. -/
def allUnambiguous : List Json → Bool
  | [] => true
  | item :: rest => item.isUnambiguous && allUnambiguous rest

/-- Whether the values of all entries are unambiguous. -/
def fieldsUnambiguous : List (String × Json) → Bool
  | [] => true
  | (_, value) :: rest => value.isUnambiguous && fieldsUnambiguous rest

end

@[simp]
lemma isUnambiguous_string (text : String) : (Json.string text).isUnambiguous = true := rfl

lemma isUnambiguous_array {items : List Json} :
    (Json.array items).isUnambiguous = true ↔ ∀ item ∈ items, item.isUnambiguous = true := by
  rw [isUnambiguous]
  induction items with
  | nil => simp [allUnambiguous]
  | cons item rest ih => simp [allUnambiguous, ih]

lemma isUnambiguous_object {fields : List (String × Json)} :
    (Json.object fields).isUnambiguous = true ↔
      (fields.map Prod.fst).Nodup ∧ ∀ field ∈ fields, field.2.isUnambiguous = true := by
  have hfields : fieldsUnambiguous fields = true ↔
      ∀ field ∈ fields, field.2.isUnambiguous = true := by
    induction fields with
    | nil => simp [fieldsUnambiguous]
    | cons field rest ih => simp [fieldsUnambiguous, ih]
  simp [isUnambiguous, hfields]

lemma isReadable_array {items : List Json} :
    (Json.array items).isReadable = true ↔ ∀ item ∈ items, item.isReadable = true := by
  rw [isReadable]
  induction items with
  | nil => simp [allReadable]
  | cons item rest ih => simp [allReadable, ih]

lemma isReadable_object {fields : List (String × Json)} :
    (Json.object fields).isReadable = true ↔ ∀ field ∈ fields, field.2.isReadable = true := by
  rw [isReadable]
  induction fields with
  | nil => simp [fieldsReadable]
  | cons field rest ih => simp [fieldsReadable, ih]

lemma isReadable_of_isUnambiguous {json : Json} (h : json.isUnambiguous = true) :
    json.isReadable = true := by
  induction json with
  | null | bool | int | double | string => rfl
  | array items ih =>
    exact isReadable_array.2 fun item hitem => ih item hitem (isUnambiguous_array.1 h item hitem)
  | object fields ih =>
    exact isReadable_object.2 fun field hfield =>
      ih field hfield ((isUnambiguous_object.1 h).2 field hfield)
  | unreadable => cases h

lemma isCanonical_object {fields : List (String × Json)} :
    (Json.object fields).isCanonical = true ↔
      (fields.Pairwise fun a b => a.1 < b.1) ∧ ∀ field ∈ fields, field.2.isCanonical = true := by
  simp [isCanonical, fieldsCanonical_eq_true]

/-- Keys that ascend differ. -/
lemma isUnambiguous_of_isCanonical {json : Json} (h : json.isCanonical = true) :
    json.isUnambiguous = true := by
  induction json with
  | null | bool | int | double | string => rfl
  | array items ih =>
    exact isUnambiguous_array.2 fun item hitem => ih item hitem (allCanonical_eq_true.1 h item hitem)
  | object fields ih =>
    obtain ⟨hkeys, hfields⟩ := isCanonical_object.1 h
    exact isUnambiguous_object.2 ⟨List.pairwise_map.2 (hkeys.imp fun hlt => ne_of_lt hlt),
      fun field hfield => ih field hfield (hfields field hfield)⟩
  | unreadable => cases h

/-! ## Canonical forms -/

lemma canonicalAll?_eq_some_iff {items forms : List Json} :
    canonicalAll? items = some forms ↔
      List.Forall₂ (fun item form => item.canonical? = some form) items forms := by
  rw [← mapM_eq_some_iff]
  suffices canonicalAll? items = items.mapM canonical? by rw [this]
  induction items with
  | nil => rfl
  | cons item rest ih =>
    rw [List.mapM_cons, ← ih, canonicalAll?]
    cases item.canonical? <;> cases canonicalAll? rest <;> rfl

lemma canonicalFields?_eq_some_iff {fields forms : List (String × Json)} :
    canonicalFields? fields = some forms ↔
      List.Forall₂ (fun field form => field.2.canonical?.map (field.1, ·) = some form)
        fields forms := by
  rw [← mapM_eq_some_iff]
  suffices canonicalFields? fields =
      fields.mapM fun field => field.2.canonical?.map (field.1, ·) by rw [this]
  induction fields with
  | nil => rfl
  | cons field rest ih =>
    rw [List.mapM_cons, ← ih, canonicalFields?]
    cases field.2.canonical? <;> cases canonicalFields? rest <;> rfl

/-- A readable value has a canonical form. -/
lemma exists_canonical? {json : Json} (h : json.isReadable = true) :
    ∃ form, json.canonical? = some form := by
  induction json with
  | null | bool | int | double | string => exact ⟨_, rfl⟩
  | array items ih =>
    have hitems : ∀ item ∈ items, ∃ form, item.canonical? = some form := fun item hitem =>
      ih item hitem (isReadable_array.1 h item hitem)
    obtain ⟨forms, hforms⟩ := exists_forall₂ hitems
    exact ⟨_, by rw [canonical?, canonicalAll?_eq_some_iff.2 hforms]; rfl⟩
  | object fields ih =>
    have hfields : ∀ field ∈ fields, ∃ form, field.2.canonical?.map (field.1, ·) = some form := by
      intro field hfield
      obtain ⟨form, hform⟩ := ih field hfield (isReadable_object.1 h field hfield)
      exact ⟨_, by rw [hform]; rfl⟩
    obtain ⟨forms, hforms⟩ := exists_forall₂ hfields
    exact ⟨_, by rw [canonical?, canonicalFields?_eq_some_iff.2 hforms]; rfl⟩
  | unreadable => cases h

/-- A canonical value is its own canonical form. -/
lemma canonical?_of_isCanonical {json : Json} (h : json.isCanonical = true) :
    json.canonical? = some json := by
  induction json with
  | null | bool | int | double | string => rfl
  | array items ih =>
    have hitems : List.Forall₂ (fun item form => item.canonical? = some form) items items :=
      List.forall₂_same.2 fun item hitem => ih item hitem (allCanonical_eq_true.1 h item hitem)
    rw [canonical?, canonicalAll?_eq_some_iff.2 hitems]
    rfl
  | object fields ih =>
    obtain ⟨hkeys, hvalues⟩ := isCanonical_object.1 h
    have hfields : List.Forall₂ (fun field form => field.2.canonical?.map (field.1, ·) = some form)
        fields fields :=
      List.forall₂_same.2 fun field hfield => by rw [ih field hfield (hvalues field hfield)]; rfl
    have hdict : Dict.ofList fields = ⟨fields, hkeys⟩ := Dict.ofList_entries ⟨fields, hkeys⟩
    rw [canonical?, canonicalFields?_eq_some_iff.2 hfields, Option.map_some, hdict]
  | unreadable => cases h

/-- The canonical forms of entries stand under the same keys. -/
lemma map_fst_of_canonicalFields? {fields forms : List (String × Json)}
    (h : canonicalFields? fields = some forms) : forms.map Prod.fst = fields.map Prod.fst := by
  rw [canonicalFields?_eq_some_iff] at h
  induction h with
  | nil => rfl
  | @cons field form rest forms hfield hrest ih =>
    obtain ⟨value, hvalue, rfl⟩ := Option.map_eq_some_iff.1 hfield
    simp [ih]

/-- What is found under a name in canonical form is the canonical form of what is found there. -/
lemma lookup?_of_canonicalFields? {fields forms : List (String × Json)}
    (h : canonicalFields? fields = some forms) (name : String) :
    lookup? forms name = (lookup? fields name).bind canonical? := by
  rw [canonicalFields?_eq_some_iff] at h
  induction h with
  | nil => rfl
  | @cons field form rest forms hfield hrest ih =>
    obtain ⟨value, hvalue, rfl⟩ := Option.map_eq_some_iff.1 hfield
    by_cases hkey : field.1 = name
    · simp [lookup?, hkey, hvalue]
    · simpa [lookup?, hkey] using ih

/-- The canonical form of an object has under each name the canonical form of what is there. -/
lemma lookup?_canonical {fields : List (String × Json)} {form : Json}
    (h : (Json.object fields).isUnambiguous = true)
    (hform : (Json.object fields).canonical? = some form) :
    ∃ dict : Dict Json, form = .object dict.entries ∧
      ∀ name, dict.get? name = (lookup? fields name).bind canonical? := by
  obtain ⟨forms, hforms, rfl⟩ := Option.map_eq_some_iff.1 hform
  refine ⟨_, rfl, fun name => ?_⟩
  have hkeys : (forms.map Prod.fst).Nodup := by
    rw [map_fst_of_canonicalFields? hforms]
    exact (isUnambiguous_object.1 h).1
  rw [Dict.get?_ofList_of_nodup hkeys, ← lookup?_of_canonicalFields? hforms]
  rfl

end Json

namespace Datum

lemma ofJson?_eq_some_iff {json : Json} {value : Datum} :
    ofJson? json = some value ↔ json.canonical? = some value.json := by
  obtain ⟨expected, hexpected⟩ := value
  unfold ofJson?
  split
  · rename_i form hform
    simp [hform]
  · rename_i hnone
    simp [hnone]

end Datum

namespace Json

/-! ## Arrangements -/

/-- The two values differ in nothing but the order of the entries of their objects, none of which
repeats a key. -/
structure Restates (document written : Json) : Prop where
  unambiguous : document.isUnambiguous = true
  written_unambiguous : written.isUnambiguous = true
  /-- The canonical form forgets the order and nothing else. -/
  canonical_eq : document.canonical? = written.canonical?

/-- The entries of two objects differ in nothing but their order, also further inside. -/
structure FieldsRestate (fields written : List (String × Json)) : Prop where
  keys : (fields.map Prod.fst).Nodup
  lookup : ∀ name, Option.Rel Restates (lookup? fields name) (lookup? written name)

namespace Restates

variable {document written : Json}

lemma refl (h : written.isUnambiguous = true) : written.Restates written := ⟨h, h, rfl⟩

lemma symm (h : document.Restates written) : written.Restates document :=
  ⟨h.written_unambiguous, h.unambiguous, h.canonical_eq.symm⟩

lemma readable (h : document.Restates written) : document.isReadable = true :=
  isReadable_of_isUnambiguous h.unambiguous

/-- The canonical form of a value is an arrangement of it. -/
lemma of_datum {value : Datum} (hw : written.isUnambiguous = true)
    (h : Datum.ofJson? written = some value) : value.json.Restates written :=
  ⟨isUnambiguous_of_isCanonical value.canonical, hw,
    (canonical?_of_isCanonical value.canonical).trans (Datum.ofJson?_eq_some_iff.1 h).symm⟩

lemma eq_null (h : document.Restates .null) : document = .null := by
  have hform : document.canonical? = some .null := h.canonical_eq
  cases document <;> simp_all [canonical?]

lemma eq_bool {value : Bool} (h : document.Restates (.bool value)) : document = .bool value := by
  have hform : document.canonical? = some (.bool value) := h.canonical_eq
  cases document <;> simp_all [canonical?]

lemma eq_int {value : Int} (h : document.Restates (.int value)) : document = .int value := by
  have hform : document.canonical? = some (.int value) := h.canonical_eq
  cases document <;> simp_all [canonical?]

lemma eq_string {value : String} (h : document.Restates (.string value)) :
    document = .string value := by
  have hform : document.canonical? = some (.string value) := h.canonical_eq
  cases document <;> simp_all [canonical?]

/-- What two lists of items have in canonical form together, they are arrangements of. -/
lemma forall₂ {items written forms : List Json}
    (hitems : ∀ item ∈ items, item.isUnambiguous = true)
    (hwritten : ∀ item ∈ written, item.isUnambiguous = true)
    (h : List.Forall₂ (fun item form => item.canonical? = some form) items forms)
    (hw : List.Forall₂ (fun item form => item.canonical? = some form) written forms) :
    List.Forall₂ Restates items written := by
  induction h generalizing written with
  | nil => cases hw; exact .nil
  | @cons item form items forms hitem hrest ih =>
    cases hw with
    | @cons first _ rest _ hfirst hwrest =>
      obtain ⟨hitem', hitems⟩ := List.forall_mem_cons.1 hitems
      obtain ⟨hfirst', hwritten⟩ := List.forall_mem_cons.1 hwritten
      exact .cons ⟨hitem', hfirst', hitem.trans hfirst.symm⟩ (ih hitems hwritten hwrest)

/-- An arrangement of an array has arrangements of its items, in the same order. -/
lemma array {items : List Json} (h : document.Restates (.array items)) :
    ∃ read, document = .array read ∧ List.Forall₂ Restates read items := by
  obtain ⟨form, hform⟩ := exists_canonical? (isReadable_of_isUnambiguous h.written_unambiguous)
  obtain ⟨forms, hforms, rfl⟩ := Option.map_eq_some_iff.1 hform
  have hdocument := h.canonical_eq.trans hform
  cases document with
  | array read =>
    refine ⟨read, rfl, forall₂ (isUnambiguous_array.1 h.unambiguous)
      (isUnambiguous_array.1 h.written_unambiguous) ?_ (canonicalAll?_eq_some_iff.1 hforms)⟩
    simpa [canonical?, canonicalAll?_eq_some_iff] using hdocument
  | object fields => simp [canonical?] at hdocument
  | null | bool | int | double | string | unreadable => cases hdocument

end Restates

/-- What is found under a name is the value of an entry. -/
lemma mem_of_lookup? {fields : List (String × Json)} {name : String} {value : Json}
    (h : lookup? fields name = some value) : ∃ field ∈ fields, field.2 = value := by
  obtain ⟨field, hfield, rfl⟩ := Option.map_eq_some_iff.1 h
  exact ⟨field, List.mem_of_find?_eq_some hfield, rfl⟩

lemma isUnambiguous_of_lookup? {fields : List (String × Json)} {name : String} {value : Json}
    (hfields : (Json.object fields).isUnambiguous = true) (h : lookup? fields name = some value) :
    value.isUnambiguous = true := by
  obtain ⟨field, hfield, rfl⟩ := mem_of_lookup? h
  exact (isUnambiguous_object.1 hfields).2 field hfield

namespace Restates

variable {document : Json} {written : List (String × Json)}

/-- What has the same canonical form, or is missing in both, is an arrangement of the other. -/
lemma rel {read found : Option Json} (hread : ∀ value ∈ read, value.isUnambiguous = true)
    (hfound : ∀ value ∈ found, value.isUnambiguous = true)
    (h : read.bind canonical? = found.bind canonical?) : Option.Rel Restates read found := by
  -- What is there has a canonical form, hence the two are there together.
  have hform : ∀ {value : Json}, value.isUnambiguous = true → value.canonical? ≠ none := by
    intro value hvalue hnone
    obtain ⟨form, hform⟩ := exists_canonical? (isReadable_of_isUnambiguous hvalue)
    rw [hnone] at hform
    cases hform
  cases read with
  | none =>
    cases found with
    | none => exact .none
    | some value => exact absurd h.symm (hform (hfound value rfl))
  | some json =>
    cases found with
    | none => exact absurd h (hform (hread json rfl))
    | some value => exact .some ⟨hread json rfl, hfound value rfl, h⟩

/-- An arrangement of an object has arrangements of its values, under the same names. -/
lemma object (h : document.Restates (.object written)) :
    ∃ fields, document = .object fields ∧ FieldsRestate fields written := by
  have hw := h.written_unambiguous
  obtain ⟨form, hform⟩ := exists_canonical? (isReadable_of_isUnambiguous hw)
  obtain ⟨dict, rfl, hdict⟩ := lookup?_canonical hw hform
  have hdocument := h.canonical_eq.trans hform
  cases document with
  | object fields =>
    have hu := h.unambiguous
    obtain ⟨other, heq, hother⟩ := lookup?_canonical hu hdocument
    -- Both are looked up in one dictionary, that of the canonical form.
    have hsame : other = dict := by
      cases other
      cases dict
      cases heq
      rfl
    subst hsame
    exact ⟨fields, rfl, (isUnambiguous_object.1 hu).1, fun name =>
      rel (fun _ => isUnambiguous_of_lookup? hu) (fun _ => isUnambiguous_of_lookup? hw)
        ((hother name).symm.trans (hdict name))⟩
  | array items => simp [canonical?] at hdocument
  | null | bool | int | double | string | unreadable => cases hdocument

end Restates

/-! ## Heights -/

lemma heightOfItems_le_iff {items : List Json} {bound : Nat} :
    heightOfItems items ≤ bound ↔ ∀ item ∈ items, item.height ≤ bound := by
  induction items with
  | nil => simp [heightOfItems]
  | cons item rest ih => simp [heightOfItems, ih]

lemma heightOfFields_le_iff {fields : List (String × Json)} {bound : Nat} :
    heightOfFields fields ≤ bound ↔ ∀ field ∈ fields, field.2.height ≤ bound := by
  induction fields with
  | nil => simp [heightOfFields]
  | cons field rest ih => simp [heightOfFields, ih]

lemma heightOfItems_congr {items forms : List Json}
    (h : List.Forall₂ (fun item form => form.height = item.height) items forms) :
    heightOfItems forms = heightOfItems items := by
  induction h with
  | nil => rfl
  | cons hfirst _ ih => rw [heightOfItems, heightOfItems, hfirst, ih]

lemma heightOfFields_congr {fields forms : List (String × Json)}
    (h : List.Forall₂ (fun field form => form.2.height = field.2.height) fields forms) :
    heightOfFields forms = heightOfFields fields := by
  induction h with
  | nil => rfl
  | cons hfirst _ ih => rw [heightOfFields, heightOfFields, hfirst, ih]

/-- The canonical form is as high as the value. -/
lemma height_canonical {json form : Json} (h : json.isUnambiguous = true)
    (hform : json.canonical? = some form) : form.height = json.height := by
  induction json generalizing form with
  | null | bool | int | double | string => cases hform; rfl
  | array items ih =>
    obtain ⟨forms, hforms, rfl⟩ := Option.map_eq_some_iff.1 hform
    have hitems : ∀ item ∈ items, ∀ form : Json, item.canonical? = some form →
        form.height = item.height := fun item hitem _ =>
      ih item hitem (isUnambiguous_array.1 h item hitem)
    have hheights := (List.forall₂_and_left _ _).2 ⟨hitems, canonicalAll?_eq_some_iff.1 hforms⟩
    rw [height, height, heightOfItems_congr (hheights.imp fun _ _ hboth => hboth.1 _ hboth.2)]
  | object fields ih =>
    obtain ⟨forms, hforms, rfl⟩ := Option.map_eq_some_iff.1 hform
    obtain ⟨hkeys, hvalues⟩ := isUnambiguous_object.1 h
    have hnodup : (forms.map Prod.fst).Nodup := map_fst_of_canonicalFields? hforms ▸ hkeys
    -- The order of the entries makes no difference to the height.
    have hordered : heightOfFields (Dict.ofList forms).entries = heightOfFields forms := by
      refine eq_of_forall_ge_iff fun bound => ?_
      simp only [heightOfFields_le_iff, Dict.mem_entries_ofList_iff hnodup]
    have hfields : ∀ field ∈ fields, ∀ form : String × Json,
        field.2.canonical?.map (field.1, ·) = some form → form.2.height = field.2.height := by
      intro field hfield form hform
      obtain ⟨value, hvalue, rfl⟩ := Option.map_eq_some_iff.1 hform
      exact ih field hfield (hvalues field hfield) hvalue
    have hheights := (List.forall₂_and_left _ _).2 ⟨hfields, canonicalFields?_eq_some_iff.1 hforms⟩
    rw [height, height, hordered,
      heightOfFields_congr (hheights.imp fun _ _ hboth => hboth.1 _ hboth.2)]
  | unreadable => cases h

/-- All arrangements of a value have the same height. -/
lemma Restates.height_eq {document written : Json} (h : document.Restates written) :
    document.height = written.height := by
  obtain ⟨form, hform⟩ := exists_canonical? (isReadable_of_isUnambiguous h.written_unambiguous)
  rw [← height_canonical h.unambiguous (h.canonical_eq.trans hform),
    ← height_canonical h.written_unambiguous hform]

end Json
end ODataToSql
