import ODataToSql.Document.Query
import ODataToSql.Proofs.Arrangements

/-!
# Records in any arrangement

How a reader of documents sees a written form whose entries may have been put in another order.

* `Json.ReadsAs`: every arrangement of a written form is read as the same value.
* `FieldsRestate.required`, `FieldsRestate.optional`, `FieldsRestate.defaulted`: the fields of a
  record that is written with some of them left out.
* `Json.Restates.tagged`: a tagged value gives its tag and the fields beside it.
* `Json.ReadsBack`: a written form is read back as it stands, in canonical form and in every
  arrangement.
-/

namespace ODataToSql.Json

/-- Every arrangement of the written form is read as the value. -/
def ReadsAs {α : Type} (read : Json → Option α) (written : Json) (a : α) : Prop :=
  ∀ document : Json, document.Restates written → read document = some a

/-- A written form is read back. -/
structure ReadsBack {α : Type} (read : Json → Option α) (written : Json) (a : α) : Prop where
  /-- As it is written. -/
  as_written : read written = some a
  /-- With the keys of its objects in ascending order. -/
  in_canonical_form : ∃ value : Datum, Datum.ofJson? written = some value ∧ read value.json = some a
  /-- With the keys of its objects in any other order. -/
  in_any_arrangement : ∀ document : Json, document.Restates written → read document = some a

variable {α : Type} {read : Json → Option α} {written : Json} {a : α}

lemma ReadsAs.readsBack (h : ReadsAs read written a) (hw : written.isUnambiguous = true) :
    ReadsBack read written a := by
  obtain ⟨form, hform⟩ := exists_canonical? (isReadable_of_isUnambiguous hw)
  have hdatum : Datum.ofJson? written = some ⟨form, isCanonical_of_canonical? hform⟩ :=
    Datum.ofJson?_eq_some_iff.2 hform
  exact ⟨h written (.refl hw), ⟨_, hdatum, h _ (.of_datum hw hdatum)⟩, h⟩

/-! ## Plain values -/

lemma readsAs_string (text : String) : ReadsAs asString? (.string text) text :=
  fun _ h => by rw [h.eq_string]; rfl

lemma readsAs_bool (truth : Bool) : ReadsAs asBool? (.bool truth) truth :=
  fun _ h => by rw [h.eq_bool]; rfl

lemma readsAs_uint64 (number : UInt64) : ReadsAs asUInt64? (Query.countToJson number) number := by
  intro document h
  have hbound : (number.toNat : Int) < UInt64.size := by exact_mod_cast number.toNat_lt_size
  rw [h.eq_int, asUInt64?, if_pos ⟨Int.natCast_nonneg _, hbound⟩]
  simp

lemma readsAs_enumerated [Enumeration α] (heldBack : Bool) (a : α) :
    ReadsAs (asEnumerated? heldBack) (.string (Enumeration.name a)) a :=
  fun _ h => by rw [h.eq_string]; exact Enumeration.ofName?_name a

lemma readsAs_datum (value : Datum) : ReadsAs Datum.ofJson? value.json value :=
  fun _ h => Datum.ofJson?_eq_some_iff.2
    (h.canonical_eq.trans (canonical?_of_isCanonical value.canonical))

/-- A value that is not written as null may be null as far as its reader knows. -/
lemma ReadsAs.nullable (h : ReadsAs read written a) (hnull : written ≠ .null) :
    ReadsAs (asNullable? read) written (some a) := by
  intro document hdocument
  have hread := h document hdocument
  cases document with
  | null => exact absurd hdocument.symm.eq_null hnull
  | bool | int | double | string | array | object | unreadable =>
    rw [asNullable?, hread]
    · rfl
    · exact nofun

/-- A list is read if all of its items are. -/
lemma readsAs_list {write : α → Json} {list : List α}
    (h : ∀ a ∈ list, ReadsAs read (write a) a) :
    ReadsAs (asList? read) (.array (list.map write)) list := by
  intro document hdocument
  obtain ⟨items, rfl, hitems⟩ := hdocument.array
  rw [List.forall₂_map_right_iff] at hitems
  have hread : List.Forall₂ (fun item a => read item = some a) items list := by
    clear hdocument
    induction hitems with
    | nil => exact .nil
    | @cons item a items list hitem hrest ih =>
      obtain ⟨ha, hlist⟩ := List.forall_mem_cons.1 h
      exact .cons (ha item hitem) (ih hlist)
  exact mapM_eq_some_iff.2 hread

/-! ## Objects -/

lemma lookup?_eq_some_iff {fields : List (String × Json)} (h : (fields.map Prod.fst).Nodup)
    {name : String} {value : Json} : lookup? fields name = some value ↔ (name, value) ∈ fields :=
  Dict.find?_key_eq_some_iff h

lemma lookup?_append (first second : List (String × Json)) (name : String) :
    lookup? (first ++ second) name = (lookup? first name).or (lookup? second name) := by
  simp only [lookup?, List.find?_append]
  cases first.find? fun field => field.1 == name <;> rfl

lemma lookup?_cons (field : String × Json) (rest : List (String × Json)) (name : String) :
    lookup? (field :: rest) name = if field.1 = name then some field.2 else lookup? rest name := by
  by_cases h : field.1 = name <;> simp [lookup?, h]

@[simp]
lemma lookup?_nil (name : String) : lookup? [] name = none := rfl

lemma lookup?_optionalField {β : Type} (own : String) (value : Option β) (write : β → Json)
    (name : String) :
    lookup? (optionalField own value write) name =
      if own = name then value.map write else none := by
  cases value <;> simp [optionalField, lookup?_cons]

lemma forall_mem_optionalField {β : Type} {P : String × Json → Prop} {name : String}
    {value : Option β} {write : β → Json} (h : ∀ b ∈ value, P (name, write b)) :
    ∀ field ∈ optionalField name value write, P field := by
  cases value with
  | none => exact fun _ hfield => nomatch hfield
  | some b => exact List.forall_mem_singleton.2 (h b rfl)

lemma keys_optionalField {β : Type} (name : String) (value : Option β) (write : β → Json) :
    ((optionalField name value write).map Prod.fst).Sublist [name] := by
  cases value with
  | none => exact List.nil_sublist _
  | some _ => exact .refl _

/-- A field that is written unless something holds. -/
lemma lookup?_unless (omitted : Bool) (field : String × Json) (name : String) :
    lookup? (if omitted then [] else [field]) name =
      if omitted then none else if field.1 = name then some field.2 else none := by
  cases omitted <;> simp [lookup?_cons]

lemma lookup?_eq_none_of_not_mem {fields : List (String × Json)} {name : String}
    (h : name ∉ fields.map Prod.fst) : lookup? fields name = none := by
  rw [lookup?, Option.map_eq_none_iff, List.find?_eq_none]
  intro field hfield hname
  exact h (List.mem_map.2 ⟨field, hfield, beq_iff_eq.1 hname⟩)

/-- Without the fields of one name nothing is found under that name. -/
lemma lookup?_filter_ne (fields : List (String × Json)) (own name : String) :
    lookup? (fields.filter fun field => field.1 != own) name =
      if name = own then none else lookup? fields name := by
  rcases eq_or_ne name own with rfl | hname
  · simp [lookup?]
  · rw [if_neg hname]
    induction fields with
    | nil => rfl
    | cons field rest ih =>
      by_cases hown : field.1 = own
      · simp [lookup?_cons, hown, hname.symm, ih]
      · simp [lookup?_cons, hown, ih]

lemma isSingle_of_nodup {fields : List (String × Json)} (h : (fields.map Prod.fst).Nodup)
    (name : String) : isSingle fields name = true := by
  rw [isSingle, decide_eq_true_iff]
  have hcount := List.nodup_iff_count_le_one.1 h name
  rwa [List.count, List.countP_map, List.countP_eq_length_filter] at hcount

namespace FieldsRestate

variable {fields written : List (String × Json)} {name : String}

lemma record? (h : FieldsRestate fields written) (names : List String) :
    (Json.object fields).record? names = some (lookup? fields) :=
  if_pos (List.all_eq_true.2 fun name _ => isSingle_of_nodup h.keys name)

/-- A field that is not written is not found. -/
lemma missing (h : FieldsRestate fields written) (hw : lookup? written name = none) :
    lookup? fields name = none := by
  have hrel := h.lookup name
  cases hfield : lookup? fields name with
  | none => rfl
  | some document =>
    rw [hfield, hw] at hrel
    cases hrel

/-- A field that is written is found, in some arrangement of its value. -/
lemma found (h : FieldsRestate fields written) (name : String) {value : Json}
    (hw : lookup? written name = some value) :
    ∃ document, lookup? fields name = some document ∧ document.Restates value := by
  have hrel := h.lookup name
  cases hfield : lookup? fields name with
  | none =>
    rw [hfield, hw] at hrel
    cases hrel
  | some document =>
    rw [hfield, hw] at hrel
    cases hrel with
    | some hvalue => exact ⟨document, rfl, hvalue⟩

/-- A field that is always written. -/
lemma required (h : FieldsRestate fields written) (name : String) {value : Json}
    (hw : lookup? written name = some value) (hread : ReadsAs read value a) :
    ∃ document, lookup? fields name = some document ∧ read document = some a := by
  obtain ⟨document, hdocument, hvalue⟩ := h.found name hw
  exact ⟨document, hdocument, hread document hvalue⟩

/-- A field that is written unless it has its default. -/
lemma defaulted (h : FieldsRestate fields written) (name : String) {default : α} {value : Json}
    {omitted : Bool}
    (hw : lookup? written name = if omitted then none else some value)
    (hdefault : omitted = true → a = default) (hread : ReadsAs read value a) :
    orDefault (lookup? fields name) default read = some a := by
  cases omitted with
  | true =>
    rw [h.missing hw, hdefault rfl]
    rfl
  | false =>
    obtain ⟨document, hdocument, hvalue⟩ := h.required name hw hread
    rw [hdocument]
    exact hvalue

/-- A field that is written if there is something to write, and never as null. -/
lemma optional (h : FieldsRestate fields written) (name : String) {value : Option α}
    {write : α → Json}
    (hw : lookup? written name = value.map write)
    (hread : ∀ a ∈ value, ReadsAs read (write a) a) (hnull : ∀ a, write a ≠ .null) :
    orNone (lookup? fields name) read = some value := by
  cases value with
  | none =>
    rw [h.missing hw]
    rfl
  | some a =>
    obtain ⟨document, hdocument, hvalue⟩ := h.required name hw ((hread a rfl).nullable (hnull a))
    rw [hdocument]
    exact hvalue

end FieldsRestate

/-- A tagged value gives its tag and an arrangement of the fields beside it. -/
lemma Restates.tagged {document : Json} {tag : String} {written : List (String × Json)}
    (h : document.Restates (.object (("type", .string tag) :: written))) :
    ∃ fields, document.tagged? = some (.string tag, .object fields) ∧
      FieldsRestate fields written := by
  obtain ⟨fields, rfl, hfields⟩ := h.object
  obtain ⟨value, hvalue, htag⟩ := hfields.found "type" (lookup?_cons _ _ _ |>.trans (if_pos rfl))
  rw [htag.eq_string] at hvalue
  refine ⟨fields.filter fun field => field.1 != "type", ?_, ?_, fun name => ?_⟩
  · simp [tagged?, isSingle_of_nodup hfields.keys, hvalue]
  · exact hfields.keys.sublist (List.filter_sublist.map _)
  · have htype : "type" ∉ written.map Prod.fst :=
      (List.nodup_cons.1 (isUnambiguous_object.1 h.written_unambiguous).1).1
    rw [lookup?_filter_ne]
    by_cases hname : name = "type"
    · rw [if_pos hname, hname, lookup?_eq_none_of_not_mem htype]
      exact .none
    · have hrel := hfields.lookup name
      rw [lookup?_cons, if_neg (Ne.symm hname)] at hrel
      rwa [if_neg hname]

lemma lookup?_dict (dict : Dict α) (write : α → Json) (key : String) :
    lookup? (dict.entries.map fun entry => (entry.1, write entry.2)) key =
      (dict.get? key).map write := by
  simp [lookup?, Dict.get?, List.find?_map, Function.comp_def]

/-- Every entry of the document of a dictionary is read as an entry of the dictionary. -/
lemma exists_entry {write : α → Json} {dict : Dict α} {fields : List (String × Json)}
    (h : ∀ entry ∈ dict.entries, ReadsAs read (write entry.2) entry.2)
    (hfields : FieldsRestate fields (dict.entries.map fun entry => (entry.1, write entry.2)))
    {field : String × Json} (hfield : field ∈ fields) :
    ∃ entry, entry ∈ dict.entries ∧
      (read field.2).map (fun value => (field.1, value)) = some entry := by
  have hrel := hfields.lookup field.1
  rw [(lookup?_eq_some_iff hfields.keys).2 hfield, lookup?_dict] at hrel
  cases hget : dict.get? field.1 with
  | none => rw [hget] at hrel; cases hrel
  | some value =>
    rw [hget] at hrel
    cases hrel with
    | some hvalue =>
      have hmem := dict.get?_eq_some_iff.1 hget
      exact ⟨_, hmem, by rw [h _ hmem _ hvalue]; rfl⟩

/-- A dictionary is read if all of its values are. -/
lemma readsAs_dict {write : α → Json} {dict : Dict α}
    (h : ∀ entry ∈ dict.entries, ReadsAs read (write entry.2) entry.2) :
    ReadsAs (asDict? read) (.object (dict.entries.map fun entry => (entry.1, write entry.2)))
      dict := by
  intro document hdocument
  obtain ⟨fields, rfl, hfields⟩ := hdocument.object
  obtain ⟨entries, hread⟩ := exists_forall₂ fun field => exists_entry h hfields
  obtain ⟨hmem, hvalues⟩ := (List.forall₂_and_left _ _).1 hread.flip
  have hkeys : entries.map Prod.fst = fields.map Prod.fst := by
    rw [← List.forall₂_eq_eq_eq, List.forall₂_map_left_iff, List.forall₂_map_right_iff]
    refine hvalues.imp fun entry field hvalue => ?_
    obtain ⟨value, -, rfl⟩ := Option.map_eq_some_iff.1 hvalue
    rfl
  -- No entry of the dictionary is missing: it is found in the document under its key.
  have hsame : Dict.ofList entries = dict := by
    refine Dict.ofList_eq_of_mem (hkeys ▸ hfields.keys) hmem fun entry hentry => ?_
    have hget := dict.get?_eq_some_iff.2 hentry
    obtain ⟨value, hvalue, -⟩ := hfields.found _ ((lookup?_dict dict write entry.1).trans
      (by rw [hget]; rfl))
    rw [hkeys]
    exact List.mem_map.2 ⟨_, (lookup?_eq_some_iff hfields.keys).1 hvalue, rfl⟩
  have hmap := mapM_eq_some_iff.2 hvalues.flip
  rw [asDict?, asEntries?, ← hsame]
  exact congrArg (Option.map Dict.ofList) hmap

end ODataToSql.Json
