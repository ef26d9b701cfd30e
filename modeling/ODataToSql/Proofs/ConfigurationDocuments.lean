import ODataToSql.Storage.ConfigurationDirectory
import ODataToSql.Proofs.JsonTexts
import ODataToSql.Proofs.RestatedRecords

/-!
# Configuration documents are read back

* `StoredConfiguration.readsAs`: reading undoes writing, for configurations and for their parts. An
  allow list that is empty is written as an empty array, and is not mistaken for a missing one.
* `StoredConfiguration.isStorable_toJson`: configuration documents are among the values whose texts
  are read back.
* `Policy.ofJson?_eq_some_iff`: a policy is what its document says, where an allow list is the set of
  the names in an array (`AllowList.DescribedBy`).
-/

namespace ODataToSql

open Json (ReadsAs FieldsRestate lookup? lookup?_cons lookup?_append lookup?_optionalField
  lookup?_unless forall_mem_optionalField keys_optionalField orDefault orNone)

/-! ## Allow lists -/

section

variable {α β : Type} {R : α → β → Prop} {items : List α} {values : List β}

lemma exists_mem_of_forall₂ (h : List.Forall₂ R items values) {item : α} (hitem : item ∈ items) :
    ∃ value ∈ values, R item value := by
  induction h with
  | nil => cases hitem
  | @cons first value _ _ hfirst hrest ih =>
    rcases List.mem_cons.1 hitem with rfl | hitem
    · exact ⟨value, List.mem_cons_self, hfirst⟩
    · obtain ⟨other, hother, hR⟩ := ih hitem
      exact ⟨other, List.mem_cons_of_mem _ hother, hR⟩

/-- What is read from a list of items is what is read from one of them. -/
lemma mem_iff_of_forall₂ {read : α → Option β}
    (h : List.Forall₂ (fun item value => read item = some value) items values) {value : β} :
    value ∈ values ↔ ∃ item ∈ items, read item = some value := by
  induction h with
  | nil => simp
  | cons hfirst hrest ih => simp [hfirst, ih, eq_comm]

end

namespace AllowList

variable {α : Type} [Enumeration α]

/-- The allow list is the set of the values that are named in the array of a field, or everything if
the field is left out. -/
def DescribedBy (allowed : AllowList α) (field : Option Json) : Prop :=
  (field = none ∧ allowed = .all) ∨
    ∃ items, field = some (.array items) ∧
      (∀ item ∈ items, ∃ a : α, item.asEnumerated? false = some a) ∧
      ∀ a, allowed.allows a = true ↔ ∃ item ∈ items, item.asEnumerated? false = some a

/-- Only what is left out allows everything by default. -/
lemma describedBy_none {allowed : AllowList α} : allowed.DescribedBy none ↔ allowed = .all := by
  simp [DescribedBy]

/-- An empty array allows nothing. -/
lemma describedBy_nil {allowed : AllowList α} :
    allowed.DescribedBy (some (.array [])) ↔ ∀ a, allowed.allows a = false := by
  simp [DescribedBy]

variable [DecidableEq α]

lemma ofList_toList (allowed : AllowList α) : ofList allowed.toList = allowed := by
  have hallows : (ofList allowed.toList).allows = allowed.allows := funext fun a => by
    rw [Bool.eq_iff_iff]
    simp [ofList, toList, Enumeration.complete a]
  exact congrArg AllowList.mk hallows

lemma readsAs (allowed : AllowList α) : ReadsAs ofJson? allowed.toJson allowed := by
  intro document h
  have hlist : document.asList? (Json.asEnumerated? false) = some allowed.toList :=
    Json.readsAs_list (fun a _ => Json.readsAs_enumerated false a) document h
  rw [ofJson?, hlist, Option.map_some, ofList_toList]

/-- An allow list is read exactly from what describes it. -/
lemma orDefault_eq_some_iff {allowed : AllowList α} {field : Option Json} :
    orDefault field .all ofJson? = some allowed ↔ allowed.DescribedBy field := by
  cases field with
  | none =>
    rw [describedBy_none]
    exact ⟨fun h => (Option.some.inj h).symm, fun h => h ▸ rfl⟩
  | some json =>
    cases json with
    | array items =>
      have hread : orDefault (some (.array items)) .all (ofJson? (α := α)) =
          (items.mapM (Json.asEnumerated? false)).map ofList := rfl
      rw [hread, Option.map_eq_some_iff]
      simp only [DescribedBy, reduceCtorEq, false_and, false_or, Option.some_inj,
        Json.array.injEq, exists_eq_left']
      constructor
      · rintro ⟨values, hvalues, rfl⟩
        rw [mapM_eq_some_iff] at hvalues
        refine ⟨fun item hitem => ?_, fun a => ?_⟩
        · obtain ⟨a, -, ha⟩ := exists_mem_of_forall₂ hvalues hitem
          exact ⟨a, ha⟩
        · rw [← mem_iff_of_forall₂ hvalues]
          simp [ofList]
      · rintro ⟨hitems, hallows⟩
        obtain ⟨values, hvalues⟩ := exists_forall₂ hitems
        refine ⟨values, mapM_eq_some_iff.2 hvalues, congrArg AllowList.mk (funext fun a => ?_)⟩
        rw [Bool.eq_iff_iff, hallows, ← mem_iff_of_forall₂ hvalues]
        simp
    | null | bool | int | double | string | object | unreadable =>
      simp [orDefault, ofJson?, Json.asList?, Json.asArray?, DescribedBy]

/-- Two fields that name the same values: arrays with the same items, in whatever order and however
often, or else one and the same field. -/
inductive SameItems : Option Json → Option Json → Prop
  | same (field : Option Json) : SameItems field field
  | arrays {items others : List Json} (h : ∀ item, item ∈ items ↔ item ∈ others) :
    SameItems (some (.array items)) (some (.array others))

lemma SameItems.read_eq {field other : Option Json} (h : SameItems field other) :
    orDefault field .all (ofJson? (α := α)) = orDefault other .all ofJson? := by
  cases h with
  | same => rfl
  | arrays h =>
    refine Option.ext fun allowed => ?_
    rw [orDefault_eq_some_iff, orDefault_eq_some_iff]
    simp [DescribedBy, h]

end AllowList

/-! ## Catalogues -/

lemma Dict.readsAs {α : Type} {read : Json → Option α} {write : α → Json} (dict : Dict α)
    (h : ∀ entry ∈ dict.entries, ReadsAs read (write entry.2) entry.2) :
    ReadsAs (Json.asDict? read) (dict.toJson write) dict :=
  Json.readsAs_dict h

lemma EntityMapping.readsAs (mapping : EntityMapping) :
    ReadsAs ofJson? mapping.toJson mapping := by
  intro document h
  obtain ⟨fields, rfl, hfields⟩ := h.object
  have hkey := hfields.optional "key"
    (by simp [lookup?_append, lookup?_optionalField, lookup?_unless])
    (fun key (_ : key ∈ mapping.key) => Json.readsAs_string key) (fun _ => nofun)
  have hcolumns := hfields.defaulted "columns"
    (by simp [lookup?_append, lookup?_optionalField, lookup?_unless])
    Dict.eq_empty_of_isEmpty (mapping.columns.readsAs fun column _ => Json.readsAs_string column.2)
  simp [ofJson?, hfields.record?, hkey, hcolumns]

lemma Catalogue.readsAs (catalogue : Catalogue) :
    ReadsAs ofJson? catalogue.toJson catalogue := by
  intro document h
  obtain ⟨fields, rfl, hfields⟩ := h.object
  obtain ⟨json, hjson, hentities⟩ := hfields.required "entities" (by simp [lookup?_cons])
    (catalogue.entities.readsAs fun entity _ => entity.2.readsAs)
  simp [ofJson?, hfields.record?, hjson, hentities, orDefault]

/-! ## Policies -/

lemma Policy.readsAs (policy : Policy) : ReadsAs ofJson? policy.toJson policy := by
  intro document h
  obtain ⟨fields, rfl, hfields⟩ := h.object
  obtain ⟨optionsJson, hoptionsJson, hoptions⟩ := hfields.required "allowedOptions"
    (by simp [lookup?_cons]) policy.options.readsAs
  obtain ⟨operatorsJson, hoperatorsJson, hoperators⟩ := hfields.required "allowedOperators"
    (by simp [lookup?_cons]) policy.operators.readsAs
  obtain ⟨functionsJson, hfunctionsJson, hfunctions⟩ := hfields.required "allowedFunctions"
    (by simp [lookup?_cons]) policy.functions.readsAs
  have hmaxSkip := hfields.optional "maxSkip"
    (by simp [lookup?_cons, lookup?_append, lookup?_optionalField])
    (fun ceiling (_ : ceiling ∈ policy.maxSkip) => Json.readsAs_uint64 ceiling) (fun _ => nofun)
  have hmaxTop := hfields.optional "maxTop"
    (by simp [lookup?_cons, lookup?_append, lookup?_optionalField])
    (fun ceiling (_ : ceiling ∈ policy.maxTop) => Json.readsAs_uint64 ceiling) (fun _ => nofun)
  simp [ofJson?, hfields.record?, hoptionsJson, hoptions, hoperatorsJson, hoperators,
    hfunctionsJson, hfunctions, hmaxSkip, hmaxTop, orDefault]

/-- The fields of a policy document. -/
def Policy.fieldNames : List String :=
  ["allowedOptions", "allowedOperators", "allowedFunctions", "maxSkip", "maxTop"]

/-- A policy is read exactly from the documents that describe it. -/
lemma Policy.ofJson?_eq_some_iff {document : Json} {policy : Policy} :
    ofJson? document = some policy ↔
      ∃ field, document.record? fieldNames = some field ∧
        policy.options.DescribedBy (field "allowedOptions") ∧
        policy.operators.DescribedBy (field "allowedOperators") ∧
        policy.functions.DescribedBy (field "allowedFunctions") ∧
        orNone (field "maxSkip") Json.asUInt64? = some policy.maxSkip ∧
        orNone (field "maxTop") Json.asUInt64? = some policy.maxTop := by
  simp only [← AllowList.orDefault_eq_some_iff]
  obtain ⟨options, operators, functions, maxSkip, maxTop⟩ := policy
  simp [ofJson?, fieldNames, Option.bind_eq_some_iff]

/-- Of its allow lists, a policy document has only the sets of names. -/
lemma Policy.ofJson?_eq_of_sameItems {document other : Json} {field field' : String → Option Json}
    (hdocument : document.record? fieldNames = some field)
    (hother : other.record? fieldNames = some field')
    (hlists : ∀ name ∈ ["allowedOptions", "allowedOperators", "allowedFunctions"],
      AllowList.SameItems (field name) (field' name))
    (hceilings : ∀ name ∈ ["maxSkip", "maxTop"], field name = field' name) :
    ofJson? document = ofJson? other := by
  have hoptions := (hlists "allowedOptions" (by simp)).read_eq (α := QueryOption)
  have hoperators := (hlists "allowedOperators" (by simp)).read_eq (α := Policy.Operator)
  have hfunctions := (hlists "allowedFunctions" (by simp)).read_eq (α := FilterFunction)
  rw [fieldNames] at hdocument hother
  simp only [ofJson?, hdocument, hother, Option.bind_eq_bind, Option.bind_some, hoptions,
    hoperators, hfunctions, hceilings "maxSkip" (by simp), hceilings "maxTop" (by simp)]

/-! ## Configurations -/

lemma readsAs_uint32 (number : UInt32) :
    ReadsAs Json.asUInt32? (.int number.toNat) number := by
  intro document h
  have hbound : (number.toNat : Int) < UInt32.size := by exact_mod_cast number.toNat_lt_size
  rw [h.eq_int, Json.asUInt32?, if_pos ⟨Int.natCast_nonneg _, hbound⟩]
  simp

lemma StoredConfiguration.readsAs (stored : StoredConfiguration) :
    ReadsAs ofJson? stored.toJson stored := by
  intro document h
  obtain ⟨fields, rfl, hfields⟩ := h.object
  obtain ⟨versionJson, hversionJson, hversion⟩ :=
    hfields.required "version" (by simp [lookup?_cons]) (readsAs_uint32 stored.version)
  obtain ⟨metadataJson, hmetadataJson, hmetadata⟩ :=
    hfields.required "metadata" (by simp [lookup?_cons]) stored.catalogue.readsAs
  obtain ⟨validationJson, hvalidationJson, hvalidation⟩ :=
    hfields.required "validation" (by simp [lookup?_cons]) stored.policy.readsAs
  simp [ofJson?, hfields.record?, hversionJson, hversion, hmetadataJson, hmetadata,
    hvalidationJson, hvalidation, orDefault]

/-! ## Texts of configurations -/

namespace Json

/-- A value whose text is read back, and whose arrangement does not matter. -/
structure IsStorable (bound : Nat) (json : Json) : Prop where
  values_exact : json.IsExact
  height_le : json.height ≤ bound
  unambiguous : json.isUnambiguous = true

variable {bound : Nat}

lemma isStorable_string (text : String) : IsStorable bound (.string text) :=
  ⟨.string text, Nat.zero_le _, rfl⟩

lemma isStorable_natural {number : Nat} (h : number < 2 ^ 64) : IsStorable bound (.int number) :=
  ⟨.int (by omega) (by exact_mod_cast h), Nat.zero_le _, rfl⟩

lemma isStorable_array {items : List Json} (h : ∀ item ∈ items, IsStorable bound item) :
    IsStorable (bound + 1) (.array items) where
  values_exact := .array fun item hitem => (h item hitem).values_exact
  height_le := Nat.succ_le_succ (heightOfItems_le_iff.2 fun item hitem => (h item hitem).height_le)
  unambiguous := isUnambiguous_array.2 fun item hitem => (h item hitem).unambiguous

lemma isStorable_object {fields : List (String × Json)} (hkeys : (fields.map Prod.fst).Nodup)
    (h : ∀ field ∈ fields, IsStorable bound field.2) : IsStorable (bound + 1) (.object fields) where
  values_exact := .object fun field hfield => (h field hfield).values_exact
  height_le :=
    Nat.succ_le_succ (heightOfFields_le_iff.2 fun field hfield => (h field hfield).height_le)
  unambiguous := isUnambiguous_object.2 ⟨hkeys, fun field hfield => (h field hfield).unambiguous⟩

lemma isStorable_dict {α : Type} {write : α → Json} (dict : Dict α)
    (h : ∀ a, IsStorable bound (write a)) : IsStorable (bound + 1) (dict.toJson write) := by
  refine isStorable_object ?_ (List.forall_mem_map.2 fun entry _ => h entry.2)
  rw [List.map_map]
  exact dict.nodup_keys

end Json

open Json (IsStorable)

lemma AllowList.isStorable_toJson {α : Type} [Enumeration α] (allowed : AllowList α) {bound : Nat} :
    IsStorable (bound + 1) allowed.toJson :=
  Json.isStorable_array (List.forall_mem_map.2 fun _ _ => Json.isStorable_string _)

lemma EntityMapping.isStorable_toJson (mapping : EntityMapping) : IsStorable 2 mapping.toJson := by
  have hcolumns : IsStorable 1 (mapping.columns.toJson .string) :=
    Json.isStorable_dict mapping.columns fun column => Json.isStorable_string column
  refine Json.isStorable_object ?_ ?_
  · cases mapping.key <;> cases mapping.columns.isEmpty <;> simp [optionalField]
  · rw [List.forall_mem_append]
    refine ⟨forall_mem_optionalField fun key _ => Json.isStorable_string key, ?_⟩
    cases mapping.columns.isEmpty <;> simp [hcolumns]

lemma Catalogue.isStorable_toJson (catalogue : Catalogue) : IsStorable 4 catalogue.toJson :=
  Json.isStorable_object (List.nodup_singleton _) (List.forall_mem_singleton.2
    (Json.isStorable_dict catalogue.entities fun mapping => mapping.isStorable_toJson))

lemma Policy.isStorable_toJson (policy : Policy) : IsStorable 4 policy.toJson := by
  have hceiling (ceiling : UInt64) : IsStorable 3 (Query.countToJson ceiling) :=
    Json.isStorable_natural ceiling.toNat_lt
  refine Json.isStorable_object ?_ ?_
  · cases policy.maxSkip <;> cases policy.maxTop <;> simp [optionalField]
  · simp only [List.cons_append, List.forall_mem_cons, List.forall_mem_append]
    exact ⟨policy.options.isStorable_toJson, policy.operators.isStorable_toJson,
      policy.functions.isStorable_toJson, forall_mem_optionalField fun ceiling _ => hceiling ceiling,
      forall_mem_optionalField fun ceiling _ => hceiling ceiling⟩

lemma StoredConfiguration.isStorable_toJson (stored : StoredConfiguration) :
    IsStorable 5 stored.toJson := by
  have hversion : stored.version.toNat < 2 ^ 64 := by
    have hlt := stored.version.toNat_lt
    omega
  refine Json.isStorable_object (by simp) ?_
  simp only [List.forall_mem_cons]
  exact ⟨Json.isStorable_natural hversion, stored.catalogue.isStorable_toJson,
    stored.policy.isStorable_toJson, List.forall_mem_nil _⟩

/-- A configuration is read back from the text that it is stored as. -/
theorem ConfigurationDirectory.ofText?_pretty (stored : StoredConfiguration) :
    ofText? stored.toJson.pretty = some stored := by
  have hstorable := stored.isStorable_toJson
  have hheight : stored.toJson.height ≤ Json.depthLimit :=
    Nat.le_trans hstorable.height_le (by decide)
  have htext := Json.ofText?_pretty hstorable.values_exact hheight
  have hread := stored.readsAs stored.toJson (.refl hstorable.unambiguous)
  rw [ofText?, htext, Option.bind_eq_bind, Option.bind_some, hread]

end ODataToSql
