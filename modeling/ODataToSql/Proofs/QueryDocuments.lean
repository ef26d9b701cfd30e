import ODataToSql.Proofs.RestatedRecords

/-!
# Query documents are read back

Reading undoes writing, for queries and for each of their parts that is written on its own: whatever
is left out of a document comes back as what was left out.
-/

namespace ODataToSql

open Json (ReadsAs ReadsBack Restates FieldsRestate lookup? lookup?_cons lookup?_append
  lookup?_optionalField lookup?_unless isUnambiguous_array isUnambiguous_object
  forall_mem_optionalField keys_optionalField)

/-! ## Properties -/

namespace Property

lemma readsAs (property : Property) : ReadsAs ofJson? property.toJson property := by
  intro document h
  obtain ⟨fields, rfl, hfields⟩ := h.object
  obtain ⟨name, hname, hreadname⟩ :=
    hfields.required "name" (by simp [lookup?_cons]) (Json.readsAs_string property.name)
  have hroot : property.isRoot = true → property.path = [] := List.isEmpty_iff.1
  have hpath := hfields.defaulted "path" (by simp [lookup?_cons, lookup?_unless]) hroot
    (Json.readsAs_list fun segment _ => Json.readsAs_string segment)
  simp [ofJson?, hfields.record?, hname, hreadname, hpath]

end Property

/-! ## Expressions -/

namespace Expr

lemma asTag?_kind (heldBack : Bool) (kind : Kind) :
    Json.asTag? heldBack (.string kind.name) = some kind :=
  Enumeration.ofName?_name kind

lemma height_taggedAs (kind : Kind) (fields : List (String × Json)) :
    (taggedAs kind fields).height = Json.heightOfFields fields + 1 := by
  simp [taggedAs, Json.height, Json.heightOfFields]

lemma toJsons_eq_map (exprs : List Expr) : toJsons exprs = exprs.map toJson := by
  induction exprs with
  | nil => rfl
  | cons expr rest ih => rw [toJsons, ih, List.map_cons]

/-- The predicate of a quantifier is a field that is left out if there is none. -/
lemma toJson_lambda (quantifier : Quantifier) (collection : Property) (predicate : Option Expr) :
    (lambda quantifier collection predicate).toJson =
      taggedAs .lambda
        (("quantifier", .string quantifier.name) :: ("collection", collection.toJson) ::
          optionalField "predicate" predicate toJson) := by
  cases predicate <;> rfl

/-- Every expression is a tagged value of its kind. -/
lemma exists_toJson (expr : Expr) : ∃ fields, expr.toJson = taggedAs expr.kind fields := by
  cases expr with
  | lambda quantifier collection predicate => cases predicate <;> exact ⟨_, rfl⟩
  | constant | property | binary | unary | call | cast => exact ⟨_, rfl⟩

lemma toJson_ne_null (expr : Expr) : expr.toJson ≠ .null := by
  obtain ⟨fields, hfields⟩ := expr.exists_toJson
  rw [hfields]
  exact nofun

/-- A tagged value within a height has its fields within a lower one. -/
lemma exists_fields {kind : Kind} {written : List (String × Json)} {bound : Nat} {document : Json}
    (hbound : (taggedAs kind written).height ≤ bound)
    (h : document.Restates (taggedAs kind written)) :
    ∃ lower fields, bound = lower + 1 ∧
      (∀ field ∈ written, field.2.height ≤ lower) ∧
      document.tagged? = some (.string kind.name, .object fields) ∧
      FieldsRestate fields written := by
  rw [height_taggedAs] at hbound
  obtain ⟨lower, rfl⟩ := Nat.exists_eq_succ_of_ne_zero (Nat.ne_zero_of_lt hbound)
  obtain ⟨fields, htag, hfields⟩ := h.tagged
  exact ⟨lower, fields, rfl, Json.heightOfFields_le_iff.1 (Nat.le_of_succ_le_succ hbound), htag,
    hfields⟩

/-- An expression is read within any height that its written form keeps to. -/
lemma readsAs_within (expr : Expr) : ∀ {bound : Nat} (heldBack : Bool),
    expr.toJson.height ≤ bound → ReadsAs (ofJsonWithin? bound heldBack) expr.toJson expr := by
  induction expr with
  | constant value =>
    intro bound heldBack hbound document h
    obtain ⟨lower, fields, rfl, -, htag, hfields⟩ := exists_fields hbound h
    obtain ⟨json, hjson, hvalue⟩ :=
      hfields.required "value" (by simp [lookup?_cons]) (Json.readsAs_datum value)
    simp [ofJsonWithin?, htag, asTag?_kind, hfields.record?, hjson, hvalue]
  | property target =>
    intro bound heldBack hbound document h
    obtain ⟨lower, fields, rfl, -, htag, hfields⟩ := exists_fields hbound h
    obtain ⟨json, hjson, htarget⟩ :=
      hfields.required "property" (by simp [lookup?_cons]) target.readsAs
    simp [ofJsonWithin?, htag, asTag?_kind, hfields.record?, hjson, htarget]
  | binary op left right ihleft ihright =>
    intro bound heldBack hbound document h
    obtain ⟨lower, fields, rfl, hlower, htag, hfields⟩ := exists_fields hbound h
    obtain ⟨opJson, hopJson, hop⟩ :=
      hfields.required "operator" (by simp [lookup?_cons, Enumeration.name])
        (Json.readsAs_enumerated true op)
    obtain ⟨leftJson, hleftJson, hleft⟩ :=
      hfields.required "left" (by simp [lookup?_cons]) (ihleft true (hlower ("left", _) (by simp)))
    obtain ⟨rightJson, hrightJson, hright⟩ := hfields.required "right" (by simp [lookup?_cons])
      (ihright true (hlower ("right", _) (by simp)))
    simp [ofJsonWithin?, htag, asTag?_kind, hfields.record?, hopJson, hop, hleftJson, hleft,
      hrightJson, hright]
  | unary op operand ih =>
    intro bound heldBack hbound document h
    obtain ⟨lower, fields, rfl, hlower, htag, hfields⟩ := exists_fields hbound h
    obtain ⟨opJson, hopJson, hop⟩ :=
      hfields.required "operator" (by simp [lookup?_cons, Enumeration.name])
        (Json.readsAs_enumerated true op)
    obtain ⟨json, hjson, hoperand⟩ :=
      hfields.required "operand" (by simp [lookup?_cons]) (ih true (hlower ("operand", _) (by simp)))
    simp [ofJsonWithin?, htag, asTag?_kind, hfields.record?, hopJson, hop, hjson, hoperand]
  | call name arguments ih =>
    intro bound heldBack hbound document h
    obtain ⟨lower, fields, rfl, hlower, htag, hfields⟩ := exists_fields hbound h
    obtain ⟨nameJson, hnameJson, hname⟩ :=
      hfields.required "name" (by simp [lookup?_cons]) (Json.readsAs_string name)
    -- The arguments are one level below their array, hence within the bound that is left.
    have hheight : Json.heightOfItems (arguments.map toJson) + 1 ≤ lower := by
      rw [← toJsons_eq_map]
      exact hlower ("arguments", .array (toJsons arguments)) (by simp)
    have hitems := Json.heightOfItems_le_iff.1 (Nat.le_of_succ_le hheight)
    have hread : ReadsAs (Json.asList? (ofJsonWithin? lower true))
        (.array (arguments.map toJson)) arguments :=
      Json.readsAs_list fun argument hargument =>
        ih argument hargument true (hitems _ (List.mem_map_of_mem hargument))
    obtain ⟨json, hjson, harguments⟩ :=
      hfields.required "arguments" (by simp [lookup?_cons, toJsons_eq_map]) hread
    simp [ofJsonWithin?, htag, asTag?_kind, hfields.record?, hnameJson, hname, hjson, harguments,
      Json.orDefault]
  | cast operand ih =>
    intro bound heldBack hbound document h
    obtain ⟨lower, fields, rfl, hlower, htag, hfields⟩ := exists_fields hbound h
    obtain ⟨json, hjson, hoperand⟩ := hfields.required "expression" (by simp [lookup?_cons])
      (ih true (hlower ("expression", _) (by simp)))
    simp [ofJsonWithin?, htag, asTag?_kind, hfields.record?, hjson, hoperand]
  | lambda quantifier collection predicate ih =>
    intro bound heldBack hbound document h
    rw [toJson_lambda] at hbound h
    obtain ⟨lower, fields, rfl, hlower, htag, hfields⟩ := exists_fields hbound h
    obtain ⟨quantifierJson, hquantifierJson, hquantifier⟩ :=
      hfields.required "quantifier" (by simp [lookup?_cons, Enumeration.name])
        (Json.readsAs_enumerated true quantifier)
    obtain ⟨collectionJson, hcollectionJson, hcollection⟩ :=
      hfields.required "collection" (by simp [lookup?_cons]) collection.readsAs
    have hpredicate := hfields.optional "predicate"
      (by simp [lookup?_cons, lookup?_optionalField])
      (fun expr hexpr => ih expr hexpr true
        (hlower ("predicate", _) (by obtain rfl := hexpr; simp [optionalField])))
      toJson_ne_null
    simp [ofJsonWithin?, htag, asTag?_kind, hfields.record?, hquantifierJson, hquantifier,
      hcollectionJson, hcollection, hpredicate]

lemma readsAs (expr : Expr) : ReadsAs ofJson? expr.toJson expr := by
  intro document h
  rw [ofJson?, if_pos h.readable]
  exact expr.readsAs_within false (Nat.le_of_eq h.height_eq.symm) document h

end Expr

/-! ## Orderings -/

namespace OrderItem

lemma readsAs (item : OrderItem) : ReadsAs ofJson? item.toJson item := by
  intro document h
  obtain ⟨fields, rfl, hfields⟩ := h.object
  obtain ⟨exprJson, hexprJson, hexpr⟩ :=
    hfields.required "expression" (by simp [lookup?_cons]) item.expr.readsAs
  obtain ⟨directionJson, hdirectionJson, hdirection⟩ :=
    hfields.required "direction" (by simp [lookup?_cons, Enumeration.name])
      (Json.readsAs_enumerated false item.direction)
  simp [ofJson?, hfields.record?, hexprJson, hexpr, hdirectionJson, hdirection, Json.orDefault]

lemma readsAs_list (items : List OrderItem) : ReadsAs listOfJson? (listToJson items) items :=
  Json.readsAs_list fun item _ => item.readsAs

end OrderItem

/-! ## Projections -/

namespace SelectItem

lemma readsAs (heldBack : Bool) (item : SelectItem) :
    ReadsAs (ofJson? heldBack) item.toJson item := by
  have htag (kind : Kind) : Json.asTag? heldBack (.string kind.name) = some kind :=
    Enumeration.ofName?_name kind
  intro document h
  rw [ofJson?, if_pos h.readable]
  cases item with
  | wildcard =>
    obtain ⟨fields, htagged, hfields⟩ := h.tagged
    simp [htagged, htag, ofBody?, hfields.record?]
  | property target =>
    obtain ⟨fields, htagged, hfields⟩ := h.tagged
    obtain ⟨json, hjson, htarget⟩ :=
      hfields.required "property" (by simp [lookup?_cons]) target.readsAs
    simp [htagged, htag, ofBody?, hfields.record?, hjson, htarget]
  | expansion navigation =>
    obtain ⟨fields, htagged, hfields⟩ := h.tagged
    obtain ⟨json, hjson, hnavigation⟩ :=
      hfields.required "navigation" (by simp [lookup?_cons]) navigation.readsAs
    simp [htagged, htag, ofBody?, hfields.record?, hjson, hnavigation]

end SelectItem

namespace Projection

lemma toJson_ne_null (projection : Projection) : projection.toJson ≠ .null := by
  cases projection <;> exact nofun

/-- The kind of a projection is found wherever it stands. The items that stand in front of it are
held back, which makes no difference to them. -/
lemma readsAs (projection : Projection) : ReadsAs ofJson? projection.toJson projection := by
  intro document h
  cases projection with
  | all =>
    obtain ⟨fields, rfl, hfields⟩ := h.object
    obtain ⟨kindJson, hkindJson, hkind⟩ :=
      hfields.required "type" (by simp [lookup?_cons, Enumeration.name])
        (Json.readsAs_enumerated false Kind.all)
    have hitems : lookup? fields "items" = none := hfields.missing (by simp [lookup?_cons])
    simp [ofJson?, Json.isSingle_of_nodup hfields.keys, hkindJson, hkind, hitems, ofContent?]
  | items list =>
    obtain ⟨fields, rfl, hfields⟩ := h.object
    obtain ⟨kindJson, hkindJson, hkind⟩ :=
      hfields.required "type" (by simp [lookup?_cons, Enumeration.name])
        (Json.readsAs_enumerated false Kind.items)
    obtain ⟨content, hcontent, hrestates⟩ := hfields.found "items" rfl
    have hread (heldBack : Bool) :
        content.asList? (SelectItem.ofJson? heldBack) = some list :=
      Json.readsAs_list (fun item _ => item.readsAs heldBack) content hrestates
    simp [ofJson?, Json.isSingle_of_nodup hfields.keys, hkindJson, hkind, hcontent,
      hrestates.readable, ofContent?, hread]

end Projection

/-! ## Raw values -/

namespace QueryOption

lemma nodup_keys : ((Enumeration.values (α := QueryOption)).map key).Nodup := by decide

lemma key_of_ofKey? {text : String} {option : QueryOption} (h : ofKey? text = some option) :
    option.key = text := by
  have hkey := List.find?_some h
  exact beq_iff_eq.1 hkey

/-- Each option has a key of its own. -/
lemma ofKey?_eq_some_iff {text : String} {option : QueryOption} :
    ofKey? text = some option ↔ option.key = text := by
  constructor
  · exact key_of_ofKey?
  · rintro rfl
    cases h : ofKey? option.key with
    | none =>
      exact absurd (beq_self_eq_true option.key)
        (List.find?_eq_none.1 h option (Enumeration.complete option))
    | some other =>
      rw [Enumeration.eq_of_nodup_map nodup_keys (Enumeration.complete other)
        (Enumeration.complete option) (key_of_ofKey? h)]

end QueryOption

namespace RawValues

lemma get?_addPair (values : RawValues) (pair : String × String) (option : QueryOption) :
    (values.addPair pair).get? option =
      if pair.1 = option.key then some pair.2 else values.get? option := by
  unfold addPair
  cases h : QueryOption.ofKey? pair.1 with
  | none =>
    have hkey : pair.1 ≠ option.key := fun hkey =>
      nomatch h.symm.trans (QueryOption.ofKey?_eq_some_iff.2 hkey.symm)
    simp [hkey]
  | some own =>
    have hown := QueryOption.ofKey?_eq_some_iff.1 h
    have hkey : option = own ↔ pair.1 = option.key := by
      rw [eq_comm (a := pair.1), ← QueryOption.ofKey?_eq_some_iff, h, Option.some_inj, eq_comm]
    simp [set, hkey]

/-- The text of an option is the last one under its key. -/
lemma get?_ofPairs (pairs : List (String × String)) (option : QueryOption) :
    (ofPairs pairs).get? option =
      (pairs.reverse.find? fun pair => pair.1 == option.key).map Prod.snd := by
  -- What is there before the first pair stays where no pair has the key.
  suffices ∀ values : RawValues, (pairs.foldl addPair values).get? option =
      ((pairs.reverse.find? fun pair => pair.1 == option.key).map Prod.snd).or
        (values.get? option) by
    simpa [ofPairs, empty] using this empty
  induction pairs with
  | nil => simp
  | cons head rest ih =>
    intro values
    rw [List.foldl_cons, ih, get?_addPair, List.reverse_cons, List.find?_append]
    by_cases h : head.1 = option.key <;>
      cases rest.reverse.find? (fun pair => pair.1 == option.key) <;> simp [h]

/-- The pairs have different keys. -/
lemma nodup_keys_toPairs (values : RawValues) : (values.toPairs.map Prod.fst).Nodup := by
  refine QueryOption.nodup_keys.sublist ?_
  rw [toPairs]
  generalize Enumeration.values (α := QueryOption) = options
  induction options with
  | nil => exact .slnil
  | cons option rest ih => cases h : values.get? option <;> simp [h, ih]

lemma get?_toDict_eq_some_iff (values : RawValues) {key text : String} :
    values.toDict.get? key = some text ↔
      ∃ option : QueryOption, option.key = key ∧ values.get? option = some text := by
  rw [toDict, Dict.get?_ofList_of_nodup values.nodup_keys_toPairs,
    Dict.find?_key_eq_some_iff values.nodup_keys_toPairs, toPairs, List.mem_filterMap]
  constructor
  · rintro ⟨option, -, hoption⟩
    obtain ⟨text, htext, hpair⟩ := Option.map_eq_some_iff.1 hoption
    obtain ⟨rfl, rfl⟩ := Prod.mk.inj hpair
    exact ⟨option, rfl, htext⟩
  · rintro ⟨option, rfl, htext⟩
    exact ⟨option, Enumeration.complete option, by rw [htext]; rfl⟩

lemma get?_toDict (values : RawValues) (option : QueryOption) :
    values.toDict.get? option.key = values.get? option := by
  refine Option.ext fun text => ?_
  rw [get?_toDict_eq_some_iff]
  constructor
  · rintro ⟨own, hkey, hown⟩
    rwa [← Enumeration.eq_of_nodup_map QueryOption.nodup_keys (Enumeration.complete own)
      (Enumeration.complete option) hkey]
  · exact fun h => ⟨option, rfl, h⟩

/-- The raw values of the entries of their dictionary. -/
lemma ofPairs_toDict (values : RawValues) : ofPairs values.toDict.entries = values := by
  have hget : (ofPairs values.toDict.entries).get? = values.get? := funext fun option => by
    rw [get?_ofPairs, ← Dict.get?_ofList, Dict.ofList_entries, get?_toDict]
  exact congrArg RawValues.mk hget

lemma eq_empty_of_isEmpty {values : RawValues} (h : values.isEmpty = true) : values = .empty := by
  have hget : values.get? = RawValues.empty.get? := funext fun option => by
    have hoption := List.all_eq_true.1 h option (Enumeration.complete option)
    simpa [contains, empty] using hoption
  exact congrArg RawValues.mk hget

lemma readsAs (values : RawValues) : ReadsAs ofJson? values.toJson values := by
  intro document h
  have hdict : document.asDict? Json.asString? = some values.toDict :=
    Json.readsAs_dict (fun entry _ => Json.readsAs_string entry.2) document h
  rw [ofJson?, hdict, Option.map_some, ofPairs_toDict]

end RawValues

/-! ## Queries -/

namespace Query

/-- What stands in the document of a query. What the query does not have is left out. -/
structure WrittenAs (query : Query) (fields : List (String × Json)) : Prop where
  entityType : lookup? fields "entity_type" = some (.string query.entityType)
  filter : lookup? fields "filter" = query.filter.map Expr.toJson
  orderBy : lookup? fields "order_by" = query.orderBy.map OrderItem.listToJson
  select : lookup? fields "select" = query.select.map Projection.toJson
  skip : lookup? fields "skip" = query.skip.map countToJson
  top : lookup? fields "top" = query.top.map countToJson
  count : lookup? fields "count" = query.count.map .bool
  rawValues : lookup? fields "raw_values" =
    if query.rawValues.isEmpty then none else some query.rawValues.toJson

lemma exists_writtenAs (query : Query) :
    ∃ fields, query.toJson = .object fields ∧ query.WrittenAs fields := by
  refine ⟨_, rfl, ?_⟩
  constructor <;> simp [lookup?_cons, lookup?_append, lookup?_optionalField, lookup?_unless]

lemma readsAs (query : Query) : ReadsAs ofJson? query.toJson query := by
  intro document h
  obtain ⟨written, hwritten, hfield⟩ := query.exists_writtenAs
  rw [hwritten] at h
  obtain ⟨fields, rfl, hfields⟩ := h.object
  obtain ⟨json, hjson, hname⟩ :=
    hfields.required "entity_type" hfield.entityType (Json.readsAs_string query.entityType)
  have hfilter := hfields.optional "filter" hfield.filter (fun expr _ => expr.readsAs)
    Expr.toJson_ne_null
  have horderBy := hfields.optional "order_by" hfield.orderBy
    (fun items _ => OrderItem.readsAs_list items) (fun _ => nofun)
  have hselect := hfields.optional "select" hfield.select
    (fun projection _ => projection.readsAs) Projection.toJson_ne_null
  have hskip := hfields.optional "skip" hfield.skip (fun number _ => Json.readsAs_uint64 number)
    (fun _ => nofun)
  have htop := hfields.optional "top" hfield.top (fun number _ => Json.readsAs_uint64 number)
    (fun _ => nofun)
  have hcount := hfields.optional "count" hfield.count (fun truth _ => Json.readsAs_bool truth)
    (fun _ => nofun)
  have hrawValues := hfields.defaulted "raw_values" hfield.rawValues
    RawValues.eq_empty_of_isEmpty query.rawValues.readsAs
  simp [ofJson?, hfields.record?, hjson, hname, hfilter, horderBy, hselect, hskip, htop, hcount,
    hrawValues]

end Query

/-! ## Written forms repeat no key -/

lemma isUnambiguous_strings (texts : List String) :
    (Json.array (texts.map .string)).isUnambiguous = true := by
  refine isUnambiguous_array.2 fun item hitem => ?_
  obtain ⟨text, -, rfl⟩ := List.mem_map.1 hitem
  rfl

lemma Property.isUnambiguous_toJson (property : Property) :
    property.toJson.isUnambiguous = true := by
  have hpath := isUnambiguous_strings property.path
  rw [toJson]
  cases property.isRoot <;> simp [isUnambiguous_object, hpath]

lemma Expr.isUnambiguous_toJson (expr : Expr) : expr.toJson.isUnambiguous = true := by
  induction expr with
  | constant value =>
    have hvalue := Json.isUnambiguous_of_isCanonical value.canonical
    simp [toJson, taggedAs, isUnambiguous_object, hvalue]
  | property target =>
    simp [toJson, taggedAs, isUnambiguous_object, target.isUnambiguous_toJson]
  | binary op left right ihleft ihright =>
    simp [toJson, taggedAs, isUnambiguous_object, ihleft, ihright]
  | unary op operand ih => simp [toJson, taggedAs, isUnambiguous_object, ih]
  | call name arguments ih =>
    have harguments : (Json.array (toJsons arguments)).isUnambiguous = true := by
      rw [toJsons_eq_map]
      exact isUnambiguous_array.2 (List.forall_mem_map.2 ih)
    simp [toJson, taggedAs, isUnambiguous_object, harguments]
  | cast operand ih => simp [toJson, taggedAs, isUnambiguous_object, ih]
  | lambda quantifier collection predicate ih =>
    have hcollection := collection.isUnambiguous_toJson
    cases predicate with
    | none => simp [toJson, taggedAs, isUnambiguous_object, hcollection]
    | some expr =>
      simp [toJson, taggedAs, isUnambiguous_object, hcollection, ih expr rfl]

lemma OrderItem.isUnambiguous_listToJson (items : List OrderItem) :
    (listToJson items).isUnambiguous = true := by
  refine isUnambiguous_array.2 (List.forall_mem_map.2 fun item _ => ?_)
  simp [toJson, isUnambiguous_object, item.expr.isUnambiguous_toJson]

lemma Projection.isUnambiguous_toJson (projection : Projection) :
    projection.toJson.isUnambiguous = true := by
  cases projection with
  | all => rfl
  | items list =>
    have hlist : (Json.array (list.map SelectItem.toJson)).isUnambiguous = true := by
      refine isUnambiguous_array.2 (List.forall_mem_map.2 fun item _ => ?_)
      cases item <;>
        simp [SelectItem.toJson, isUnambiguous_object,
          Property.isUnambiguous_toJson]
    simp [toJson, isUnambiguous_object, hlist]

lemma RawValues.isUnambiguous_toJson (values : RawValues) :
    values.toJson.isUnambiguous = true := by
  refine isUnambiguous_object.2 ⟨?_, List.forall_mem_map.2 fun _ _ => rfl⟩
  rw [List.map_map]
  exact values.toDict.nodup_keys

lemma Query.isUnambiguous_toJson (query : Query) : query.toJson.isUnambiguous = true := by
  refine isUnambiguous_object.2 ⟨?_, ?_⟩
  · have hkeys : ["entity_type", "filter", "order_by", "select", "skip", "top", "count",
        "raw_values"].Nodup := by decide
    have hrawValues : ((if query.rawValues.isEmpty then [] else
        [("raw_values", query.rawValues.toJson)]).map Prod.fst).Sublist ["raw_values"] := by
      cases query.rawValues.isEmpty <;> simp
    refine hkeys.sublist ?_
    simp only [List.map_append, List.map_cons]
    exact (((((((keys_optionalField "filter" _ _).cons_cons "entity_type").append
      (keys_optionalField "order_by" _ _)).append (keys_optionalField "select" _ _)).append
      (keys_optionalField "skip" _ _)).append (keys_optionalField "top" _ _)).append
      (keys_optionalField "count" _ _)).append hrawValues
  · have hrawValues : ∀ field ∈ (if query.rawValues.isEmpty then [] else
        [("raw_values", query.rawValues.toJson)]), field.2.isUnambiguous = true := by
      cases query.rawValues.isEmpty <;> simp [query.rawValues.isUnambiguous_toJson]
    simp only [List.forall_mem_append, List.forall_mem_cons]
    exact ⟨⟨⟨⟨⟨⟨⟨rfl,
      forall_mem_optionalField fun expr _ => expr.isUnambiguous_toJson⟩,
      forall_mem_optionalField fun items _ => OrderItem.isUnambiguous_listToJson items⟩,
      forall_mem_optionalField fun projection _ => projection.isUnambiguous_toJson⟩,
      forall_mem_optionalField fun _ _ => rfl⟩,
      forall_mem_optionalField fun _ _ => rfl⟩,
      forall_mem_optionalField fun _ _ => rfl⟩, hrawValues⟩

/-! ## Reading undoes writing -/

/-- Queries, and each of their parts that is written on its own, are read back, whether their
documents stand as they were written, in canonical form or in any other arrangement. A query
document leaves out what the query does not have, and raw values stand under the keys of their
options. -/
theorem documents_read_back :
    (∀ query : Query, (∃ fields, query.toJson = .object fields ∧ query.WrittenAs fields) ∧
      ReadsBack Query.ofJson? query.toJson query) ∧
    (∀ expr : Expr, ReadsBack Expr.ofJson? expr.toJson expr) ∧
    (∀ items : List OrderItem,
      ReadsBack OrderItem.listOfJson? (OrderItem.listToJson items) items) ∧
    (∀ projection : Projection, ReadsBack Projection.ofJson? projection.toJson projection) ∧
    (∀ values : RawValues,
      (∃ fields, values.toJson = .object fields ∧
        ∀ option, lookup? fields option.key = (values.get? option).map .string) ∧
      ReadsBack RawValues.ofJson? values.toJson values) := by
  refine ⟨fun query => ⟨query.exists_writtenAs, ?_⟩, fun expr => ?_, fun items => ?_,
    fun projection => ?_, fun values => ⟨⟨_, rfl, fun option => ?_⟩, ?_⟩⟩
  · exact query.readsAs.readsBack query.isUnambiguous_toJson
  · exact expr.readsAs.readsBack expr.isUnambiguous_toJson
  · exact (OrderItem.readsAs_list items).readsBack (OrderItem.isUnambiguous_listToJson items)
  · exact projection.readsAs.readsBack projection.isUnambiguous_toJson
  · rw [Json.lookup?_dict, RawValues.get?_toDict]
  · exact values.readsAs.readsBack values.isUnambiguous_toJson

end ODataToSql
