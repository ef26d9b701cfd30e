import ODataToSql.Proofs.CommandStructure

/-!
# Commands under different namings

What two namings make of one query.

* `rows_congr`: two namings that answer alike for the properties that a query mentions have the same
  command for it.
* `EntityMapping.rename` puts the columns of a mapping in the places of the standard ones, and
  `rowsSelect_ofCatalogue` says that a catalogue does nothing else.
* The main result is `sameStructure_of_total`.
-/

namespace ODataToSql

variable {σ τ : Type}

/-! ## Properties that are not mentioned -/

namespace Translation

open Sql

/-- The namings answer alike for all of the properties. -/
def Concur (naming other : Naming σ) (properties : List Property) : Prop :=
  ∀ property ∈ properties, naming.column property = other.column property

section Concur

variable {naming other : Naming σ}

lemma Concur.append_left {properties rest : List Property}
    (h : Concur naming other (properties ++ rest)) : Concur naming other properties :=
  fun property hmem => h property (List.mem_append_left _ hmem)

lemma Concur.append_right {properties rest : List Property}
    (h : Concur naming other (properties ++ rest)) : Concur naming other rest :=
  fun property hmem => h property (List.mem_append_right _ hmem)

lemma column_congr {property : Property} (h : naming.column property = other.column property) :
    column naming property = column other property := by
  unfold column Naming.columnOf
  rw [h]

lemma argument_congr {arguments : List Expr} {position : Nat} (function : FilterFunction)
    (h : ∀ expr ∈ arguments[position]?, term naming expr = term other expr) :
    argument function (arguments.map (term naming)) position =
      argument function (arguments.map (term other)) position := by
  unfold argument
  rw [List.getElem?_map, List.getElem?_map]
  cases hposition : arguments[position]? with
  | none => rfl
  | some expr => exact h expr hposition

/-- A call asks for the arguments that occur in its text, and for no other. -/
lemma callTerm_congr {arguments : List Expr} (function : FilterFunction)
    (h : ∀ position ∈ (shape function).positions arguments.length,
      ∀ expr ∈ arguments[position]?, term naming expr = term other expr) :
    callTerm function (arguments.map (term naming)) =
      callTerm function (arguments.map (term other)) := by
  rw [callTerm_eq, callTerm_eq]
  cases hshape : shape function with
  | like pattern =>
    rw [hshape] at h
    dsimp only
    rw [argument_congr function (h 0 (by simp [CallShape.positions])),
      argument_congr function (h 1 (by simp [CallShape.positions]))]
  | indexOf =>
    rw [hshape] at h
    dsimp only
    rw [argument_congr function (h 0 (by simp [CallShape.positions])),
      argument_congr function (h 1 (by simp [CallShape.positions]))]
  | trim | part | convert | totalSeconds =>
    rw [hshape] at h
    dsimp only
    rw [argument_congr function (h 0 (by simp [CallShape.positions]))]
  | direct scalar =>
    rw [hshape] at h
    have hterms : arguments.map (term naming) = arguments.map (term other) := by
      apply List.map_congr_left
      intro expr hmem
      obtain ⟨position, hlt, hexpr⟩ := List.getElem_of_mem hmem
      exact h position (List.mem_range.2 hlt) expr (hexpr ▸ List.getElem?_eq_getElem hlt)
    dsimp only
    rw [hterms]
  | unsupported => rfl

/-- By induction on the expression. -/
lemma term_congr {expr : Expr} (h : Concur naming other (mentioned expr)) :
    term naming expr = term other expr := by
  induction expr with
  | constant | lambda => rfl
  | property property =>
    rw [mentioned] at h
    rw [term, term, column_congr (h property List.mem_cons_self)]
  | binary op left right hleft hright =>
    rw [mentioned] at h
    rw [term, term]
    by_cases hlike : isLikeCall left
    · rw [if_pos hlike] at h
      simp only [hleft h, hlike, if_true]
    · rw [if_neg hlike] at h
      rw [hleft h.append_left, hright h.append_right]
  | unary op operand ih =>
    rw [mentioned] at h
    cases op with
    | not => rw [term, term, ih h]
    | negate => rfl
  | call name arguments ih =>
    rw [term, term, terms_eq_map, terms_eq_map]
    cases hname : FilterFunction.ofName? name with
    | none => rfl
    | some function =>
      have hshape : callShape? name = some (shape function) := by rw [callShape?, hname]; rfl
      rw [mentioned_call hshape] at h
      apply callTerm_congr
      intro position hposition expr hexpr
      apply ih expr (List.mem_of_getElem? hexpr)
      intro property hmem
      refine h property (List.mem_flatMap.2 ⟨position, hposition, ?_⟩)
      rw [hexpr]
      exact hmem
  | cast operand ih =>
    rw [mentioned] at h
    exact ih h

lemma itemColumns_congr {items : List SelectItem}
    (h : Concur naming other (items.filterMap SelectItem.property?)) :
    itemColumns naming items = itemColumns other items := by
  induction items with
  | nil => rfl
  | cons item rest ih =>
    rw [itemColumns, itemColumns]
    cases item with
    | property property =>
      have hcons : Concur naming other (property :: rest.filterMap SelectItem.property?) := h
      rw [itemColumn, itemColumn, column_congr (hcons property List.mem_cons_self),
        ih fun property hmem => hcons property (List.mem_cons_of_mem _ hmem)]
    | expansion | wildcard => rw [itemColumn, itemColumn, ih h]

lemma selectList_congr {query : Query} (h : Concur naming other query.selected) :
    selectList naming query.select = selectList other query.select := by
  unfold Query.selected at h
  unfold selectList
  split
  · next items hselect =>
    rw [hselect] at h
    dsimp only at h
    split
    · rfl
    · next hall =>
      rw [if_neg hall] at h
      rw [itemColumns_congr h]
  · rfl

lemma sortKeys_congr {items : List OrderItem}
    (h : Concur naming other (items.filterMap OrderItem.property?)) :
    sortKeys naming items = sortKeys other items := by
  induction items with
  | nil => rfl
  | cons item rest ih =>
    rw [sortKeys, sortKeys, sortKey, sortKey]
    cases hexpr : item.expr with
    | property property =>
      rw [List.filterMap_cons_some (by rw [OrderItem.property?, hexpr])] at h
      dsimp only
      rw [column_congr (h property List.mem_cons_self),
        ih fun property hmem => h property (List.mem_cons_of_mem _ hmem)]
    | _ =>
      rw [List.filterMap_cons_none (by rw [OrderItem.property?, hexpr])] at h
      dsimp only
      rw [ih h]

/-- The properties that a query does not mention have no part in its command. -/
lemma rowsSelect_congr {query : Query}
    (h : Concur naming other (query.selected ++ query.filtered ++ query.sorted))
    (command : String) : rowsSelect naming command query = rowsSelect other command query := by
  have hlist : selectList naming query.select = selectList other query.select :=
    selectList_congr h.append_left.append_left
  have hcondition (keyword : ConditionKeyword) :
      condition naming query.filter keyword = condition other query.filter keyword := by
    have hfiltered := h.append_left.append_right
    unfold Query.filtered at hfiltered
    unfold condition
    cases hfilter : query.filter with
    | none => rfl
    | some filter =>
      rw [hfilter] at hfiltered
      dsimp only
      rw [term_congr hfiltered]
  have hkeys : orderBy naming query.orderBy = orderBy other query.orderBy :=
    sortKeys_congr h.append_right
  unfold rowsSelect chosenList
  simp only [hlist, hcondition, hkeys]

end Concur

end Translation

/-! ## Catalogues -/

/-- The text between the brackets of a column. -/
def Sql.Column.inner (column : Column) : String :=
  String.ofList column.text.toList.tail.dropLast

lemma Sql.inner_quoted (name : String) : (quoted name).inner = name := by
  simp [Column.inner, quoted]

/-- Puts the column of the mapping, if there is one, in the place of a name in brackets. -/
def EntityMapping.rename (mapping : EntityMapping) (column : Sql.Column) : Sql.Column :=
  ((mapping.columns.get? column.inner).map Sql.Column.mk).getD column

lemma EntityMapping.rename_quoted (mapping : EntityMapping) (name : String) :
    mapping.rename (Sql.quoted name) =
      ((mapping.columns.get? name).map Sql.Column.mk).getD (Sql.quoted name) := by
  rw [rename, Sql.inner_quoted]

/-- None of the columns is white space only. -/
def EntityMapping.HasNoBlank (mapping : EntityMapping) : Prop :=
  ∀ name text, mapping.columns.get? name = some text → Text.isBlankText text = false

namespace Translation

open Sql

section Catalogue

variable {mapping : EntityMapping}

/-- A mapping renames the standard column of each property. -/
lemma columnOf_ofMapping (hmapping : mapping.HasNoBlank) (property : Property) :
    (Naming.ofMapping mapping : Naming σ).columnOf property =
      pure (some (mapping.rename (quoted property.name)).text) := by
  rw [EntityMapping.rename_quoted]
  cases hcolumn : mapping.columns.get? property.name with
  | none =>
    have hstandard : (Naming.ofMapping mapping : Naming σ).column property =
        Naming.standard.column property := by
      show (pure (some ((mapping.columns.get? property.name).getD _)) : StateM σ _) = _
      rw [hcolumn]
      rfl
    have hanswer := columnOf_standard (σ := σ) property
    unfold Naming.columnOf at hanswer ⊢
    rw [hstandard]
    exact hanswer
  | some text =>
    have hblank := hmapping property.name text hcolumn
    show (pure ((some ((mapping.columns.get? property.name).getD _)).filter
      fun text => !Text.isBlankText text) : StateM σ (Option String)) = _
    rw [hcolumn, Option.getD_some, Option.filter_some, hblank]
    rfl

lemma column_ofMapping (hmapping : mapping.HasNoBlank) (property : Property) :
    column (Naming.ofMapping mapping : Naming σ) property =
      mapping.rename <$> column Naming.standard property := by
  unfold column
  by_cases hroot : property.isRoot
  · rw [if_pos hroot, if_pos hroot, columnOf_standard, columnOf_ofMapping hmapping]
    rfl
  · rw [if_neg hroot, if_neg hroot]
    rfl

end Catalogue

/-! ## Commands -/

section Commands

variable {command : String} {arguments : List Datum} {query : Query}

/-- The translation of a query fails where its clauses do. -/
lemma outcome_rows_of_error {naming : Naming σ} {state : σ} {e : Error}
    (h : (outcome (rowsSelect naming command query) state).1 = .error e) :
    (outcome (rows naming command arguments query) state).1 = .error e := by
  unfold rows
  rw [outcome_bind]
  generalize outcome (rowsSelect naming command query) state = ends at h ⊢
  obtain ⟨result, after⟩ := ends
  obtain rfl : result = .error e := h
  rfl

/-- Which arguments a command binds is a matter of the query. -/
lemma arguments_eq_of_yields {naming : Naming σ} {other : Naming τ} {first second : Statement}
    {state after : σ} {state' after' : τ}
    (hfirst : Yields (rows naming command arguments query) state first after)
    (hsecond : Yields (rows other command arguments query) state' second after') :
    first.arguments = second.arguments := by
  obtain ⟨values, hvalues, hplaces⟩ := binds_of_yields_rows hfirst
  obtain ⟨values', hvalues', hplaces'⟩ := binds_of_yields_rows hsecond
  have hsame : values = values' :=
    List.map_injective_iff.2 (fun _ _ => Option.some.inj) (hplaces.trans hplaces'.symm)
  rw [hvalues, hvalues', hsame]

/-- Under two namings that have a column for every property, a query fails with the same error or
has commands of the same structure, which bind the same arguments.

So a catalogue without blank columns puts its own columns in the places of the standard ones, and
does nothing else; and of two catalogues that have the same columns for the properties that the
query mentions, the commands are the same. -/
theorem sameStructure_of_total :
    (∀ {naming : Naming σ} {other : Naming τ}, naming.IsTotal → other.IsTotal → ∀ state state',
      (∃ e, (outcome (rows naming command arguments query) state).1 = .error e ∧
        (outcome (rows other command arguments query) state').1 = .error e) ∨
      ∃ base first second after after',
        baseCommand command = .ok base ∧
        Yields (rowsSelect naming command query) state first after ∧
        Yields (rowsSelect other command query) state' second after' ∧
        Yields (rows naming command arguments query) state (first.statement arguments) after ∧
        Yields (rows other command arguments query) state' (second.statement arguments) after' ∧
        (first.statement arguments).arguments = (second.statement arguments).arguments ∧
        SameStructure naming other (query.placed base) first second) ∧
    (∀ catalogue entityType, (Catalogue.mapping catalogue entityType).HasNoBlank →
      ∃ rename : Column → Column,
        (∀ name, rename (quoted name) =
          (((catalogue.mapping entityType).columns.get? name).map Column.mk).getD (quoted name)) ∧
        rowsSelect (Naming.ofCatalogue catalogue entityType : Naming σ) command query =
          Select.mapColumns rename <$> rowsSelect Naming.standard command query) ∧
    ∀ (catalogue catalogue' : Catalogue) (entityType : String),
      (∀ property ∈ query.selected ++ query.filtered ++ query.sorted,
        (catalogue.mapping entityType).columns.get? property.name =
          (catalogue'.mapping entityType).columns.get? property.name) →
      rows (Naming.ofCatalogue catalogue entityType : Naming σ) command arguments query =
        rows (Naming.ofCatalogue catalogue' entityType) command arguments query := by
  refine ⟨?_, ?_, ?_⟩
  · intro naming other hnaming hother state state'
    rcases (endsLike_rowsSelect hnaming command query).both (endsLike_rowsSelect hother command query)
      state state' with ⟨e, hfirst, hsecond⟩ | ⟨first, second, after, after', hfirst, hsecond⟩
    · exact .inl ⟨e, outcome_rows_of_error hfirst, outcome_rows_of_error hsecond⟩
    · obtain ⟨base, _, _, _, _, _, hbase, -⟩ := yields_rowsSelect.1 hfirst
      have hrows : Yields (rows naming command arguments query) state _ after :=
        yields_rows.2 ⟨first, hfirst, rfl⟩
      have hrows' : Yields (rows other command arguments query) state' _ after' :=
        yields_rows.2 ⟨second, hsecond, rfl⟩
      exact .inr ⟨base, first, second, after, after', hbase, hfirst, hsecond, hrows, hrows',
        arguments_eq_of_yields hrows hrows',
        sameStructure_of_yields hnaming hother hbase hfirst hsecond⟩
  · intro catalogue entityType hmapping
    exact ⟨_, EntityMapping.rename_quoted _, rowsSelect_eq_map (column_ofMapping hmapping) _ _⟩
  · intro catalogue catalogue' entityType h
    unfold rows
    rw [rowsSelect_congr]
    intro property hmem
    show (pure (some (Option.getD _ _)) : StateM σ _) = pure (some (Option.getD _ _))
    rw [h property hmem]

end Commands

/-- A naming whose columns get longer from one question to the next. -/
def lengthening : Naming ℕ where
  column _ := fun asked => (some (String.ofList (List.replicate (asked + 1) 'c')), asked + 1)
  key _ := pure Naming.standardKey

/-- A catalogue that knows some columns of the users, and one of other entities. -/
def columnsOfUsers (columns : List (String × String)) : Catalogue :=
  ⟨.ofList [("Order", ⟨none, .ofList [("Name", " ")]⟩), ("User", ⟨none, .ofList columns⟩)]⟩

lemma mapping_columnsOfUsers (columns : List (String × String)) :
    (columnsOfUsers columns).mapping "User" = ⟨none, .ofList columns⟩ := by
  rw [Catalogue.mapping, columnsOfUsers, Dict.get?_ofList]
  rfl

lemma isTotal_lengthening : lengthening.IsTotal := by
  intro property _ asked
  refine ⟨_, _, rfl, ?_⟩
  have hletter : Text.isBlank 'c' = false := by decide
  simp [Text.isBlankText, hletter]

lemma isTotal_standard : (Naming.standard : Naming Unit).IsTotal := by
  intro property _ state
  refine ⟨_, _, rfl, ?_⟩
  have hopen : Text.isBlank '[' = false := by decide
  simp [Text.isBlankText, Naming.standardColumn, hopen]

set_option maxRecDepth 10000 in
/-- The columns are in brackets or made up, or one of them has the name in the catalogue. -/
theorem sameStructure_withOneIn :
    (∃ first second,
      first.statement [] =
        ⟨"SELECT [Id] FROM Users WHERE ([Name] = @p0) ORDER BY [Age]", [.ofInt 1]⟩ ∧
      second.statement [] = ⟨"SELECT c FROM Users WHERE (cc = @p0) ORDER BY ccc", [.ofInt 1]⟩ ∧
      SameStructure (Naming.standard : Naming Unit) lengthening
        [Property.ofName "Id", Property.ofName "Name", Property.ofName "Age"] first second) ∧
    (∃ rename : Column → Column,
      rename (quoted "Name") = ⟨"[FullName]"⟩ ∧ rename (quoted "Age") = quoted "Age" ∧
      rowsSelect (Naming.ofCatalogue (columnsOfUsers [("Name", "[FullName]")]) "User" : Naming Unit)
          "SELECT FROM Users" (withOneIn "Name") =
        Select.mapColumns rename <$>
          rowsSelect Naming.standard "SELECT FROM Users" (withOneIn "Name")) ∧
    rows (Naming.ofCatalogue (columnsOfUsers [("Name", "[FullName]")]) "User" : Naming Unit)
        "SELECT FROM Users" [] (withOneIn "Name") =
      rows (Naming.ofCatalogue (columnsOfUsers [("Email", ""), ("Name", "[FullName]")]) "User")
        "SELECT FROM Users" [] (withOneIn "Name") := by
  have h := @sameStructure_of_total Unit ℕ "SELECT FROM Users" [] (withOneIn "Name")
  refine ⟨?_, ?_, ?_⟩
  · have hfirst : Yields (rows (Naming.standard : Naming Unit) "SELECT FROM Users" []
        (withOneIn "Name")) ()
        ⟨"SELECT [Id] FROM Users WHERE ([Name] = @p0) ORDER BY [Age]", [.ofInt 1]⟩ () := rfl
    have hsecond : Yields (rows lengthening "SELECT FROM Users" [] (withOneIn "Name")) 0
        ⟨"SELECT c FROM Users WHERE (cc = @p0) ORDER BY ccc", [.ofInt 1]⟩ 3 := rfl
    have hcommand : baseCommand "SELECT FROM Users" = .ok ⟨"", "", "FROM Users", false⟩ := by
      decide +kernel
    rcases h.1 isTotal_standard isTotal_lengthening () 0 with
      ⟨e, hfailed, -⟩ | ⟨base, first, second, after, after', hbase, -, -, hrows, hrows', -, hsame⟩
    · rw [hfirst] at hfailed
      cases hfailed
    · obtain rfl := Except.ok.inj (hcommand.symm.trans hbase)
      rw [Yields, hfirst, Prod.mk.injEq, Except.ok.injEq] at hrows
      rw [Yields, hsecond, Prod.mk.injEq, Except.ok.injEq] at hrows'
      exact ⟨first, second, hrows.1.symm, hrows'.1.symm, hsame⟩
  · have hcolumns := congrArg EntityMapping.columns
      (mapping_columnsOfUsers [("Name", "[FullName]")])
    have hmapping :
        (Catalogue.mapping (columnsOfUsers [("Name", "[FullName]")]) "User").HasNoBlank := by
      intro name text hcolumn
      rw [hcolumns, Dict.get?_ofList] at hcolumn
      by_cases hname : "Name" = name <;> simp [hname] at hcolumn
      rw [← hcolumn]
      decide
    obtain ⟨rename, hrename, hrows⟩ := h.2.1 _ "User" hmapping
    refine ⟨rename, ?_, ?_, hrows⟩
    · rw [hrename, hcolumns, Dict.get?_ofList]
      rfl
    · rw [hrename, hcolumns, Dict.get?_ofList]
      rfl
  · apply h.2.2
    intro property hmem
    have hproperties : property ∈
        [Property.ofName "Id", Property.ofName "Name", Property.ofName "Age"] := hmem
    rw [mapping_columnsOfUsers, mapping_columnsOfUsers, Dict.get?_ofList, Dict.get?_ofList]
    simp only [List.mem_cons, List.not_mem_nil, or_false] at hproperties
    rcases hproperties with rfl | rfl | rfl <;> rfl

end Translation
end ODataToSql
