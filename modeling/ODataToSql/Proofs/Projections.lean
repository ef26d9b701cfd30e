import ODataToSql.Proofs.NamingCalls

/-!
# What a list of items selects

A list of items stands for all columns if there are none of them or if one is a wildcard. That is
decided where a projection is made from the list and once more where a projection is translated, so
a list that comes past the first decision selects the same. Any other list selects the column of
each item, and the first item without a column is the error.

* `Selects` and `Rejects`: in a state, the naming has a column for an item, or there is an error.
* `Chained`: one step after another along a list, each from the state that the one before leaves.
* `not_fails_rows_of_wildcard` and `not_fails_total_of_wildcard`: a wildcard is no error, in
  whatever query.
* The main result is `selectList_of_items`.
-/

namespace ODataToSql

variable {σ α β : Type}

/-- The items stand for all columns. -/
def StandForAll (items : List SelectItem) : Prop :=
  items = [] ∨ .wildcard ∈ items

lemma isAll_items {items : List SelectItem} :
    (Projection.items items).isAll = true ↔ StandForAll items := by
  unfold Projection.isAll StandForAll
  rw [Bool.or_eq_true, List.isEmpty_iff, List.contains_iff_mem]

lemma Property.isRoot_iff {property : Property} :
    property.isRoot = true ↔ property.path = [] :=
  List.isEmpty_iff

/-! ## Steps along a list -/

/-- The steps for the members of a list, from first to last. Each starts in the state that the one
before it leaves. -/
inductive Chained (step : α → σ → β → σ → Prop) : List α → σ → List β → σ → Prop where
  | nil (state : σ) : Chained step [] state [] state
  | cons {a : α} {rest : List α} {b : β} {results : List β} {state between after : σ}
      (hfirst : step a state b between) (hrest : Chained step rest between results after) :
      Chained step (a :: rest) state (b :: results) after

section Chained

variable {step : α → σ → β → σ → Prop} {state after : σ}

@[simp]
lemma chained_nil {results : List β} :
    Chained step [] state results after ↔ results = [] ∧ state = after := by
  constructor
  · rintro ⟨⟩
    exact ⟨rfl, rfl⟩
  · rintro ⟨rfl, rfl⟩
    exact .nil state

@[simp]
lemma chained_cons {a : α} {rest : List α} {results : List β} :
    Chained step (a :: rest) state results after ↔
      ∃ b others between, results = b :: others ∧ step a state b between ∧
        Chained step rest between others after := by
  constructor
  · rintro ⟨⟩
    exact ⟨_, _, _, rfl, ‹_›, ‹_›⟩
  · rintro ⟨b, others, between, rfl, hfirst, hrest⟩
    exact .cons hfirst hrest

lemma Chained.length_eq {list : List α} {results : List β}
    (h : Chained step list state results after) : results.length = list.length := by
  induction h with
  | nil => rfl
  | cons hfirst hrest ih => rw [List.length_cons, List.length_cons, ih]

end Chained

namespace Translation

open Sql

variable {naming : Naming σ} {state after : σ}

/-! ## The column of an item -/

/-- In the state, there is a column for the item: a property of the queried entity, for which the
naming answers with more than white space. -/
inductive Selects (naming : Naming σ) : SelectItem → σ → Column → σ → Prop where
  | property {property : Property} {text : String} {state after : σ} (hpath : property.path = [])
      (hanswer : (naming.column property).run state = (some text, after))
      (hnamed : Text.isBlankText text = false) :
      Selects naming (.property property) state ⟨text⟩ after

/-- In the state, there is no column for the item, because of the error. Only a property of the
queried entity is asked for. -/
inductive Rejects (naming : Naming σ) : SelectItem → σ → Error → σ → Prop where
  | expansion (navigation : Property) (state : σ) :
      Rejects naming (.expansion navigation) state (.unsupportedNode (.expansion navigation)) state
  | navigation {property : Property} (hpath : property.path ≠ []) (state : σ) :
      Rejects naming (.property property) state (.unsupportedNode (.navigation property)) state
  | noColumn {property : Property} {answer : Option String} {state after : σ}
      (hpath : property.path = [])
      (hanswer : (naming.column property).run state = (answer, after))
      (hnone : ¬ HasColumn answer) :
      Rejects naming (.property property) state (.invalidColumn property) after

lemma Selects.yields {item : SelectItem} {name : Column}
    (h : Selects naming item state name after) :
    Yields (itemColumn naming item) state name after := by
  obtain ⟨hpath, hanswer, hnamed⟩ := h
  have hcolumn := run_columnOf_of_hasColumn hanswer ⟨_, rfl, hnamed⟩
  rw [itemColumn, column, if_pos (Property.isRoot_iff.2 hpath), yields_bind]
  exact ⟨_, _, yields_ask.2 hcolumn, yields_pure.2 ⟨rfl, rfl⟩⟩

lemma Rejects.fails {item : SelectItem} {error : Error}
    (h : Rejects naming item state error after) :
    Fails (itemColumn naming item) state error after := by
  cases h with
  | expansion navigation => exact fails_throw.2 ⟨rfl, rfl⟩
  | navigation hpath =>
    rw [itemColumn, column, if_neg (mt Property.isRoot_iff.1 hpath)]
    exact fails_throw.2 ⟨rfl, rfl⟩
  | noColumn hpath hanswer hnone =>
    have hcolumn := run_columnOf_of_not_hasColumn hanswer hnone
    rw [itemColumn, column, if_pos (Property.isRoot_iff.2 hpath), fails_bind]
    exact .inr ⟨_, _, yields_ask.2 hcolumn, fails_throw.2 ⟨rfl, rfl⟩⟩

/-- Every item but a wildcard has a column or an error. -/
lemma selects_or_rejects {item : SelectItem} (hitem : item ≠ .wildcard) (state : σ) :
    (∃ name after, Selects naming item state name after) ∨
      ∃ error after, Rejects naming item state error after := by
  cases item with
  | wildcard => exact absurd rfl hitem
  | expansion navigation => exact .inr ⟨_, _, .expansion navigation state⟩
  | property property =>
    by_cases hpath : property.path = []
    · rcases hanswer : (naming.column property).run state with ⟨answer, after⟩
      by_cases hcolumn : HasColumn answer
      · obtain ⟨text, rfl, hnamed⟩ := hcolumn
        exact .inl ⟨_, _, .property hpath hanswer hnamed⟩
      · exact .inr ⟨_, _, .noColumn hpath hanswer hcolumn⟩
    · exact .inr ⟨_, _, .navigation hpath state⟩

/-- The two exclude each other, since a translation ends in one way only. -/
lemma yields_itemColumn {item : SelectItem} (hitem : item ≠ .wildcard) {name : Column} :
    Yields (itemColumn naming item) state name after ↔ Selects naming item state name after := by
  refine ⟨fun h => ?_, Selects.yields⟩
  unfold Yields at h
  rcases selects_or_rejects hitem state with ⟨own, between, hown⟩ | ⟨error, between, herror⟩
  · have hends := h.symm.trans hown.yields
    cases hends
    exact hown
  · have hends := h.symm.trans herror.fails
    cases hends

lemma fails_itemColumn {item : SelectItem} (hitem : item ≠ .wildcard) {error : Error} :
    Fails (itemColumn naming item) state error after ↔ Rejects naming item state error after := by
  refine ⟨fun h => ?_, Rejects.fails⟩
  unfold Fails at h
  rcases selects_or_rejects hitem state with ⟨name, between, hname⟩ | ⟨own, between, hown⟩
  · have hends := h.symm.trans hname.yields
    cases hends
  · have hends := h.symm.trans hown.fails
    cases hends
    exact hown

/-! ## The columns of a list of items -/

section Items

variable {items : List SelectItem} (hitems : .wildcard ∉ items)

include hitems

/-- By induction on the items, each asked for in the state that the one before leaves. -/
lemma yields_itemColumns {columns : List Column} :
    Yields (itemColumns naming items) state columns after ↔
      Chained (Selects naming) items state columns after := by
  induction items generalizing state columns after with
  | nil => rw [itemColumns, yields_pure, chained_nil, eq_comm]
  | cons item rest ih =>
    obtain ⟨hitem, hrest⟩ := not_or.1 (mt List.mem_cons.2 hitems)
    rw [itemColumns]
    simp only [yields_bind, yields_itemColumn (Ne.symm hitem), ih hrest, yields_pure, chained_cons]
    constructor
    · rintro ⟨name, between, hname, names, last, hnames, rfl, rfl⟩
      exact ⟨name, names, between, rfl, hname, hnames⟩
    · rintro ⟨name, names, between, rfl, hname, hnames⟩
      exact ⟨name, between, hname, names, after, hnames, rfl, rfl⟩

/-- The first item without a column decides. -/
lemma fails_itemColumns {error : Error} :
    Fails (itemColumns naming items) state error after ↔
      ∃ before item rest columns between, items = before ++ item :: rest ∧
        Chained (Selects naming) before state columns between ∧
        Rejects naming item between error after := by
  induction items generalizing state with
  | nil =>
    refine ⟨fun h => absurd h not_fails_pure, ?_⟩
    rintro ⟨before, item, rest, columns, between, hitems, -⟩
    cases before <;> cases hitems
  | cons first others ih =>
    obtain ⟨hfirst, hothers⟩ := not_or.1 (mt List.mem_cons.2 hitems)
    rw [itemColumns]
    simp only [fails_bind, fails_itemColumn (Ne.symm hfirst), yields_itemColumn (Ne.symm hfirst),
      ih hothers, not_fails_pure, and_false, exists_false, or_false]
    -- the first item has no column, or it has one and an item behind it decides
    constructor
    · rintro (herror | ⟨name, middle, hname, before, item, rest, columns, between, rfl, hbefore,
        herror⟩)
      · exact ⟨[], first, others, [], state, rfl, .nil state, herror⟩
      · exact ⟨first :: before, item, rest, name :: columns, between, rfl, .cons hname hbefore,
          herror⟩
    · rintro ⟨before, item, rest, columns, between, hsplit, hbefore, herror⟩
      cases before with
      | nil =>
        obtain ⟨rfl, rfl⟩ := chained_nil.1 hbefore
        obtain ⟨rfl, rfl⟩ := List.cons.inj hsplit
        exact .inl herror
      | cons head before =>
        obtain ⟨rfl, rfl⟩ := List.cons.inj hsplit
        obtain ⟨name, names, middle, rfl, hname, hnames⟩ := chained_cons.1 hbefore
        exact .inr ⟨name, middle, hname, before, item, rest, names, between, rfl, hnames, herror⟩

end Items

/-! ## Wildcards -/

/-- Steps fail because a property has no column, or with the error of one of them. -/
lemma cause_of_fails_follow {steps : List Step} {error : Error}
    (h : Fails (follow naming steps) state error after) :
    (∃ property, error = .invalidColumn property) ∨ .fail error ∈ steps := by
  induction steps generalizing state with
  | nil => exact absurd h not_fails_pure
  | cons step rest ih =>
    have hlater {between : σ} (hrest : Fails (follow naming rest) between error after) :
        (∃ property, error = .invalidColumn property) ∨ .fail error ∈ step :: rest :=
      (ih hrest).imp_right (List.mem_cons_of_mem step)
    cases step with
    | ask call =>
      cases call with
      | column property =>
        rw [follow, fails_bind] at h
        rcases h with hask | ⟨answer, between, -, hnext⟩
        · exact absurd hask not_fails_ask
        · cases answer with
          | none => exact .inl ⟨property, (fails_throw.1 hnext).1.symm⟩
          | some text => exact hlater hnext
      | key entityType =>
        rw [follow, fails_bind] at h
        rcases h with hask | ⟨answer, between, -, hnext⟩
        · exact absurd hask not_fails_ask
        · exact hlater hnext
    | fail own =>
      obtain ⟨rfl, -⟩ := fails_throw.1 h
      exact .inr List.mem_cons_self

/-- A wildcard is no error of a translation that has no step for one. -/
lemma Follows.not_fails_of_wildcard {translation : Translation σ α} {steps : List Step}
    (h : Follows naming translation steps) (hsteps : itemStep .wildcard ∉ steps) :
    ¬ Fails translation state (.unsupportedNode .wildcard) after := by
  intro hfails
  unfold Follows at h
  rcases cause_of_fails_follow (h ▸ fails_bind_pure.2 hfails) with ⟨property, hproperty⟩ | hmem
  · cases hproperty
  · exact hsteps hmem

lemma wildcard_ne_columnStep (property : Property) : itemStep .wildcard ≠ columnStep property := by
  intro h
  unfold columnStep at h
  split at h <;> cases h

/-- No expression has the step of a wildcard. By induction on the expression. -/
lemma wildcard_not_mem_steps (expr : Expr) : itemStep .wildcard ∉ steps expr := by
  induction expr with
  | constant value => simp [steps]
  | property property => simp [steps, wildcard_ne_columnStep]
  | binary op left right hleft hright =>
    rw [steps]
    cases isLikeCall left with
    | true => exact hleft
    | false =>
      have hop : itemStep .wildcard ∉ operatorSteps op := by
        cases op <;> simp [operatorSteps, itemStep]
      simp [hleft, hop, hright]
  | unary op operand ih =>
    cases op with
    | not =>
      rw [steps]
      exact ih
    | negate => simp [steps, itemStep]
  | call name arguments ih =>
    have hargument (function : FilterFunction) (position : Nat) : itemStep .wildcard ∉
        (arguments.map steps)[position]?.getD
          [.fail (.missingArgument function.name (position + 1))] := by
      rw [List.getElem?_map]
      cases hposition : arguments[position]? with
      | none => simp [itemStep]
      | some argument => exact ih argument (List.mem_of_getElem? hposition)
    rw [steps, stepsOfAll_eq_map]
    cases FilterFunction.ofName? name with
    | none => simp [itemStep]
    | some function =>
      show itemStep .wildcard ∉ callSteps function (arguments.map steps)
      rw [callSteps]
      cases shape function with
      | like pattern | indexOf => exact List.not_mem_append (hargument _ _) (hargument _ _)
      | trim | part | convert | totalSeconds => exact hargument _ _
      | direct scalar => simpa using ih
      | unsupported => simp [itemStep]
  | cast operand ih =>
    rw [steps]
    exact ih
  | lambda quantifier collection predicate => simp [steps, itemStep]

section Query

variable (query : Query)

/-- The items have steps only if none of them is a wildcard. -/
lemma wildcard_not_mem_selectSteps : itemStep .wildcard ∉ query.selectSteps := by
  unfold Query.selectSteps
  split
  · next items hselect =>
    by_cases hall : (Projection.items items).isAll
    · rw [if_pos hall]
      exact List.not_mem_nil
    · rw [if_neg hall, List.mem_map]
      rintro ⟨item, hmem, hstep⟩
      cases item with
      | wildcard => exact hall (isAll_items.2 (.inr hmem))
      | property property => exact wildcard_ne_columnStep property hstep.symm
      | expansion navigation => cases hstep
  · exact List.not_mem_nil

lemma wildcard_not_mem_filterSteps : itemStep .wildcard ∉ query.filterSteps := by
  unfold Query.filterSteps
  cases query.filter with
  | none => exact List.not_mem_nil
  | some filter => exact wildcard_not_mem_steps filter

lemma wildcard_not_mem_sortSteps : itemStep .wildcard ∉ query.sortSteps := by
  unfold Query.sortSteps
  rw [List.mem_map]
  rintro ⟨item, -, hstep⟩
  unfold sortStep at hstep
  split at hstep
  · exact wildcard_ne_columnStep _ hstep.symm
  · cases hstep

end Query

section Commands

variable {command : String} {arguments : List Datum} {query : Query}

lemma wildcard_not_mem_of_baseCommand {error : Error} (hbase : baseCommand command = .error error) :
    itemStep .wildcard ∉ [Step.fail error] := by
  obtain ⟨-, rfl⟩ := baseCommand_eq_error_iff.1 hbase
  simp [itemStep]

/-- A wildcard is no error of the command for the rows. -/
lemma not_fails_rows_of_wildcard :
    ¬ Fails (rows naming command arguments query) state (.unsupportedNode .wildcard) after := by
  cases hbase : baseCommand command with
  | error error =>
    exact (follows_rows_of_error hbase arguments query).not_fails_of_wildcard
      (wildcard_not_mem_of_baseCommand hbase)
  | ok base =>
    apply (follows_rows hbase arguments query).not_fails_of_wildcard
    have hselect : itemStep .wildcard ∉ if base.columns = "" then query.selectSteps else [] := by
      split
      · exact wildcard_not_mem_selectSteps query
      · exact List.not_mem_nil
    exact List.not_mem_append (List.not_mem_append hselect (wildcard_not_mem_filterSteps query))
      (wildcard_not_mem_sortSteps query)

/-- Nor is it one of the command for their number. -/
lemma not_fails_total_of_wildcard :
    ¬ Fails (total naming command arguments query) state (.unsupportedNode .wildcard) after := by
  cases hbase : baseCommand command with
  | error error =>
    exact (follows_total_of_error hbase arguments query).not_fails_of_wildcard
      (wildcard_not_mem_of_baseCommand hbase)
  | ok base =>
    apply (follows_total hbase arguments query).not_fails_of_wildcard
    have hkey : itemStep .wildcard ∉ [Step.ask (.key query.entityType)] := by simp [itemStep]
    exact List.not_mem_append (wildcard_not_mem_filterSteps query) hkey

end Commands

/-! ## Select lists -/

section SelectLists

variable {items : List SelectItem}

/-- The select list of items that stand for all columns is `*`. The naming is not asked. -/
lemma selectList_of_standForAll (h : StandForAll items) :
    selectList naming (some (.items items)) = pure .star := by
  unfold selectList
  exact if_pos (isAll_items.2 h)

lemma selectList_of_not_standForAll (h : ¬ StandForAll items) :
    selectList naming (some (.items items)) = do return .columns (← itemColumns naming items) := by
  unfold selectList
  exact if_neg (mt isAll_items.1 h)

lemma yields_selectList {list : SelectList} :
    Yields (selectList naming (some (.items items))) state list after ↔
      (StandForAll items ∧ list = .star ∧ after = state) ∨
      (¬ StandForAll items ∧ ∃ columns, list = .columns columns ∧
        columns.length = items.length ∧ Chained (Selects naming) items state columns after) := by
  by_cases h : StandForAll items
  · rw [selectList_of_standForAll h, yields_pure]
    simp [h, eq_comm]
  · have hitems : .wildcard ∉ items := fun hmem => h (.inr hmem)
    rw [selectList_of_not_standForAll h, yields_bind_pure]
    simp only [yields_itemColumns hitems, h, not_false_eq_true, true_and, false_and, false_or]
    constructor
    · rintro ⟨columns, hcolumns, rfl⟩
      exact ⟨columns, rfl, hcolumns.length_eq, hcolumns⟩
    · rintro ⟨columns, rfl, -, hcolumns⟩
      exact ⟨columns, hcolumns, rfl⟩

lemma fails_selectList {error : Error} :
    Fails (selectList naming (some (.items items))) state error after ↔
      ¬ StandForAll items ∧ ∃ before item rest columns between,
        items = before ++ item :: rest ∧ Chained (Selects naming) before state columns between ∧
        Rejects naming item between error after := by
  by_cases h : StandForAll items
  · rw [selectList_of_standForAll h]
    simp [h]
  · have hitems : .wildcard ∉ items := fun hmem => h (.inr hmem)
    rw [selectList_of_not_standForAll h, fails_bind_pure, fails_itemColumns hitems]
    simp only [h, not_false_eq_true, true_and]

/-- Items that stand for all columns are given up for the projection onto all of them, and other
items are kept. -/
lemma selectList_ofItems (naming : Naming σ) (items : List SelectItem) :
    selectList naming (some (.ofItems items)) = selectList naming (some (.items items)) := by
  by_cases h : StandForAll items
  · have hall : Projection.ofItems items = .all := if_pos (isAll_items.2 h)
    rw [hall, selectList_of_standForAll h]
    rfl
  · have hsame : Projection.ofItems items = .items items := if_neg (mt isAll_items.1 h)
    rw [hsame]

/-- Of the projection, a command only has the select list. -/
lemma rows_congr_of_selectList {select other : Option Projection}
    (h : selectList naming select = selectList naming other) (command : String)
    (arguments : List Datum) (query : Query) :
    rows naming command arguments { query with select := select } =
      rows naming command arguments { query with select := other } := by
  have hlist (base : BaseCommand) :
      chosenList naming base { query with select := select } =
        chosenList naming base { query with select := other } := by
    unfold chosenList
    rw [h]
  unfold rows rowsSelect
  simp only [hlist]
  rfl

end SelectLists

/-- A projection selects the same, whether it is made from its items or has them as they are: it is
one onto all columns in both forms or in none, its select list is the same, and so is the command of
a query with it.

The select list is `*` if and only if there is no item or one of them is a wildcard, whatever else
is among them. Otherwise it has the column of each item, in the order of the items, or there is the
error of the first item that has none, and nothing behind that one is looked at. That there is a
wildcard is never an error, not even of a whole command. -/
theorem selectList_of_items (naming : Naming σ) (items : List SelectItem) :
    ((Projection.ofItems items).isAll = (Projection.items items).isAll ∧
      ((Projection.items items).isAll = true ↔ StandForAll items)) ∧
    (selectList naming (some (.ofItems items)) = selectList naming (some (.items items)) ∧
      ∀ (command : String) (arguments : List Datum) (query : Query),
        rows naming command arguments { query with select := some (.ofItems items) } =
          rows naming command arguments { query with select := some (.items items) }) ∧
    (∀ state list after, Yields (selectList naming (some (.items items))) state list after ↔
      (StandForAll items ∧ list = .star ∧ after = state) ∨
      (¬ StandForAll items ∧ ∃ columns, list = .columns columns ∧
        columns.length = items.length ∧ Chained (Selects naming) items state columns after)) ∧
    (∀ state error after, Fails (selectList naming (some (.items items))) state error after ↔
      ¬ StandForAll items ∧ ∃ before item rest columns between,
        items = before ++ item :: rest ∧ Chained (Selects naming) before state columns between ∧
        Rejects naming item between error after) ∧
    ∀ (command : String) (arguments : List Datum) (query : Query) state after,
      ¬ Fails (rows naming command arguments query) state (.unsupportedNode .wildcard) after ∧
      ¬ Fails (total naming command arguments query) state (.unsupportedNode .wildcard) after := by
  have hlist := selectList_ofItems naming items
  refine ⟨⟨?_, isAll_items⟩, ⟨hlist, rows_congr_of_selectList hlist⟩,
    fun state list after => yields_selectList, fun state error after => fails_selectList,
    fun command arguments query state after =>
      ⟨not_fails_rows_of_wildcard, not_fails_total_of_wildcard⟩⟩
  unfold Projection.ofItems
  split
  · next hall => exact hall.symm
  · rfl

/-- An item that has no column is passed over where a wildcard follows, and decides where none
does. -/
example :
    result (selectList Naming.standard (some (.items [.property (.ofName "Name"),
      .expansion (.ofName "Orders"), .wildcard]))) = .ok .star ∧
    result (selectList Naming.standard (some (.items [.property (.ofName "Name"),
      .property ⟨"City", ["Address"]⟩, .expansion (.ofName "Orders")]))) =
        .error (.unsupportedNode (.navigation ⟨"City", ["Address"]⟩)) :=
  ⟨rfl, rfl⟩

end Translation
end ODataToSql
