import ODataToSql.Proofs.ConfinedNames

/-!
# The structure of a command

A translation puts the columns that a naming answers into a command and does not look at them. If
there always is one, then which error a query fails with, and what its command is apart from the
columns, has nothing to do with the naming.

* `Naming.IsTotal`: there is a column for every property that may have one.
* `Select.unnamed` is a command without the names of its columns, and `Select.columns` lists them.
* `EndsLike` compares a translation with one that knows no names, from whatever states the two
  start. `endsLike_rowsSelect` does so for the rows of a query.
* `SameStructure` says of two commands that they are the same once each column is replaced by the
  property that it is the answer for. `sameStructure_of_yields` says it of the commands that two
  namings have for a query.
-/

namespace ODataToSql

variable {σ τ α β α' β' : Type}

/-- Whatever it was asked before, the naming has a column for every property of the queried entity,
and that is more than white space. -/
def Naming.IsTotal (naming : Naming σ) : Prop :=
  ∀ property, property.isRoot = true → ∀ state, ∃ text after,
    (naming.column property).run state = (some text, after) ∧ Text.isBlankText text = false

lemma Naming.IsTotal.columnOf {naming : Naming σ} (h : naming.IsTotal) {property : Property}
    (hroot : property.isRoot = true) (state : σ) :
    ∃ text after, (naming.columnOf property).run state = (some text, after) := by
  obtain ⟨text, after, hanswer, hblank⟩ := h property hroot state
  refine ⟨text, after, ?_⟩
  unfold Naming.columnOf
  rw [StateT.run_bind, hanswer]
  show (Option.filter (fun column => !Text.isBlankText column) (some text), after) = _
  rw [Option.filter_some, hblank]
  rfl

namespace Sql

/-- The term without the names of its columns. -/
def Term.unnamed : Term → Term :=
  mapColumns fun _ => nameless

/-- The command without the names of its columns. -/
def Select.unnamed : Select → Select :=
  mapColumns fun _ => nameless

/-- The columns that the query selects. -/
def SelectList.named : SelectList → List Column
  | .columns names => names
  | _ => []

/-- The columns that the query puts into a command, in the order of its clauses. -/
def Select.columns (select : Select) : List Column :=
  select.list.named ++ select.condition.columns ++ select.orderBy.map SortKey.column

end Sql

/-- The properties whose columns the query puts into a command, in the order of its clauses. None is
selected where the base command has columns of its own. -/
def Query.placed (query : Query) (base : BaseCommand) : List Property :=
  (if base.columns = "" then query.selected else []) ++ query.filtered ++ query.sorted

namespace Translation

open Sql

/-! ## Translations apart from names -/

/-- From every state, the translation ends with the result of the other one or with its error, once
`f` has taken from the result what the other one does not have. -/
def EndsLike (f : α → β) (translation : Translation σ α) (other : Translation Unit β) : Prop :=
  ∀ state, (outcome translation state).1.map f = (outcome other ()).1

lemma endsLike_pure {f : α → β} {a : α} {b : β} (h : f a = b) :
    EndsLike f (pure a : Translation σ α) (pure b) :=
  fun _ => congrArg Except.ok h

lemma endsLike_throw (f : α → β) (e : Error) :
    EndsLike f (throw e : Translation σ α) (throw e) :=
  fun _ => rfl

/-- What follows may make use of the first result only in so far as the other one has it. -/
lemma EndsLike.bind {f : α → β} {g : α' → β'} {first : Translation σ α}
    {other : Translation Unit β} {next : α → Translation σ α'} {other' : β → Translation Unit β'}
    (h : EndsLike f first other) (hnext : ∀ a, EndsLike g (next a) (other' (f a))) :
    EndsLike g (first >>= next) (other >>= other') := by
  intro state
  have hfirst := h state
  rw [outcome_bind, outcome_bind]
  generalize outcome other () = ends at hfirst ⊢
  generalize outcome first state = ends' at hfirst ⊢
  obtain ⟨result, after⟩ := ends
  obtain ⟨e | a, between⟩ := ends'
  · obtain rfl : Except.error e = result := hfirst
    rfl
  · obtain rfl : Except.ok (f a) = result := hfirst
    exact hnext a between

/-- What asks no naming comes out the same. -/
lemma endsLike_lift_bind {g : α' → β'} (x : Except Error α) {next : α → Translation σ α'}
    {other : α → Translation Unit β'} (hnext : ∀ a, EndsLike g (next a) (other a)) :
    EndsLike g (liftM x >>= next) (liftM x >>= other) := by
  cases x with
  | error e => exact endsLike_throw g e
  | ok a => exact hnext a

/-- Two translations that end like the same one both fail, with the same error, or both have a
result. -/
lemma EndsLike.both {f : α → β} {g : α' → β} {first : Translation σ α} {second : Translation τ α'}
    {other : Translation Unit β} (hfirst : EndsLike f first other)
    (hsecond : EndsLike g second other) (state : σ) (state' : τ) :
    (∃ e, (outcome first state).1 = .error e ∧ (outcome second state').1 = .error e) ∨
      ∃ a b after after', Yields first state a after ∧ Yields second state' b after' := by
  -- Both end like `other`, which asks for no names, hence like each other.
  have hsame := (hfirst state).trans (hsecond state').symm
  unfold Yields
  generalize outcome first state = ends at hsame ⊢
  generalize outcome second state' = ends' at hsame ⊢
  obtain ⟨e | a, after⟩ := ends <;> obtain ⟨e' | b, after'⟩ := ends'
  · obtain rfl : e = e' := Except.error.inj hsame
    exact .inl ⟨e, rfl, rfl⟩
  · cases hsame
  · cases hsame
  · exact .inr ⟨a, b, after, after', rfl, rfl⟩

section Naming

variable {naming : Naming σ} (hnaming : naming.IsTotal)

include hnaming

lemma endsLike_column (property : Property) :
    EndsLike (fun _ => nameless) (column naming property) (column .nameless property) := by
  unfold column
  by_cases hroot : property.isRoot
  · rw [if_pos hroot, if_pos hroot]
    intro state
    obtain ⟨text, after, hanswer⟩ := hnaming.columnOf hroot state
    have houtcome : outcome (liftM (naming.columnOf property) : Translation σ _) state =
        (.ok (some text), after) := by
      rw [outcome_ask, hanswer]
    rw [outcome_bind]
    simp only [houtcome]
    rfl
  · rw [if_neg hroot, if_neg hroot]
    exact endsLike_throw _ _

end Naming

/-! ## Filters -/

section Calls

variable {naming : Naming σ} {arguments : List Expr}
  (harguments : ∀ argument ∈ arguments,
    EndsLike Term.unnamed (term naming argument) (term .nameless argument))

include harguments

lemma endsLike_argument (function : FilterFunction) (position : Nat) :
    EndsLike Term.unnamed (argument function (arguments.map (term naming)) position)
      (argument function (arguments.map (term .nameless)) position) := by
  unfold argument
  rw [List.getElem?_map, List.getElem?_map]
  cases hposition : arguments[position]? with
  | none => exact endsLike_throw _ _
  | some argument => exact harguments argument (List.mem_of_getElem? hposition)

lemma endsLike_allArguments :
    EndsLike (List.map Term.unnamed) (allArguments (arguments.map (term naming)))
      (allArguments (arguments.map (term .nameless))) := by
  induction arguments with
  | nil => exact endsLike_pure rfl
  | cons argument rest ih =>
    obtain ⟨hargument, hrest⟩ := List.forall_mem_cons.1 harguments
    apply hargument.bind
    intro first
    apply (ih hrest).bind
    intro others
    exact endsLike_pure rfl

/-- A call asks for its arguments in an order that is a matter of its function alone. -/
lemma endsLike_callTerm (function : FilterFunction) :
    EndsLike Term.unnamed (callTerm function (arguments.map (term naming)))
      (callTerm function (arguments.map (term .nameless))) := by
  have hargument := endsLike_argument harguments function
  rw [callTerm_eq, callTerm_eq]
  cases shape function with
  | like pattern =>
    apply (hargument 0).bind
    intro operand
    apply (hargument 1).bind
    intro value
    exact endsLike_pure rfl
  | indexOf =>
    apply (hargument 1).bind
    intro sought
    apply (hargument 0).bind
    intro text
    exact endsLike_pure rfl
  | trim | part | convert | totalSeconds =>
    apply (hargument 0).bind
    intro operand
    exact endsLike_pure rfl
  | direct scalar =>
    apply (endsLike_allArguments harguments).bind
    intro terms
    exact endsLike_pure (by simp [Term.unnamed, Term.mapColumns])
  | unsupported => exact endsLike_throw _ _

end Calls

section Naming

variable {naming : Naming σ} (hnaming : naming.IsTotal)

include hnaming

/-- By induction on the expression. Which branch is taken is a matter of the expression. -/
lemma endsLike_term (expr : Expr) :
    EndsLike Term.unnamed (term naming expr) (term .nameless expr) := by
  induction expr with
  | constant value =>
    rw [term, term]
    cases value.isNull <;> exact endsLike_pure rfl
  | property property =>
    rw [term, term]
    apply (endsLike_column hnaming property).bind
    intro name
    exact endsLike_pure rfl
  | binary op left right hleft hright =>
    rw [term, term]
    apply hleft.bind
    intro leftTerm
    -- Whether there is a pattern on the left, or null on the right, no naming decides.
    cases isLikeCall left with
    | true => exact endsLike_pure rfl
    | false =>
      cases right.isNull with
      | true =>
        apply endsLike_lift_bind
        intro sign
        exact endsLike_pure rfl
      | false =>
        apply endsLike_lift_bind
        intro sign
        apply hright.bind
        intro rightTerm
        exact endsLike_pure rfl
  | unary op operand ih =>
    cases op with
    | not =>
      rw [term, term]
      apply ih.bind
      intro operandTerm
      exact endsLike_pure rfl
    | negate => exact endsLike_throw _ _
  | call name arguments ih =>
    rw [term, term, terms_eq_map, terms_eq_map]
    cases FilterFunction.ofName? name with
    | none => exact endsLike_throw _ _
    | some function => exact endsLike_callTerm ih function
  | cast operand ih => exact ih
  | lambda quantifier collection predicate => exact endsLike_throw _ _

/-! ## Clauses -/

lemma endsLike_condition (filter : Option Expr) (keyword : ConditionKeyword) :
    EndsLike (Condition.mapColumns fun _ => nameless) (condition naming filter keyword)
      (condition .nameless filter keyword) := by
  cases filter with
  | none => exact endsLike_pure rfl
  | some filter =>
    apply (endsLike_term hnaming filter).bind
    intro predicate
    exact endsLike_pure rfl

lemma endsLike_itemColumns (items : List SelectItem) :
    EndsLike (List.map fun _ => nameless) (itemColumns naming items)
      (itemColumns .nameless items) := by
  induction items with
  | nil => exact endsLike_pure rfl
  | cons item rest ih =>
    have hitem : EndsLike (fun _ => nameless) (itemColumn naming item)
        (itemColumn .nameless item) := by
      cases item with
      | property property => exact endsLike_column hnaming property
      | expansion | wildcard => exact endsLike_throw _ _
    apply hitem.bind
    intro column
    apply ih.bind
    intro columns
    exact endsLike_pure rfl

lemma endsLike_chosenList (base : BaseCommand) (query : Query) :
    EndsLike (SelectList.mapColumns fun _ => nameless) (chosenList naming base query)
      (chosenList .nameless base query) := by
  unfold chosenList selectList
  split
  · split
    · split
      · exact endsLike_pure rfl
      · apply (endsLike_itemColumns hnaming _).bind
        intro columns
        exact endsLike_pure rfl
    · exact endsLike_pure rfl
  · exact endsLike_pure rfl

lemma endsLike_sortKeys (items : List OrderItem) :
    EndsLike (List.map (SortKey.mapColumns fun _ => nameless)) (sortKeys naming items)
      (sortKeys .nameless items) := by
  induction items with
  | nil => exact endsLike_pure rfl
  | cons item rest ih =>
    have hitem : EndsLike (SortKey.mapColumns fun _ => nameless) (sortKey naming item)
        (sortKey .nameless item) := by
      unfold sortKey
      cases item.expr with
      | property property =>
        apply (endsLike_column hnaming property).bind
        intro column
        exact endsLike_pure rfl
      | _ => exact endsLike_throw _ _
    apply hitem.bind
    intro key
    apply ih.bind
    intro keys
    exact endsLike_pure rfl

/-- Apart from names, the command for the rows is the one of the naming that knows none, and the
errors are the same. -/
theorem endsLike_rowsSelect (command : String) (query : Query) :
    EndsLike Select.unnamed (rowsSelect naming command query)
      (rowsSelect .nameless command query) := by
  unfold rowsSelect
  apply endsLike_lift_bind
  intro base
  apply (endsLike_chosenList hnaming base query).bind
  intro list
  apply (endsLike_condition hnaming query.filter _).bind
  intro condition
  apply (endsLike_sortKeys hnaming _).bind
  intro keys
  exact endsLike_pure rfl

end Naming

/-! ## Columns and their properties -/

section Columns

variable {naming : Naming σ} {other : Naming τ} {command : String} {query : Query}
  {base : BaseCommand} {first second : Select} {state after : σ} {state' after' : τ}

/-- The columns of a command are those of the properties that the query mentions. Where the base
command has columns of its own, none is selected. -/
lemma forall₂_of_yields_rowsSelect (hbase : baseCommand command = .ok base)
    (h : Yields (rowsSelect naming command query) state first after) :
    List.Forall₂ (Calls naming) (query.placed base) first.columns := by
  obtain ⟨base', list, condition, keys, between, last, hbase', hlist, hcondition, hkeys, rfl⟩ :=
    yields_rowsSelect.1 h
  obtain rfl : base = base' := Except.ok.inj (hbase.symm.trans hbase')
  have hselected : List.Forall₂ (Calls naming) (if base.columns = "" then query.selected else [])
      list.named := by
    by_cases hcolumns : base.columns = ""
    · rw [if_pos hcolumns]
      rcases yields_chosenList_of_empty hcolumns hlist with
        ⟨rfl, hnone⟩ | ⟨columns, rfl, hselected⟩
      · rw [hnone]
        exact .nil
      · exact hselected
    · rw [if_neg hcolumns]
      obtain rfl := yields_chosenList_of_ne_empty hcolumns hlist
      exact .nil
  exact List.rel_append (List.rel_append hselected (forall₂_of_yields_condition hcondition))
    (forall₂_of_yields_orderBy hkeys)

/-- The commands differ in the names of columns alone, and where the one has the answer of its
naming for a property, the other has the answer of the other naming for the same property. -/
structure SameStructure (naming : Naming σ) (other : Naming τ) (properties : List Property)
    (first second : Select) : Prop where
  unnamed : first.unnamed = second.unnamed
  columns : List.Forall₂ (Calls naming) properties first.columns
  otherColumns : List.Forall₂ (Calls other) properties second.columns

lemma sameStructure_of_yields (hnaming : naming.IsTotal) (hother : other.IsTotal)
    (hbase : baseCommand command = .ok base)
    (hfirst : Yields (rowsSelect naming command query) state first after)
    (hsecond : Yields (rowsSelect other command query) state' second after') :
    SameStructure naming other (query.placed base) first second := by
  have hunnamed : (Except.ok first.unnamed : Except Error Select) = .ok second.unnamed := by
    have hleft := endsLike_rowsSelect hnaming command query state
    have hright := endsLike_rowsSelect hother command query state'
    unfold Yields at hfirst hsecond
    rw [hfirst] at hleft
    rw [hsecond] at hright
    exact hleft.trans hright.symm
  exact ⟨Except.ok.inj hunnamed, forall₂_of_yields_rowsSelect hbase hfirst,
    forall₂_of_yields_rowsSelect hbase hsecond⟩

end Columns

end Translation
end ODataToSql
