import ODataToSql.Proofs.TermOf
import ODataToSql.Translation.Command

/-!
# Namings without a state

Where the answers of a naming depend on the questions alone, so do the translations that ask it: how
they end is the same from every state, and the state stays as it is.

* `Naming.IsStateless` says it of a naming, `Stateless` of a translation.
* `stateless_rows`, `stateless_total` and `stateless_count`: the commands of a query, with all of
  their clauses.
-/

namespace ODataToSql

variable {σ α β : Type}

/-- The answers of the naming depend on the questions alone. -/
structure Naming.IsStateless (naming : Naming σ) : Prop where
  column : ∀ property, ∃ answer, naming.column property = pure answer
  key : ∀ entityType, ∃ answer, naming.key entityType = pure answer

lemma Naming.isStateless_ofFunctions (column : Property → Option String) (key : String → String) :
    (ofFunctions column key : Naming σ).IsStateless :=
  ⟨fun property => ⟨column property, rfl⟩, fun entityType => ⟨key entityType, rfl⟩⟩

namespace Translation

open Sql

/-- The translation ends in the same way from every state, which stays as it is. -/
def Stateless (translation : Translation σ α) : Prop :=
  ∃ result, ∀ state, outcome translation state = (result, state)

/-! ## Operations -/

lemma stateless_pure (a : α) : Stateless (pure a : Translation σ α) :=
  ⟨.ok a, outcome_pure a⟩

lemma stateless_throw (e : Error) : Stateless (throw e : Translation σ α) :=
  ⟨.error e, outcome_throw e⟩

lemma stateless_lift (x : Except Error α) : Stateless (liftM x : Translation σ α) := by
  cases x with
  | error e => exact stateless_throw e
  | ok a => exact stateless_pure a

lemma stateless_ask {question : StateM σ α} {answer : α} (h : question = pure answer) :
    Stateless (liftM question : Translation σ α) := by
  subst h
  exact ⟨.ok answer, outcome_ask (pure answer)⟩

lemma Stateless.bind {first : Translation σ α} {next : α → Translation σ β}
    (hfirst : Stateless first) (hnext : ∀ a, Stateless (next a)) : Stateless (first >>= next) := by
  obtain ⟨result, hresult⟩ := hfirst
  cases result with
  | error e =>
    refine ⟨.error e, ?_⟩
    intro state
    rw [outcome_bind, hresult]
  | ok a =>
    obtain ⟨result, hnext⟩ := hnext a
    refine ⟨result, ?_⟩
    intro state
    rw [outcome_bind, hresult]
    exact hnext state

/-- A result that is made from the result of a translation alone. -/
lemma Stateless.map {translation : Translation σ α} (h : Stateless translation) (f : α → β) :
    Stateless (do return f (← translation)) :=
  h.bind fun a => stateless_pure (f a)

/-! ## What is yielded without a state -/

section Yields

variable {translation : Translation σ α} {a : α} {state after : σ}

lemma Stateless.after_eq (h : Stateless translation) (hyields : Yields translation state a after) :
    after = state := by
  obtain ⟨result, hresult⟩ := h
  unfold Yields at hyields
  rw [hresult, Prod.mk.injEq] at hyields
  exact hyields.2.symm

/-- What is yielded from one state is yielded from every other. -/
lemma Stateless.yields (h : Stateless translation) (hyields : Yields translation state a after)
    (other : σ) : Yields translation other a other := by
  obtain ⟨result, hresult⟩ := h
  unfold Yields at hyields ⊢
  rw [hresult, Prod.mk.injEq] at hyields
  rw [hresult, hyields.1]

end Yields

/-! ## Expressions -/

section Calls

variable {arguments : List (Translation σ Term)}
  (harguments : ∀ argument ∈ arguments, Stateless argument)

include harguments

lemma stateless_argument (function : FilterFunction) (position : Nat) :
    Stateless (argument function arguments position) := by
  unfold argument
  cases hposition : arguments[position]? with
  | none => exact stateless_throw _
  | some argument => exact harguments argument (List.mem_of_getElem? hposition)

lemma stateless_allArguments : Stateless (allArguments arguments) := by
  induction arguments with
  | nil => exact stateless_pure []
  | cons argument rest ih =>
    obtain ⟨hargument, hrest⟩ := List.forall_mem_cons.1 harguments
    rw [allArguments]
    apply hargument.bind
    intro first
    exact (ih hrest).map _

/-- A call asks nothing but what its arguments ask. -/
lemma stateless_callTerm (function : FilterFunction) : Stateless (callTerm function arguments) := by
  have hargument := stateless_argument harguments function
  rw [callTerm_eq]
  cases shape function with
  | like pattern =>
    apply (hargument 0).bind
    intro operand
    exact (hargument 1).map _
  | indexOf =>
    apply (hargument 1).bind
    intro sought
    exact (hargument 0).map _
  | trim | part | convert | totalSeconds => exact (hargument 0).map _
  | direct scalar => exact (stateless_allArguments harguments).map _
  | unsupported => exact stateless_throw _

end Calls

section Naming

variable {naming : Naming σ} (hnaming : naming.IsStateless)

include hnaming

lemma stateless_column (property : Property) : Stateless (column naming property) := by
  obtain ⟨answer, hanswer⟩ := hnaming.column property
  have hcolumnOf : naming.columnOf property =
      pure (answer.filter fun column => !Text.isBlankText column) := by
    unfold Naming.columnOf
    rw [hanswer]
    rfl
  unfold column
  by_cases hroot : property.isRoot
  · rw [if_pos hroot]
    apply (stateless_ask hcolumnOf).bind
    intro column
    cases column with
    | none => exact stateless_throw _
    | some text => exact stateless_pure _
  · rw [if_neg hroot]
    exact stateless_throw _

lemma stateless_keyColumn (entityType : String) : Stateless (keyColumn naming entityType) := by
  obtain ⟨answer, hanswer⟩ := hnaming.key entityType
  exact (stateless_ask hanswer).map _

/-- By induction on the expression, one translation after the other. -/
lemma stateless_term (expr : Expr) : Stateless (term naming expr) := by
  induction expr with
  | constant value =>
    rw [term]
    exact stateless_pure _
  | property property =>
    rw [term]
    exact (stateless_column hnaming property).map _
  | binary op left right hleft hright =>
    rw [term]
    apply hleft.bind
    intro leftTerm
    split
    · exact stateless_pure _
    · split
      · exact (stateless_lift _).map _
      · apply (stateless_lift _).bind
        intro sign
        exact hright.map _
  | unary op operand ih =>
    cases op with
    | not =>
      rw [term]
      exact ih.map _
    | negate => exact stateless_throw _
  | call name arguments ih =>
    rw [term, terms_eq_map]
    cases FilterFunction.ofName? name with
    | none => exact stateless_throw _
    | some function =>
      apply stateless_callTerm
      intro argument hmem
      obtain ⟨expr, hexpr, rfl⟩ := List.mem_map.1 hmem
      exact ih expr hexpr
  | cast operand ih => exact ih
  | lambda quantifier collection predicate => exact stateless_throw _

/-! ## Clauses -/

lemma stateless_condition (filter : Option Expr) (keyword : ConditionKeyword) :
    Stateless (condition naming filter keyword) := by
  cases filter with
  | none => exact stateless_pure _
  | some filter => exact (stateless_term hnaming filter).map _

lemma stateless_itemColumns (items : List SelectItem) : Stateless (itemColumns naming items) := by
  induction items with
  | nil => exact stateless_pure []
  | cons item rest ih =>
    have hitem : Stateless (itemColumn naming item) := by
      cases item with
      | property property => exact stateless_column hnaming property
      | expansion | wildcard => exact stateless_throw _
    rw [itemColumns]
    apply hitem.bind
    intro column
    exact ih.map _

lemma stateless_chosenList (base : BaseCommand) (query : Query) :
    Stateless (chosenList naming base query) := by
  unfold chosenList selectList
  split
  · split
    · split
      · exact stateless_pure _
      · exact (stateless_itemColumns hnaming _).map _
    · exact stateless_pure _
  · exact stateless_pure _

lemma stateless_sortKeys (items : List OrderItem) : Stateless (sortKeys naming items) := by
  induction items with
  | nil => exact stateless_pure []
  | cons item rest ih =>
    have hitem : Stateless (sortKey naming item) := by
      unfold sortKey
      split
      · exact (stateless_column hnaming _).map _
      · exact stateless_throw _
    rw [sortKeys]
    apply hitem.bind
    intro key
    exact ih.map _

/-! ## Commands -/

lemma stateless_rows (command : String) (arguments : List Datum) (query : Query) :
    Stateless (rows naming command arguments query) := by
  have hselect : Stateless (rowsSelect naming command query) := by
    unfold rowsSelect
    apply (stateless_lift _).bind
    intro base
    apply (stateless_chosenList hnaming base query).bind
    intro list
    apply (stateless_condition hnaming query.filter _).bind
    intro condition
    exact (stateless_sortKeys hnaming _).map _
  exact hselect.map _

lemma stateless_total (command : String) (arguments : List Datum) (query : Query) :
    Stateless (total naming command arguments query) := by
  have hselect : Stateless (countSelect naming command query) := by
    unfold countSelect
    apply (stateless_lift _).bind
    intro base
    apply (stateless_condition hnaming query.filter _).bind
    intro condition
    exact (stateless_keyColumn hnaming query.entityType).map _
  exact hselect.map _

lemma stateless_count (command : String) (arguments : List Datum) (query : Query) :
    Stateless (count naming command arguments query) := by
  unfold count
  split
  · exact (stateless_total hnaming command arguments query).map _
  · exact stateless_pure _

end Naming

end Translation
end ODataToSql
