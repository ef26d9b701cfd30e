import ODataToSql.Proofs.Outcomes
import ODataToSql.Translation.Command

/-!
# Where the clauses of a command come from

The translation of a query asks for its clauses one after the other. What is known of a command that
was yielded is what is known of each clause:

* `yields_rowsSelect` for the rows: the base command was read, and then the select list, the
  condition and the sort keys were yielded in this order.
* `yields_countSelect` for the number of rows: the base command was read, and then the condition and
  the key were yielded.
-/

namespace ODataToSql.Translation

open Sql

variable {σ : Type} {naming : Naming σ} {command : String} {arguments : List Datum} {query : Query}
  {state after : σ}

/-! ## Base commands -/

lemma baseCommand_eq_ok_iff {base : BaseCommand} :
    baseCommand command = .ok base ↔ BaseCommand.ofText? command = some base := by
  unfold baseCommand
  cases BaseCommand.ofText? command <;> simp

lemma baseCommand_eq_error_iff {error : Error} :
    baseCommand command = .error error ↔
      BaseCommand.ofText? command = none ∧ error = .unsupportedShape command := by
  unfold baseCommand
  cases BaseCommand.ofText? command <;> simp [eq_comm]

/-- A translation goes on with the base command, or fails if there is none. -/
lemma lift_baseCommand_bind {α : Type} {base : BaseCommand} (hbase : baseCommand command = .ok base)
    (next : BaseCommand → Translation σ α) :
    (liftM (baseCommand command) >>= next) = next base := by
  rw [hbase]
  rfl

lemma lift_baseCommand_bind_of_error {α : Type} {error : Error}
    (hbase : baseCommand command = .error error) (next : BaseCommand → Translation σ α) :
    (liftM (baseCommand command) >>= next) = throw error := by
  rw [hbase]
  rfl

/-! ## Clauses -/

/-- A command for the rows has the clauses that the query and the base command ask for. -/
lemma yields_rowsSelect {select : Select} :
    Yields (rowsSelect naming command query) state select after ↔
      ∃ base list condition keys first second,
        baseCommand command = .ok base ∧
        Yields (chosenList naming base query) state list first ∧
        Yields (Translation.condition naming query.filter (conditionKeyword base)) first condition
          second ∧
        Yields (orderBy naming query.orderBy) second keys after ∧
        select = ⟨chosenTop base query, list, base.source, condition, keys, paging query⟩ := by
  unfold rowsSelect
  simp only [yields_bind, yields_lift, yields_pure]
  constructor
  · rintro ⟨base, _, ⟨hbase, rfl⟩, list, first, hlist, condition, second, hcondition, keys, third,
      hkeys, rfl, rfl⟩
    exact ⟨base, list, condition, keys, first, second, hbase, hlist, hcondition, hkeys, rfl⟩
  · rintro ⟨base, list, condition, keys, first, second, hbase, hlist, hcondition, hkeys, rfl⟩
    exact ⟨base, state, ⟨hbase, rfl⟩, list, first, hlist, condition, second, hcondition, keys,
      after, hkeys, rfl, rfl⟩

/-- A command for the number of rows counts a key under the condition of the query. -/
lemma yields_countSelect {select : Select} :
    Yields (countSelect naming command query) state select after ↔
      ∃ base condition key first,
        baseCommand command = .ok base ∧
        Yields (Translation.condition naming query.filter (conditionKeyword base)) state condition
          first ∧
        Yields (keyColumn naming query.entityType) first key after ∧
        select = .counting key base.source condition := by
  unfold countSelect
  simp only [yields_bind, yields_lift, yields_pure]
  constructor
  · rintro ⟨base, _, ⟨hbase, rfl⟩, condition, first, hcondition, key, second, hkey, rfl, rfl⟩
    exact ⟨base, condition, key, first, hbase, hcondition, hkey, rfl⟩
  · rintro ⟨base, condition, key, first, hbase, hcondition, hkey, rfl⟩
    exact ⟨base, state, ⟨hbase, rfl⟩, condition, first, hcondition, key, after, hkey, rfl, rfl⟩

/-- There is a condition if and only if there is a filter, and then it is a term of the filter. -/
lemma yields_condition {filter : Option Expr} {keyword : ConditionKeyword} {result : Condition} :
    Yields (condition naming filter keyword) state result after ↔
      match filter with
      | some filter =>
        ∃ predicate, Yields (term naming filter) state predicate after ∧
          result = ⟨keyword, some predicate⟩
      | none => result = .none keyword ∧ state = after := by
  cases filter with
  | none =>
    show Yields (pure _) _ _ _ ↔ _
    rw [yields_pure]
    exact and_congr_left' eq_comm
  | some filter =>
    show Yields (term naming filter >>= _) _ _ _ ↔ _
    exact yields_bind_pure

/-- The predicate of a condition is a term of the filter. -/
lemma yields_term_of_condition {filter : Option Expr} {keyword : ConditionKeyword}
    {result : Condition} (h : Yields (condition naming filter keyword) state result after) :
    ∀ predicate ∈ result.predicate,
      ∃ expr, filter = some expr ∧ Yields (term naming expr) state predicate after := by
  rw [yields_condition] at h
  cases filter with
  | none =>
    obtain ⟨rfl, -⟩ := h
    intro predicate hmem
    cases hmem
  | some filter =>
    obtain ⟨predicate, hpredicate, rfl⟩ := h
    intro predicate' hmem
    cases hmem
    exact ⟨filter, rfl, hpredicate⟩

/-! ## Statements -/

lemma yields_rows {statement : Statement} :
    Yields (rows naming command arguments query) state statement after ↔
      ∃ select, Yields (rowsSelect naming command query) state select after ∧
        statement = select.statement arguments := by
  unfold rows
  exact yields_bind_pure

lemma yields_total {statement : Statement} :
    Yields (total naming command arguments query) state statement after ↔
      ∃ select, Yields (countSelect naming command query) state select after ∧
        statement = select.statement arguments := by
  unfold total
  exact yields_bind_pure

/-- There is a command for the number of rows only if the query asks for it. -/
lemma yields_count {statement : Statement} :
    Yields (count naming command arguments query) state (some statement) after ↔
      query.wantsCount = true ∧
        Yields (total naming command arguments query) state statement after := by
  unfold count
  by_cases hwants : query.wantsCount
  · rw [if_pos hwants, yields_bind_pure]
    simp [hwants]
  · rw [if_neg hwants, yields_pure]
    simp [hwants]

end ODataToSql.Translation
