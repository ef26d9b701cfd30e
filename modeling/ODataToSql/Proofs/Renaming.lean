import ODataToSql.Proofs.Outcomes
import ODataToSql.Proofs.TermOf
import ODataToSql.Translation.Command

/-!
# Renamed columns

A translation puts the answers of its naming into the command and does not look at them. So where
one naming calls every property by the column that another one has for it, under a new name, its
commands are those of the other naming with the columns renamed.

* `mapColumns` renames the columns of a term, and of each clause.
* The main result is `rowsSelect_eq_map`: the translations are the same, errors and states included.
-/

namespace ODataToSql.Sql

/-! ## Renaming -/

namespace Term

mutual

/-- The term with its columns renamed. -/
def mapColumns (f : Column → Column) : Term → Term
  | .column name => .column (f name)
  | .binary left operator right => .binary (left.mapColumns f) operator (right.mapColumns f)
  | .not operand => .not (operand.mapColumns f)
  | .like operand pattern value => .like (operand.mapColumns f) pattern (value.mapColumns f)
  | .nested inner => .nested (inner.mapColumns f)
  | .call function arguments => .call function (mapColumnsOfAll f arguments)
  | .cast operand type => .cast (operand.mapColumns f) type
  | other => other

/-- The terms of a list with their columns renamed. -/
def mapColumnsOfAll (f : Column → Column) : List Term → List Term
  | [] => []
  | term :: rest => term.mapColumns f :: mapColumnsOfAll f rest

end

@[simp]
lemma mapColumnsOfAll_eq_map (f : Column → Column) (terms : List Term) :
    mapColumnsOfAll f terms = terms.map (mapColumns f) := by
  induction terms with
  | nil => rfl
  | cons term rest ih => rw [mapColumnsOfAll, ih, List.map_cons]

end Term

/-- The select list with the columns of the query renamed. -/
def SelectList.mapColumns (f : Column → Column) : SelectList → SelectList
  | .columns names => .columns (names.map f)
  | other => other

/-- The condition with its columns renamed. -/
def Condition.mapColumns (f : Column → Column) (condition : Condition) : Condition :=
  { condition with predicate := condition.predicate.map (Term.mapColumns f) }

/-- The sort key with its column renamed. -/
def SortKey.mapColumns (f : Column → Column) (key : SortKey) : SortKey :=
  { key with column := f key.column }

/-- The command with the columns of the query renamed. -/
def Select.mapColumns (f : Column → Column) (select : Select) : Select :=
  { select with
    list := select.list.mapColumns f
    condition := select.condition.mapColumns f
    orderBy := select.orderBy.map (SortKey.mapColumns f) }

end ODataToSql.Sql

namespace ODataToSql.Translation

open Sql

variable {σ α β : Type}

/-! ## Translations of renamed columns -/

/-- What is yielded by a translation is yielded under its new name. -/
lemma Yields.map {translation : Translation σ α} {state after : σ} {a : α}
    (h : Yields translation state a after) (f : α → β) :
    Yields (f <$> translation) state (f a) after := by
  rw [← bind_pure_comp, yields_bind_pure]
  exact ⟨a, h, rfl⟩

section Calls

variable (f : Column → Column) (arguments : List (Translation σ Term))

lemma argument_map (function : FilterFunction) (position : Nat) :
    argument function (arguments.map fun argument => Term.mapColumns f <$> argument) position =
      Term.mapColumns f <$> argument function arguments position := by
  unfold argument
  rw [List.getElem?_map]
  cases arguments[position]? <;> rfl

lemma allArguments_map :
    allArguments (arguments.map fun argument => Term.mapColumns f <$> argument) =
      List.map (Term.mapColumns f) <$> allArguments arguments := by
  induction arguments with
  | nil => rfl
  | cons argument rest ih =>
    rw [List.map_cons, allArguments, allArguments, ih]
    simp

/-- A call of renamed arguments is the renamed call. -/
lemma callTerm_map (function : FilterFunction) :
    callTerm function (arguments.map fun argument => Term.mapColumns f <$> argument) =
      Term.mapColumns f <$> callTerm function arguments := by
  rw [callTerm_eq, callTerm_eq]
  cases shape function with
  | unsupported => rfl
  | direct scalar => simp [allArguments_map, Term.mapColumns]
  | _ => simp [argument_map, Term.mapColumns]

end Calls

section Naming

variable {naming other : Naming σ} {f : Column → Column}
  (hcolumn : ∀ property, column other property = f <$> column naming property)

include hcolumn

/-- The term of an expression is the renamed one. By induction on the expression. -/
lemma term_eq_map (expr : Expr) : term other expr = Term.mapColumns f <$> term naming expr := by
  induction expr with
  | constant value =>
    rw [term, term]
    cases value.isNull <;> rfl
  | property property => simp [term, hcolumn, Term.mapColumns]
  | binary op left right hleft hright =>
    rw [term, term, hleft, hright]
    cases isLikeCall left <;> cases right.isNull <;> simp [Term.mapColumns]
  | unary op operand ih =>
    cases op with
    | not => simp [term, ih, Term.mapColumns]
    | negate => rfl
  | call name arguments ih =>
    have hterms : arguments.map (term other) =
        (arguments.map (term naming)).map fun argument => Term.mapColumns f <$> argument := by
      rw [List.map_map]
      exact List.map_congr_left ih
    rw [term, term, terms_eq_map, terms_eq_map, hterms]
    cases FilterFunction.ofName? name with
    | none => rfl
    | some function => exact callTerm_map f _ function
  | cast operand ih => exact ih
  | lambda quantifier collection predicate => rfl

/-! ## Clauses -/

lemma condition_eq_map (filter : Option Expr) (keyword : ConditionKeyword) :
    condition other filter keyword = Condition.mapColumns f <$> condition naming filter keyword := by
  cases filter with
  | none => rfl
  | some filter => simp [condition, term_eq_map hcolumn, Condition.mapColumns]

lemma itemColumns_eq_map (items : List SelectItem) :
    itemColumns other items = List.map f <$> itemColumns naming items := by
  induction items with
  | nil => rfl
  | cons item rest ih =>
    have hitem : itemColumn other item = f <$> itemColumn naming item := by
      cases item with
      | property property => exact hcolumn property
      | expansion | wildcard => rfl
    simp [itemColumns, hitem, ih]

lemma chosenList_eq_map (base : BaseCommand) (query : Query) :
    chosenList other base query = SelectList.mapColumns f <$> chosenList naming base query := by
  unfold chosenList selectList
  split
  · split
    · split
      · rfl
      · simp [itemColumns_eq_map hcolumn, SelectList.mapColumns]
    · rfl
  · rfl

lemma sortKeys_eq_map (items : List OrderItem) :
    sortKeys other items = List.map (SortKey.mapColumns f) <$> sortKeys naming items := by
  induction items with
  | nil => rfl
  | cons item rest ih =>
    have hitem : sortKey other item = SortKey.mapColumns f <$> sortKey naming item := by
      unfold sortKey
      cases item.expr with
      | property property => simp [hcolumn, SortKey.mapColumns]
      | _ => rfl
    simp [sortKeys, hitem, ih]

/-- The command for the rows is the renamed one, and the translations fail with the same errors. -/
theorem rowsSelect_eq_map (command : String) (query : Query) :
    rowsSelect other command query = Select.mapColumns f <$> rowsSelect naming command query := by
  unfold rowsSelect orderBy
  simp [chosenList_eq_map hcolumn, condition_eq_map hcolumn, sortKeys_eq_map hcolumn,
    Select.mapColumns]

end Naming

end ODataToSql.Translation
