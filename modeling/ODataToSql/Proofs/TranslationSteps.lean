import ODataToSql.Proofs.Columns
import ODataToSql.Proofs.CommandStructure

/-!
# The steps of a translation

What a translation has to do with its naming is a matter of the query alone: which questions it asks
one after the other, and where it fails by itself. A `Step` is the one or the other, and `follow`
goes from step to step until there is none left or one of them fails.

* `steps` are the steps of an expression, in the order of its text; `Query.rowSteps` and
  `Query.totalSteps` are those of a query.
* `Follows`: a translation does what its steps say, whatever else comes of it.
* The main results are `follows_rows` and `follows_total`.
-/

namespace ODataToSql

/-- A call of one of the two functions of a naming. -/
inductive Naming.Call where
  | column (property : Property)
  | key (entityType : String)

/-- A step of a translation, as far as a naming is concerned. -/
inductive Step where
  | ask (call : Naming.Call)
  /-- The translation fails by itself. -/
  | fail (error : Translation.Error)

namespace Translation

open Sql

variable {σ α β : Type}

/-! ## Following steps -/

/-- Goes from step to step. A property without a column is an error. -/
def follow (naming : Naming σ) : List Step → Translation σ Unit
  | [] => return ()
  | .ask (.column property) :: rest => do
    match ← naming.columnOf property with
    | some _ => follow naming rest
    | none => throw (.invalidColumn property)
  | .ask (.key entityType) :: rest => do
    let _ ← naming.key entityType
    follow naming rest
  | .fail error :: _ => throw error

lemma follow_append (naming : Naming σ) (first second : List Step) :
    follow naming (first ++ second) = follow naming first >>= fun _ => follow naming second := by
  induction first with
  | nil => rfl
  | cons step rest ih =>
    cases step with
    | ask call =>
      cases call with
      | column property =>
        rw [List.cons_append, follow, follow, bind_assoc]
        apply bind_congr
        intro answer
        cases answer with
        | none => rfl
        | some text => exact ih
      | key entityType =>
        rw [List.cons_append, follow, follow, bind_assoc]
        apply bind_congr
        intro answer
        exact ih
    | fail error => rfl

/-- The translation asks what the steps ask, and fails where they fail and with the same error. -/
def Follows (naming : Naming σ) (translation : Translation σ α) (steps : List Step) : Prop :=
  (translation >>= fun _ => pure ()) = follow naming steps

section Follows

variable {naming : Naming σ} {translation : Translation σ α} {first second : List Step}

lemma follows_pure (a : α) : Follows naming (pure a) [] := rfl

lemma follows_throw (error : Error) :
    Follows naming (throw error : Translation σ α) [.fail error] := rfl

/-- One translation after another follows the steps of the one and then those of the other, if these
do not depend on the result of the first. -/
lemma Follows.bind (h : Follows naming translation first) {next : α → Translation σ β}
    (hnext : ∀ a, Follows naming (next a) second) :
    Follows naming (translation >>= next) (first ++ second) := by
  unfold Follows at h hnext ⊢
  rw [follow_append, ← h, bind_assoc, bind_assoc]
  simp only [hnext, pure_bind]

/-- A result that is made from the result of a translation alone. -/
lemma Follows.map (h : Follows naming translation first) (f : α → β) :
    Follows naming (translation >>= fun a => pure (f a)) first := by
  have hmap : Follows naming (translation >>= fun a => pure (f a)) (first ++ []) :=
    h.bind fun a => follows_pure (f a)
  rwa [List.append_nil] at hmap

/-- What needs no naming has no step, or fails. -/
lemma follows_lift {x : Except Error α} {steps : List Step}
    (hok : ∀ a, x = .ok a → steps = []) (herror : ∀ e, x = .error e → steps = [.fail e]) :
    Follows naming (liftM x : Translation σ α) steps := by
  cases x with
  | ok a =>
    rw [hok a rfl]
    exact follows_pure a
  | error e =>
    rw [herror e rfl]
    exact follows_throw e

end Follows

/-! ## The steps of an expression -/

/-- A column is asked for only if the property belongs to the queried entity. -/
def columnStep (property : Property) : Step :=
  if property.isRoot then .ask (.column property)
  else .fail (.unsupportedNode (.navigation property))

/-- An operator that has no counterpart fails behind its left operand. -/
def operatorSteps : BinaryOp → List Step
  | .has => [.fail (.unsupportedNode .has)]
  | _ => []

/-- The steps of a call, from those of its arguments. Arguments that do not occur in its text have
none, and one that is missing fails where it would stand. -/
def callSteps (function : FilterFunction) (arguments : List (List Step)) : List Step :=
  let argument (position : Nat) : List Step :=
    arguments[position]?.getD [.fail (.missingArgument function.name (position + 1))]
  match shape function with
  | .like _ => argument 0 ++ argument 1
  | .indexOf => argument 1 ++ argument 0
  | .trim | .part _ | .convert _ | .totalSeconds => argument 0
  | .direct _ => arguments.flatten
  | .unsupported => [.fail (.unsupportedFunction function.name)]

mutual

/-- The steps of an expression, from left to right. A match on the left is all that is left of an
operation. -/
def steps : Expr → List Step
  | .constant _ => []
  | .property property => [columnStep property]
  | .binary op left right =>
    if isLikeCall left then steps left else steps left ++ operatorSteps op ++ steps right
  | .unary .not operand => steps operand
  | .unary .negate _ => [.fail (.unsupportedNode .negation)]
  | .call name arguments =>
    match FilterFunction.ofName? name with
    | some function => callSteps function (stepsOfAll arguments)
    | none => [.fail (.unsupportedFunction name)]
  | .cast operand => steps operand
  | .lambda quantifier _ _ => [.fail (.unsupportedNode (.lambda quantifier))]

/-- The steps of each of the arguments of a call. -/
def stepsOfAll : List Expr → List (List Step)
  | [] => []
  | argument :: rest => steps argument :: stepsOfAll rest

end

lemma stepsOfAll_eq_map (arguments : List Expr) : stepsOfAll arguments = arguments.map steps := by
  induction arguments with
  | nil => rfl
  | cons argument rest ih => rw [stepsOfAll, ih, List.map_cons]

/-- There is nothing to be done for the null literal. -/
lemma steps_of_isNull {expr : Expr} (h : expr.isNull = true) : steps expr = [] := by
  induction expr with
  | constant value => rw [steps]
  | cast operand ih =>
    rw [steps]
    exact ih h
  | _ => cases h

section Naming

variable (naming : Naming σ)

lemma follows_column (property : Property) :
    Follows naming (column naming property) [columnStep property] := by
  unfold Follows column columnStep
  by_cases hroot : property.isRoot
  · rw [if_pos hroot, if_pos hroot, follow, bind_assoc]
    apply bind_congr
    intro answer
    cases answer <;> rfl
  · rw [if_neg hroot, if_neg hroot]
    rfl

lemma follows_operator (op : BinaryOp) :
    Follows naming (liftM (operator op) : Translation σ Operator) (operatorSteps op) := by
  apply follows_lift <;> cases op <;> simp [operator, operatorSteps]

lemma follows_nullOperator (op : BinaryOp) :
    Follows naming (liftM (nullOperator op) : Translation σ Operator) (operatorSteps op) := by
  apply follows_lift <;> cases op <;> simp [nullOperator, operator, operatorSteps]

section Calls

variable {naming} {arguments : List Expr}
  (harguments : ∀ argument ∈ arguments, Follows naming (term naming argument) (steps argument))

include harguments

lemma follows_argument (function : FilterFunction) (position : Nat) :
    Follows naming (argument function (arguments.map (term naming)) position)
      ((arguments.map steps)[position]?.getD
        [.fail (.missingArgument function.name (position + 1))]) := by
  unfold argument
  rw [List.getElem?_map, List.getElem?_map]
  cases hposition : arguments[position]? with
  | none => exact follows_throw _
  | some argument => exact harguments argument (List.mem_of_getElem? hposition)

lemma follows_allArguments :
    Follows naming (allArguments (arguments.map (term naming))) (arguments.map steps).flatten := by
  induction arguments with
  | nil => exact follows_pure []
  | cons argument rest ih =>
    obtain ⟨hargument, hrest⟩ := List.forall_mem_cons.1 harguments
    rw [List.map_cons, allArguments, List.map_cons, List.flatten_cons]
    apply hargument.bind
    intro first
    exact (ih hrest).map _

/-- The arguments of a call are translated in the order of its text. -/
lemma follows_callTerm (function : FilterFunction) :
    Follows naming (callTerm function (arguments.map (term naming)))
      (callSteps function (arguments.map steps)) := by
  have hargument := follows_argument harguments function
  rw [callTerm_eq, callSteps]
  cases shape function with
  | like pattern =>
    apply (hargument 0).bind
    intro operand
    exact (hargument 1).map _
  | indexOf =>
    apply (hargument 1).bind
    intro sought
    exact (hargument 0).map _
  | trim | part | convert | totalSeconds => exact (hargument 0).map _
  | direct scalar => exact (follows_allArguments harguments).map _
  | unsupported => exact follows_throw _

end Calls

/-- By induction on the expression. -/
lemma follows_term (expr : Expr) : Follows naming (term naming expr) (steps expr) := by
  induction expr with
  | constant value => exact follows_pure _
  | property property =>
    rw [term, steps]
    exact (follows_column naming property).map _
  | binary op left right hleft hright =>
    rw [term, steps]
    cases hlike : isLikeCall left with
    | true => exact hleft.map _
    | false =>
      rw [if_neg Bool.false_ne_true, List.append_assoc]
      apply hleft.bind
      intro leftTerm
      rw [if_neg Bool.false_ne_true]
      cases hnull : right.isNull with
      | true =>
        rw [steps_of_isNull hnull, List.append_nil]
        exact (follows_nullOperator naming op).map _
      | false =>
        apply (follows_operator naming op).bind
        intro sign
        exact hright.map _
  | unary op operand ih =>
    cases op with
    | not =>
      rw [term, steps]
      exact ih.map _
    | negate => exact follows_throw _
  | call name arguments ih =>
    rw [term, steps, terms_eq_map, stepsOfAll_eq_map]
    cases FilterFunction.ofName? name with
    | none => exact follows_throw _
    | some function => exact follows_callTerm ih function
  | cast operand ih =>
    rw [term, steps]
    exact ih
  | lambda quantifier collection predicate => exact follows_throw _

end Naming

/-! ## The steps of a query -/

/-- A projection has columns for the properties of the queried entity only. -/
def itemStep : SelectItem → Step
  | .property property => columnStep property
  | .expansion navigation => .fail (.unsupportedNode (.expansion navigation))
  | .wildcard => .fail (.unsupportedNode .wildcard)

/-- Rows are sorted by properties of the queried entity only. -/
def sortStep (item : OrderItem) : Step :=
  match item.expr with
  | .property property => columnStep property
  | other => .fail (.unsupportedNode (.orderingBy other.kind))

end Translation

namespace Query

open Translation

/-- The steps of the projection. There are none where all columns are selected. -/
def selectSteps (query : Query) : List Step :=
  match query.select with
  | some (.items items) => if (Projection.items items).isAll then [] else items.map itemStep
  | _ => []

/-- The steps of the filter. -/
def filterSteps (query : Query) : List Step :=
  query.filter.elim [] steps

/-- The steps of the ordering. -/
def sortSteps (query : Query) : List Step :=
  (query.orderBy.getD []).map sortStep

/-- The steps of the command for the rows. The projection has no part in it where the base command
has columns of its own. -/
def rowSteps (query : Query) (base : BaseCommand) : List Step :=
  (if base.columns = "" then query.selectSteps else []) ++ query.filterSteps ++ query.sortSteps

/-- The steps of the command for the number of rows. -/
def totalSteps (query : Query) : List Step :=
  query.filterSteps ++ [.ask (.key query.entityType)]

end Query

namespace Translation

open Sql

section Query

variable {naming : Naming σ} {command : String} {query : Query} {base : BaseCommand}

lemma follows_condition (query : Query) (keyword : ConditionKeyword) :
    Follows naming (condition naming query.filter keyword) query.filterSteps := by
  unfold condition Query.filterSteps
  cases query.filter with
  | none => exact follows_pure _
  | some filter => exact (follows_term naming filter).map _

lemma follows_itemColumns (items : List SelectItem) :
    Follows naming (itemColumns naming items) (items.map itemStep) := by
  induction items with
  | nil => exact follows_pure []
  | cons item rest ih =>
    have hitem : Follows naming (itemColumn naming item) [itemStep item] := by
      cases item with
      | property property => exact follows_column naming property
      | expansion | wildcard => exact follows_throw _
    rw [itemColumns, List.map_cons]
    apply hitem.bind
    intro column
    exact ih.map _

lemma follows_chosenList (query : Query) (base : BaseCommand) :
    Follows naming (chosenList naming base query)
      (if base.columns = "" then query.selectSteps else []) := by
  unfold chosenList selectList Query.selectSteps
  by_cases hcolumns : base.columns = ""
  · rw [if_pos hcolumns, if_pos (String.isEmpty_iff.2 hcolumns)]
    cases query.select with
    | none => exact follows_pure _
    | some projection =>
      cases projection with
      | all => exact follows_pure _
      | items items =>
        dsimp only
        by_cases hall : (Projection.items items).isAll
        · rw [if_pos hall, if_pos hall]
          exact follows_pure _
        · rw [if_neg hall, if_neg hall]
          exact (follows_itemColumns items).map _
  · rw [if_neg hcolumns, if_neg (mt String.isEmpty_iff.1 hcolumns)]
    exact follows_pure _

lemma follows_sortKeys (items : List OrderItem) :
    Follows naming (sortKeys naming items) (items.map sortStep) := by
  induction items with
  | nil => exact follows_pure []
  | cons item rest ih =>
    have hitem : Follows naming (sortKey naming item) [sortStep item] := by
      unfold sortKey sortStep
      cases item.expr with
      | property property => exact (follows_column naming property).map _
      | _ => exact follows_throw _
    rw [sortKeys, List.map_cons]
    apply hitem.bind
    intro key
    exact ih.map _

/-- The projection comes before the filter, and the ordering behind it. -/
theorem follows_rows (hbase : baseCommand command = .ok base) (arguments : List Datum)
    (query : Query) :
    Follows naming (rows naming command arguments query) (query.rowSteps base) := by
  have hselect : Follows naming (rowsSelect naming command query) (query.rowSteps base) := by
    unfold rowsSelect Query.rowSteps
    rw [lift_baseCommand_bind hbase, List.append_assoc]
    apply (follows_chosenList query base).bind
    intro list
    apply (follows_condition query _).bind
    intro condition
    exact (follows_sortKeys _).map _
  exact hselect.map _

/-- The key is asked for when the filter has a condition. -/
theorem follows_total (hbase : baseCommand command = .ok base) (arguments : List Datum)
    (query : Query) : Follows naming (total naming command arguments query) query.totalSteps := by
  have hkey : Follows naming (keyColumn naming query.entityType)
      [.ask (.key query.entityType)] := by
    unfold Follows keyColumn
    rw [follow, bind_assoc]
    rfl
  have hselect : Follows naming (countSelect naming command query) query.totalSteps := by
    unfold countSelect Query.totalSteps
    rw [lift_baseCommand_bind hbase]
    apply (follows_condition query _).bind
    intro condition
    exact hkey.map _
  exact hselect.map _

/-- Without a base command, nothing is asked. -/
lemma follows_rows_of_error {error : Error} (hbase : baseCommand command = .error error)
    (arguments : List Datum) (query : Query) :
    Follows naming (rows naming command arguments query) [.fail error] := by
  unfold rows rowsSelect
  rw [lift_baseCommand_bind_of_error hbase]
  rfl

lemma follows_total_of_error {error : Error} (hbase : baseCommand command = .error error)
    (arguments : List Datum) (query : Query) :
    Follows naming (total naming command arguments query) [.fail error] := by
  unfold total countSelect
  rw [lift_baseCommand_bind_of_error hbase]
  rfl

end Query

end Translation
end ODataToSql
