import ODataToSql.Sql.Select
import Mathlib.Data.List.Basic
import Mathlib.Tactic.Lemma

/-!
# The parts of a term

`Term.subterms` lists a term and all that it is made of, down to the leaves and in the order in
which the text has them. `Term.Everywhere` says what holds of all of them, and the bound values of a
term are those of its parameter leaves.

* `Term.values_fragment`: a term binds the values of its parameter leaves, from left to right.
* `Select.arguments_statement`: a command binds those of its condition, and nothing else.
-/

namespace ODataToSql.Sql

namespace Term

/-- The terms that a term is made of directly, from left to right. -/
def children : Term → List Term
  | .column _ | .null | .int _ | .parameter _ | .datePart _ => []
  | .binary left _ right => [left, right]
  | .not operand => [operand]
  | .like operand _ value => [operand, value]
  | .nested inner => [inner]
  | .call _ arguments => arguments
  | .cast operand _ => [operand]

/-- Induction over terms, from what they are made of. -/
lemma induct_children {motive : Term → Prop}
    (step : ∀ term, (∀ child ∈ term.children, motive child) → motive term) (term : Term) :
    motive term := by
  induction term with
  | column | null | int | parameter | datePart => exact step _ (by simp [children])
  | binary left operator right hleft hright => exact step _ (by simp [children, hleft, hright])
  | not operand ih => exact step _ (by simp [children, ih])
  | like operand pattern value hoperand hvalue =>
    exact step _ (by simp [children, hoperand, hvalue])
  | nested inner ih => exact step _ (by simp [children, ih])
  | call function arguments ih => exact step _ ih
  | cast operand type ih => exact step _ (by simp [children, ih])

mutual

/-- The term and all that it is made of, each term in front of its parts. -/
def subterms : Term → List Term
  | .binary left operator right =>
    .binary left operator right :: (left.subterms ++ right.subterms)
  | .not operand => .not operand :: operand.subterms
  | .like operand pattern value =>
    .like operand pattern value :: (operand.subterms ++ value.subterms)
  | .nested inner => .nested inner :: inner.subterms
  | .call function arguments => .call function arguments :: subtermsOfAll arguments
  | .cast operand type => .cast operand type :: operand.subterms
  | leaf => [leaf]

/-- The subterms of all terms of a list. -/
def subtermsOfAll : List Term → List Term
  | [] => []
  | term :: rest => term.subterms ++ subtermsOfAll rest

end

lemma subtermsOfAll_eq_flatMap (terms : List Term) :
    subtermsOfAll terms = terms.flatMap subterms := by
  induction terms with
  | nil => rfl
  | cons term rest ih => rw [subtermsOfAll, ih, List.flatMap_cons]

/-- The subterms of a term are the term and the subterms of what it is made of. -/
lemma subterms_eq (term : Term) : term.subterms = term :: term.children.flatMap subterms := by
  cases term with
  | call function arguments => rw [subterms, subtermsOfAll_eq_flatMap, children]
  | _ => simp [subterms, children]

lemma mem_subterms_self (term : Term) : term ∈ term.subterms := by
  rw [subterms_eq]
  exact List.mem_cons_self

lemma mem_subterms_of_child {term child node : Term} (hchild : child ∈ term.children)
    (hnode : node ∈ child.subterms) : node ∈ term.subterms := by
  rw [subterms_eq]
  exact List.mem_cons_of_mem _ (List.mem_flatMap.2 ⟨child, hchild, hnode⟩)

/-- The property holds of the term and of all that it is made of. -/
def Everywhere (P : Term → Prop) (term : Term) : Prop :=
  ∀ node ∈ term.subterms, P node

lemma everywhere_iff {P : Term → Prop} {term : Term} :
    term.Everywhere P ↔ P term ∧ ∀ child ∈ term.children, child.Everywhere P := by
  unfold Everywhere
  constructor
  · intro h
    refine ⟨h term (mem_subterms_self term), ?_⟩
    intro child hchild node hnode
    exact h node (mem_subterms_of_child hchild hnode)
  · rintro ⟨hterm, hchildren⟩
    rw [subterms_eq]
    refine List.forall_mem_cons.2 ⟨hterm, ?_⟩
    intro node hmem
    obtain ⟨child, hchild, hnode⟩ := List.mem_flatMap.1 hmem
    exact hchildren child hchild node hnode

section Everywhere

variable {P : Term → Prop} {left right operand value inner : Term} {arguments : List Term}

/-- What holds of a leaf holds everywhere in it. -/
lemma everywhere_leaf {leaf : Term} (hleaf : leaf.children = []) : leaf.Everywhere P ↔ P leaf := by
  rw [everywhere_iff, hleaf]
  simp

@[simp]
lemma everywhere_column {name : Column} : (column name).Everywhere P ↔ P (column name) :=
  everywhere_leaf rfl

@[simp]
lemma everywhere_null : null.Everywhere P ↔ P null :=
  everywhere_leaf rfl

@[simp]
lemma everywhere_int {n : Int} : (int n).Everywhere P ↔ P (int n) :=
  everywhere_leaf rfl

@[simp]
lemma everywhere_parameter {datum : Datum} : (parameter datum).Everywhere P ↔ P (parameter datum) :=
  everywhere_leaf rfl

@[simp]
lemma everywhere_datePart {part : DatePart} : (datePart part).Everywhere P ↔ P (datePart part) :=
  everywhere_leaf rfl

@[simp]
lemma everywhere_binary {operator : Operator} :
    (binary left operator right).Everywhere P ↔
      P (binary left operator right) ∧ left.Everywhere P ∧ right.Everywhere P := by
  rw [everywhere_iff]
  simp [children]

@[simp]
lemma everywhere_not : (not operand).Everywhere P ↔ P (not operand) ∧ operand.Everywhere P := by
  rw [everywhere_iff]
  simp [children]

@[simp]
lemma everywhere_like {pattern : LikePattern} :
    (like operand pattern value).Everywhere P ↔
      P (like operand pattern value) ∧ operand.Everywhere P ∧ value.Everywhere P := by
  rw [everywhere_iff]
  simp [children]

@[simp]
lemma everywhere_nested : (nested inner).Everywhere P ↔ P (nested inner) ∧ inner.Everywhere P := by
  rw [everywhere_iff]
  simp [children]

@[simp]
lemma everywhere_call {function : ScalarFunction} :
    (call function arguments).Everywhere P ↔
      P (call function arguments) ∧ ∀ argument ∈ arguments, argument.Everywhere P :=
  everywhere_iff

@[simp]
lemma everywhere_cast {type : ScalarType} :
    (cast operand type).Everywhere P ↔ P (cast operand type) ∧ operand.Everywhere P := by
  rw [everywhere_iff]
  simp [children]

end Everywhere

/-- The property holds of the column, if the term is one. -/
def OnColumn (P : Column → Prop) : Term → Prop
  | .column name => P name
  | _ => True

/-! ## Leaves -/

/-- The value of a parameter leaf. -/
def parameter? : Term → Option Datum
  | .parameter value => some value
  | _ => none

/-- The values of the parameter leaves of a term, from left to right. -/
def parameters (term : Term) : List Datum :=
  term.subterms.filterMap parameter?

/-- The parameter leaves of a term are the term itself, if it is one, and those of its parts. -/
lemma parameters_eq (term : Term) :
    term.parameters = term.parameter?.toList ++ term.children.flatMap parameters := by
  unfold parameters
  rw [subterms_eq, List.filterMap_cons, List.filterMap_flatMap]
  cases parameter? term <;> rfl

section Parameters

variable {left right operand value inner : Term} {arguments : List Term}

@[simp]
lemma parameters_column {name : Column} : (column name).parameters = [] := by
  rw [parameters_eq]
  rfl

@[simp]
lemma parameters_null : null.parameters = [] := by
  rw [parameters_eq]
  rfl

@[simp]
lemma parameters_int {n : Int} : (int n).parameters = [] := by
  rw [parameters_eq]
  rfl

@[simp]
lemma parameters_parameter {datum : Datum} : (parameter datum).parameters = [datum] := by
  rw [parameters_eq]
  rfl

@[simp]
lemma parameters_datePart {part : DatePart} : (datePart part).parameters = [] := by
  rw [parameters_eq]
  rfl

@[simp]
lemma parameters_binary {operator : Operator} :
    (binary left operator right).parameters = left.parameters ++ right.parameters := by
  rw [parameters_eq]
  simp [children, parameter?]

@[simp]
lemma parameters_not : (not operand).parameters = operand.parameters := by
  rw [parameters_eq]
  simp [children, parameter?]

@[simp]
lemma parameters_like {pattern : LikePattern} :
    (like operand pattern value).parameters = operand.parameters ++ value.parameters := by
  rw [parameters_eq]
  simp [children, parameter?]

@[simp]
lemma parameters_nested : (nested inner).parameters = inner.parameters := by
  rw [parameters_eq]
  simp [children, parameter?]

@[simp]
lemma parameters_call {function : ScalarFunction} :
    (call function arguments).parameters = arguments.flatMap parameters := by
  rw [parameters_eq]
  simp [children, parameter?]

@[simp]
lemma parameters_cast {type : ScalarType} :
    (cast operand type).parameters = operand.parameters := by
  rw [parameters_eq]
  simp [children, parameter?]

end Parameters

end Term

/-! ## Bound values -/

namespace Fragment

@[simp]
lemma values_nil : values [] = [] := rfl

@[simp]
lemma values_text_cons (text : String) (rest : Fragment) :
    values (.text text :: rest) = values rest := rfl

@[simp]
lemma values_argument_cons (value : Datum) (rest : Fragment) :
    values (.argument value :: rest) = value :: values rest := rfl

@[simp]
lemma values_append (first second : Fragment) :
    values (first ++ second) = values first ++ values second :=
  List.filterMap_append

@[simp]
lemma values_separated (fragments : List Fragment) :
    values (separated fragments) = fragments.flatMap values := by
  induction fragments with
  | nil => rfl
  | cons fragment rest ih =>
    cases rest with
    | nil => simp [separated]
    | cons second rest => simp [separated, ih]

@[simp]
lemma values_spaced (leftOut : Bool) (fragment : Fragment) :
    values (spaced leftOut fragment) = if leftOut then [] else values fragment := by
  cases leftOut <;> rfl

end Fragment

namespace Term

/-- A term binds the values of its parameter leaves, from left to right. -/
lemma values_fragment (term : Term) : term.fragment.values = term.parameters := by
  induction term with
  | column | null | int | parameter | datePart => simp [fragment]
  | binary left operator right hleft hright => simp [fragment, hleft, hright]
  | not operand ih => simp [fragment, ih]
  | like operand pattern value hoperand hvalue =>
    cases pattern <;> simp [fragment, LikePattern.fragment, hoperand, hvalue]
  | nested inner ih => simp [fragment, ih]
  | call function arguments ih => simpa [fragment, List.flatMap_map] using List.flatMap_congr ih
  | cast operand type ih => simp [fragment, ih]

end Term

/-! ## The values of a command -/

@[simp]
lemma Top.values_fragment (top : Top) : top.fragment.values = [] := by
  cases top <;> rfl

@[simp]
lemma SelectList.values_fragment (list : SelectList) : list.fragment.values = [] := by
  cases list <;> simp [fragment, List.flatMap_map]

@[simp]
lemma values_orderByFragment (keys : List SortKey) : (orderByFragment keys).values = [] := by
  cases keys <;> simp [orderByFragment, SortKey.fragment, List.flatMap_map]

@[simp]
lemma Paging.values_fragment (paging : Paging) : paging.fragment.values = [] := by
  unfold fragment
  split <;> rfl

/-- The values of the parameter leaves of a condition, from left to right. -/
def Condition.parameters (condition : Condition) : List Datum :=
  condition.predicate.elim [] Term.parameters

/-- A condition that is left out binds nothing. -/
@[simp]
lemma Condition.values_spaced (condition : Condition) :
    (if condition.isEmpty then [] else condition.fragment.values) = condition.parameters := by
  unfold parameters isEmpty fragment
  cases condition.predicate with
  | none => rfl
  | some predicate => simp [Term.values_fragment]

/-- A command binds the values of its condition after the given arguments. -/
lemma Select.arguments_statement (select : Select) (arguments : List Datum) :
    (select.statement arguments).arguments = arguments ++ select.condition.parameters := by
  rw [statement_eq, Statement.arguments_append]
  simp [Statement.start, fragment, opening, ending, Fragment.ofText]

end ODataToSql.Sql
