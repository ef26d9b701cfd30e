import ODataToSql.Proofs.BoundPlaces
import Mathlib.Data.List.Forall2

/-!
# Which properties are columns

`Term.columns` lists the columns of a term in the order in which the text has them, and
`mentioned` lists the properties of an expression that occur in the text of its condition. That is
a matter of the expression alone.

* `TermOf.forall₂_columns`: the columns of a term are those of the properties that are mentioned.
  So `TermOf.onColumn` asks nothing of the columns of other properties.
* `Query.filtered`, `Query.sorted` and `Query.selected` are the properties that a query mentions in
  each of its clauses.
-/

namespace ODataToSql

namespace Sql.Term

/-! ## Columns -/

mutual

/-- The columns of a term, from left to right. -/
def columns : Term → List Column
  | .column name => [name]
  | .binary left _ right => left.columns ++ right.columns
  | .not operand => operand.columns
  | .like operand _ value => operand.columns ++ value.columns
  | .nested inner => inner.columns
  | .call _ arguments => columnsOfAll arguments
  | .cast operand _ => operand.columns
  | .null | .int _ | .parameter _ | .datePart _ => []

/-- The columns of all terms of a list. -/
def columnsOfAll : List Term → List Column
  | [] => []
  | term :: rest => term.columns ++ columnsOfAll rest

end

@[simp]
lemma columnsOfAll_eq_flatMap (terms : List Term) :
    columnsOfAll terms = terms.flatMap columns := by
  induction terms with
  | nil => rfl
  | cons term rest ih => rw [columnsOfAll, ih, List.flatMap_cons]

/-- What holds of the columns of a term holds everywhere in it. -/
lemma everywhere_onColumn {P : Column → Prop} {term : Term} :
    term.Everywhere (OnColumn P) ↔ ∀ name ∈ term.columns, P name := by
  induction term with
  | column name => simp [OnColumn, columns]
  | null | int | parameter | datePart => simp [OnColumn, columns]
  | binary left operator right ihleft ihright =>
    rw [everywhere_binary, ihleft, ihright, columns, List.forall_mem_append]
    exact and_iff_right trivial
  | not operand ih => simp [OnColumn, columns, ih]
  | like operand pattern value ihoperand ihvalue =>
    rw [everywhere_like, ihoperand, ihvalue, columns, List.forall_mem_append]
    exact and_iff_right trivial
  | nested inner ih => simp [OnColumn, columns, ih]
  | call function arguments ih =>
    rw [everywhere_call, columns, columnsOfAll_eq_flatMap, List.forall_mem_flatMap]
    exact (and_iff_right trivial).trans (forall₂_congr ih)
  | cast operand type ih => simp [OnColumn, columns, ih]

end Sql.Term

/-- The columns of a condition, from left to right. -/
def Sql.Condition.columns (condition : Condition) : List Column :=
  condition.predicate.elim [] Term.columns

namespace Translation

open Sql

/-! ## Properties that are mentioned -/

mutual

/-- The properties that occur in the text of a condition, from left to right. A match on the left is
all that is left of an operation, and not every argument of a call occurs in its text. -/
def mentioned : Expr → List Property
  | .constant _ => []
  | .property property => [property]
  | .binary _ left right =>
    if isLikeCall left then mentioned left else mentioned left ++ mentioned right
  | .unary _ operand => mentioned operand
  | .call name arguments =>
    (((callShape? name).getD .unsupported).positions arguments.length).flatMap fun position =>
      ((mentionedOfAll arguments)[position]?).getD []
  | .cast operand => mentioned operand
  | .lambda .. => []

/-- The properties of each of the arguments of a call. -/
def mentionedOfAll : List Expr → List (List Property)
  | [] => []
  | argument :: rest => mentioned argument :: mentionedOfAll rest

end

lemma mentionedOfAll_eq_map (arguments : List Expr) :
    mentionedOfAll arguments = arguments.map mentioned := by
  induction arguments with
  | nil => rfl
  | cons argument rest ih => rw [mentionedOfAll, ih, List.map_cons]

/-- The properties of a call are those of the arguments that occur in its text. -/
lemma mentioned_call {name : String} {shape : CallShape} (hshape : callShape? name = some shape)
    (arguments : List Expr) :
    mentioned (.call name arguments) =
      (shape.positions arguments.length).flatMap fun position =>
        (arguments[position]?.map mentioned).getD [] := by
  rw [mentioned, hshape, mentionedOfAll_eq_map]
  simp only [Option.getD_some, List.getElem?_map]

/-- The null literal mentions nothing. -/
lemma mentioned_of_isNull {expr : Expr} (h : expr.isNull = true) : mentioned expr = [] := by
  induction expr with
  | constant value => rw [mentioned]
  | cast operand ih =>
    rw [mentioned]
    exact ih h
  | _ => cases h

/-- The columns of a term are those of the properties that the expression mentions, in the same
order. By induction on how the term comes about. -/
theorem TermOf.forall₂_columns {columns : Property → Column → Prop} {expr : Expr} {term : Term}
    (h : TermOf columns expr term) : List.Forall₂ columns (mentioned expr) term.columns := by
  induction h with
  | cast hoperand ih =>
    rw [mentioned]
    exact ih
  | null | parameter => simp [mentioned, Term.columns]
  | column hcolumn => simp [mentioned, Term.columns, hcolumn]
  | likeOperand hlike hleft ih => simp [mentioned, Term.columns, hlike, ih]
  | nullOperand hlike hnull hsign hleft ih =>
    simp [mentioned, Term.columns, hlike, mentioned_of_isNull hnull, ih]
  | operands hlike hnull hsign hleft hright ihleft ihright =>
    simpa [mentioned, Term.columns, hlike] using List.rel_append ihleft ihright
  | not hoperand ih => simpa [mentioned, Term.columns] using ih
  | like hshape hoperand hvalue ihoperand ihvalue =>
    simpa [mentioned_call hshape, CallShape.positions, Term.columns] using
      List.rel_append ihoperand ihvalue
  | indexOf hshape htext hsought ihtext ihsought =>
    -- the sought text is the second argument, and stands first
    simpa [mentioned_call hshape, CallShape.positions, Term.columns] using
      List.rel_append ihsought ihtext
  | trim hshape hoperand ih | part hshape hoperand ih | convert hshape hoperand ih
  | totalSeconds hshape hoperand ih =>
    simpa [mentioned_call hshape, CallShape.positions, Term.columns] using ih
  | @direct name function pairs hshape hpairs ih =>
    -- all positions from first to last are all arguments in their order
    rw [mentioned_call hshape, CallShape.positions, flatMap_range_getElem?, List.flatMap_map,
      Term.columns, Term.columnsOfAll_eq_flatMap, List.flatMap_map]
    clear hshape hpairs
    induction pairs with
    | nil => exact .nil
    | cons pair rest ihrest =>
      obtain ⟨hpair, hrest⟩ := List.forall_mem_cons.1 ih
      exact List.rel_append hpair (ihrest hrest)

/-- What holds of every column that some properties may be called by holds of those that they are
called by. -/
lemma forall_of_forall₂ {columns : Property → Column → Prop} {P : Column → Prop}
    {properties : List Property} {names : List Column} (h : List.Forall₂ columns properties names)
    (hcolumns : ∀ property ∈ properties, ∀ name, columns property name → P name) :
    ∀ name ∈ names, P name := by
  induction h with
  | nil => exact fun _ hmem => nomatch hmem
  | cons hcolumn hrest ih =>
    obtain ⟨hfirst, hcolumns⟩ := List.forall_mem_cons.1 hcolumns
    exact List.forall_mem_cons.2 ⟨hfirst _ hcolumn, ih hcolumns⟩

/-- So it holds of the columns of a term, if it holds of what is mentioned. -/
lemma TermOf.onColumn {columns : Property → Column → Prop} {P : Column → Prop} {expr : Expr}
    {term : Term} (h : TermOf columns expr term)
    (hcolumns : ∀ property ∈ mentioned expr, ∀ name, columns property name → P name) :
    term.Everywhere (Term.OnColumn P) :=
  Term.everywhere_onColumn.2 (forall_of_forall₂ h.forall₂_columns hcolumns)

end Translation

/-! ## The properties of a query -/

/-- The property that is sorted by, if it is one. -/
def OrderItem.property? (item : OrderItem) : Option Property :=
  match item.expr with
  | .property property => some property
  | _ => none

/-- The property that is selected, if it is one. -/
def SelectItem.property? (item : SelectItem) : Option Property :=
  match item with
  | .property name => some name
  | _ => none

namespace Query

/-- The properties that the condition mentions. -/
def filtered (query : Query) : List Property :=
  query.filter.elim [] Translation.mentioned

/-- The properties that the rows are sorted by. -/
def sorted (query : Query) : List Property :=
  (query.orderBy.getD []).filterMap OrderItem.property?

/-- The properties that are selected, unless all are. -/
def selected (query : Query) : List Property :=
  match query.select with
  | some (.items items) =>
    if (Projection.items items).isAll then [] else items.filterMap SelectItem.property?
  | _ => []

end Query

namespace Translation

open Sql

variable {σ : Type} {naming : Naming σ} {query : Query} {state after : σ}

/-- The columns of a condition are those of the properties that the filter mentions. -/
lemma forall₂_of_yields_condition {keyword : ConditionKeyword} {result : Condition}
    (h : Yields (condition naming query.filter keyword) state result after) :
    List.Forall₂ (Calls naming) query.filtered result.columns := by
  rw [yields_condition] at h
  unfold Query.filtered
  cases hfilter : query.filter with
  | none =>
    rw [hfilter] at h
    obtain ⟨rfl, -⟩ := h
    exact .nil
  | some filter =>
    rw [hfilter] at h
    obtain ⟨predicate, hpredicate, rfl⟩ := h
    exact (termOf_of_yields hpredicate).forall₂_columns

/-- Each of the criteria is a property, and the rows are sorted by its column. -/
lemma forall₂_of_yields_sortKeys {items : List OrderItem} {keys : List SortKey}
    (h : Yields (sortKeys naming items) state keys after) :
    List.Forall₂
      (fun item key => ∃ property, item.expr = .property property ∧
        Calls naming property key.column) items keys := by
  induction items generalizing keys state with
  | nil =>
    obtain ⟨rfl, -⟩ := yields_pure.1 h
    exact .nil
  | cons item rest ih =>
    rw [sortKeys] at h
    simp only [yields_bind, yields_pure] at h
    obtain ⟨key, between, hkey, keys, last, hkeys, rfl, rfl⟩ := h
    unfold sortKey at hkey
    cases hexpr : item.expr with
    | property property =>
      rw [hexpr] at hkey
      obtain ⟨name, hname, rfl⟩ := yields_bind_pure.1 hkey
      exact .cons ⟨property, hexpr, calls_of_yields hname⟩ (ih hkeys)
    | _ =>
      rw [hexpr] at hkey
      exact absurd hkey not_yields_throw

/-- So the columns of an ordering are those of the properties that are sorted by. -/
lemma forall₂_of_yields_orderBy {keys : List SortKey}
    (h : Yields (orderBy naming query.orderBy) state keys after) :
    List.Forall₂ (Calls naming) query.sorted (keys.map SortKey.column) := by
  have hkeys := forall₂_of_yields_sortKeys h
  clear h
  unfold Query.sorted
  generalize query.orderBy.getD [] = items at hkeys
  induction hkeys with
  | nil => exact .nil
  | cons hkey hrest ih =>
    obtain ⟨property, hexpr, hcalls⟩ := hkey
    rw [List.filterMap_cons_some (by rw [OrderItem.property?, hexpr]), List.map_cons]
    exact .cons hcalls ih

/-- Each of the items is a property, and its column is selected. -/
lemma forall₂_of_yields_itemColumns {items : List SelectItem} {columns : List Column}
    (h : Yields (itemColumns naming items) state columns after) :
    List.Forall₂ (Calls naming) (items.filterMap SelectItem.property?) columns := by
  induction items generalizing columns state with
  | nil =>
    obtain ⟨rfl, -⟩ := yields_pure.1 h
    exact .nil
  | cons item rest ih =>
    rw [itemColumns] at h
    simp only [yields_bind, yields_pure] at h
    obtain ⟨column, between, hcolumn, columns, last, hcolumns, rfl, rfl⟩ := h
    cases item with
    | property property => exact .cons (calls_of_yields hcolumn) (ih hcolumns)
    | expansion | wildcard => exact absurd hcolumn not_yields_throw

/-- Where the base command selects nothing, all columns are selected or those of the properties that
the query selects. -/
lemma yields_chosenList_of_empty {base : BaseCommand} {list : SelectList}
    (hcolumns : base.columns = "") (h : Yields (chosenList naming base query) state list after) :
    (list = .star ∧ query.selected = []) ∨
      ∃ columns, list = .columns columns ∧ List.Forall₂ (Calls naming) query.selected columns := by
  unfold chosenList selectList at h
  unfold Query.selected
  rw [if_pos (String.isEmpty_iff.2 hcolumns)] at h
  cases hselect : query.select with
  | none =>
    rw [hselect] at h
    obtain ⟨rfl, -⟩ := yields_pure.1 h
    exact .inl ⟨rfl, rfl⟩
  | some projection =>
    rw [hselect] at h
    cases projection with
    | all =>
      obtain ⟨rfl, -⟩ := yields_pure.1 h
      exact .inl ⟨rfl, rfl⟩
    | items items =>
      dsimp only at h ⊢
      by_cases hall : (Projection.items items).isAll
      · rw [if_pos hall] at h ⊢
        obtain ⟨rfl, -⟩ := yields_pure.1 h
        exact .inl ⟨rfl, rfl⟩
      · rw [if_neg hall] at h ⊢
        obtain ⟨columns, hitems, rfl⟩ := yields_bind_pure.1 h
        exact .inr ⟨columns, rfl, forall₂_of_yields_itemColumns hitems⟩

/-- Otherwise the columns are the base command's. -/
lemma yields_chosenList_of_ne_empty {base : BaseCommand} {list : SelectList}
    (hcolumns : base.columns ≠ "") (h : Yields (chosenList naming base query) state list after) :
    list = .verbatim base.columns := by
  unfold chosenList at h
  rw [if_neg (mt String.isEmpty_iff.1 hcolumns)] at h
  obtain ⟨rfl, -⟩ := yields_pure.1 h
  rfl

end Translation
end ODataToSql
