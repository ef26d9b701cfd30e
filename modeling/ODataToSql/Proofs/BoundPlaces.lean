import ODataToSql.Proofs.CommandClauses
import ODataToSql.Proofs.TermOf

/-!
# Which constants of a filter are bound

A place in an expression is the way from its root to one of its parts. `boundPlaces` lists the
places of the constants that a condition binds, in the order of their placeholders. It looks at the
shape of the expression alone: a constant counts only in so far as it is null or not.

* `TermOf.map_some_parameters`: the values that a term of the expression binds are the constants at
  these places.
* `binds_of_yields_rows` and `binds_of_yields_total`: so are the arguments of a command, after those
  of the caller.
-/

namespace ODataToSql

namespace Expr

/-- The positions of the operands on the way from the root of an expression to a part of it. -/
abbrev Place := List Nat

/-- Places in an operand, seen from the expression that has the operand at a position. -/
def Place.under (position : Nat) (places : List Place) : List Place :=
  places.map fun place => position :: place

/-- The expressions that an expression is made of directly, from left to right. -/
def children : Expr → List Expr
  | .constant _ | .property _ => []
  | .binary _ left right => [left, right]
  | .unary _ operand => [operand]
  | .call _ arguments => arguments
  | .cast operand => [operand]
  | .lambda _ _ predicate => predicate.toList

/-- The constant at a place, if there is one. -/
def constantAt? : Expr → Place → Option Datum
  | .constant value, [] => some value
  | _, [] => none
  | expr, position :: place => expr.children[position]?.bind fun child => child.constantAt? place

lemma constantAt?_cons (expr : Expr) (position : Nat) (place : Place) :
    expr.constantAt? (position :: place) =
      expr.children[position]?.bind fun child => child.constantAt? place := by
  cases expr <;> rfl

/-- The constants of an operand are the constants of the expression at the places under it. -/
lemma map_constantAt?_under {expr child : Expr} {position : Nat}
    (hchild : expr.children[position]? = some child) (places : List Place) :
    (Place.under position places).map expr.constantAt? = places.map child.constantAt? := by
  unfold Place.under
  rw [List.map_map]
  apply List.map_congr_left
  intro place _
  show expr.constantAt? (position :: place) = child.constantAt? place
  rw [constantAt?_cons, hchild]
  rfl

end Expr

namespace Translation

open Sql

/-! ## Bound places -/

/-- The arguments that occur in the text of a call of the shape, from left to right, where so many
are given. -/
def CallShape.positions (count : Nat) : CallShape → List Nat
  | .like _ => [0, 1]
  | .indexOf => [1, 0]
  | .trim | .part _ | .convert _ | .totalSeconds => [0]
  | .direct _ => List.range count
  | .unsupported => []

/-- The places in a call of the shape, from the places in each of its arguments. -/
def CallShape.places (shape : CallShape) (arguments : List (List Expr.Place)) : List Expr.Place :=
  (shape.positions arguments.length).flatMap fun position =>
    Expr.Place.under position (arguments[position]?.getD [])

mutual

/-- The places of the constants that are bound, in the order of their placeholders. -/
def boundPlaces : Expr → List Expr.Place
  | .constant value => if value.isNull then [] else [[]]
  | .property _ => []
  | .binary _ left right =>
    if isLikeCall left || right.isNull then Expr.Place.under 0 (boundPlaces left)
    else Expr.Place.under 0 (boundPlaces left) ++ Expr.Place.under 1 (boundPlaces right)
  | .unary _ operand => Expr.Place.under 0 (boundPlaces operand)
  | .call name arguments =>
    ((callShape? name).getD .unsupported).places (boundPlacesOfAll arguments)
  | .cast operand => Expr.Place.under 0 (boundPlaces operand)
  | .lambda .. => []

/-- The places in each of the arguments of a call. -/
def boundPlacesOfAll : List Expr → List (List Expr.Place)
  | [] => []
  | argument :: rest => boundPlaces argument :: boundPlacesOfAll rest

end

lemma boundPlacesOfAll_eq_map (arguments : List Expr) :
    boundPlacesOfAll arguments = arguments.map boundPlaces := by
  induction arguments with
  | nil => rfl
  | cons argument rest ih => rw [boundPlacesOfAll, ih, List.map_cons]

/-! ## The values of a term -/

/-- The constants at the bound places of an expression. -/
def boundConstants (expr : Expr) : List (Option Datum) :=
  (boundPlaces expr).map expr.constantAt?

@[simp]
lemma boundConstants_cast (operand : Expr) :
    boundConstants (.cast operand) = boundConstants operand := by
  unfold boundConstants
  rw [boundPlaces]
  exact Expr.map_constantAt?_under rfl _

@[simp]
lemma boundConstants_unary (op : UnaryOp) (operand : Expr) :
    boundConstants (.unary op operand) = boundConstants operand := by
  unfold boundConstants
  rw [boundPlaces]
  exact Expr.map_constantAt?_under rfl _

/-- The right operand counts where it occurs in the text. -/
lemma boundConstants_binary (op : BinaryOp) (left right : Expr) :
    boundConstants (.binary op left right) =
      if isLikeCall left || right.isNull then boundConstants left
      else boundConstants left ++ boundConstants right := by
  let whole := Expr.binary op left right
  have hleft : (Expr.Place.under 0 (boundPlaces left)).map whole.constantAt? =
      boundConstants left := Expr.map_constantAt?_under rfl _
  have hright : (Expr.Place.under 1 (boundPlaces right)).map whole.constantAt? =
      boundConstants right := Expr.map_constantAt?_under rfl _
  rw [boundConstants, boundPlaces]
  by_cases hdropped : isLikeCall left || right.isNull
  · rw [if_pos hdropped, if_pos hdropped, hleft]
  · rw [if_neg hdropped, if_neg hdropped, List.map_append, hleft, hright]

/-- The constants that a call binds are those of the arguments that occur in its text. -/
lemma boundConstants_call {name : String} {shape : CallShape}
    (hshape : callShape? name = some shape) (arguments : List Expr) :
    boundConstants (.call name arguments) =
      (shape.positions arguments.length).flatMap fun position =>
        (arguments[position]?.map boundConstants).getD [] := by
  unfold boundConstants
  rw [boundPlaces, hshape, boundPlacesOfAll_eq_map]
  show (CallShape.places shape _).map _ = _
  unfold CallShape.places
  rw [List.map_flatMap, List.length_map]
  -- an argument that is missing has no places, on either side
  apply List.flatMap_congr
  intro position _
  rw [List.getElem?_map]
  cases hargument : arguments[position]? with
  | none => rfl
  | some argument => exact Expr.map_constantAt?_under hargument _

/-- All arguments of a call, looked up by their positions. -/
lemma flatMap_range_getElem? {α β : Type} (f : α → List β) (list : List α) :
    ((List.range list.length).flatMap fun position => (list[position]?.map f).getD []) =
      list.flatMap f := by
  induction list with
  | nil => rfl
  | cons a rest ih =>
    rw [List.length_cons, List.range_succ_eq_map, List.flatMap_cons, List.flatMap_map,
      List.flatMap_cons]
    congr 1

/-- The values that a term of an expression binds are the constants at the bound places. By
induction on how the term comes about. -/
theorem TermOf.map_some_parameters {columns : Property → Column → Prop} {expr : Expr} {term : Term}
    (h : TermOf columns expr term) : term.parameters.map some = boundConstants expr := by
  induction h with
  | cast hoperand ih => rw [ih, boundConstants_cast]
  | null hnull => simp [boundConstants, boundPlaces, hnull]
  | parameter hnull => simp [boundConstants, boundPlaces, hnull, Expr.constantAt?]
  | column hcolumn => simp [boundConstants, boundPlaces]
  -- the right operand is dropped after a `LIKE`, and a null literal binds nothing
  | likeOperand hlike hleft ih => simp [boundConstants_binary, hlike, ih]
  | nullOperand hlike hnull hsign hleft ih => simp [boundConstants_binary, hnull, ih]
  | operands hlike hnull hsign hleft hright ihleft ihright =>
    simp [boundConstants_binary, hlike, hnull, ihleft, ihright]
  | not hoperand ih => simp [ih]
  | like hshape hoperand hvalue ihoperand ihvalue =>
    simp [boundConstants_call hshape, CallShape.positions, ihoperand, ihvalue]
  | indexOf hshape htext hsought ihtext ihsought =>
    -- the sought text is the second argument, and stands first
    simp [boundConstants_call hshape, CallShape.positions, ihtext, ihsought]
  | trim hshape hoperand ih | part hshape hoperand ih | convert hshape hoperand ih
  | totalSeconds hshape hoperand ih =>
    simp [boundConstants_call hshape, CallShape.positions, ih]
  | @direct name function pairs hshape hpairs ih =>
    -- all positions from first to last are all arguments in their order
    rw [boundConstants_call hshape, CallShape.positions, flatMap_range_getElem?, List.flatMap_map,
      Term.parameters_call, List.flatMap_map, List.map_flatMap]
    exact List.flatMap_congr ih

end Translation

/-! ## The arguments of a command -/

namespace Query

/-- The places of the constants of the filter that are bound, in the order of their placeholders. -/
def boundPlaces (query : Query) : List Expr.Place :=
  query.filter.elim [] Translation.boundPlaces

/-- The constant of the filter at a place, if there is one. -/
def constantAt? (query : Query) (place : Expr.Place) : Option Datum :=
  query.filter.bind fun filter => filter.constantAt? place

end Query

namespace Translation

open Sql

variable {σ : Type} {naming : Naming σ} {command : String} {arguments : List Datum} {query : Query}
  {statement : Statement} {state after : σ}

/-- The arguments of the statement are those of the caller and then the constants at the places. -/
def Binds (arguments : List Datum) (query : Query) (places : List Expr.Place)
    (statement : Statement) : Prop :=
  ∃ values, statement.arguments = arguments ++ values ∧
    values.map some = places.map query.constantAt?

/-- A condition binds the constants of the filter at the bound places. -/
lemma map_some_parameters_of_yields {keyword : ConditionKeyword} {result : Condition}
    (h : Yields (condition naming query.filter keyword) state result after) :
    result.parameters.map some = query.boundPlaces.map query.constantAt? := by
  rw [yields_condition] at h
  unfold Query.boundPlaces
  have hconstantAt : ∀ filter, query.filter = some filter →
      query.constantAt? = filter.constantAt? := by
    intro filter hfilter
    funext place
    rw [Query.constantAt?, hfilter]
    rfl
  cases hfilter : query.filter with
  | none =>
    rw [hfilter] at h
    obtain ⟨rfl, -⟩ := h
    rfl
  | some filter =>
    rw [hfilter] at h
    obtain ⟨predicate, hpredicate, rfl⟩ := h
    rw [hconstantAt filter hfilter]
    exact (termOf_of_yields hpredicate).map_some_parameters

/-- The command for the rows binds the constants at the bound places. -/
theorem binds_of_yields_rows
    (h : Yields (rows naming command arguments query) state statement after) :
    Binds arguments query query.boundPlaces statement := by
  obtain ⟨select, hselect, rfl⟩ := yields_rows.1 h
  obtain ⟨base, list, condition, keys, first, second, -, -, hcondition, -, rfl⟩ :=
    yields_rowsSelect.1 hselect
  exact ⟨_, Select.arguments_statement _ _, map_some_parameters_of_yields hcondition⟩

/-- The command for the number of rows binds the same constants. -/
theorem binds_of_yields_total
    (h : Yields (total naming command arguments query) state statement after) :
    Binds arguments query query.boundPlaces statement := by
  obtain ⟨select, hselect, rfl⟩ := yields_total.1 h
  obtain ⟨base, condition, key, first, -, hcondition, -, rfl⟩ := yields_countSelect.1 hselect
  exact ⟨_, Select.arguments_statement _ _, map_some_parameters_of_yields hcondition⟩

end Translation
end ODataToSql
