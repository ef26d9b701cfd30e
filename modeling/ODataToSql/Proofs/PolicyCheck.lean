import ODataToSql.Policy.Check
import Mathlib.Tactic.Lemma

/-!
# What a passed check says

A query passes the check of a policy if every option that it has is allowed, its filter holds what
is allowed only, and the rows that it skips and asks for do not exceed their ceilings. The checks of
the parts are said one by one, each as what it is for it to pass.

The main result is `check_eq_ok_iff`: a query passes if and only if each of its options does.
-/

namespace ODataToSql.Policy

variable {policy : Policy} {query : Query}

/-- One check after another passes if both pass. -/
lemma bind_eq_ok {first second : Except Violation Unit} :
    (first >>= fun _ => second) = .ok () ↔ first = .ok () ∧ second = .ok () := by
  cases first with
  | error violation =>
    constructor
    · intro h
      cases h
    · rintro ⟨h, -⟩
      cases h
  | ok =>
    constructor
    · intro h
      exact ⟨rfl, h⟩
    · rintro ⟨-, h⟩
      exact h

/-! ## Filters -/

@[simp]
lemma checkOperator_eq_ok {op : Operator} :
    checkOperator policy op = .ok () ↔ policy.operators.allows op = true := by
  unfold checkOperator
  split <;> simp_all

/-- A call passes if there is a function of the name and it is allowed. -/
@[simp]
lemma checkFunction_eq_ok {name : String} :
    checkFunction policy name = .ok () ↔
      ∃ function, FilterFunction.ofName? name = some function ∧
        policy.functions.allows function = true := by
  unfold checkFunction
  split <;> simp_all [Option.any_eq_true]

@[simp]
lemma checkExpr_cast {operand : Expr} :
    checkExpr policy (.cast operand) = .ok () ↔ checkExpr policy operand = .ok () := by
  rw [checkExpr]

@[simp]
lemma checkExpr_binary {op : BinaryOp} {left right : Expr} :
    checkExpr policy (.binary op left right) = .ok () ↔
      policy.operators.allows (.ofBinary op) = true ∧ checkExpr policy left = .ok () ∧
        checkExpr policy right = .ok () := by
  rw [checkExpr, bind_eq_ok, bind_eq_ok, checkOperator_eq_ok]

@[simp]
lemma checkExpr_unary {op : UnaryOp} {operand : Expr} :
    checkExpr policy (.unary op operand) = .ok () ↔
      policy.operators.allows (.ofUnary op) = true ∧ checkExpr policy operand = .ok () := by
  rw [checkExpr, bind_eq_ok, checkOperator_eq_ok]

/-- All arguments of a call are looked at, in so far as they occur in the text or not. -/
@[simp]
lemma checkExprs_eq_ok {exprs : List Expr} :
    checkExprs policy exprs = .ok () ↔ ∀ expr ∈ exprs, checkExpr policy expr = .ok () := by
  induction exprs with
  | nil => simp [checkExprs]
  | cons expr rest ih => rw [checkExprs, bind_eq_ok, ih, List.forall_mem_cons]

@[simp]
lemma checkExpr_call {name : String} {arguments : List Expr} :
    checkExpr policy (.call name arguments) = .ok () ↔
      checkFunction policy name = .ok () ∧
        ∀ argument ∈ arguments, checkExpr policy argument = .ok () := by
  rw [checkExpr, bind_eq_ok, checkExprs_eq_ok]

/-! ## Options -/

/-- A number of rows passes if it does not exceed the ceiling. -/
lemma checkCeiling_eq_ok {violation : UInt64 → UInt64 → Violation} {value max : Option UInt64} :
    checkCeiling violation value max = .ok () ↔ ∀ n ∈ value, ∀ ceiling ∈ max, n ≤ ceiling := by
  cases value with
  | none => simp [checkCeiling]
  | some n =>
    cases max with
    | none => simp [checkCeiling]
    | some ceiling =>
      rw [checkCeiling]
      split <;> simp_all

/-- An option passes if it is missing, or if it is allowed and its value passes. -/
lemma checkOption_eq_ok {option : QueryOption} :
    checkOption policy query option = .ok () ↔
      (query.hasOption option = true →
        policy.options.allows option = true ∧ checkValue policy query option = .ok ()) := by
  unfold checkOption
  split
  · simp_all
  · split <;> simp_all

lemma checkOptions_eq_ok {options : List QueryOption} :
    checkOptions policy query options = .ok () ↔
      ∀ option ∈ options, checkOption policy query option = .ok () := by
  induction options with
  | nil => simp [checkOptions]
  | cons option rest ih => rw [checkOptions, bind_eq_ok, ih, List.forall_mem_cons]

/-- A query passes if and only if every option that it has is allowed and has a value that
passes. -/
theorem check_eq_ok_iff :
    check policy query = .ok () ↔
      ∀ option, query.hasOption option = true →
        policy.options.allows option = true ∧ checkValue policy query option = .ok () := by
  unfold check
  rw [checkOptions_eq_ok]
  constructor
  · intro h option
    exact checkOption_eq_ok.1 (h option (Enumeration.complete option))
  · intro h option _
    exact checkOption_eq_ok.2 (h option)

/-! ## Queries that pass -/

section Passed

variable (hcheck : check policy query = .ok ())

include hcheck

/-- What a query that passes has in typed form is allowed. -/
lemma allows_of_hasTyped (option : QueryOption) (h : query.hasTyped option = true) :
    policy.options.allows option = true ∧ checkValue policy query option = .ok () := by
  apply check_eq_ok_iff.1 hcheck
  rw [Query.hasOption, h, Bool.true_or]

/-- A filter is allowed, and so is all that it holds. -/
lemma checkExpr_of_check {filter : Expr} (h : query.filter = some filter) :
    policy.options.allows .filter = true ∧ checkExpr policy filter = .ok () := by
  have hpassed := allows_of_hasTyped hcheck .filter (by rw [Query.hasTyped, h]; rfl)
  rwa [checkValue, h] at hpassed

/-- A number of rows to skip is allowed and does not exceed its ceiling. -/
lemma skip_of_check {n : UInt64} (h : query.skip = some n) :
    policy.options.allows .skip = true ∧ ∀ max ∈ policy.maxSkip, n ≤ max := by
  have hpassed := allows_of_hasTyped hcheck .skip (by rw [Query.hasTyped, h]; rfl)
  rw [checkValue, checkCeiling_eq_ok, h] at hpassed
  exact ⟨hpassed.1, hpassed.2 n rfl⟩

/-- A number of rows to return is allowed and does not exceed its ceiling. -/
lemma top_of_check {n : UInt64} (h : query.top = some n) :
    policy.options.allows .top = true ∧ ∀ max ∈ policy.maxTop, n ≤ max := by
  have hpassed := allows_of_hasTyped hcheck .top (by rw [Query.hasTyped, h]; rfl)
  rw [checkValue, checkCeiling_eq_ok, h] at hpassed
  exact ⟨hpassed.1, hpassed.2 n rfl⟩

end Passed

end ODataToSql.Policy
