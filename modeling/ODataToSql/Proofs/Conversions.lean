import ODataToSql.Proofs.Outcomes
import ODataToSql.Translation.Filter
import Mathlib.Tactic.Lemma

/-!
# Conversions

A conversion has no counterpart in SQL. `Expr.withoutCasts` is a filter with all conversions removed
but those in the predicates of quantifiers, and it is translated as the filter is: with the same
questions to the naming, to the same term or the same error.

There is one place where a conversion is seen. Whether there is a match on the left of an operation
is asked without looking through conversions, though whether there is a null literal on its right is
asked under them: a conversion around the match keeps the operation from being dropped.

* `Expr.HidesNoMatch`: no operation has a conversion of a match on its left.
* `term_withoutCasts`: conversions have no effect on the translation of such a filter.
* `not_yields_of_hidden`: they have one on every operation that is left out there.
-/

namespace ODataToSql

namespace Expr

mutual

/-- The expression without its conversions. The predicate of a quantifier stays as it is. -/
def withoutCasts : Expr → Expr
  | .cast operand => operand.withoutCasts
  | .binary op left right => .binary op left.withoutCasts right.withoutCasts
  | .unary op operand => .unary op operand.withoutCasts
  | .call name arguments => .call name (allWithoutCasts arguments)
  | other => other

/-- The arguments of a call, each without its conversions. -/
def allWithoutCasts : List Expr → List Expr
  | [] => []
  | argument :: rest => argument.withoutCasts :: allWithoutCasts rest

end

lemma allWithoutCasts_eq_map (arguments : List Expr) :
    allWithoutCasts arguments = arguments.map withoutCasts := by
  induction arguments with
  | nil => rfl
  | cons argument rest ih => rw [allWithoutCasts, ih, List.map_cons]

/-- The null test looks through conversions. -/
lemma isNull_withoutCasts (expr : Expr) : expr.withoutCasts.isNull = expr.isNull := by
  induction expr with
  | cast operand ih => exact ih
  | _ => rfl

/-- Without conversions, an expression is a match if it is one under the conversions at its root. -/
lemma isLikeCall_withoutCasts (expr : Expr) :
    Translation.isLikeCall expr.withoutCasts = Translation.isLikeCall expr.stripCasts := by
  induction expr with
  | cast operand ih => exact ih
  | _ => rfl

mutual

/-- Outside of quantifiers, no operation has a match on its left that stands under a conversion. -/
def HidesNoMatch : Expr → Bool
  | .cast operand => operand.HidesNoMatch
  | .binary _ left right =>
    Translation.isLikeCall left == Translation.isLikeCall left.stripCasts &&
      left.HidesNoMatch && right.HidesNoMatch
  | .unary _ operand => operand.HidesNoMatch
  | .call _ arguments => AllHideNoMatch arguments
  | _ => true

/-- None of the arguments of a call hides a match. -/
def AllHideNoMatch : List Expr → Bool
  | [] => true
  | argument :: rest => argument.HidesNoMatch && AllHideNoMatch rest

end

lemma allHideNoMatch_eq_true {arguments : List Expr} :
    AllHideNoMatch arguments = true ↔ ∀ argument ∈ arguments, argument.HidesNoMatch = true := by
  induction arguments with
  | nil => simp [AllHideNoMatch]
  | cons argument rest ih => simp [AllHideNoMatch, ih]

end Expr

namespace Translation

open Sql

variable {σ : Type} {naming : Naming σ}

/-- Where no operation has a conversion of a match on its left, the filter and the filter without
its conversions are translated in the same way. -/
theorem term_withoutCasts (filter : Expr) (h : filter.HidesNoMatch = true) :
    term naming filter.withoutCasts = term naming filter := by
  induction filter with
  | binary op left right hleft hright =>
    rw [Expr.HidesNoMatch, Bool.and_eq_true, Bool.and_eq_true, beq_iff_eq] at h
    obtain ⟨⟨hlike, hl⟩, hr⟩ := h
    -- both tests on the operands come out as they do without conversions
    rw [Expr.withoutCasts, term, term, Expr.isLikeCall_withoutCasts, ← hlike,
      Expr.isNull_withoutCasts, hleft hl, hright hr]
  | unary op operand ih =>
    cases op with
    | not => rw [Expr.withoutCasts, term, term, ih h]
    | negate => rfl
  | call name arguments ih =>
    have harguments := Expr.allHideNoMatch_eq_true.1 h
    have hterms : (arguments.map Expr.withoutCasts).map (term naming) =
        arguments.map (term naming) := by
      rw [List.map_map]
      apply List.map_congr_left
      intro argument hmem
      exact ih argument hmem (harguments argument hmem)
    rw [Expr.withoutCasts, Expr.allWithoutCasts_eq_map, term, term, terms_eq_map, terms_eq_map,
      hterms]
  | cast operand ih => exact ih h
  | constant | property | lambda => rfl

/-- A filter whose conversions vanish. One of them stands around a match, and that on the right. -/
def convertedFilter : Expr :=
  .binary .and (.cast (.binary .notEqual (.cast (.ofName "Age")) (.cast (.cast .null))))
    (.cast (.call "contains" [.cast (.ofName "Name"), .constant (.ofString "a")]))

/-- Nothing is to be seen of the six conversions. -/
theorem term_convertedFilter :
    convertedFilter.HidesNoMatch = true ∧
    term (Naming.standard : Naming Unit) convertedFilter.withoutCasts =
      term Naming.standard convertedFilter :=
  ⟨by decide, term_withoutCasts convertedFilter (by decide)⟩

/-! ## A match under a conversion -/

/-- An operation with a conversion of a match on its left has a term that the operation without
conversions never has: the latter is dropped. -/
lemma not_yields_of_hidden {op : BinaryOp} {left right : Expr} {result : Term}
    {state after after' : σ} (hleft : isLikeCall left = false)
    (hhidden : isLikeCall left.stripCasts = true)
    (h : Yields (term naming (.binary op left right)) state result after) :
    ¬ Yields (term naming (Expr.binary op left right).withoutCasts) state result after' := by
  intro hdropped
  have hlike : isLikeCall left.withoutCasts = true := by
    rw [Expr.isLikeCall_withoutCasts, hhidden]
  have hnested : ∃ inner, result = .nested inner := by
    rw [Expr.withoutCasts, term] at hdropped
    simp only [hlike, if_true, yields_bind_pure] at hdropped
    obtain ⟨inner, -, rfl⟩ := hdropped
    exact ⟨inner, rfl⟩
  obtain ⟨inner, rfl⟩ := hnested
  -- both ways of going on from a left operand that is no match end with an operation
  rw [term, yields_bind] at h
  obtain ⟨leftTerm, between, -, h⟩ := h
  rw [hleft, if_neg Bool.false_ne_true] at h
  by_cases hnull : right.isNull
  · rw [if_pos hnull] at h
    simp only [yields_bind, yields_pure] at h
    obtain ⟨sign, next, -, hresult, -⟩ := h
    cases hresult
  · rw [if_neg hnull] at h
    simp only [yields_bind, yields_pure] at h
    obtain ⟨sign, next, -, rightTerm, last, -, hresult, -⟩ := h
    cases hresult

/-- The users whose name contains a text, compared with the truth under a conversion. -/
def convertedMatch : Expr :=
  .binary .equal (.cast (.call "contains" [.ofName "Name", .constant (.ofString "a")]))
    (.constant (.ofBool true))

set_option maxRecDepth 10000 in
/-- Without the conversion, the comparison is dropped and the truth is not bound. -/
theorem conversion_keeps_comparison :
    Yields (term (Naming.standard : Naming Unit) convertedMatch) ()
      (.binary (.like (.column ⟨"[Name]"⟩) .contains (.parameter (.ofString "a"))) .equals
        (.parameter (.ofBool true))) () ∧
    Yields (term (Naming.standard : Naming Unit) convertedMatch.withoutCasts) ()
      (.nested (.like (.column ⟨"[Name]"⟩) .contains (.parameter (.ofString "a")))) () ∧
    term (Naming.standard : Naming Unit) convertedMatch.withoutCasts ≠
      term Naming.standard convertedMatch := by
  have hkept : Yields (term (Naming.standard : Naming Unit) convertedMatch) ()
      (.binary (.like (.column ⟨"[Name]"⟩) .contains (.parameter (.ofString "a"))) .equals
        (.parameter (.ofBool true))) () := rfl
  refine ⟨hkept, rfl, ?_⟩
  intro hsame
  have hdropped : ¬ Yields (term (Naming.standard : Naming Unit) convertedMatch.withoutCasts) ()
      (.binary (.like (.column ⟨"[Name]"⟩) .contains (.parameter (.ofString "a"))) .equals
        (.parameter (.ofBool true))) () := not_yields_of_hidden rfl rfl hkept
  exact hdropped (hsame ▸ hkept)

end Translation
end ODataToSql
