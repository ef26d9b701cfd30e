import ODataToSql.Proofs.Outcomes
import ODataToSql.Proofs.Subterms
import ODataToSql.Translation.Filter
import Mathlib.Tactic.Lemma

/-!
# Logical connectives

Both operands of a connective are conditions that the rows have to be judged by, so both of them
belong into the condition of a command. They stay there, whatever they are, with one exception: a
call of `contains`, `startswith` or `endswith` on the left takes the place of the whole connective.
The rule that drops what such a call is compared with does not ask for the operator.

* `term_binary` is the translation of an operation, whatever its operator is:
  `yields_binary_of_like` says what a match on the left leaves of it, and `yields_binary` what any
  other left operand keeps.
* `yields_connective_iff`: the term of a connective has the terms of both operands, and binds the
  values of both, if and only if there is no match on its left.
* `name_swallows_age` is a conjunction whose right operand is lost.
-/

namespace ODataToSql.Translation

open Sql

variable {σ : Type} {naming : Naming σ}

/-! ## Operations -/

/-- The null literal is `NULL`, also under conversions. -/
lemma term_of_isNull {expr : Expr} (h : expr.isNull = true) :
    term naming expr = pure Term.null := by
  induction expr with
  | constant value =>
    have hvalue : value.isNull = true := h
    rw [term, if_pos hvalue]
  | cast operand ih => exact ih h
  | _ => cases h

/-- The operator of an operation, which is another one in front of the null literal. -/
def operatorBefore (op : BinaryOp) (right : Expr) : Except Error Operator :=
  if right.isNull then nullOperator op else operator op

section Operations

variable {left right : Expr} {leftTerm rightTerm : Term} {state between after : σ}

/-- An operation is translated from left to right, unless there is a match on its left. -/
lemma term_binary (op : BinaryOp) (left right : Expr) :
    term naming (.binary op left right) = do
      let leftTerm ← term naming left
      if isLikeCall left then return .nested leftTerm
      else do
        let sign ← operatorBefore op right
        let rightTerm ← term naming right
        return .binary leftTerm sign rightTerm := by
  rw [term, operatorBefore]
  -- the null literal asks nothing and is always `NULL`, so it needs no branch of its own
  by_cases hnull : right.isNull
  · simp only [hnull, if_true, term_of_isNull hnull, pure_bind]
  · simp only [hnull, if_false, Bool.false_eq_true]

/-- A match on the left is all that is left of an operation. -/
lemma yields_binary_of_like (op : BinaryOp) (hlike : isLikeCall left = true)
    (hleft : Yields (term naming left) state leftTerm between) :
    Yields (term naming (.binary op left right)) state (.nested leftTerm) between := by
  rw [term_binary, yields_bind]
  refine ⟨leftTerm, between, hleft, ?_⟩
  rw [if_pos hlike, yields_pure]
  exact ⟨rfl, rfl⟩

/-- Any other operation keeps its operator and both operands. -/
lemma yields_binary {op : BinaryOp} {sign : Operator}
    (hsign : operatorBefore op right = .ok sign) (hlike : isLikeCall left = false)
    (hleft : Yields (term naming left) state leftTerm between)
    (hright : Yields (term naming right) between rightTerm after) :
    Yields (term naming (.binary op left right)) state (.binary leftTerm sign rightTerm) after := by
  rw [term_binary, yields_bind]
  refine ⟨leftTerm, between, hleft, ?_⟩
  rw [hlike, if_neg Bool.false_ne_true, yields_bind]
  refine ⟨sign, between, yields_lift.2 ⟨hsign, rfl⟩, ?_⟩
  rw [yields_bind_pure]
  exact ⟨rightTerm, hright, rfl⟩

end Operations

/-! ## Connectives -/

/-- An operator between two conditions. -/
inductive Connective where
  | and
  | or
deriving DecidableEq, Repr

namespace Connective

/-- The connective in a filter. -/
def op : Connective → BinaryOp
  | .and => .and
  | .or => .or

/-- The connective in a term. -/
def sign : Connective → Operator
  | .and => .and
  | .or => .or

/-- In front of `NULL`, a connective is what it is elsewhere. -/
lemma operatorBefore_op (connective : Connective) (right : Expr) :
    operatorBefore connective.op right = .ok connective.sign := by
  unfold operatorBefore
  split <;> cases connective <;> rfl

end Connective

section Yields

variable {left right : Expr} {leftTerm rightTerm : Term} {state between after : σ}

/-- Where both operands have terms, the connective has the connected terms if and only if there is
no match on its left, and these bind the values of both. With a match on the left, the term of the
right operand and all of its values are lost. -/
theorem yields_connective_iff (connective : Connective)
    (hleft : Yields (term naming left) state leftTerm between)
    (hright : Yields (term naming right) between rightTerm after) :
    (Yields (term naming (.binary connective.op left right)) state
        (.binary leftTerm connective.sign rightTerm) after ↔ isLikeCall left = false) ∧
    (isLikeCall left = true →
      Yields (term naming (.binary connective.op left right)) state (.nested leftTerm) between) ∧
    ∀ start : Statement,
      (start.append (Term.binary leftTerm connective.sign rightTerm).fragment).arguments =
        start.arguments ++ (leftTerm.parameters ++ rightTerm.parameters) := by
  refine ⟨⟨?_, ?_⟩, ?_, ?_⟩
  · intro hboth
    by_contra hlike
    have hlike : isLikeCall left = true := by simpa using hlike
    -- a translation ends in one way only, and a nested term is no operation
    have hnested : Yields (term naming (.binary connective.op left right)) state
        (.nested leftTerm) between := yields_binary_of_like connective.op hlike hleft
    unfold Yields at hboth hnested
    rw [hnested] at hboth
    cases hboth
  · exact fun hlike => yields_binary (connective.operatorBefore_op right) hlike hleft hright
  · exact fun hlike => yields_binary_of_like connective.op hlike hleft
  · intro start
    rw [Statement.arguments_append, Term.values_fragment, Term.parameters_binary]

end Yields

/-- The users whose name contains a text. -/
def nameContains : Expr := .call "contains" [.ofName "Name", .constant (.ofString "a")]

/-- The users above an age. -/
def ageAbove : Expr := .binary .greaterThan (.ofName "Age") (.constant (.ofInt 1))

/-- The term of `nameContains`. -/
def nameLike : Term := .like (.column ⟨"[Name]"⟩) .contains (.parameter (.ofString "a"))

/-- The term of `ageAbove`. -/
def ageGreater : Term := .binary (.column ⟨"[Age]"⟩) .greaterThan (.parameter (.ofInt 1))

set_option maxRecDepth 10000 in
/-- A match on the right stays, and so does what stands in front of it. -/
theorem yields_ageAbove_and_nameContains :
    (Yields (term (Naming.standard : Naming Unit) (.binary .and ageAbove nameContains)) ()
        (.binary ageGreater .and nameLike) () ↔ isLikeCall ageAbove = false) ∧
    (isLikeCall ageAbove = true →
      Yields (term (Naming.standard : Naming Unit) (.binary .and ageAbove nameContains)) ()
        (.nested ageGreater) ()) ∧
    ∀ start : Statement,
      (start.append (Term.binary ageGreater .and nameLike).fragment).arguments =
        start.arguments ++ [.ofInt 1, .ofString "a"] := by
  have hage : Yields (term (Naming.standard : Naming Unit) ageAbove) () ageGreater () := rfl
  have hname : Yields (term (Naming.standard : Naming Unit) nameContains) () nameLike () := rfl
  exact yields_connective_iff .and hage hname

set_option maxRecDepth 10000 in
/-- Both operands have terms, and still they are not connected if the match comes first: nothing
asks for the age. -/
theorem name_swallows_age :
    Yields (term (Naming.standard : Naming Unit) nameContains) () nameLike () ∧
    Yields (term (Naming.standard : Naming Unit) ageAbove) () ageGreater () ∧
    ¬ Yields (term (Naming.standard : Naming Unit) (.binary .and nameContains ageAbove)) ()
      (.binary nameLike .and ageGreater) () := by
  refine ⟨rfl, rfl, ?_⟩
  intro hboth
  have hnested : Yields (term (Naming.standard : Naming Unit) (.binary .and nameContains ageAbove))
      () (.nested nameLike) () := rfl
  unfold Yields at hboth hnested
  rw [hnested] at hboth
  cases hboth

end ODataToSql.Translation
