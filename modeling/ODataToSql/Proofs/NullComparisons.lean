import ODataToSql.Proofs.BoundPlaces
import ODataToSql.Proofs.ComparedMatches
import Mathlib.Logic.Relation

/-!
# Comparisons with null

In SQL, nothing is equal to `NULL` and nothing differs from it, so whether a value is null is asked
by `IS NULL` and `IS NOT NULL`. A comparison with the null literal on its right is turned into such
a test, also under conversions and wherever it stands, unless it is dropped together with all else
that a match is compared with.

* `Keeps` relates an expression to the parts that are translated with it. Every part has a term of
  its own in the term of the whole (`TermOf.exists_of_keeps`), and every operation in the term comes
  from a part that is one (`TermOf.exists_operation`).
* `TestsForNull` says how null is tested for in a term, and the main result is
  `testsForNull_of_yields`.
* `match_and_null_first_escape` is a filter with two comparisons that are no tests.
-/

namespace ODataToSql.Translation

open Sql

variable {σ : Type} {naming : Naming σ} {columns : Property → Column → Prop}

/-! ## Parts that are translated -/

/-- The operands of an expression that are translated with it. A match on the left is all that is
left of an operation, and not every argument of a call occurs in its text. -/
def keptOperands : Expr → List Expr
  | .binary _ left right => if isLikeCall left then [left] else [left, right]
  | .unary _ operand => [operand]
  | .call name arguments =>
    (((callShape? name).getD .unsupported).positions arguments.length).flatMap
      fun position => arguments[position]?.toList
  | .cast operand => [operand]
  | .constant _ | .property _ | .lambda .. => []

/-- The part is translated with the whole: it is the whole, or an operand of a part that is. -/
def Keeps : Expr → Expr → Prop :=
  Relation.ReflTransGen fun whole part => part ∈ keptOperands whole

lemma Keeps.of_operand {whole operand part : Expr} (hoperand : operand ∈ keptOperands whole)
    (h : Keeps operand part) : Keeps whole part :=
  Relation.ReflTransGen.head hoperand h

lemma keptOperands_call {name : String} {shape : CallShape} (hshape : callShape? name = some shape)
    (arguments : List Expr) :
    keptOperands (.call name arguments) =
      (shape.positions arguments.length).flatMap fun position => arguments[position]?.toList := by
  rw [keptOperands, hshape, Option.getD_some]

/-- A function that takes its arguments as they are takes all of them. -/
lemma keptOperands_direct {name : String} {function : ScalarFunction}
    (hshape : callShape? name = some (.direct function)) (arguments : List Expr) :
    keptOperands (.call name arguments) = arguments := by
  have htoList : ∀ found : Option Expr, found.toList = (found.map fun expr => [expr]).getD [] := by
    rintro (_ | expr) <;> rfl
  rw [keptOperands_call hshape, CallShape.positions]
  simp only [htoList]
  rw [flatMap_range_getElem?, List.flatMap_singleton']

/-- The null literal, under conversions or not, has the term `NULL`. -/
lemma termOf_null {expr : Expr} (h : expr.isNull = true) : TermOf columns expr .null := by
  induction expr with
  | constant value => exact .null h
  | cast operand ih => exact .cast (ih h)
  | _ => cases h

/-- Nothing else has this term. -/
lemma TermOf.isNull {expr : Expr} (h : TermOf columns expr .null) : expr.isNull = true := by
  induction expr with
  | constant value =>
    cases h with
    | null hnull => exact hnull
  | cast operand ih =>
    cases h with
    | cast hoperand => exact ih hoperand
  | _ => cases h

/-- An operand that is translated has a term, and that is a part of the term of the whole. -/
lemma TermOf.exists_of_operand {expr operand : Expr} {term : Term} (h : TermOf columns expr term)
    (hoperand : operand ∈ keptOperands expr) :
    ∃ part ∈ term.subterms, TermOf columns operand part := by
  cases h with
  | cast hinner =>
    obtain rfl := List.mem_singleton.1 hoperand
    exact ⟨term, Term.mem_subterms_self term, hinner⟩
  | null | parameter | column => cases hoperand
  | likeOperand hlike hleft =>
    rw [keptOperands, if_pos hlike, List.mem_singleton] at hoperand
    subst hoperand
    exact ⟨_, by simp [Term.subterms, Term.mem_subterms_self], hleft⟩
  | @nullOperand op left right sign leftTerm hlike hnull hsign hleft =>
    have hside : operand = left ∨ operand = right := by simpa [keptOperands, hlike] using hoperand
    rcases hside with rfl | rfl
    · exact ⟨leftTerm, by simp [Term.subterms, Term.mem_subterms_self], hleft⟩
    · exact ⟨.null, by simp [Term.subterms], termOf_null hnull⟩
  | @operands op left right sign leftTerm rightTerm hlike hnull hsign hleft hright =>
    have hside : operand = left ∨ operand = right := by simpa [keptOperands, hlike] using hoperand
    rcases hside with rfl | rfl
    · exact ⟨leftTerm, by simp [Term.subterms, Term.mem_subterms_self], hleft⟩
    · exact ⟨rightTerm, by simp [Term.subterms, Term.mem_subterms_self], hright⟩
  | not hinner =>
    obtain rfl := List.mem_singleton.1 hoperand
    exact ⟨_, by simp [Term.subterms, Term.mem_subterms_self], hinner⟩
  | @like name pattern first second rest firstTerm secondTerm hshape hfirst hsecond =>
    have hside : operand = first ∨ operand = second := by
      simpa [keptOperands_call hshape, CallShape.positions] using hoperand
    rcases hside with rfl | rfl
    · exact ⟨firstTerm, by simp [Term.subterms, Term.mem_subterms_self], hfirst⟩
    · exact ⟨secondTerm, by simp [Term.subterms, Term.mem_subterms_self], hsecond⟩
  | @indexOf name text sought rest textTerm soughtTerm hshape htext hsought =>
    have hside : operand = sought ∨ operand = text := by
      simpa [keptOperands_call hshape, CallShape.positions] using hoperand
    rcases hside with rfl | rfl
    · exact ⟨soughtTerm, by simp [Term.subterms, Term.subtermsOfAll, Term.mem_subterms_self],
        hsought⟩
    · exact ⟨textTerm, by simp [Term.subterms, Term.subtermsOfAll, Term.mem_subterms_self], htext⟩
  | @trim _ first _ _ hshape hinner | @part _ _ first _ _ hshape hinner
  | @convert _ _ first _ _ hshape hinner | @totalSeconds _ first _ _ hshape hinner =>
    obtain rfl : operand = first := by
      simpa [keptOperands_call hshape, CallShape.positions] using hoperand
    exact ⟨_, by simp [Term.subterms, Term.subtermsOfAll, Term.mem_subterms_self], hinner⟩
  | @direct name function pairs hshape hpairs =>
    rw [keptOperands_direct hshape] at hoperand
    obtain ⟨pair, hpair, rfl⟩ := List.mem_map.1 hoperand
    refine ⟨pair.2, ?_, hpairs pair hpair⟩
    exact Term.mem_subterms_of_child (List.mem_map_of_mem hpair) (Term.mem_subterms_self _)

/-- The parts of a part are parts of the whole. -/
lemma mem_subterms_trans {whole part node : Term} (hpart : part ∈ whole.subterms)
    (hnode : node ∈ part.subterms) : node ∈ whole.subterms := by
  induction whole using Term.induct_children with
  | step whole ih =>
    rw [Term.subterms_eq, List.mem_cons, List.mem_flatMap] at hpart
    rcases hpart with rfl | ⟨child, hchild, hpart⟩
    · exact hnode
    · exact Term.mem_subterms_of_child hchild (ih child hchild hpart)

/-- So has every part that is translated. By induction on how deep it lies. -/
lemma TermOf.exists_of_keeps {expr part : Expr} {term : Term} (h : TermOf columns expr term)
    (hpart : Keeps expr part) : ∃ node ∈ term.subterms, TermOf columns part node := by
  induction hpart with
  | refl => exact ⟨term, Term.mem_subterms_self term, h⟩
  | tail hwhole hoperand ih =>
    obtain ⟨node, hnode, hterm⟩ := ih
    obtain ⟨inner, hinner, hoperand⟩ := hterm.exists_of_operand hoperand
    exact ⟨inner, mem_subterms_trans hnode hinner, hoperand⟩

/-- An operation in the term of an expression is the term of an operation that is a part of the
expression. By induction on how the term comes about. -/
lemma TermOf.exists_operation {expr : Expr} {term left right : Term} {sign : Operator}
    (h : TermOf columns expr term) (hnode : .binary left sign right ∈ term.subterms) :
    ∃ op l r, Keeps expr (.binary op l r) ∧
      TermOf columns (.binary op l r) (.binary left sign right) := by
  -- an operation in the term of an operand that is translated
  have hinside {whole operand : Expr} (hoperand : operand ∈ keptOperands whole)
      (hfound : ∃ op l r, Keeps operand (.binary op l r) ∧
        TermOf columns (.binary op l r) (.binary left sign right)) :
      ∃ op l r, Keeps whole (.binary op l r) ∧
        TermOf columns (.binary op l r) (.binary left sign right) := by
    obtain ⟨op, l, r, hkeeps, hterm⟩ := hfound
    exact ⟨op, l, r, .of_operand hoperand hkeeps, hterm⟩
  induction h with
  | cast hoperand ih => exact hinside (by simp [keptOperands]) (ih hnode)
  | null | parameter | column => simp [Term.subterms] at hnode
  | likeOperand hlike hleft ih =>
    simp only [Term.subterms, List.mem_cons, reduceCtorEq, false_or] at hnode
    exact hinside (by simp [keptOperands, hlike]) (ih hnode)
  | nullOperand hlike hnull hsign hleft ih =>
    rw [Term.subterms, List.mem_cons, List.mem_append] at hnode
    rcases hnode with heq | hnode | hnode
    · exact ⟨_, _, _, .refl, heq ▸ .nullOperand hlike hnull hsign hleft⟩
    · exact hinside (by simp [keptOperands, hlike]) (ih hnode)
    · simp [Term.subterms] at hnode
  | operands hlike hnull hsign hleft hright ihleft ihright =>
    rw [Term.subterms, List.mem_cons, List.mem_append] at hnode
    rcases hnode with heq | hnode | hnode
    · exact ⟨_, _, _, .refl, heq ▸ .operands hlike hnull hsign hleft hright⟩
    · exact hinside (by simp [keptOperands, hlike]) (ihleft hnode)
    · exact hinside (by simp [keptOperands, hlike]) (ihright hnode)
  | not hoperand ih =>
    simp only [Term.subterms, List.mem_cons, reduceCtorEq, false_or] at hnode
    exact hinside (by simp [keptOperands]) (ih hnode)
  | like hshape hfirst hsecond ihfirst ihsecond =>
    simp only [Term.subterms, List.mem_cons, List.mem_append, reduceCtorEq, false_or] at hnode
    rcases hnode with hnode | hnode
    · exact hinside (by simp [keptOperands_call hshape, CallShape.positions]) (ihfirst hnode)
    · exact hinside (by simp [keptOperands_call hshape, CallShape.positions]) (ihsecond hnode)
  | indexOf hshape htext hsought ihtext ihsought =>
    simp only [Term.subterms, Term.subtermsOfAll, List.mem_cons, List.mem_append, List.append_nil,
      reduceCtorEq, false_or] at hnode
    rcases hnode with hnode | hnode
    · exact hinside (by simp [keptOperands_call hshape, CallShape.positions]) (ihsought hnode)
    · exact hinside (by simp [keptOperands_call hshape, CallShape.positions]) (ihtext hnode)
  | trim hshape hoperand ih | part hshape hoperand ih | convert hshape hoperand ih
  | totalSeconds hshape hoperand ih =>
    simp only [Term.subterms, Term.subtermsOfAll, List.mem_cons, List.mem_append, List.append_nil,
      List.not_mem_nil, reduceCtorEq, false_or] at hnode
    exact hinside (by simp [keptOperands_call hshape, CallShape.positions]) (ih hnode)
  | @direct name function pairs hshape hpairs ih =>
    rw [Term.subterms_eq, List.mem_cons, List.mem_flatMap] at hnode
    rcases hnode with heq | ⟨child, hchild, hnode⟩
    · cases heq
    · obtain ⟨pair, hpair, rfl⟩ := List.mem_map.1 hchild
      refine hinside ?_ (ih pair hpair hnode)
      rw [keptOperands_direct hshape]
      exact List.mem_map_of_mem hpair

/-- An operation in a term has `NULL` on its right if and only if the filter has the null literal
there, and then its operator is the one for a test. -/
lemma TermOf.operation_cases {op : BinaryOp} {l r : Expr} {left right : Term} {sign : Operator}
    (h : TermOf columns (.binary op l r) (.binary left sign right)) :
    TermOf columns l left ∧
      ((nullOperator op = .ok sign ∧ right = .null) ∨
        (operator op = .ok sign ∧ r.isNull = false ∧ right ≠ .null)) := by
  cases h with
  | nullOperand hlike hnull hsign hleft => exact ⟨hleft, .inl ⟨hsign, rfl⟩⟩
  | operands hlike hnull hsign hleft hright =>
    refine ⟨hleft, .inr ⟨hsign, hnull, ?_⟩⟩
    rintro rfl
    rw [hright.isNull] at hnull
    cases hnull

/-! ## Tests for null -/

namespace Comparison

/-- The test for null that stands for the comparison. -/
def test : Comparison → Operator
  | .equal => .is
  | .notEqual => .isNot

lemma nullOperator_op (comparison : Comparison) :
    nullOperator comparison.op = .ok comparison.test := by
  cases comparison <;> rfl

/-- In front of `NULL`, no operator is a comparison for equality. -/
lemma nullOperator_ne_sign (comparison : Comparison) (op : BinaryOp) :
    nullOperator op ≠ .ok comparison.sign := by
  cases comparison <;> cases op <;> simp [nullOperator, operator, sign]

/-- In front of anything else, no operator is a test for null. -/
lemma operator_ne_test (comparison : Comparison) (op : BinaryOp) :
    operator op ≠ .ok comparison.test := by
  cases comparison <;> cases op <;> simp [operator, test]

lemma eq_op_of_operator {comparison : Comparison} {op : BinaryOp}
    (h : operator op = .ok comparison.sign) : op = comparison.op := by
  cases comparison <;> cases op <;> simp_all [operator, sign, op]

end Comparison

/-- How null is tested for in a term of a filter. -/
structure TestsForNull (naming : Naming σ) (filter : Expr) (term : Term) : Prop where
  /-- `=` and `<>` never have `NULL` on the right, and they have it on the left only if the filter
  has a comparison with the null literal on its left and on its left alone. -/
  compared : ∀ (comparison : Comparison) left right,
    .binary left comparison.sign right ∈ term.subterms →
    right ≠ .null ∧
      (left = .null → ∃ l r, Keeps filter (.binary comparison.op l r) ∧
        l.isNull = true ∧ r.isNull = false)
  /-- Wherever the filter has a comparison with the null literal on its right, the term has the test
  of its left operand. Only a match is left by itself. -/
  turned : ∀ (comparison : Comparison) l r,
    Keeps filter (.binary comparison.op l r) → r.isNull = true →
    ∃ left, TermOf (Calls naming) l left ∧
      (if isLikeCall l then .nested left else .binary left comparison.test .null) ∈ term.subterms
  /-- A test has `NULL` on the right, for which nothing is bound. -/
  tests : ∀ (comparison : Comparison) left right,
    .binary left comparison.test right ∈ term.subterms →
    right = .null ∧
      (Term.binary left comparison.test right).parameters = left.parameters

/-- In the condition of a filter, null is tested for by `IS NULL` and `IS NOT NULL`. -/
theorem testsForNull_of_yields {filter : Expr} {result : Term} {state after : σ}
    (h : Yields (term naming filter) state result after) : TestsForNull naming filter result := by
  have hterm : TermOf (Calls naming) filter result := termOf_of_yields h
  constructor
  · intro comparison left right hnode
    obtain ⟨op, l, r, hkeeps, hoperation⟩ := hterm.exists_operation hnode
    obtain ⟨hleft, ⟨hsign, -⟩ | ⟨hsign, hnull, hright⟩⟩ := hoperation.operation_cases
    · exact absurd hsign (comparison.nullOperator_ne_sign op)
    · obtain rfl := Comparison.eq_op_of_operator hsign
      refine ⟨hright, ?_⟩
      rintro rfl
      exact ⟨l, r, hkeeps, hleft.isNull, hnull⟩
  · intro comparison l r hkeeps hnull
    obtain ⟨node, hnode, hoperation⟩ := hterm.exists_of_keeps hkeeps
    cases hoperation with
    | @likeOperand _ _ _ left hlike hleft =>
      exact ⟨left, hleft, by rwa [if_pos hlike]⟩
    | @nullOperand _ _ _ sign left hlike _ hsign hleft =>
      obtain rfl : comparison.test = sign :=
        Except.ok.inj (comparison.nullOperator_op.symm.trans hsign)
      exact ⟨left, hleft, by rwa [if_neg (by simp [hlike])]⟩
    | operands _ hother =>
      rw [hnull] at hother
      cases hother
  · intro comparison left right hnode
    obtain ⟨op, l, r, -, hoperation⟩ := hterm.exists_operation hnode
    obtain ⟨-, ⟨-, rfl⟩ | ⟨hsign, -⟩⟩ := hoperation.operation_cases
    · exact ⟨rfl, by simp⟩
    · exact absurd hsign (comparison.operator_ne_test op)

/-- The users without a name, written with a test that is always true. -/
def namelessUsers : Expr :=
  .binary .and (.unary .not (.binary .notEqual (.call "tolower" [.ofName "Name"]) (.cast .null)))
    (.binary .equal (.cast .null) .null)

/-- The term of `namelessUsers`. -/
def namelessTest : Term :=
  .binary (.not (.binary (.call .lower [.column ⟨"[Name]"⟩]) .isNot .null)) .and
    (.binary .null .is .null)

/-- Both comparisons are tests, the one of the null literal with itself, too. -/
theorem testsForNull_namelessUsers :
    Yields (term (Naming.standard : Naming Unit) namelessUsers) () namelessTest () ∧
    TestsForNull (Naming.standard : Naming Unit) namelessUsers namelessTest := by
  have h : Yields (term (Naming.standard : Naming Unit) namelessUsers) () namelessTest () := rfl
  exact ⟨h, testsForNull_of_yields h⟩

/-- A match is compared with the null literal, and the null literal with an age. -/
def matchOrAgeIsNull : Expr :=
  .binary .or (.binary .equal nameContains .null) (.binary .equal .null (.ofName "Age"))

/-- The term of `matchOrAgeIsNull`. -/
def matchOrAge : Term :=
  .binary (.nested nameLike) .or (.binary .null .equals (.column ⟨"[Age]"⟩))

set_option maxRecDepth 10000 in
/-- Neither of the two comparisons is turned into a test. What the match is compared with is
dropped; and the null literal on the left stays, to be compared by `=`. -/
theorem match_and_null_first_escape :
    Yields (term (Naming.standard : Naming Unit) matchOrAgeIsNull) () matchOrAge () ∧
    ¬ (∀ left right, .binary left .equals right ∈ matchOrAge.subterms →
      left ≠ .null ∧ right ≠ .null) ∧
    ¬ ∃ left right, .binary left .is right ∈ matchOrAge.subterms := by
  refine ⟨rfl, ?_, ?_⟩
  · intro hcompared
    exact (hcompared .null (.column ⟨"[Age]"⟩) (by simp [matchOrAge, Term.subterms])).1 rfl
  · rintro ⟨left, right, htest⟩
    simp [matchOrAge, nameLike, Term.subterms] at htest

end ODataToSql.Translation
