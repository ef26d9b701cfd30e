import ODataToSql.Proofs.Connectives
import ODataToSql.Proofs.TermOf

/-!
# Matches that are compared with truth values

A call of `contains`, `startswith` or `endswith` is true or false, and a filter may negate it and
ask whether it equals a truth value. A match is a condition already, so what the call itself is
compared with is dropped, be it the truth or not. A comparison of anything else stays, also of a
negated match or of a comparison.

* `MatchTest` are the filters that are built in this way from one call, and `MatchTest.truth` says
  what such a filter means.
* `Term.truth?` is the truth value of a term, given those of the matches in it.
* `truth_of_yields`: a test means what its term means, unless the call itself is compared with what
  turns it around. Then it means the opposite.
* `comparison_with_false_dropped` is a test that asks for all rows without a match, and gets those
  with one.
-/

namespace ODataToSql

namespace Sql

/-! ## Truth values of terms -/

/-- The truth value that a comparison of two others has. -/
def Operator.judge? : Operator → Bool → Bool → Option Bool
  | .equals, left, right => some (left == right)
  | .notEquals, left, right => some (left != right)
  | _, _, _ => none

namespace Term

/-- The truth value that is bound, if the term is a placeholder for one. -/
def boolean? : Term → Option Bool
  | .parameter value =>
    match value.json with
    | .bool truth => some truth
    | _ => none
  | _ => none

/-- The truth value of a term, where `holds` says which matches hold. Terms that are not made of
matches have none. -/
def truth? (holds : Term → Bool) : Term → Option Bool
  | .like operand pattern value => some (holds (.like operand pattern value))
  | .not operand => (operand.truth? holds).map (!·)
  | .nested inner => inner.truth? holds
  | .binary left operator right => do
    let truth ← left.truth? holds
    let value ← right.boolean?
    operator.judge? truth value
  | _ => none

end Term
end Sql

namespace Translation

open Sql

variable {σ : Type} {naming : Naming σ}

/-! ## Tests of a match -/

/-- A comparison for equality. -/
inductive Comparison where
  | equal
  | notEqual
deriving DecidableEq, Repr

namespace Comparison

/-- The comparison in a filter. -/
def op : Comparison → BinaryOp
  | .equal => .equal
  | .notEqual => .notEqual

/-- The comparison in a term. -/
def sign : Comparison → Operator
  | .equal => .equals
  | .notEqual => .notEquals

/-- Whether the comparison of two truth values is true. -/
def judge : Comparison → Bool → Bool → Bool
  | .equal, left, right => left == right
  | .notEqual, left, right => left != right

/-- A truth value is not the null literal, so nothing changes in front of it. -/
lemma operatorBefore_op (comparison : Comparison) (value : Bool) :
    operatorBefore comparison.op (.constant (.ofBool value)) = .ok comparison.sign := by
  cases comparison <;> rfl

lemma judge?_sign (comparison : Comparison) (left right : Bool) :
    comparison.sign.judge? left right = some (comparison.judge left right) := by
  cases comparison <;> rfl

/-- A comparison is turned around with what is compared. -/
lemma judge_xor (comparison : Comparison) (left turned right : Bool) :
    comparison.judge (left ^^ turned) right = (comparison.judge left right ^^ turned) := by
  cases comparison <;> cases left <;> cases turned <;> cases right <;> rfl

end Comparison

/-- A filter that is built from the call of a match, by negation and by comparison with a truth
value. -/
inductive MatchTest where
  /-- The call itself. -/
  | matched
  | not (test : MatchTest)
  | compared (comparison : Comparison) (test : MatchTest) (value : Bool)
deriving DecidableEq, Repr

namespace MatchTest

/-- The test as a filter. -/
def filter (call : Expr) : MatchTest → Expr
  | .matched => call
  | .not test => .unary .not (test.filter call)
  | .compared comparison test value =>
    .binary comparison.op (test.filter call) (.constant (.ofBool value))

/-- The truth value of the test, from that of the match. -/
def truth (match_ : Bool) : MatchTest → Bool
  | .matched => match_
  | .not test => !test.truth match_
  | .compared comparison test value => comparison.judge (test.truth match_) value

/-- Whether the call itself is compared with what turns its truth value around: it is to equal the
false or to differ from the true. -/
def turnsMatch : MatchTest → Bool
  | .matched => false
  | .not test => test.turnsMatch
  | .compared comparison .matched value => !comparison.judge true value
  | .compared _ test _ => test.turnsMatch

/-- The term of the test, from that of the call. -/
def termFrom (matchTerm : Term) : MatchTest → Term
  | .matched => matchTerm
  | .not test => .not (test.termFrom matchTerm)
  | .compared _ .matched _ => .nested matchTerm
  | .compared comparison test value =>
    .binary (test.termFrom matchTerm) comparison.sign (.parameter (.ofBool value))

end MatchTest

/-! ## The terms of tests -/

section Yields

variable {call : Expr} {term : Term} {state after : σ}

/-- The functions that are matches have the shape of one. -/
lemma shape_of_likePattern? {function : FilterFunction} {pattern : LikePattern}
    (h : likePattern? function = some pattern) : shape function = .like pattern := by
  cases function <;> simp_all [likePattern?, shape]

/-- A match is the only thing that a call of a match is translated to. -/
lemma exists_like_of_yields (hlike : isLikeCall call = true)
    (h : Yields (Translation.term naming call) state term after) :
    ∃ operand pattern value, term = .like operand pattern value := by
  cases call with
  | call name arguments =>
    obtain ⟨pattern, hpattern⟩ := Option.isSome_iff_exists.1 hlike
    obtain ⟨function, hname, hfunction⟩ := Option.bind_eq_some_iff.1 hpattern
    have hshape : callShape? name = some (.like pattern) := by
      rw [callShape?, hname, Option.map_some, shape_of_likePattern? hfunction]
    -- of the terms that calls have, one has the shape of a match
    cases termOf_of_yields h with
    | like => exact ⟨_, _, _, rfl⟩
    | indexOf hother | trim hother | part hother | convert hother | totalSeconds hother
    | direct hother =>
      rw [hshape] at hother
      cases hother
  | _ => cases hlike

/-- The term of a test, by induction on how it is built. A comparison is dropped at the call itself
and nowhere else. -/
lemma yields_test (hlike : isLikeCall call = true)
    (h : Yields (Translation.term naming call) state term after) (test : MatchTest) :
    Yields (Translation.term naming (test.filter call)) state (test.termFrom term) after := by
  induction test with
  | matched => exact h
  | not test ih =>
    rw [MatchTest.filter, Translation.term, yields_bind_pure]
    exact ⟨test.termFrom term, ih, rfl⟩
  | compared comparison test value ih =>
    have hvalue : Yields (Translation.term naming (.constant (.ofBool value))) after
        (.parameter (.ofBool value)) after := rfl
    cases test with
    | matched => exact yields_binary_of_like comparison.op hlike h
    | not | compared => exact yields_binary (comparison.operatorBefore_op value) rfl ih hvalue

end Yields

/-! ## The meaning of tests -/

lemma truth?_comparison {holds : Term → Bool} {left : Term} {truth : Bool}
    (h : left.truth? holds = some truth) (comparison : Comparison) (value : Bool) :
    Term.truth? holds (.binary left comparison.sign (.parameter (.ofBool value))) =
      some (comparison.judge truth value) := by
  have hvalue : (Term.parameter (.ofBool value)).boolean? = some value := rfl
  rw [Term.truth?, h, hvalue]
  exact comparison.judge?_sign truth value

/-- The truth value of the term of a test is that of the test, turned around if the dropped
comparison would have done so. -/
lemma truth?_termFrom {holds : Term → Bool} {matchTerm : Term} {match_ : Bool}
    (h : matchTerm.truth? holds = some match_) (test : MatchTest) :
    (test.termFrom matchTerm).truth? holds = some (test.truth match_ ^^ test.turnsMatch) := by
  induction test with
  | matched => simpa [MatchTest.termFrom, MatchTest.truth, MatchTest.turnsMatch] using h
  | not test ih =>
    simp [MatchTest.termFrom, Term.truth?, ih, MatchTest.truth, MatchTest.turnsMatch]
  | compared comparison test value ih =>
    cases test with
    | matched =>
      rw [MatchTest.termFrom, Term.truth?, h]
      cases comparison <;> cases match_ <;> cases value <;> rfl
    | not | compared =>
      exact (truth?_comparison ih comparison value).trans
        (congrArg some (comparison.judge_xor _ _ value))

/-- A test of a match that can be translated is translated, too, and its term has the truth value of
the test, whichever matches hold: unless the call itself is to equal the false or to differ from the
true. That comparison is dropped, and the term has the opposite truth value. -/
theorem truth_of_yields {call : Expr} {matchTerm : Term} {state after : σ}
    (hlike : isLikeCall call = true) (h : Yields (term naming call) state matchTerm after)
    (test : MatchTest) :
    ∃ predicate, Yields (term naming (test.filter call)) state predicate after ∧
      ∀ holds : Term → Bool,
        (test.turnsMatch = false →
          predicate.truth? holds = some (test.truth (holds matchTerm))) ∧
        (test.turnsMatch = true →
          predicate.truth? holds = some (!test.truth (holds matchTerm))) := by
  refine ⟨test.termFrom matchTerm, yields_test hlike h test, fun holds => ?_⟩
  obtain ⟨operand, pattern, value, rfl⟩ := exists_like_of_yields hlike h
  have htruth := truth?_termFrom
    (show Term.truth? holds (.like operand pattern value) =
      some (holds (.like operand pattern value)) from rfl) test
  constructor
  · intro hturns
    rw [htruth, hturns, Bool.xor_false]
  · intro hturns
    rw [htruth, hturns, Bool.xor_true]

/-- That the name does not contain the text is not true. -/
def nameIsMatched : MatchTest :=
  .compared .notEqual (.not (.compared .equal .matched true)) true

/-- The name does not contain the text. -/
def nameIsUnmatched : MatchTest := .compared .equal .matched false

set_option maxRecDepth 10000 in
/-- The comparison of the call is dropped, the one of the negation stays, and the term has the truth
value that is asked for. -/
theorem truth_nameIsMatched :
    isLikeCall nameContains = true ∧
    Yields (term (Naming.standard : Naming Unit) nameContains) () nameLike () ∧
    ∃ predicate,
      Yields (term (Naming.standard : Naming Unit) (nameIsMatched.filter nameContains)) ()
        predicate () ∧
      ∀ holds : Term → Bool,
        (nameIsMatched.turnsMatch = false →
          predicate.truth? holds = some (nameIsMatched.truth (holds nameLike))) ∧
        (nameIsMatched.turnsMatch = true →
          predicate.truth? holds = some (!nameIsMatched.truth (holds nameLike))) := by
  have hname : Yields (term (Naming.standard : Naming Unit) nameContains) () nameLike () := rfl
  exact ⟨rfl, hname, truth_of_yields rfl hname nameIsMatched⟩

set_option maxRecDepth 10000 in
/-- That the name is not to contain the text is dropped: the term is that of the opposite test, and
of a name that contains the text it is true, though the test is not. -/
theorem comparison_with_false_dropped :
    Yields (term (Naming.standard : Naming Unit) (nameIsUnmatched.filter nameContains)) ()
      (.nested nameLike) () ∧
    Yields (term (Naming.standard : Naming Unit)
      (MatchTest.filter nameContains (.compared .equal .matched true))) () (.nested nameLike) () ∧
    (Term.nested nameLike).truth? (fun _ => true) = some true ∧
    nameIsUnmatched.truth true = false ∧
    ¬ ∃ predicate,
      Yields (term (Naming.standard : Naming Unit) (nameIsUnmatched.filter nameContains)) ()
        predicate () ∧
      ∀ holds : Term → Bool,
        predicate.truth? holds = some (nameIsUnmatched.truth (holds nameLike)) := by
  have hdropped : Yields (term (Naming.standard : Naming Unit)
      (nameIsUnmatched.filter nameContains)) () (.nested nameLike) () := rfl
  refine ⟨hdropped, rfl, rfl, rfl, ?_⟩
  rintro ⟨predicate, hpredicate, htruth⟩
  unfold Yields at hdropped hpredicate
  rw [hdropped] at hpredicate
  obtain rfl : Term.nested nameLike = predicate := Except.ok.inj (congrArg Prod.fst hpredicate)
  cases htruth fun _ => true

end Translation
end ODataToSql
