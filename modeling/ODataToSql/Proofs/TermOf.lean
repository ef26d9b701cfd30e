import ODataToSql.Proofs.Outcomes
import ODataToSql.Proofs.Subterms
import ODataToSql.Translation.Filter
import Mathlib.Tactic.Lemma

/-!
# The terms of an expression

`TermOf columns expr term` says what the term of an expression can be, where `columns` relates a
property to the columns that it may be called by. It has one case for each way in which a term
comes about, and what holds of all terms of a translation is proved by induction on it, without a
look at the translation itself.

* `shape` sorts the functions by the term that a call of them is, and `callTerm_eq` reads that term
  off the shape.
* `termOf_of_yields` is the link: what a translation yields is a term of the expression.
-/

namespace ODataToSql.Translation

open Sql

variable {σ : Type}

/-! ## The shapes of calls -/

/-- The term that a call is. -/
inductive CallShape where
  | like (pattern : LikePattern)
  | indexOf
  | trim
  /-- A part of a point in time. -/
  | part (part : DatePart)
  | convert (type : ScalarType)
  | totalSeconds
  /-- A function in SQL that takes all arguments as they are. -/
  | direct (function : ScalarFunction)
  | unsupported
deriving DecidableEq, Repr

/-- The shape of the calls of a function. -/
def shape : FilterFunction → CallShape
  | .contains => .like .contains
  | .endsWith => .like .endsWith
  | .startsWith => .like .startsWith
  | .indexOf => .indexOf
  | .trim => .trim
  | .hour => .part .hour
  | .minute => .part .minute
  | .second => .part .second
  | .totalOffsetMinutes => .part .tzOffset
  | .date => .convert .date
  | .time => .convert .time
  | .totalSeconds => .totalSeconds
  | .length => .direct .len
  | .toLower => .direct .lower
  | .toUpper => .direct .upper
  | .now => .direct .getUtcDate
  | .substring => .direct .substring
  | .concat => .direct .concat
  | .year => .direct .year
  | .month => .direct .month
  | .day => .direct .day
  | .round => .direct .round
  | .floor => .direct .floor
  | .ceiling => .direct .ceiling
  | .fractionalSeconds | .maxDateTime | .minDateTime | .isOf | .cast | .any | .all => .unsupported

/-- The shape of a function decides what is done with the arguments of its calls. -/
lemma callTerm_eq (function : FilterFunction) (arguments : List (Translation σ Term)) :
    callTerm function arguments =
      match shape function with
      | .like pattern => do
        let operand ← argument function arguments 0
        let value ← argument function arguments 1
        return .like operand pattern value
      | .indexOf => do
        let sought ← argument function arguments 1
        let text ← argument function arguments 0
        return .call .charIndex [sought, text]
      | .trim => return .call .lTrim [.call .rTrim [← argument function arguments 0]]
      | .part part => return .call .datePart [.datePart part, ← argument function arguments 0]
      | .convert type => return .cast (← argument function arguments 0) type
      | .totalSeconds =>
        return .call .dateDiff [.datePart .second, .int 0, ← argument function arguments 0]
      | .direct scalar => return .call scalar (← allArguments arguments)
      | .unsupported => throw (.unsupportedFunction function.name) := by
  cases function <;> rfl

/-- The shape of the calls of the function of the name, if there is one. -/
def callShape? (name : String) : Option CallShape :=
  (FilterFunction.ofName? name).map shape

/-! ## The relation -/

/-- The term may stand for the expression, where properties may be called by the columns. -/
inductive TermOf (columns : Property → Column → Prop) : Expr → Term → Prop where
  | cast {operand : Expr} {term : Term} (hoperand : TermOf columns operand term) :
    TermOf columns (.cast operand) term
  | null {value : Datum} (hnull : value.isNull = true) : TermOf columns (.constant value) .null
  | parameter {value : Datum} (hnull : value.isNull = false) :
    TermOf columns (.constant value) (.parameter value)
  | column {property : Property} {name : Column} (hcolumn : columns property name) :
    TermOf columns (.property property) (.column name)
  /-- A match on the left is all that is left of an operation. -/
  | likeOperand {op : BinaryOp} {left right : Expr} {term : Term} (hlike : isLikeCall left = true)
    (hleft : TermOf columns left term) : TermOf columns (.binary op left right) (.nested term)
  | nullOperand {op : BinaryOp} {left right : Expr} {sign : Operator} {term : Term}
    (hlike : isLikeCall left = false) (hnull : right.isNull = true)
    (hsign : nullOperator op = .ok sign) (hleft : TermOf columns left term) :
    TermOf columns (.binary op left right) (.binary term sign .null)
  | operands {op : BinaryOp} {left right : Expr} {sign : Operator} {leftTerm rightTerm : Term}
    (hlike : isLikeCall left = false) (hnull : right.isNull = false)
    (hsign : operator op = .ok sign) (hleft : TermOf columns left leftTerm)
    (hright : TermOf columns right rightTerm) :
    TermOf columns (.binary op left right) (.binary leftTerm sign rightTerm)
  | not {operand : Expr} {term : Term} (hoperand : TermOf columns operand term) :
    TermOf columns (.unary .not operand) (.not term)
  | like {name : String} {pattern : LikePattern} {operand value : Expr} {rest : List Expr}
    {operandTerm valueTerm : Term} (hshape : callShape? name = some (.like pattern))
    (hoperand : TermOf columns operand operandTerm) (hvalue : TermOf columns value valueTerm) :
    TermOf columns (.call name (operand :: value :: rest)) (.like operandTerm pattern valueTerm)
  | indexOf {name : String} {text sought : Expr} {rest : List Expr} {textTerm soughtTerm : Term}
    (hshape : callShape? name = some .indexOf) (htext : TermOf columns text textTerm)
    (hsought : TermOf columns sought soughtTerm) :
    TermOf columns (.call name (text :: sought :: rest)) (.call .charIndex [soughtTerm, textTerm])
  | trim {name : String} {operand : Expr} {rest : List Expr} {term : Term}
    (hshape : callShape? name = some .trim) (hoperand : TermOf columns operand term) :
    TermOf columns (.call name (operand :: rest)) (.call .lTrim [.call .rTrim [term]])
  | part {name : String} {part : DatePart} {operand : Expr} {rest : List Expr} {term : Term}
    (hshape : callShape? name = some (.part part)) (hoperand : TermOf columns operand term) :
    TermOf columns (.call name (operand :: rest)) (.call .datePart [.datePart part, term])
  | convert {name : String} {type : ScalarType} {operand : Expr} {rest : List Expr} {term : Term}
    (hshape : callShape? name = some (.convert type)) (hoperand : TermOf columns operand term) :
    TermOf columns (.call name (operand :: rest)) (.cast term type)
  | totalSeconds {name : String} {operand : Expr} {rest : List Expr} {term : Term}
    (hshape : callShape? name = some .totalSeconds) (hoperand : TermOf columns operand term) :
    TermOf columns (.call name (operand :: rest))
      (.call .dateDiff [.datePart .second, .int 0, term])
  /-- Each argument has a term of its own. -/
  | direct {name : String} {function : ScalarFunction} {pairs : List (Expr × Term)}
    (hshape : callShape? name = some (.direct function))
    (hpairs : ∀ pair ∈ pairs, TermOf columns pair.1 pair.2) :
    TermOf columns (.call name (pairs.map Prod.fst)) (.call function (pairs.map Prod.snd))

/-! ## What a translation yields -/

/-- In some state, the naming calls the property of the queried entity by the column. -/
def Calls (naming : Naming σ) (property : Property) (name : Column) : Prop :=
  property.isRoot = true ∧
    ∃ state after, (naming.columnOf property).run state = (some name.text, after)

lemma calls_of_yields {naming : Naming σ} {property : Property} {name : Column} {state after : σ}
    (h : Yields (column naming property) state name after) : Calls naming property name := by
  unfold column at h
  by_cases hroot : property.isRoot
  · rw [if_pos hroot, yields_bind] at h
    obtain ⟨answer, between, hanswer, hname⟩ := h
    rw [yields_ask] at hanswer
    cases answer with
    | none => exact absurd hname not_yields_throw
    | some text =>
      obtain ⟨rfl, rfl⟩ := yields_pure.1 hname
      exact ⟨hroot, state, between, hanswer⟩
  · rw [if_neg hroot] at h
    exact absurd h not_yields_throw

section Functions

variable {answer : Property → Option String} {key : String → String}

/-- A naming of functions calls a property by what they answer. -/
lemma eq_some_of_calls {property : Property} {name : Column}
    (h : Calls (Naming.ofFunctions answer key : Naming σ) property name) :
    answer property = some name.text := by
  obtain ⟨-, state, after, hanswer⟩ := h
  have hfilter : (answer property).filter (fun text => !Text.isBlankText text) = some name.text :=
    congrArg Prod.fst hanswer
  exact (Option.filter_eq_some_iff.1 hfilter).1

/-- So what holds of all answers holds of all columns that the properties are called by. -/
lemma forall_calls_of_answers {P : Column → Prop} {properties : List Property}
    (h : ∀ property ∈ properties, ∀ text ∈ answer property, P ⟨text⟩) :
    ∀ property ∈ properties, ∀ name,
      Calls (Naming.ofFunctions answer key : Naming σ) property name → P name :=
  fun property hmem name hcalls => h property hmem name.text (eq_some_of_calls hcalls)

end Functions

section Calls

variable {naming : Naming σ} {function : FilterFunction} {arguments : List Expr}

/-- A term of the argument at a position is one that the argument has. -/
lemma yields_argument {position : Nat} {result : Term} {state after : σ}
    (h : Yields (argument function (arguments.map (term naming)) position) state result after) :
    ∃ expr, arguments[position]? = some expr ∧ Yields (term naming expr) state result after := by
  unfold argument at h
  rw [List.getElem?_map] at h
  cases hposition : arguments[position]? with
  | none =>
    rw [hposition] at h
    exact absurd h not_yields_throw
  | some expr =>
    rw [hposition] at h
    exact ⟨expr, rfl, h⟩

/-- The terms of all arguments are one for each. -/
lemma yields_allArguments {results : List Term} {state after : σ}
    (h : Yields (allArguments (arguments.map (term naming))) state results after) :
    ∃ pairs : List (Expr × Term), arguments = pairs.map Prod.fst ∧ results = pairs.map Prod.snd ∧
      ∀ pair ∈ pairs, ∃ before between, Yields (term naming pair.1) before pair.2 between := by
  induction arguments generalizing results state with
  | nil =>
    obtain ⟨rfl, -⟩ := yields_pure.1 h
    exact ⟨[], rfl, rfl, fun _ hmem => nomatch hmem⟩
  | cons expr rest ih =>
    rw [List.map_cons, allArguments] at h
    simp only [yields_bind, yields_pure] at h
    obtain ⟨first, between, hfirst, terms, last, hterms, rfl, rfl⟩ := h
    obtain ⟨pairs, rfl, rfl, hpairs⟩ := ih hterms
    refine ⟨(expr, first) :: pairs, rfl, rfl, ?_⟩
    exact List.forall_mem_cons.2 ⟨⟨state, between, hfirst⟩, hpairs⟩

/-- A call whose first argument is needed has one. -/
lemma yields_first {result : Term} {state after : σ}
    (h : Yields (argument function (arguments.map (term naming)) 0) state result after) :
    ∃ expr rest, arguments = expr :: rest ∧ Yields (term naming expr) state result after := by
  obtain ⟨expr, hposition, hexpr⟩ := yields_argument h
  cases arguments with
  | nil => cases hposition
  | cons first rest =>
    cases hposition
    exact ⟨expr, rest, rfl, hexpr⟩

/-- A call whose first two arguments are needed has both. -/
lemma yields_first_second {first second : Term} {state between state' between' : σ}
    (hfirst : Yields (argument function (arguments.map (term naming)) 0) state first between)
    (hsecond : Yields (argument function (arguments.map (term naming)) 1) state' second between') :
    ∃ a b rest, arguments = a :: b :: rest ∧ Yields (term naming a) state first between ∧
      Yields (term naming b) state' second between' := by
  obtain ⟨a, rest, rfl, ha⟩ := yields_first hfirst
  obtain ⟨b, hposition, hb⟩ := yields_argument hsecond
  cases rest with
  | nil => cases hposition
  | cons next rest =>
    cases hposition
    exact ⟨a, b, rest, rfl, ha, hb⟩

/-- A term of a call is one of the terms of the shape, if the arguments have terms of their own. -/
lemma termOf_call {name : String}
    (harguments : ∀ expr ∈ arguments, ∀ {result : Term} {state after : σ},
      Yields (term naming expr) state result after → TermOf (Calls naming) expr result)
    {result : Term} {state after : σ}
    (h : Yields (term naming (.call name arguments)) state result after) :
    TermOf (Calls naming) (.call name arguments) result := by
  rw [term, terms_eq_map] at h
  cases hname : FilterFunction.ofName? name with
  | none =>
    rw [hname] at h
    exact absurd h not_yields_throw
  | some function =>
    simp only [hname] at h
    rw [callTerm_eq] at h
    have hshape : callShape? name = some (shape function) := by rw [callShape?, hname]; rfl
    cases hfunction : shape function with
    | like pattern =>
      simp only [hfunction, yields_bind, yields_pure] at h
      obtain ⟨operand, between, hoperand, value, last, hvalue, rfl, -⟩ := h
      obtain ⟨a, b, rest, rfl, ha, hb⟩ := yields_first_second hoperand hvalue
      exact .like (hfunction ▸ hshape) (harguments a (by simp) ha) (harguments b (by simp) hb)
    | indexOf =>
      simp only [hfunction, yields_bind, yields_pure] at h
      obtain ⟨sought, between, hsought, text, last, htext, rfl, -⟩ := h
      obtain ⟨a, b, rest, rfl, ha, hb⟩ := yields_first_second htext hsought
      exact .indexOf (hfunction ▸ hshape) (harguments a (by simp) ha) (harguments b (by simp) hb)
    | trim =>
      simp only [hfunction, yields_bind, yields_pure] at h
      obtain ⟨operand, between, hoperand, rfl, -⟩ := h
      obtain ⟨a, rest, rfl, ha⟩ := yields_first hoperand
      exact .trim (hfunction ▸ hshape) (harguments a (by simp) ha)
    | part part =>
      simp only [hfunction, yields_bind, yields_pure] at h
      obtain ⟨operand, between, hoperand, rfl, -⟩ := h
      obtain ⟨a, rest, rfl, ha⟩ := yields_first hoperand
      exact .part (hfunction ▸ hshape) (harguments a (by simp) ha)
    | convert type =>
      simp only [hfunction, yields_bind, yields_pure] at h
      obtain ⟨operand, between, hoperand, rfl, -⟩ := h
      obtain ⟨a, rest, rfl, ha⟩ := yields_first hoperand
      exact .convert (hfunction ▸ hshape) (harguments a (by simp) ha)
    | totalSeconds =>
      simp only [hfunction, yields_bind, yields_pure] at h
      obtain ⟨operand, between, hoperand, rfl, -⟩ := h
      obtain ⟨a, rest, rfl, ha⟩ := yields_first hoperand
      exact .totalSeconds (hfunction ▸ hshape) (harguments a (by simp) ha)
    | direct scalar =>
      simp only [hfunction, yields_bind, yields_pure] at h
      obtain ⟨terms, between, hterms, rfl, -⟩ := h
      obtain ⟨pairs, rfl, rfl, hpairs⟩ := yields_allArguments hterms
      refine .direct (hfunction ▸ hshape) ?_
      intro pair hmem
      obtain ⟨before, between, hpair⟩ := hpairs pair hmem
      exact harguments pair.1 (List.mem_map_of_mem hmem) hpair
    | unsupported =>
      rw [hfunction] at h
      exact absurd h not_yields_throw

end Calls

/-- What the translation of an expression yields is one of its terms. -/
theorem termOf_of_yields {naming : Naming σ} {expr : Expr} {result : Term} {state after : σ}
    (h : Yields (term naming expr) state result after) : TermOf (Calls naming) expr result := by
  induction expr generalizing result state after with
  | constant value =>
    rw [term, yields_pure] at h
    obtain ⟨rfl, -⟩ := h
    by_cases hnull : value.isNull
    · rw [if_pos hnull]
      exact .null hnull
    · rw [if_neg hnull]
      exact .parameter (Bool.eq_false_iff.2 hnull)
  | property property =>
    rw [term, yields_bind] at h
    obtain ⟨name, between, hname, hresult⟩ := h
    obtain ⟨rfl, -⟩ := yields_pure.1 hresult
    exact .column (calls_of_yields hname)
  | binary op left right hleft hright =>
    rw [term, yields_bind] at h
    obtain ⟨leftTerm, between, hleftTerm, h⟩ := h
    cases hlike : isLikeCall left with
    | true =>
      rw [if_pos hlike, yields_pure] at h
      obtain ⟨rfl, -⟩ := h
      exact .likeOperand hlike (hleft hleftTerm)
    | false =>
      rw [hlike, if_neg Bool.false_ne_true] at h
      cases hnull : right.isNull with
      | true =>
        rw [if_pos hnull] at h
        simp only [yields_bind, yields_lift, yields_pure] at h
        obtain ⟨sign, next, ⟨hsign, -⟩, rfl, -⟩ := h
        exact .nullOperand hlike hnull hsign (hleft hleftTerm)
      | false =>
        rw [hnull, if_neg Bool.false_ne_true] at h
        simp only [yields_bind, yields_lift, yields_pure] at h
        obtain ⟨sign, next, ⟨hsign, -⟩, rightTerm, last, hrightTerm, rfl, -⟩ := h
        exact .operands hlike hnull hsign (hleft hleftTerm) (hright hrightTerm)
  | unary op operand ih =>
    cases op with
    | not =>
      rw [term, yields_bind] at h
      obtain ⟨operandTerm, between, hoperand, hresult⟩ := h
      obtain ⟨rfl, -⟩ := yields_pure.1 hresult
      exact .not (ih hoperand)
    | negate => exact absurd h not_yields_throw
  | call name arguments ih => exact termOf_call ih h
  | cast operand ih => exact .cast (ih h)
  | lambda quantifier collection predicate => exact absurd h not_yields_throw

end ODataToSql.Translation
