import ODataToSql.Proofs.Outcomes
import ODataToSql.Translation.Filter
import Mathlib.Tactic.Lemma

/-!
# Emission in one pass

A condition can be written without a term in between: `emit` walks over a filter once and appends
text and values to a statement as it goes. It has its own tables of tokens and functions, and takes
nothing from the terms but the statement that both end in.

The main result is `outcome_emit`: the emitter and the translation followed by the rendering of its
term are the same computation. They ask the naming the same questions in the same order, fail for
the same filters with the same error, and append the same text and the same arguments.
-/

namespace ODataToSql.Translation

open Sql

variable {σ : Type}

/-- A computation that appends to a statement. It may ask a naming, and it may fail. -/
abbrev Emitter (σ α : Type) := StateT Statement (Translation σ) α

namespace Emitter

/-! ## What is appended at once -/

/-- Appends text. -/
def text (text : String) : Emitter σ Unit :=
  modify fun statement => statement.appendText text

/-- Binds a value to the next placeholder, and appends that. -/
def value (value : Datum) : Emitter σ Unit :=
  modify fun statement => statement.appendArgument value

/-! ## Operators -/

/-- The token of an operator. -/
def token : BinaryOp → Except Error String
  | .and => .ok " AND "
  | .or => .ok " OR "
  | .equal => .ok " = "
  | .notEqual => .ok " <> "
  | .greaterThan => .ok " > "
  | .greaterThanOrEqual => .ok " >= "
  | .lessThan => .ok " < "
  | .lessThanOrEqual => .ok " <= "
  | .add => .ok " + "
  | .subtract => .ok " - "
  | .multiply => .ok " * "
  | .divide => .ok " / "
  | .modulo => .ok " % "
  | .has => .error (.unsupportedNode .has)

/-- The token of an operator in front of `NULL`. -/
def nullToken : BinaryOp → Except Error String
  | .equal => .ok " IS "
  | .notEqual => .ok " IS NOT "
  | op => token op

/-- Whether the expression is a call of `contains`, `endswith` or `startswith`. Conversions are not
looked through. -/
def callsLike : Expr → Bool
  | .call name _ => name == "contains" || name == "endswith" || name == "startswith"
  | _ => false

/-! ## Calls -/

/-- Emits the argument at a position. -/
def argument (name : String) (arguments : List (Emitter σ Unit)) (position : Nat) :
    Emitter σ Unit :=
  match arguments[position]? with
  | some argument => argument
  | none => throw (.missingArgument name (position + 1))

/-- Emits all arguments with commas between them. -/
def joined : List (Emitter σ Unit) → Emitter σ Unit
  | [] => return
  | [argument] => argument
  | argument :: rest => do
    argument
    text ", "
    joined rest

/-- Emits a call of a function of the name, from the emitters of its arguments. -/
def call (name : String) (arguments : List (Emitter σ Unit)) : Emitter σ Unit :=
  let like (opening closing : String) : Emitter σ Unit := do
    argument name arguments 0
    text (" LIKE (" ++ opening)
    argument name arguments 1
    text (closing ++ ")")
  let around (opening closing : String) : Emitter σ Unit := do
    text opening
    argument name arguments 0
    text closing
  let all (function : String) : Emitter σ Unit := do
    text (function ++ "(")
    joined arguments
    text ")"
  match FilterFunction.ofName? name with
  | some .contains => like "'%' + " " + '%'"
  | some .endsWith => like "'%' + " ""
  | some .startsWith => like "" " + '%'"
  | some .indexOf => do
    text "CHARINDEX("
    argument name arguments 1
    text ", "
    argument name arguments 0
    text ")"
  | some .trim => around "LTRIM(RTRIM(" "))"
  | some .hour => around "DATEPART(hour, " ")"
  | some .minute => around "DATEPART(minute, " ")"
  | some .second => around "DATEPART(second, " ")"
  | some .totalOffsetMinutes => around "DATEPART(TZoffset, " ")"
  | some .date => around "CAST(" " AS DATE)"
  | some .time => around "CAST(" " AS TIME)"
  | some .totalSeconds => around "DATEDIFF(second, 0, " ")"
  | some .length => all "LEN"
  | some .toLower => all "LOWER"
  | some .toUpper => all "UPPER"
  | some .now => all "GETUTCDATE"
  | some .substring => all "SUBSTRING"
  | some .concat => all "CONCAT"
  | some .year => all "YEAR"
  | some .month => all "MONTH"
  | some .day => all "DAY"
  | some .round => all "ROUND"
  | some .floor => all "FLOOR"
  | some .ceiling => all "CEILING"
  | some .fractionalSeconds | some .maxDateTime | some .minDateTime | some .isOf | some .cast
  | some .any | some .all | none => throw (.unsupportedFunction name)

end Emitter

/-! ## Expressions -/

mutual

/-- Writes the condition of a filter in one pass. -/
def emit (naming : Naming σ) : Expr → Emitter σ Unit
  | .cast operand => emit naming operand
  | .constant value => if value.isNull then Emitter.text "NULL" else Emitter.value value
  | .property property => do Emitter.text (← column naming property).text
  | .binary op left right => do
    Emitter.text "("
    emit naming left
    if Emitter.callsLike left then Emitter.text ")"
    else if right.isNull then
      Emitter.text (← Emitter.nullToken op)
      Emitter.text "NULL"
      Emitter.text ")"
    else
      Emitter.text (← Emitter.token op)
      emit naming right
      Emitter.text ")"
  | .unary .not operand => do
    Emitter.text "NOT "
    emit naming operand
  | .unary .negate _ => throw (.unsupportedNode .negation)
  | .call name arguments => Emitter.call name (emitters naming arguments)
  | .lambda quantifier _ _ => throw (.unsupportedNode (.lambda quantifier))

/-- The emitters of the arguments of a call, each of which runs only when it is needed. -/
def emitters (naming : Naming σ) : List Expr → List (Emitter σ Unit)
  | [] => []
  | argument :: rest => emit naming argument :: emitters naming rest

end

lemma emitters_eq_map (naming : Naming σ) (arguments : List Expr) :
    emitters naming arguments = arguments.map (emit naming) := by
  induction arguments with
  | nil => rfl
  | cons argument rest ih => rw [emitters, ih, List.map_cons]

/-! ## The tables agree -/

/-- The emitter writes the text of the operator of the term. -/
lemma token_eq (op : BinaryOp) : Emitter.token op = (operator op).map Operator.text := by
  cases op <;> rfl

lemma nullToken_eq (op : BinaryOp) :
    Emitter.nullToken op = (nullOperator op).map Operator.text := by
  cases op <;> rfl

/-- The functions that are a `LIKE` in SQL are the three that the emitter knows by name. -/
lemma callsLike_eq (expr : Expr) : Emitter.callsLike expr = isLikeCall expr := by
  cases expr with
  | call name arguments =>
    show (name == "contains" || name == "endswith" || name == "startswith") =
      ((FilterFunction.ofName? name).bind likePattern?).isSome
    cases hname : FilterFunction.ofName? name with
    | none =>
      have hunknown : ∀ function : FilterFunction, name ≠ function.name := by
        rintro function rfl
        exact Option.some_ne_none _ ((Enumeration.ofName?_name function).symm.trans hname)
      have hcontains : name ≠ "contains" := hunknown .contains
      have hends : name ≠ "endswith" := hunknown .endsWith
      have hstarts : name ≠ "startswith" := hunknown .startsWith
      simp [hcontains, hends, hstarts]
    | some function =>
      obtain rfl : function.name = name := Enumeration.ofName?_eq_some_iff.1 hname
      cases function <;> decide
  | _ => rfl

lemma intText_zero : Term.intText 0 = "0" := by decide

/-! ## Statements that are appended to -/

section Statement

variable (statement : Statement)

@[simp]
lemma append_nil : statement.append [] = statement := rfl

@[simp]
lemma append_text_cons (text : String) (rest : Fragment) :
    statement.append (.text text :: rest) = (statement.appendText text).append rest := rfl

@[simp]
lemma append_argument_cons (value : Datum) (rest : Fragment) :
    statement.append (.argument value :: rest) = (statement.appendArgument value).append rest := rfl

@[simp]
lemma appendText_appendText (first second : String) :
    (statement.appendText first).appendText second = statement.appendText (first ++ second) := by
  unfold Statement.appendText
  rw [String.append_assoc]

end Statement

/-! ## Emitters that render a translation -/

@[simp]
lemma run_text (text : String) (start : Statement) :
    (Emitter.text text : Emitter σ Unit).run start = return ((), start.appendText text) := rfl

@[simp]
lemma run_value (value : Datum) (start : Statement) :
    (Emitter.value value : Emitter σ Unit).run start = return ((), start.appendArgument value) :=
  rfl

/-- A token that is looked up is the text of an operator that is looked up. -/
@[simp]
lemma lift_map {α β : Type} (f : α → β) (x : Except Error α) :
    (monadLift (x.map f) : Translation σ β) = f <$> (liftM x : Translation σ α) := by
  cases x <;> rfl

/-- The emitter does what the translation does, and appends the text of the term. -/
def Renders (emitter : Emitter σ Unit) (translation : Translation σ Term) : Prop :=
  ∀ start, emitter.run start = do return ((), start.append (← translation).fragment)

section Calls

variable {naming : Naming σ} {arguments : List Expr}
  (harguments : ∀ argument ∈ arguments, Renders (emit naming argument) (term naming argument))

include harguments

/-- Emitters and translations of a call look for an argument at the same position, and miss it with
the same error. -/
lemma renders_argument (function : FilterFunction) (position : Nat) :
    Renders (Emitter.argument function.name (arguments.map (emit naming)) position)
      (argument function (arguments.map (term naming)) position) := by
  intro start
  unfold Emitter.argument argument
  rw [List.getElem?_map, List.getElem?_map]
  cases hposition : arguments[position]? with
  | none => rfl
  | some argument => exact harguments argument (List.mem_of_getElem? hposition) start

/-- Joining the emitters of all arguments renders all terms, with commas between them. -/
lemma run_joined (start : Statement) :
    (Emitter.joined (arguments.map (emit naming))).run start = do
      let terms ← allArguments (arguments.map (term naming))
      return ((), start.append (Fragment.separated (terms.map Term.fragment))) := by
  induction arguments generalizing start with
  | nil => simp [Emitter.joined, allArguments, Fragment.separated]
  | cons argument rest ih =>
    obtain ⟨hargument, hrest⟩ := List.forall_mem_cons.1 harguments
    cases rest with
    | nil => simp [Emitter.joined, allArguments, Fragment.separated, hargument start]
    | cons second rest =>
      have hjoined := ih hrest
      simp only [List.map_cons, allArguments] at hjoined ⊢
      rw [Emitter.joined]
      · simp [hargument start, hjoined, Fragment.separated, Statement.append_append]
      · simp

/-- Each of the functions, the known ones by the shape of their text. -/
lemma renders_call (name : String) :
    Renders (Emitter.call name (arguments.map (emit naming)))
      (term naming (.call name arguments)) := by
  intro start
  rw [term, terms_eq_map]
  unfold Emitter.call
  cases hname : FilterFunction.ofName? name with
  | none => rfl
  | some function =>
    obtain rfl : function.name = name := Enumeration.ofName?_eq_some_iff.1 hname
    have hargument := fun position start => renders_argument harguments function position start
    have hjoined := run_joined harguments
    cases function
    case contains | endsWith | startsWith =>
      simp [callTerm, hargument, Term.fragment, LikePattern.fragment, Statement.append_append]
    case indexOf =>
      simp [callTerm, hargument, Term.fragment, ScalarFunction.text, Fragment.separated,
        Statement.append_append]
    case trim =>
      simp [callTerm, hargument, Term.fragment, ScalarFunction.text, Fragment.separated,
        Statement.append_append]
    case hour | minute | second | totalOffsetMinutes =>
      simp [callTerm, hargument, Term.fragment, ScalarFunction.text, DatePart.text,
        Fragment.separated, Statement.append_append]
    case date | time =>
      simp [callTerm, hargument, Term.fragment, ScalarType.text, Statement.append_append]
    case totalSeconds =>
      simp [callTerm, hargument, Term.fragment, ScalarFunction.text, DatePart.text, intText_zero,
        Fragment.separated, Statement.append_append]
    case length | toLower | toUpper | now | substring | concat | year | month | day | round |
        floor | ceiling =>
      simp [callTerm, hjoined, Term.fragment, ScalarFunction.text, Statement.append_append]
    case fractionalSeconds | maxDateTime | minDateTime | isOf | cast | any | all => rfl

end Calls

/-! ## One pass and two phases -/

/-- Emitting a filter renders its translation. By induction on the filter: what is emitted around
the operands is what stands around their texts in the text of the term. -/
lemma renders_emit (naming : Naming σ) (filter : Expr) :
    Renders (emit naming filter) (term naming filter) := by
  induction filter with
  | constant value =>
    intro start
    rw [emit, term]
    by_cases hnull : value.isNull <;> simp [hnull, Term.fragment]
  | property property =>
    intro start
    rw [emit, term]
    simp [Term.fragment]
  | binary op left right hleft hright =>
    intro start
    rw [emit, term, callsLike_eq]
    by_cases hlike : isLikeCall left
    · -- the operator and the right operand are neither written nor translated
      simp [hlike, hleft _, Term.fragment, Statement.append_append]
    · by_cases hnull : right.isNull
      · simp [hlike, hnull, hleft _, nullToken_eq, Term.fragment, Statement.append_append,
          String.append_assoc]
      · simp [hlike, hnull, hleft _, hright _, token_eq, Term.fragment, Statement.append_append]
  | unary op operand ih =>
    intro start
    cases op with
    | not =>
      rw [emit, term]
      simp [ih _, Term.fragment]
    | negate => rfl
  | call name arguments ih =>
    rw [emit, emitters_eq_map]
    exact renders_call ih name
  | cast operand ih => exact ih
  | lambda quantifier collection predicate => exact fun start => rfl

/-- One pass over a filter ends as translating it and rendering the term does. They fail together,
with the same error; and if they succeed, the text and the arguments that they append to the
statement are the same. What becomes of the naming is the same either way. -/
theorem outcome_emit (naming : Naming σ) (filter : Expr) (start : Statement) (state : σ) :
    outcome ((emit naming filter).run start) state =
      match outcome (term naming filter) state with
      | (.ok term, after) => (.ok ((), start.append term.fragment), after)
      | (.error e, after) => (.error e, after) := by
  rw [renders_emit naming filter start, outcome_bind]
  rcases outcome (term naming filter) state with ⟨e | term, after⟩ <;> rfl

end ODataToSql.Translation
