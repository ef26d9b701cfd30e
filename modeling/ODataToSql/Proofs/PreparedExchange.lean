import ODataToSql.PreparedQuery
import ODataToSql.Proofs.Outcomes

/-!
# Asking a prepared query a question

What a prepared query answers is a part of a command, for the rows or for their number, and each of
the two commands has a cell of its own. An `Exchange` is a question with its answer and with what
was before and after it.

* `Subject` is the command that a question is about, `kept` reads its cell and `keep` fills it.
* `Question.afresh` is the answer to a question as a translation of its own.
* A question is answered in one of three ways: `exchange_of_not_asked`, `exchange_of_kept` and
  `exchange_of_not_kept`.
* `exchange_apart`: the cell of the other command has no part in it.
-/

namespace ODataToSql.PreparedQuery

open Sql Translation

variable {σ : Type} {naming : Naming σ} {prepared : PreparedQuery} {state : σ}

/-! ## Questions and cells -/

/-- The command that a question is about. -/
inductive Subject where
  | rows
  /-- The command for the number of rows. -/
  | total
deriving DecidableEq, Repr

/-- The translation that finds the command. There is none for the number of rows, if the query does
not ask for it. -/
def Subject.translation (naming : Naming σ) (command : String) (arguments : List Datum)
    (query : Query) : Subject → Translation σ (Option Statement)
  | .rows => do return some (← Translation.rows naming command arguments query)
  | .total => Translation.count naming command arguments query

/-- Whether a prepared query has the command at all. -/
def Subject.isAskedFor (query : Query) : Subject → Bool
  | .rows => true
  | .total => query.wantsCount

/-- The translation of a command that the query asks for. -/
def Subject.statement (naming : Naming σ) (command : String) (arguments : List Datum)
    (query : Query) : Subject → Translation σ Statement
  | .rows => Translation.rows naming command arguments query
  | .total => Translation.total naming command arguments query

lemma translation_eq (subject : Subject) (command : String) (arguments : List Datum)
    (query : Query) :
    subject.translation naming command arguments query =
      if subject.isAskedFor query then do
        return some (← subject.statement naming command arguments query)
      else return none := by
  cases subject <;> rfl

namespace Question

/-- The command that the question is about. -/
def subject : Question → Subject
  | .commandText | .arguments => .rows
  | .countCommandText | .countArguments => .total

/-- The part of the command that the question asks for. -/
def part (question : Question) (found : Option Statement) : Answer :=
  match found with
  | none => .absent
  | some statement =>
    match question with
    | .commandText | .countCommandText => .text statement.text
    | .arguments | .countArguments => .arguments statement.arguments

/-- The answer to the question, from a translation for this question alone. -/
def afresh (naming : Naming σ) (command : String) (arguments : List Datum) (query : Query)
    (question : Question) : Translation σ Answer := do
  return question.part (← question.subject.translation naming command arguments query)

end Question

/-- What is kept of the command. -/
def kept (prepared : PreparedQuery) : Subject → Option Statement
  | .rows => prepared.rows
  | .total => prepared.total

/-- Replaces what is kept of the command. -/
def keep (prepared : PreparedQuery) (subject : Subject) (found : Option Statement) :
    PreparedQuery :=
  match subject with
  | .rows => { prepared with rows := found }
  | .total => { prepared with total := found }

section Cells

variable (prepared) (subject : Subject) (found : Option Statement)

@[simp]
lemma command_keep : (prepared.keep subject found).command = prepared.command := by
  cases subject <;> rfl

@[simp]
lemma arguments_keep : (prepared.keep subject found).arguments = prepared.arguments := by
  cases subject <;> rfl

@[simp]
lemma query_keep : (prepared.keep subject found).query = prepared.query := by
  cases subject <;> rfl

@[simp]
lemma kept_keep_self : (prepared.keep subject found).kept subject = found := by
  cases subject <;> rfl

variable {subject} {other : Subject}

/-- The cells are apart. -/
lemma kept_keep_of_ne (hne : other ≠ subject) :
    (prepared.keep subject found).kept other = prepared.kept other := by
  cases subject <;> cases other
  case rows.rows | total.total => exact absurd rfl hne
  case rows.total | total.rows => rfl

lemma keep_keep_of_ne (hne : other ≠ subject) (cell : Option Statement) :
    (prepared.keep other cell).keep subject found =
      (prepared.keep subject found).keep other cell := by
  cases subject <;> cases other
  case rows.rows | total.total => exact absurd rfl hne
  case rows.total | total.rows => rfl

/-- Keeping what is kept changes nothing. -/
lemma keep_kept (subject : Subject) : prepared.keep subject (prepared.kept subject) = prepared := by
  cases subject <;> rfl

end Cells

/-! ## One question -/

/-- A question with its answer, and the prepared query with the state of the naming before and
after. -/
structure Exchange (σ : Type) where
  question : Question
  before : PreparedQuery × σ
  answer : Except Translation.Error Answer
  after : PreparedQuery × σ

/-- Asks a question. A session is a translation whose state holds the prepared query beside the
state of the naming. -/
def exchange (naming : Naming σ) (before : PreparedQuery × σ) (question : Question) :
    Exchange σ where
  question := question
  before := before
  answer := (outcome (PreparedQuery.answer naming question) before).1
  after := (outcome (PreparedQuery.answer naming question) before).2

/-- The exchange that ends with a translation. What was found is kept, and a failure leaves the
prepared query as it was. -/
def translated (question : Question) (prepared : PreparedQuery) (state : σ) :
    Except Translation.Error (Option Statement) × σ → Exchange σ
  | (.ok found, after) =>
    ⟨question, (prepared, state), .ok (question.part found),
      (prepared.keep question.subject found, after)⟩
  | (.error e, after) => ⟨question, (prepared, state), .error e, (prepared, after)⟩

/-- A translation within a session knows of the naming alone. -/
lemma outcome_translate {α : Type} (translation : Translation σ α) (prepared : PreparedQuery)
    (state : σ) :
    outcome (Session.translate translation) (prepared, state) =
      ((outcome translation state).1, (prepared, (outcome translation state).2)) := rfl

/-- Finds a command in its cell, or else by a translation. The commands for the rows and for their
number are both found in this way. -/
def lookUp (naming : Naming σ) (subject : Subject) : Session σ Statement := do
  let (prepared, _) ← get
  match prepared.kept subject with
  | some statement => return statement
  | none =>
    let statement ← Session.translate <|
      subject.statement naming prepared.command prepared.arguments prepared.query
    modify fun (prepared, state) => (prepared.keep subject (some statement), state)
    return statement

/-- A question is answered from the cell of its subject. -/
lemma outcome_answer (question : Question) (prepared : PreparedQuery) (state : σ) :
    outcome (PreparedQuery.answer naming question) (prepared, state) =
      if question.subject.isAskedFor prepared.query then
        outcome (do return question.part (some (← lookUp naming question.subject)))
          (prepared, state)
      else (.ok .absent, (prepared, state)) := by
  cases question with
  | commandText | arguments => rfl
  | countCommandText | countArguments =>
    unfold PreparedQuery.answer ifCounted
    rw [outcome_bind]
    show outcome (if prepared.query.wantsCount then _ else _) (prepared, state) =
      if prepared.query.wantsCount then _ else _
    split <;> rfl

/-- What is kept is found again without a question to the naming, and what is not kept is kept when
it is found. -/
lemma outcome_lookUp (subject : Subject) (prepared : PreparedQuery) (state : σ) :
    outcome (lookUp naming subject) (prepared, state) =
      match prepared.kept subject with
      | some statement => (.ok statement, (prepared, state))
      | none =>
        match outcome (subject.statement naming prepared.command prepared.arguments
          prepared.query) state with
        | (.ok statement, after) => (.ok statement, (prepared.keep subject (some statement), after))
        | (.error e, after) => (.error e, (prepared, after)) := by
  unfold lookUp
  rw [outcome_bind]
  show outcome (match prepared.kept subject with | some statement => _ | none => _)
    (prepared, state) = _
  cases prepared.kept subject with
  | some statement => rfl
  | none =>
    simp only [outcome_bind, outcome_translate]
    rcases outcome (subject.statement naming _ _ _) state with ⟨e | statement, after⟩ <;> rfl

section Exchange

variable {question : Question}

/-- There is nothing to answer about a command that the query does not ask for. -/
lemma exchange_of_not_asked (hasked : question.subject.isAskedFor prepared.query = false) :
    exchange naming (prepared, state) question =
      ⟨question, (prepared, state), .ok .absent, (prepared, state)⟩ := by
  unfold exchange
  rw [outcome_answer, hasked]
  rfl

/-- What is kept is answered as it is, and the naming keeps its state. -/
lemma exchange_of_kept {statement : Statement}
    (hasked : question.subject.isAskedFor prepared.query = true)
    (hkept : prepared.kept question.subject = some statement) :
    exchange naming (prepared, state) question =
      ⟨question, (prepared, state), .ok (question.part (some statement)), (prepared, state)⟩ := by
  unfold exchange
  rw [outcome_answer, if_pos hasked, outcome_bind, outcome_lookUp, hkept]
  rfl

/-- What is not kept is translated. -/
lemma exchange_of_not_kept (hkept : prepared.kept question.subject = none) :
    exchange naming (prepared, state) question =
      translated question prepared state (outcome (question.subject.translation naming
        prepared.command prepared.arguments prepared.query) state) := by
  rw [translation_eq]
  cases hasked : question.subject.isAskedFor prepared.query with
  | true =>
    unfold exchange
    rw [outcome_answer, if_pos hasked, if_pos rfl, outcome_bind, outcome_bind, outcome_lookUp,
      hkept]
    rcases outcome (question.subject.statement naming _ _ _) state with ⟨e | statement, after⟩
      <;> rfl
  | false =>
    -- nothing is found, and that is what the cell holds already
    have hkeep : prepared.keep question.subject none = prepared := by
      rw [← hkept, keep_kept]
    rw [exchange_of_not_asked hasked, if_neg Bool.false_ne_true, outcome_pure]
    show _ = (⟨question, (prepared, state), .ok .absent,
      (prepared.keep question.subject none, state)⟩ : Exchange σ)
    rw [hkeep]

/-- What a translation finds is not kept in the cell of the other command. -/
lemma kept_translated {subject : Subject} (hne : subject ≠ question.subject)
    (ended : Except Translation.Error (Option Statement) × σ) :
    (translated question prepared state ended).after.1.kept subject = prepared.kept subject := by
  rcases ended with ⟨e | found, after⟩
  · rfl
  · exact kept_keep_of_ne _ _ hne

/-- Whatever the cell of the other command holds, it goes through a translation. -/
lemma translated_keep {subject : Subject} (hne : subject ≠ question.subject)
    (cell : Option Statement) (ended : Except Translation.Error (Option Statement) × σ) :
    translated question (prepared.keep subject cell) state ended =
      { translated question prepared state ended with
        before := (prepared.keep subject cell, state)
        after := ((translated question prepared state ended).after.1.keep subject cell,
          (translated question prepared state ended).after.2) } := by
  rcases ended with ⟨e | found, after⟩
  · rfl
  · simp only [translated]
    rw [keep_keep_of_ne _ _ hne]

/-- A question leaves the cell of the other command as it is, and is answered in the same way with
whatever that cell holds. -/
lemma exchange_apart (prepared : PreparedQuery) (state : σ) {subject : Subject}
    (hne : subject ≠ question.subject) :
    (exchange naming (prepared, state) question).after.1.kept subject = prepared.kept subject ∧
    ∀ cell,
      exchange naming (prepared.keep subject cell, state) question =
        { exchange naming (prepared, state) question with
          before := (prepared.keep subject cell, state)
          after := ((exchange naming (prepared, state) question).after.1.keep subject cell,
            (exchange naming (prepared, state) question).after.2) } := by
  have hcell : ∀ cell, (prepared.keep subject cell).kept question.subject =
      prepared.kept question.subject := fun cell => kept_keep_of_ne _ _ hne.symm
  -- the same of the three ways to answer is taken with either content of the other cell
  cases hasked : question.subject.isAskedFor prepared.query with
  | false =>
    rw [exchange_of_not_asked hasked]
    refine ⟨rfl, ?_⟩
    intro cell
    exact exchange_of_not_asked (by rw [query_keep, hasked])
  | true =>
    cases hkept : prepared.kept question.subject with
    | some statement =>
      rw [exchange_of_kept hasked hkept]
      refine ⟨rfl, ?_⟩
      intro cell
      exact exchange_of_kept (by rw [query_keep, hasked]) (by rw [hcell, hkept])
    | none =>
      rw [exchange_of_not_kept hkept]
      refine ⟨kept_translated hne _, ?_⟩
      intro cell
      rw [exchange_of_not_kept (by rw [hcell, hkept]), command_keep, arguments_keep, query_keep]
      exact translated_keep hne cell _

end Exchange

end ODataToSql.PreparedQuery
