import ODataToSql.Proofs.CommandClauses
import ODataToSql.Proofs.PreparedExchange
import ODataToSql.Proofs.Stateless

/-!
# Conversations with a prepared query

A conversation with a prepared query is a list of exchanges, one for each question. The naming may
have a state, so that it answers the same question in another way the next time; what the prepared
query answers is settled by the first success all the same.

* `settling` finds the exchange that settles a command, the first one about it that did not fail.
* `Remembers` is the invariant: the cells hold what the settling exchanges found, and nothing as
  long as there is none. Every question keeps it (`Remembers.append`).
* `Explained` says of an exchange all that follows from the exchanges before it, and the main result
  is `explained_of_conversation`.
-/

namespace ODataToSql.PreparedQuery

open Sql Translation

variable {σ : Type} {naming : Naming σ} {prepared : PreparedQuery} {state : σ}

/-! ## Conversations -/

/-- Asks one question after the other. -/
def conversation (naming : Naming σ) (start : PreparedQuery × σ) :
    List Question → List (Exchange σ)
  | [] => []
  | question :: rest =>
    exchange naming start question ::
      conversation naming (exchange naming start question).after rest

/-- The exchange in the past that settles what is answered about a command: the first one about it
that did not fail. -/
def settling (subject : Subject) (past : List (Exchange σ)) : Option (Exchange σ) :=
  past.find? fun exchange => exchange.question.subject == subject && exchange.answer.isOk

section Past

variable (naming : Naming σ) (command : String) (arguments : List Datum) (query : Query)
  (past : List (Exchange σ))

/-- After the past, the prepared query is what it was made of, and each cell holds what the settling
translation found and the settling answer is a part of. -/
structure Remembers (prepared : PreparedQuery) : Prop where
  sameCommand : prepared.command = command
  sameArguments : prepared.arguments = arguments
  sameQuery : prepared.query = query
  unsettled : ∀ subject, settling subject past = none → prepared.kept subject = none
  settled : ∀ subject, ∀ first ∈ settling subject past,
    outcome (subject.translation naming command arguments query) first.before.2 =
      (.ok (prepared.kept subject), first.after.2) ∧
    first.answer = .ok (first.question.part (prepared.kept subject))

/-- What follows for an exchange from the exchanges in the past. -/
structure Explained (current : Exchange σ) : Prop where
  /-- As long as all questions about the command failed, it is translated afresh, from the command
  and the arguments that the prepared query was made of and in the state that the naming is in. -/
  fresh : settling current.question.subject past = none →
    outcome (current.question.afresh naming command arguments query) current.before.2 =
      (current.answer, current.after.2)
  /-- After a failure, both cells are what they were. -/
  failure : current.answer.isOk = false → current.after.1 = current.before.1
  /-- From the first success on, the answer is a part of what was found then, as the first one was,
  and no naming is asked. -/
  recalled : ∀ first ∈ settling current.question.subject past,
    ∃ found,
      outcome (current.question.subject.translation naming command arguments query)
        first.before.2 = (.ok found, first.after.2) ∧
      first.answer = .ok (first.question.part found) ∧
      current.answer = .ok (current.question.part found) ∧
      current.after = current.before ∧
      ∀ other : Naming σ, exchange other current.before current.question = current
  /-- The cell of the other command is not changed, and nothing depends on it. -/
  apart : ∀ subject, subject ≠ current.question.subject →
    current.after.1.kept subject = current.before.1.kept subject ∧
    ∀ cell,
      exchange naming (current.before.1.keep subject cell, current.before.2) current.question =
        { current with
          before := (current.before.1.keep subject cell, current.before.2)
          after := (current.after.1.keep subject cell, current.after.2) }
  /-- If the naming has no state, the answer is that of a translation for this question alone, from
  whatever state. -/
  stateless : naming.IsStateless → ∀ state,
    (outcome (current.question.afresh naming command arguments query) state).1 = current.answer

end Past

/-- The answer afresh is a part of what is found. -/
lemma outcome_afresh (naming : Naming σ) (command : String) (arguments : List Datum) (query : Query)
    (question : Question) (state : σ) :
    outcome (question.afresh naming command arguments query) state =
      match outcome (question.subject.translation naming command arguments query) state with
      | (.ok found, after) => (.ok (question.part found), after)
      | (.error e, after) => (.error e, after) := by
  unfold Question.afresh
  rw [outcome_bind]
  rcases outcome (question.subject.translation naming _ _ _) state with ⟨e | found, after⟩ <;> rfl

lemma stateless_translation (hnaming : naming.IsStateless) (command : String)
    (arguments : List Datum) (query : Query) (subject : Subject) :
    Stateless (subject.translation naming command arguments query) := by
  cases subject with
  | rows => exact (stateless_rows hnaming command arguments query).map _
  | total => exact stateless_count hnaming command arguments query

/-! ## The exchange that settles -/

section Settling

variable {subject : Subject} {past : List (Exchange σ)} {current : Exchange σ}

lemma settling_append (subject : Subject) (past : List (Exchange σ)) (current : Exchange σ) :
    settling subject (past ++ [current]) =
      (settling subject past).or
        (if current.question.subject == subject && current.answer.isOk then some current
          else none) := by
  unfold settling
  rw [List.find?_append, List.find?_cons, List.find?_nil]
  cases current.question.subject == subject && current.answer.isOk <;> rfl

/-- What is settled stays settled. -/
lemma settling_append_of_mem {first : Exchange σ} (hfirst : first ∈ settling subject past) :
    settling subject (past ++ [current]) = settling subject past := by
  rw [settling_append, Option.mem_def.1 hfirst]
  rfl

/-- A question about the other command settles nothing. -/
lemma settling_append_of_ne (hne : subject ≠ current.question.subject) :
    settling subject (past ++ [current]) = settling subject past := by
  rw [settling_append, beq_eq_false_iff_ne.2 hne.symm, Bool.false_and,
    if_neg Bool.false_ne_true, Option.or_none]

/-- Nor does a failure. -/
lemma settling_append_of_failure (hfailure : current.answer.isOk = false) :
    settling subject (past ++ [current]) = settling subject past := by
  rw [settling_append, hfailure, Bool.and_false, if_neg Bool.false_ne_true, Option.or_none]

/-- The first success settles its command. -/
lemma settling_append_of_isOk (hsubject : current.question.subject = subject)
    (hunsettled : settling subject past = none) (hok : current.answer.isOk = true) :
    settling subject (past ++ [current]) = some current := by
  rw [settling_append, hunsettled, hok, hsubject, beq_self_eq_true, Bool.and_true, if_pos rfl,
    Option.none_or]

end Settling

/-! ## The invariant -/

section Invariant

variable {command : String} {arguments : List Datum} {query : Query} {past : List (Exchange σ)}

/-- A command is found if and only if the query asks for it. -/
lemma isAskedFor_eq_of_found {subject : Subject} {state after : σ} {found : Option Statement}
    (h : outcome (subject.translation naming command arguments query) state = (.ok found, after)) :
    subject.isAskedFor query = found.isSome := by
  have hfound : Yields (subject.translation naming command arguments query) state found after := h
  rw [translation_eq] at hfound
  cases hasked : subject.isAskedFor query with
  | true =>
    rw [hasked, if_pos rfl, yields_bind_pure] at hfound
    obtain ⟨statement, -, rfl⟩ := hfound
    rfl
  | false =>
    rw [hasked, if_neg Bool.false_ne_true, yields_pure] at hfound
    obtain ⟨rfl, -⟩ := hfound
    rfl

namespace Remembers

variable (h : Remembers naming command arguments query past prepared)

include h

/-- What is settled is answered as it was found, whatever the naming, which keeps its state. -/
lemma exchange_of_settled {question : Question} {first : Exchange σ}
    (hfirst : first ∈ settling question.subject past) (other : Naming σ) (state : σ) :
    exchange other (prepared, state) question =
      ⟨question, (prepared, state), .ok (question.part (prepared.kept question.subject)),
        (prepared, state)⟩ := by
  obtain ⟨hfound, -⟩ := h.settled question.subject first hfirst
  have hasked := isAskedFor_eq_of_found hfound
  rw [← h.sameQuery] at hasked
  cases hkept : prepared.kept question.subject with
  | some statement => exact exchange_of_kept (by rw [hasked, hkept]; rfl) hkept
  | none => exact exchange_of_not_asked (by rw [hasked, hkept]; rfl)

/-- What is not settled is translated from what the prepared query was made of. -/
lemma exchange_of_unsettled {question : Question}
    (hunsettled : settling question.subject past = none) (state : σ) :
    exchange naming (prepared, state) question =
      translated question prepared state
        (outcome (question.subject.translation naming command arguments query) state) := by
  rw [exchange_of_not_kept (h.unsettled _ hunsettled), h.sameCommand, h.sameArguments,
    h.sameQuery]

/-- An exchange that settles nothing and leaves the cells as they are keeps the invariant. -/
lemma append_of_unchanged {current : Exchange σ}
    (hsettling : ∀ subject, settling subject (past ++ [current]) = settling subject past) :
    Remembers naming command arguments query (past ++ [current]) prepared where
  sameCommand := h.sameCommand
  sameArguments := h.sameArguments
  sameQuery := h.sameQuery
  unsettled subject := by
    rw [hsettling]
    exact h.unsettled subject
  settled subject := by
    rw [hsettling]
    exact h.settled subject

/-- The first success settles its command, and leaves the other one as it was. -/
lemma append_of_found {question : Question} {state after : σ} {found : Option Statement}
    (hunsettled : settling question.subject past = none)
    (hfound : outcome (question.subject.translation naming command arguments query) state =
      (.ok found, after)) :
    Remembers naming command arguments query
      (past ++ [⟨question, (prepared, state), .ok (question.part found),
        (prepared.keep question.subject found, after)⟩])
      (prepared.keep question.subject found) := by
  let current : Exchange σ := ⟨question, (prepared, state), .ok (question.part found),
    (prepared.keep question.subject found, after)⟩
  have hsettling : settling question.subject (past ++ [current]) = some current :=
    settling_append_of_isOk rfl hunsettled rfl
  have hother : ∀ subject, subject ≠ question.subject →
      settling subject (past ++ [current]) = settling subject past :=
    fun subject hne => settling_append_of_ne hne
  constructor
  · exact (command_keep _ _ _).trans h.sameCommand
  · exact (arguments_keep _ _ _).trans h.sameArguments
  · exact (query_keep _ _ _).trans h.sameQuery
  -- of the two commands, the one is settled now, and the other one is left alone
  · intro subject hnone
    by_cases hsubject : subject = question.subject
    · subst hsubject
      exact absurd (hnone.symm.trans hsettling) (Option.some_ne_none current).symm
    · rw [hother subject hsubject] at hnone
      rw [kept_keep_of_ne _ _ hsubject, h.unsettled subject hnone]
  · intro subject first hfirst
    by_cases hsubject : subject = question.subject
    · subst hsubject
      obtain rfl : current = first := Option.some.inj (hsettling.symm.trans hfirst)
      rw [kept_keep_self]
      exact ⟨hfound, rfl⟩
    · rw [hother subject hsubject] at hfirst
      rw [kept_keep_of_ne _ _ hsubject]
      exact h.settled subject first hfirst

/-- Every question keeps the invariant. -/
lemma append (question : Question) (state : σ) :
    Remembers naming command arguments query
      (past ++ [exchange naming (prepared, state) question])
      (exchange naming (prepared, state) question).after.1 := by
  cases hsettling : settling question.subject past with
  | some first =>
    rw [h.exchange_of_settled hsettling]
    apply h.append_of_unchanged
    intro subject
    by_cases hsubject : subject = question.subject
    · subst hsubject
      exact settling_append_of_mem hsettling
    · exact settling_append_of_ne hsubject
  | none =>
    rw [h.exchange_of_unsettled hsettling]
    rcases hended : outcome (question.subject.translation naming command arguments query) state with
      ⟨e | found, after⟩
    · exact h.append_of_unchanged fun subject => settling_append_of_failure rfl
    · exact h.append_of_found hsettling hended

/-- The invariant explains what is answered to a question. -/
lemma explained (question : Question) (state : σ) :
    Explained naming command arguments query past
      (exchange naming (prepared, state) question) where
  fresh hunsettled := by
    have hunsettled : settling question.subject past = none := hunsettled
    show outcome (question.afresh naming command arguments query) state = _
    rw [outcome_afresh, h.exchange_of_unsettled hunsettled]
    rcases outcome (question.subject.translation naming _ _ _) state with ⟨e | found, after⟩ <;> rfl
  failure := by
    show (exchange naming (prepared, state) question).answer.isOk = false →
      (exchange naming (prepared, state) question).after.1 = prepared
    cases hsettling : settling question.subject past with
    | some first =>
      rw [h.exchange_of_settled hsettling]
      exact fun _ => rfl
    | none =>
      rw [h.exchange_of_unsettled hsettling]
      rcases outcome (question.subject.translation naming _ _ _) state with ⟨e | found, after⟩
      · exact fun _ => rfl
      · exact fun hfailure => nomatch hfailure
  recalled first hfirst := by
    have hrecalled := h.exchange_of_settled hfirst
    obtain ⟨hfound, hfirstAnswer⟩ := h.settled question.subject first hfirst
    refine ⟨prepared.kept question.subject, hfound, hfirstAnswer, ?_, ?_, ?_⟩
    · exact congrArg Exchange.answer (hrecalled naming state)
    · exact congrArg Exchange.after (hrecalled naming state)
    · exact fun other => (hrecalled other state).trans (hrecalled naming state).symm
  apart subject hne := exchange_apart prepared state hne
  stateless hnaming other := by
    show (outcome (question.afresh naming command arguments query) other).1 =
      (exchange naming (prepared, state) question).answer
    obtain ⟨result, hresult⟩ :=
      stateless_translation hnaming command arguments query question.subject
    rw [outcome_afresh, hresult]
    cases hsettling : settling question.subject past with
    | some first =>
      obtain ⟨hfound, -⟩ := h.settled question.subject first hsettling
      rw [hresult, Prod.mk.injEq] at hfound
      rw [h.exchange_of_settled hsettling, hfound.1]
    | none =>
      rw [h.exchange_of_unsettled hsettling, hresult]
      cases result <;> rfl

end Remembers

/-- A query that is not translated yet remembers that it was not asked yet. -/
lemma remembers_new (naming : Naming σ) (command : String) (arguments : List Datum)
    (query : Query) :
    Remembers naming command arguments query [] (new command arguments query) where
  sameCommand := rfl
  sameArguments := rfl
  sameQuery := rfl
  unsettled subject _ := by cases subject <;> rfl
  settled _ _ hfirst := nomatch hfirst

/-- What is remembered of the past explains a conversation that goes on from there. By induction on
the questions, each of which keeps the invariant. -/
lemma explained_of_remembers {questions : List Question} {recent future : List (Exchange σ)}
    {current : Exchange σ} (h : Remembers naming command arguments query past prepared)
    (htalk : conversation naming (prepared, state) questions = recent ++ current :: future) :
    Explained naming command arguments query (past ++ recent) current := by
  induction questions generalizing past prepared state recent with
  | nil => cases recent <;> cases htalk
  | cons question rest ih =>
    cases recent with
    | nil =>
      obtain ⟨rfl, -⟩ := List.cons.inj htalk
      rw [List.append_nil]
      exact h.explained question state
    | cons first recent =>
      obtain ⟨rfl, hrest⟩ := List.cons.inj htalk
      rw [← List.singleton_append, ← List.append_assoc]
      exact ih (h.append question state) hrest

end Invariant

/-- In every conversation with a prepared query, whatever the naming and its state, every exchange
is explained by the exchanges before it. -/
theorem explained_of_conversation {command : String} {arguments : List Datum} {query : Query}
    {questions : List Question} {past future : List (Exchange σ)} {current : Exchange σ}
    (h : conversation naming (new command arguments query, state) questions =
      past ++ current :: future) :
    Explained naming command arguments query past current :=
  explained_of_remembers (remembers_new naming command arguments query) h

/-- A naming that counts the questions, and does not know the answer to the first one. -/
def hesitant : Naming Nat where
  column _ := modifyGet fun asked => (if asked = 0 then none else some "[Name]", asked + 1)
  key _ := modifyGet fun asked => ("[Id]", asked + 1)

/-- The users whose name contains a text, and their number. -/
def countedUsers : Query where
  entityType := "User"
  filter := some (.call "contains" [.ofName "Name", .constant (.ofString "a")])
  count := some true

set_option maxRecDepth 10000 in
/-- The first failure leaves no trace. The command for the rows is found at the third question,
after that for their number, and the last question asks the naming nothing more. -/
theorem explained_countedUsers :
    ∃ first second third fourth : Exchange Nat,
      conversation hesitant (new "SELECT FROM Users WHERE Id = @p0" [.null] countedUsers, 0)
        [.commandText, .countArguments, .commandText, .arguments] =
        [first, second, third] ++ fourth :: [] ∧
      first.answer = .error (.invalidColumn (Property.ofName "Name")) ∧
      third.answer = .ok (.text
        "SELECT * FROM Users WHERE Id = @p0 AND [Name] LIKE ('%' + @p1 + '%')") ∧
      fourth.answer = .ok (.arguments [.null, .ofString "a"]) ∧
      third.after.2 = 4 ∧ fourth.after.2 = 4 ∧
      Explained hesitant "SELECT FROM Users WHERE Id = @p0" [.null] countedUsers
        [first, second, third] fourth := by
  refine ⟨_, _, _, _, rfl, rfl, rfl, rfl, rfl, rfl, ?_⟩
  apply explained_of_conversation
  show conversation hesitant (new "SELECT FROM Users WHERE Id = @p0" [.null] countedUsers, 0)
    [.commandText, .countArguments, .commandText, .arguments] = _ ++ _ :: []
  rfl

end ODataToSql.PreparedQuery
