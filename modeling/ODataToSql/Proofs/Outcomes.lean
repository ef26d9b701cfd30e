import ODataToSql.Translation.Basic
import Mathlib.Tactic.Lemma

/-!
# How translations end

A translation that starts in a state of its naming ends with a result or with an error, and leaves
a state behind. `outcome` is this pair, `Yields` says that the end is a result, and `Fails` that it
is an error. Each of the operations that translations are built from has one law for each of them.
-/

namespace ODataToSql.Translation

variable {σ α β : Type}

/-- How a translation ends that starts in a state. -/
def outcome (translation : Translation σ α) (state : σ) : Except Error α × σ :=
  translation.run.run state

/-- From the first state, the translation ends with the result and leaves the second state. -/
def Yields (translation : Translation σ α) (state : σ) (result : α) (after : σ) : Prop :=
  outcome translation state = (.ok result, after)

/-- From the first state, the translation ends with the error and leaves the second state. -/
def Fails (translation : Translation σ α) (state : σ) (error : Error) (after : σ) : Prop :=
  outcome translation state = (.error error, after)

/-! ## Results and errors -/

lemma outcome_pure (a : α) (state : σ) : outcome (pure a) state = (.ok a, state) := rfl

lemma outcome_throw (e : Error) (state : σ) :
    outcome (throw e : Translation σ α) state = (.error e, state) := rfl

@[simp]
lemma yields_pure {a b : α} {state after : σ} :
    Yields (pure a) state b after ↔ a = b ∧ state = after := by
  unfold Yields
  rw [outcome_pure, Prod.mk.injEq, Except.ok.injEq]

@[simp]
lemma not_yields_throw {e : Error} {a : α} {state after : σ} :
    ¬ Yields (throw e) state a after := by
  intro h
  unfold Yields at h
  rw [outcome_throw] at h
  cases h

@[simp]
lemma not_fails_pure {a : α} {e : Error} {state after : σ} : ¬ Fails (pure a) state e after := by
  intro h
  unfold Fails at h
  rw [outcome_pure] at h
  cases h

@[simp]
lemma fails_throw {thrown e : Error} {state after : σ} :
    Fails (throw thrown : Translation σ α) state e after ↔ thrown = e ∧ state = after := by
  unfold Fails
  rw [outcome_throw, Prod.mk.injEq, Except.error.injEq]

/-- Asking a naming always has a result. -/
lemma outcome_ask (question : StateM σ α) (state : σ) :
    outcome (liftM question : Translation σ α) state =
      (.ok (question.run state).1, (question.run state).2) := rfl

@[simp]
lemma yields_ask {question : StateM σ α} {a : α} {state after : σ} :
    Yields (liftM question : Translation σ α) state a after ↔ question.run state = (a, after) := by
  unfold Yields
  rw [outcome_ask, Prod.mk.injEq, Except.ok.injEq]
  constructor
  · rintro ⟨rfl, rfl⟩
    rfl
  · intro h
    rw [h]
    exact ⟨rfl, rfl⟩

@[simp]
lemma not_fails_ask {question : StateM σ α} {e : Error} {state after : σ} :
    ¬ Fails (liftM question : Translation σ α) state e after := by
  intro h
  unfold Fails at h
  rw [outcome_ask] at h
  cases h

/-- What needs no naming leaves the state as it is. -/
@[simp]
lemma yields_lift {x : Except Error α} {a : α} {state after : σ} :
    Yields (liftM x : Translation σ α) state a after ↔ x = .ok a ∧ state = after := by
  cases x with
  | error e => exact ⟨fun h => absurd h not_yields_throw, fun h => nomatch h.1⟩
  | ok b =>
    rw [Except.ok.injEq]
    exact yields_pure

/-! ## One translation after another -/

/-- The second translation starts in the state that the first one leaves, and only if that has a
result. -/
lemma outcome_bind (first : Translation σ α) (next : α → Translation σ β) (state : σ) :
    outcome (first >>= next) state =
      match outcome first state with
      | (.ok a, between) => outcome (next a) between
      | (.error e, between) => (.error e, between) := by
  unfold outcome
  rw [ExceptT.run_bind, StateT.run_bind]
  rcases first.run.run state with ⟨e | a, between⟩ <;> rfl

@[simp]
lemma yields_bind {first : Translation σ α} {next : α → Translation σ β} {b : β}
    {state after : σ} :
    Yields (first >>= next) state b after ↔
      ∃ a between, Yields first state a between ∧ Yields (next a) between b after := by
  unfold Yields
  rw [outcome_bind]
  rcases outcome first state with ⟨e | a, between⟩
  · simp
  · constructor
    · intro h
      exact ⟨a, between, rfl, h⟩
    · rintro ⟨a', between', hfirst, hnext⟩
      cases hfirst
      exact hnext

/-- One translation after another fails where the first one fails, or where the second one fails
with the result of the first. -/
@[simp]
lemma fails_bind {first : Translation σ α} {next : α → Translation σ β} {e : Error}
    {state after : σ} :
    Fails (first >>= next) state e after ↔
      Fails first state e after ∨
        ∃ a between, Yields first state a between ∧ Fails (next a) between e after := by
  unfold Fails Yields
  rw [outcome_bind]
  rcases outcome first state with ⟨thrown | a, between⟩
  · simp
  · constructor
    · intro h
      exact .inr ⟨a, between, rfl, h⟩
    · rintro (hfirst | ⟨a', between', hfirst, hnext⟩)
      · cases hfirst
      · cases hfirst
        exact hnext

/-- A result that is made from the result of a translation alone. -/
lemma yields_bind_pure {translation : Translation σ α} {f : α → β} {b : β} {state after : σ} :
    Yields (translation >>= fun a => pure (f a)) state b after ↔
      ∃ a, Yields translation state a after ∧ b = f a := by
  simp only [yields_bind, yields_pure]
  constructor
  · rintro ⟨a, between, ha, rfl, rfl⟩
    exact ⟨a, ha, rfl⟩
  · rintro ⟨a, ha, rfl⟩
    exact ⟨a, after, ha, rfl, rfl⟩

lemma fails_bind_pure {translation : Translation σ α} {f : α → β} {e : Error} {state after : σ} :
    Fails (translation >>= fun a => pure (f a)) state e after ↔
      Fails translation state e after := by
  simp only [fails_bind, not_fails_pure, and_false, exists_false, or_false]

end ODataToSql.Translation
