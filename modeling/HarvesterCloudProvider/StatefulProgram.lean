import Mathlib

namespace HarvesterCloudProvider

/-!
# Programs that thread a state and may fail

A `Program` reads a state, returns either a value or an error, and leaves a
state behind in both cases.  A failing program does not roll anything back:
the writes it made before the error stay made, which is what separates this
model from `StateT` over `Except`.

The module supplies inversion rules for sequential composition, the two
bounded loops used by reconcilers (poll until a value appears, retry while an
error is retriable), and one rule set for proving that a program only moves
the state along a preorder.
-/

/-- A computation over a state that keeps the reached state when it fails. -/
def Program (State Error Value : Type) :=
  State → Except Error Value × State

namespace Program

variable {State Error Value Result : Type}

/-- Return a value without touching the state. -/
protected def pure (value : Value) : Program State Error Value :=
  fun state => (.ok value, state)

/-- Run the first program and, if it succeeds, continue with its value. -/
protected def bind
    (first : Program State Error Value)
    (next : Value → Program State Error Result) :
    Program State Error Result :=
  fun state =>
    match first state with
    | (.ok value, reached) => next value reached
    | (.error error, reached) => (.error error, reached)

instance : Monad (Program State Error) where
  pure := Program.pure
  bind := Program.bind

/-- Stop with an error, keeping the state. -/
def fail (error : Error) : Program State Error Value :=
  fun state => (.error error, state)

/-- Run a program and hand its error to the caller as an ordinary value. -/
def attempt
    (program : Program State Error Value) :
    Program State Error (Except Error Value) :=
  fun state => (.ok (program state).1, (program state).2)

/-- Replace the error of a failing program. -/
def mapError
    (change : Error → Error)
    (program : Program State Error Value) :
    Program State Error Value :=
  fun state =>
    match program state with
    | (.ok value, reached) => (.ok value, reached)
    | (.error error, reached) => (.error (change error), reached)

/--
Call the body until it succeeds, at most `rounds` times, and fail with the
last error afterwards.
-/
def poll
    (body : Program State Error Value) :
    Nat → Error → Program State Error Value
  | 0, last => fail last
  | rounds + 1, _ => do
      match ← attempt body with
      | .ok value => pure value
      | .error error => poll body rounds error

/--
Call the body again while its error is retriable, at most `retries` times
after the first call.
-/
def retryWhile
    (retriable : Error → Bool)
    (body : Program State Error Value) :
    Nat → Program State Error Value
  | 0 => body
  | retries + 1 => do
      match ← attempt body with
      | .ok value => pure value
      | .error error =>
          if retriable error then
            retryWhile retriable body retries
          else
            fail error

/-- Run a program on a part of the state. -/
def zoom
    {Part : Type}
    (part : State → Part)
    (replace : Part → State → State)
    (program : Program Part Error Value) :
    Program State Error Value :=
  fun state =>
    ((program (part state)).1, replace (program (part state)).2 state)

section Inversion

@[simp] theorem zoom_run
    {Part : Type}
    (part : State → Part)
    (replace : Part → State → State)
    (program : Program Part Error Value)
    (state : State) :
    zoom part replace program state =
      ((program (part state)).1, replace (program (part state)).2 state) :=
  rfl

@[simp] theorem pure_run (value : Value) (state : State) :
    (pure value : Program State Error Value) state = (.ok value, state) :=
  rfl

@[simp] theorem fail_run (error : Error) (state : State) :
    (fail error : Program State Error Value) state = (.error error, state) :=
  rfl

@[simp] theorem attempt_run
    (program : Program State Error Value)
    (state : State) :
    attempt program state = (.ok (program state).1, (program state).2) :=
  rfl

theorem bind_run
    (first : Program State Error Value)
    (next : Value → Program State Error Result)
    (state : State) :
    (first >>= next) state =
      match first state with
      | (.ok value, reached) => next value reached
      | (.error error, reached) => (.error error, reached) :=
  rfl

/-- After a success the rest of a composition runs. -/
theorem bind_run_of_ok
    {first : Program State Error Value}
    {next : Value → Program State Error Result}
    {state reached : State}
    {value : Value}
    (ran : first state = (.ok value, reached)) :
    (first >>= next) state = next value reached := by
  simp only [bind_run, ran]

/-- A composition succeeds exactly when both of its parts do. -/
theorem bind_ok
    {first : Program State Error Value}
    {next : Value → Program State Error Result}
    {state final : State}
    {result : Result} :
    (first >>= next) state = (.ok result, final) ↔
      ∃ value reached,
        first state = (.ok value, reached) ∧
          next value reached = (.ok result, final) := by
  rw [bind_run]
  constructor
  · intro ran
    split at ran
    · rename_i value reached firstRan
      exact ⟨value, reached, firstRan, ran⟩
    · simp at ran
  · rintro ⟨value, reached, firstRan, nextRan⟩
    rw [firstRan]
    exact nextRan

/-- A composition stops in its first part or hands over to the second. -/
theorem bind_cases
    {first : Program State Error Value}
    {next : Value → Program State Error Result}
    {state final : State}
    {answer : Except Error Result}
    (ran : (first >>= next) state = (answer, final)) :
    (∃ error,
      first state = (.error error, final) ∧
        answer = .error error) ∨
      ∃ value reached,
        first state = (.ok value, reached) ∧
          next value reached = (answer, final) := by
  rw [bind_run] at ran
  split at ran
  · rename_i value reached firstRan
    exact .inr ⟨value, reached, firstRan, ran⟩
  · rename_i error reached firstRan
    simp only [Prod.mk.injEq] at ran
    obtain ⟨rfl, rfl⟩ := ran
    exact .inl ⟨error, firstRan, rfl⟩

/-- A caught error is handled in the state the failing program left. -/
theorem attempt_bind_run
    (program : Program State Error Value)
    (next : Except Error Value → Program State Error Result)
    (state : State) :
    (attempt program >>= next) state = next (program state).1 (program state).2 :=
  rfl

/-- Changing the error of a program does not change when it succeeds. -/
theorem mapError_ok
    {change : Error → Error}
    {program : Program State Error Value}
    {state final : State}
    {value : Value} :
    mapError change program state = (.ok value, final) ↔
      program state = (.ok value, final) := by
  unfold mapError
  split
  · rename_i ran
    rw [ran]
  · rename_i ran
    simp [ran]

/-- A changed error comes from an error of the program. -/
theorem mapError_error
    {change : Error → Error}
    {program : Program State Error Value}
    {state final : State}
    {error : Error}
    (ran : mapError change program state = (.error error, final)) :
    ∃ cause, program state = (.error cause, final) ∧ error = change cause := by
  unfold mapError at ran
  split at ran
  · simp at ran
  · rename_i cause reached programRan
    simp only [Prod.mk.injEq, Except.error.injEq] at ran
    exact ⟨cause, by rw [programRan, ran.2], ran.1.symm⟩

/-- Polling stops at a body that succeeds. -/
theorem poll_of_ok
    {body : Program State Error Value}
    {state final : State}
    {value : Value}
    (once : body state = (.ok value, final))
    (rounds : Nat)
    (last : Error) :
    poll body (rounds + 1) last state = (.ok value, final) := by
  rw [poll, attempt_bind_run, once]
  rfl

/-- A retry loop around a body that succeeds. -/
theorem retryWhile_of_ok
    {retriable : Error → Bool}
    {body : Program State Error Value}
    {state final : State}
    {value : Value}
    (once : body state = (.ok value, final))
    (retries : Nat) :
    retryWhile retriable body retries state = (.ok value, final) := by
  cases retries with
  | zero =>
      exact once
  | succ retries =>
      rw [retryWhile, attempt_bind_run, once]
      rfl

/-- A retry loop around a body that fails. -/
theorem retryWhile_of_error
    {retriable : Error → Bool}
    {body : Program State Error Value}
    {state final : State}
    {error : Error}
    (once : body state = (.error error, final))
    (retries : Nat) :
    retryWhile retriable body (retries + 1) state =
      if retriable error then
        retryWhile retriable body retries final
      else
        (.error error, final) := by
  rw [retryWhile, attempt_bind_run, once]
  dsimp only
  split <;> rfl

/-- Changing the error of a program never changes the state it reaches. -/
@[simp] theorem mapError_state
    (change : Error → Error)
    (program : Program State Error Value)
    (state : State) :
    (mapError change program state).2 = (program state).2 := by
  unfold mapError
  split <;> rename_i ran <;> rw [ran]

end Inversion

section Preorder

variable {relation : State → State → Prop}

/-- Every run of the program moves the state along the relation. -/
def Respects
    (relation : State → State → Prop)
    (program : Program State Error Value) : Prop :=
  ∀ state, relation state (program state).2

/-- A property is not lost on the way. -/
def Keeps (property : State → Prop) (before after : State) : Prop :=
  property before → property after

instance (property : State → Prop) : Std.Refl (Keeps property) where
  refl _ held := held

instance (property : State → Prop) : IsTrans State (Keeps property) where
  trans _ _ _ earlier later held := later (earlier held)

/-- What every run respects, a run with a known answer respects. -/
theorem Respects.of_run
    {program : Program State Error Value}
    (respects : Respects relation program)
    {state final : State}
    {answer : Except Error Value}
    (ran : program state = (answer, final)) :
    relation state final := by
  have moved := respects state
  rw [ran] at moved
  exact moved

theorem Respects.pure
    [Std.Refl relation]
    (value : Value) :
    Respects relation (pure value : Program State Error Value) :=
  fun state => refl_of relation state

theorem Respects.fail
    [Std.Refl relation]
    (error : Error) :
    Respects relation (fail error : Program State Error Value) :=
  fun state => refl_of relation state

/-- A program that stops at once, with a value or with an error. -/
theorem Respects.pure_or_fail
    [Std.Refl relation]
    {condition : Prop}
    [Decidable condition]
    (value : Value)
    (error : Error) :
    Respects relation
      (if condition then Pure.pure value else Program.fail error :
        Program State Error Value) := by
  split
  · exact .pure value
  · exact .fail error

theorem Respects.bind
    [IsTrans State relation]
    {first : Program State Error Value}
    {next : Value → Program State Error Result}
    (firstRespects : Respects relation first)
    (nextRespects : ∀ value, Respects relation (next value)) :
    Respects relation (first >>= next) := by
  intro state
  rw [bind_run]
  have firstStep := firstRespects state
  split
  · rename_i value reached firstRan
    rw [firstRan] at firstStep
    exact trans_of relation firstStep (nextRespects value reached)
  · rename_i error reached firstRan
    rw [firstRan] at firstStep
    exact firstStep

/-- What comes next has to respect the relation only for values that are returned. -/
theorem Respects.bind_of_returned
    [IsTrans State relation]
    {first : Program State Error Value}
    {next : Value → Program State Error Result}
    (firstRespects : Respects relation first)
    (nextRespects :
      ∀ state value,
        (first state).1 = .ok value →
        Respects relation (next value)) :
    Respects relation (first >>= next) := by
  intro state
  rw [bind_run]
  have firstStep := firstRespects state
  have returned := nextRespects state
  split
  · rename_i value reached firstRan
    rw [firstRan] at firstStep returned
    exact trans_of relation firstStep (returned value rfl reached)
  · rename_i error reached firstRan
    rw [firstRan] at firstStep
    exact firstStep

theorem Respects.attempt
    {program : Program State Error Value}
    (respects : Respects relation program) :
    Respects relation (attempt program) :=
  respects

theorem Respects.mapError
    {change : Error → Error}
    {program : Program State Error Value}
    (respects : Respects relation program) :
    Respects relation (mapError change program) := by
  intro state
  rw [mapError_state]
  exact respects state

theorem Respects.poll
    [Std.Refl relation]
    [IsTrans State relation]
    {body : Program State Error Value}
    (respects : Respects relation body)
    (rounds : Nat)
    (last : Error) :
    Respects relation (poll body rounds last) := by
  induction rounds generalizing last with
  | zero =>
      exact .fail last
  | succ rounds inductionHypothesis =>
      refine .bind respects.attempt fun answer => ?_
      cases answer with
      | ok value =>
          exact .pure value
      | error error =>
          exact inductionHypothesis error

theorem Respects.retryWhile
    [Std.Refl relation]
    [IsTrans State relation]
    {retriable : Error → Bool}
    {body : Program State Error Value}
    (respects : Respects relation body)
    (retries : Nat) :
    Respects relation (retryWhile retriable body retries) := by
  induction retries with
  | zero =>
      exact respects
  | succ retries inductionHypothesis =>
      refine .bind respects.attempt fun answer => ?_
      cases answer with
      | ok value =>
          exact .pure value
      | error error =>
          by_cases again : retriable error
          · simpa only [again, ↓reduceIte] using inductionHypothesis
          · simpa only [again, Bool.false_eq_true, ↓reduceIte]
              using Respects.fail error

end Preorder

section Retrying

/-- How a run ended: by an error along one relation or with a value along another. -/
def Ended
    (failed : State → State → Prop)
    (finished : State → Value → State → Prop)
    (state : State)
    (answer : Except Error Value)
    (final : State) :
    Prop :=
  match answer with
  | .ok value => finished state value final
  | .error _ => failed state final

/--
A retry loop that fails has only failed bodies behind it; one that succeeds has
failed bodies and then a successful one.
-/
theorem retryWhile_ended
    {retriable : Error → Bool}
    {body : Program State Error Value}
    {failed : State → State → Prop}
    {finished : State → Value → State → Prop}
    (failedTrans :
      ∀ first second third : State,
        failed first second →
        failed second third →
        failed first third)
    (failedFinished :
      ∀ (first second third : State) (value : Value),
        failed first second →
        finished second value third →
        finished first value third)
    (bodyEnded :
      ∀ (state final : State) (answer : Except Error Value),
        body state = (answer, final) →
        Ended failed finished state answer final)
    (retries : Nat)
    {state final : State}
    {answer : Except Error Value}
    (ran : retryWhile retriable body retries state = (answer, final)) :
    Ended failed finished state answer final := by
  induction retries generalizing state with
  | zero =>
      exact bodyEnded _ _ _ ran
  | succ retries inductionHypothesis =>
      unfold retryWhile at ran
      rw [attempt_bind_run] at ran
      cases once : body state with
      | mk first reached =>
          rw [once] at ran
          have firstEnded := bodyEnded _ _ _ once
          cases first with
          | ok value =>
              simp only [pure_run, Prod.mk.injEq] at ran
              obtain ⟨rfl, rfl⟩ := ran
              exact firstEnded
          | error error =>
              dsimp only at ran
              split at ran
              · have rest := inductionHypothesis ran
                cases answer with
                | ok value =>
                    exact failedFinished _ _ _ _ firstEnded rest
                | error last =>
                    exact failedTrans _ _ _ firstEnded rest
              · simp only [fail_run, Prod.mk.injEq] at ran
                obtain ⟨rfl, rfl⟩ := ran
                exact firstEnded

end Retrying

end Program

end HarvesterCloudProvider
