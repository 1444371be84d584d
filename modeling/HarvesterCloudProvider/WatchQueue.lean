import HarvesterCloudProvider.StepSystem

namespace HarvesterCloudProvider

/-!
# Queues of changed objects

A controller watches objects under keys.  A filter decides which changes put the
key into its queue.  Processing a key reads the stored object; a success takes
the key out of the queue, a failure leaves it there.

A filter may drop changes that make no difference to the controller.  Where it
drops no other, every object outside the queue agrees with the version that was
processed last, in every state of every run.
-/

/-- The stored objects, the queue and the versions that were processed last. -/
structure WatchState (Key Object : Type) where
  stored : Key → Option Object := fun _ => none
  queue : Finset Key := ∅
  processed : Key → Option Object := fun _ => none

/-- Which changes put a key into the queue. -/
structure WatchFilter (Object : Type) where
  onAdd : Object → Bool
  onUpdate : Object → Object → Bool

/-- A report with or without an older version. -/
def WatchFilter.notices
    {Object : Type}
    (filter : WatchFilter Object)
    (older : Option Object)
    (object : Object) :
    Bool :=
  match older with
  | none => filter.onAdd object
  | some old => filter.onUpdate old object

/-- One step of a run. -/
inductive WatchStep (Key Object : Type) where
  /-- An object is made or changed. -/
  | write (key : Key) (object : Object)
  /-- An object goes away; nobody is told. -/
  | erase (key : Key)
  /-- The informer reports an unchanged object again. -/
  | resync (key : Key)
  /-- The controller processes a key from the queue. -/
  | process (key : Key) (succeeded : Bool)

namespace WatchState

variable {Key Object : Type}
variable [DecidableEq Key]

/-- Put a key into the queue if the filter says so. -/
def reported
    (state : WatchState Key Object)
    (key : Key)
    (noticed : Bool) :
    WatchState Key Object :=
  if noticed then { state with queue := insert key state.queue } else state

/-- The effect of one step. -/
def advance
    (filter : WatchFilter Object)
    (state : WatchState Key Object) :
    WatchStep Key Object → WatchState Key Object
  | .write key object =>
      { state with stored := Function.update state.stored key (some object) }.reported key
        (filter.notices (state.stored key) object)
  | .erase key => { state with stored := Function.update state.stored key none }
  | .resync key =>
      match state.stored key with
      | none => state
      | some object => state.reported key (filter.onUpdate object object)
  | .process key succeeded =>
      if key ∈ state.queue ∧ succeeded then
        { state with
          queue := state.queue.erase key
          processed := Function.update state.processed key (state.stored key) }
      else
        state

/-- Every due object outside the queue agrees with the version processed last. -/
def UpToDate
    (due : Object → Prop)
    (agrees : Object → Object → Prop)
    (state : WatchState Key Object) :
    Prop :=
  ∀ key object,
    state.stored key = some object →
    due object →
    key ∉ state.queue →
    ∃ last, state.processed key = some last ∧ due last ∧ agrees last object

/-- A filter that drops only changes without a difference. -/
structure Sound
    (filter : WatchFilter Object)
    (admitted : Object → Object → Prop)
    (due : Object → Prop)
    (agrees : Object → Object → Prop) :
    Prop where
  added : ∀ object, due object → filter.onAdd object = true
  updated :
    ∀ old object,
      admitted old object →
      due object →
      filter.onUpdate old object = false →
      due old ∧ agrees old object
  refl : ∀ object, agrees object object
  trans :
    ∀ first second third,
      agrees first second →
      agrees second third →
      agrees first third

/-- The writes that the server admits. -/
def Admitted
    (admitted : Object → Object → Prop)
    (state : WatchState Key Object) :
    WatchStep Key Object → Prop
  | .write key object => ∀ old, state.stored key = some old → admitted old object
  | _ => True

variable {filter : WatchFilter Object}
variable {admitted : Object → Object → Prop}
variable {due : Object → Prop}
variable {agrees : Object → Object → Prop}

@[simp] theorem reported_stored
    (state : WatchState Key Object)
    (key : Key)
    (noticed : Bool) :
    (state.reported key noticed).stored = state.stored := by
  unfold reported
  split <;> rfl

@[simp] theorem reported_processed
    (state : WatchState Key Object)
    (key : Key)
    (noticed : Bool) :
    (state.reported key noticed).processed = state.processed := by
  unfold reported
  split <;> rfl

/-- A key outside the queue was outside before, and its report was dropped. -/
theorem of_notMem_reported
    {state : WatchState Key Object}
    {key other : Key}
    {noticed : Bool}
    (outside : other ∉ (state.reported key noticed).queue) :
    other ∉ state.queue ∧ (other = key → noticed = false) := by
  unfold reported at outside
  cases noticed with
  | false =>
      exact ⟨outside, fun _ => rfl⟩
  | true =>
      rw [if_pos rfl, Finset.mem_insert, not_or] at outside
      exact ⟨outside.2, fun same => (outside.1 same).elim⟩

/-- An admitted write that is dropped leaves the object with the version processed last. -/
theorem UpToDate.write
    {state : WatchState Key Object}
    {written : Key}
    {new : Object}
    (sound : Sound filter admitted due agrees)
    (upToDate : state.UpToDate due agrees)
    (allowed : state.Admitted admitted (.write written new)) :
    (state.advance filter (.write written new)).UpToDate due agrees := by
  intro key object stored isDue outside
  unfold WatchState.advance at stored outside ⊢
  dsimp only at stored outside ⊢
  rw [reported_stored] at stored
  rw [reported_processed]
  obtain ⟨outside, dropped⟩ := of_notMem_reported outside
  dsimp only at stored
  by_cases own : key = written
  · subst own
    rw [Function.update_self, Option.some.injEq] at stored
    subst stored
    have unnoticed := dropped rfl
    cases older : state.stored key with
    | none =>
        rw [older] at unnoticed
        have noticed := sound.added new isDue
        rw [show filter.onAdd new = false from unnoticed] at noticed
        cases noticed
    | some old =>
        rw [older] at unnoticed
        obtain ⟨oldDue, same⟩ :=
          sound.updated old new (allowed old older) isDue unnoticed
        obtain ⟨last, processed, lastDue, lastAgrees⟩ :=
          upToDate key old older oldDue outside
        exact ⟨last, processed, lastDue, sound.trans last old new lastAgrees same⟩
  · rw [Function.update_of_ne own] at stored
    exact upToDate key object stored isDue outside

/-- A processed key has its stored object as the version processed last. -/
theorem UpToDate.process
    {state : WatchState Key Object}
    {processedKey : Key}
    {succeeded : Bool}
    (sound : Sound filter admitted due agrees)
    (upToDate : state.UpToDate due agrees) :
    (state.advance filter (.process processedKey succeeded)).UpToDate due agrees := by
  intro key object stored isDue outside
  unfold WatchState.advance at stored outside ⊢
  dsimp only at stored outside ⊢
  by_cases done : processedKey ∈ state.queue ∧ succeeded
  · rw [if_pos done] at stored outside ⊢
    dsimp only at stored outside ⊢
    by_cases own : key = processedKey
    · subst own
      rw [Function.update_self]
      exact ⟨object, stored, isDue, sound.refl object⟩
    · rw [Function.update_of_ne own]
      exact upToDate key object stored isDue
        fun inside => outside (Finset.mem_erase.mpr ⟨own, inside⟩)
  · rw [if_neg done] at stored outside ⊢
    exact upToDate key object stored isDue outside

/-- Every admitted step keeps the objects outside the queue up to date. -/
theorem UpToDate.advance
    {state : WatchState Key Object}
    {step : WatchStep Key Object}
    (sound : Sound filter admitted due agrees)
    (upToDate : state.UpToDate due agrees)
    (allowed : state.Admitted admitted step) :
    (state.advance filter step).UpToDate due agrees := by
  cases step with
  | write written new =>
      exact upToDate.write sound allowed
  | process processedKey succeeded =>
      exact upToDate.process sound
  | erase erased =>
      intro key object stored isDue outside
      unfold WatchState.advance at stored
      dsimp only at stored
      by_cases own : key = erased
      · subst own
        rw [Function.update_self] at stored
        cases stored
      · rw [Function.update_of_ne own] at stored
        exact upToDate key object stored isDue outside
  | resync reportedKey =>
      intro key object stored isDue outside
      unfold WatchState.advance at stored outside ⊢
      dsimp only at stored outside ⊢
      cases known : state.stored reportedKey with
      | none =>
          rw [known] at stored outside
          exact upToDate key object stored isDue outside
      | some current =>
          rw [known] at stored outside
          dsimp only at stored outside
          rw [reported_stored] at stored
          dsimp only
          rw [reported_processed]
          exact upToDate key object stored isDue (of_notMem_reported outside).1

/-- In every run no change that makes a difference is lost. -/
theorem upToDate_of_execution
    {start state : WatchState Key Object}
    {steps : List (WatchStep Key Object)}
    (sound : Sound filter admitted due agrees)
    (initially : start.UpToDate due agrees)
    (execution :
      Execution
        (StepsOf (WatchState.advance filter) fun reached step => reached.Admitted admitted step)
        start steps state) :
    state.UpToDate due agrees := by
  refine execution.invariant (fun reached => reached.UpToDate due agrees) initially ?_
  rintro reached next step earlier ⟨allowed, rfl⟩
  exact earlier.advance sound allowed

end WatchState

end HarvesterCloudProvider
