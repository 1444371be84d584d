import HarvesterCloudProvider.StatefulProgram
import HarvesterCloudProvider.VersionHistory

namespace HarvesterCloudProvider

open Program

/-!
# Contests over a versioned object

One client reads an object from a cache, changes a copy and sends it back, while
other clients write, remove and recreate the object.  The cache may be behind by
any number of states.  The server commits an update only if the sent version is
the current one, refuses changes it does not admit, and gives every write a new
version.  A patch carries no version and changes whatever is stored.

The client's own committed writes are recorded with the object each replaced.
-/

/-- How versions are read from and written to the objects of one kind. -/
structure ObjectKind (Object : Type) where
  versionOf : Object → Nat
  withVersion : Object → Nat → Object
  versionOf_withVersion :
    ∀ object version, versionOf (withVersion object version) = version
  /-- Whether the server lets a stored object be replaced by another one. -/
  admits : Object → Object → Bool

/-- What surrounds one request: the others move, then the request may fail. -/
structure Turn (Object Error : Type) where
  /-- The states that other clients ask for; none asks for the removal. -/
  others : List (Option Object) := []
  /-- How many states the cache is behind. -/
  lag : Nat := 0
  failure : Option Error := none

/-- A committed write of the client and the object it replaced. -/
structure Replacement (Object : Type) where
  before : Object
  after : Object

/-- The object, the coming requests and the committed writes of the client. -/
structure Contest {Object : Type} (kind : ObjectKind Object) (Error : Type) where
  history : VersionHistory Object kind.versionOf
  turns : List (Turn Object Error)
  commits : List (Replacement Object) := []

namespace Contest

variable {Object Error Answer : Type}
variable {kind : ObjectKind Object}

/-- Store an object; the server chooses its version. -/
def stored
    (history : VersionHistory Object kind.versionOf)
    (object : Object) :
    VersionHistory Object kind.versionOf :=
  history.store (kind.withVersion object (history.counter + 1))
    (kind.versionOf_withVersion object _)

/-- The effect of another client. -/
def react
    (history : VersionHistory Object kind.versionOf) :
    Option Object → VersionHistory Object kind.versionOf
  | none => history.remove
  | some object =>
      match history.current with
      | none => stored history object
      | some current =>
          if kind.admits current object then
            stored history object
          else
            history

/-- The contest after the other clients have moved once more. -/
def moved (contest : Contest kind Error) : Contest kind Error :=
  { contest with
    history := (contest.turns.headD {}).others.foldl react contest.history
    turns := contest.turns.tail }

/-- One request among the actions of the other clients. -/
def request
    (serve : Nat → Contest kind Error → Except Error Answer × Contest kind Error) :
    Program (Contest kind Error) Error Answer :=
  fun contest =>
    match (contest.turns.headD {}).failure with
    | some failure => (.error failure, contest.moved)
    | none => serve (contest.turns.headD {}).lag contest.moved

/-- Read some state that the server had. -/
def cached (missing : Error) : Program (Contest kind Error) Error Object :=
  request fun lag contest =>
    match contest.history.states[lag]? with
    | some (some object) => (.ok object, contest)
    | _ => (.error missing, contest)

/-- Commit a change of the current object, if the server admits it. -/
def commit
    (contest : Contest kind Error)
    (current object : Object)
    (refused : Error) :
    Except Error Unit × Contest kind Error :=
  if kind.admits current object then
    (.ok (),
      { contest with
        history := stored contest.history object
        commits :=
          contest.commits ++
            [{ before := current
               after := kind.withVersion object (contest.history.counter + 1) }] })
  else
    (.error refused, contest)

/-- Replace the object if the sent version is the current one. -/
def update
    (missing conflict refused : Error)
    (object : Object) :
    Program (Contest kind Error) Error Unit :=
  request fun _ contest =>
    match contest.history.current with
    | none => (.error missing, contest)
    | some current =>
        if kind.versionOf current = kind.versionOf object then
          contest.commit current object refused
        else
          (.error conflict, contest)

/-- Change whatever object is stored. -/
def patch
    (missing refused : Error)
    (change : Object → Object) :
    Program (Contest kind Error) Error Unit :=
  request fun _ contest =>
    match contest.history.current with
    | none => (.error missing, contest)
    | some current => contest.commit current (change current) refused

/-- Remove whatever object is stored. -/
def remove (missing : Error) : Program (Contest kind Error) Error Unit :=
  request fun _ contest =>
    match contest.history.current with
    | none => (.error missing, contest)
    | some _ => (.ok (), { contest with history := contest.history.remove })

section Effects

variable {missing conflict refused : Error}
variable {contest final : Contest kind Error}

/-- Other clients never take a state out of the history. -/
theorem states_subset_foldl_react
    (history : VersionHistory Object kind.versionOf)
    (others : List (Option Object)) :
    history.states ⊆ (others.foldl react history).states := by
  induction others generalizing history with
  | nil =>
      exact List.Subset.refl _
  | cons other rest inductionHypothesis =>
      refine List.Subset.trans ?_ (inductionHypothesis (react history other))
      unfold react
      split
      · exact List.subset_cons_self _ _
      · split
        · exact List.subset_cons_self _ _
        · split
          · exact List.subset_cons_self _ _
          · exact List.Subset.refl _

/-- Every state so far stays in the history. -/
def KeepsStates (contest final : Contest kind Error) : Prop :=
  contest.history.states ⊆ final.history.states

instance : Std.Refl (@KeepsStates Object Error kind) where
  refl _ := List.Subset.refl _

instance : IsTrans (Contest kind Error) KeepsStates where
  trans _ _ _ earlier later := List.Subset.trans earlier later

theorem request_keepsStates
    {serve : Nat → Contest kind Error → Except Error Answer × Contest kind Error}
    (serves : ∀ lag contest, KeepsStates contest (serve lag contest).2) :
    Respects KeepsStates (request serve) := by
  intro contest
  have moves : KeepsStates contest contest.moved := states_subset_foldl_react _ _
  unfold request
  split
  · exact moves
  · exact trans_of KeepsStates moves (serves _ _)

theorem commit_keepsStates (contest : Contest kind Error) (current object : Object) :
    KeepsStates contest (contest.commit current object refused).2 := by
  unfold commit
  split
  · exact List.subset_cons_self _ _
  · exact List.Subset.refl _

theorem cached_keepsStates :
    Respects KeepsStates (@cached Object Error kind missing) := by
  refine request_keepsStates fun lag contest => ?_
  split <;> exact List.Subset.refl _

theorem update_keepsStates (object : Object) :
    Respects KeepsStates (@update Object Error kind missing conflict refused object) := by
  refine request_keepsStates fun _ contest => ?_
  split
  · exact List.Subset.refl _
  · split
    · exact commit_keepsStates _ _ _
    · exact List.Subset.refl _

theorem patch_keepsStates (change : Object → Object) :
    Respects KeepsStates (@patch Object Error kind missing refused change) := by
  refine request_keepsStates fun _ contest => ?_
  split
  · exact List.Subset.refl _
  · exact commit_keepsStates _ _ _

/-- A cached object is a state of the object, and reading commits nothing. -/
theorem cached_ended
    {answer : Except Error Object}
    (ran : cached missing contest = (answer, final)) :
    final.commits = contest.commits ∧
      ∀ object, answer = .ok object → some object ∈ final.history.states := by
  unfold cached request at ran
  split at ran
  · cases ran
    exact ⟨rfl, fun _ same => by cases same⟩
  · dsimp only at ran
    split at ran
    · rename_i object seen
      cases ran
      refine ⟨rfl, fun other same => ?_⟩
      cases same
      exact List.mem_of_getElem? seen
    · cases ran
      exact ⟨rfl, fun _ same => by cases same⟩

/-- Nothing was committed. -/
def Idle (contest final : Contest kind Error) : Prop :=
  final.commits = contest.commits

theorem Idle.trans
    {first second third : Contest kind Error}
    (earlier : Idle first second)
    (later : Idle second third) :
    Idle first third :=
  Eq.trans later earlier

/-- One admitted write was committed. -/
def Replaces (before after : Object) (contest final : Contest kind Error) : Prop :=
  kind.admits before after = true ∧
    ∃ version,
      final.commits =
        contest.commits ++ [{ before := before, after := kind.withVersion after version }]

/-- A commit replaces the current object, or nothing happens. -/
theorem commit_ended
    {current object : Object}
    {answer : Except Error Unit}
    (ran : contest.commit current object refused = (answer, final)) :
    Ended Idle (fun before _ after => Replaces current object before after)
      contest answer final := by
  unfold commit at ran
  split at ran
  · rename_i admitted
    cases ran
    exact ⟨admitted, _, rfl⟩
  · cases ran
    exact rfl

/--
An update of a changed copy that is committed replaces the very object the copy
was made from, however old the copy is.
-/
theorem update_ended
    {seen changed : Object}
    {answer : Except Error Unit}
    (keepsVersion : kind.versionOf changed = kind.versionOf seen)
    (member : some seen ∈ contest.history.states)
    (ran : update missing conflict refused changed contest = (answer, final)) :
    Ended Idle (fun before _ after => Replaces seen changed before after)
      contest answer final := by
  unfold update request at ran
  split at ran
  · cases ran
    exact rfl
  · dsimp only at ran
    split at ran
    · cases ran
      exact rfl
    · rename_i current isCurrent
      split at ran
      · rename_i sameVersion
        have stillMember : some seen ∈ contest.moved.history.states :=
          states_subset_foldl_react _ _ member
        rw [keepsVersion] at sameVersion
        have same : current = seen :=
          VersionHistory.eq_current stillMember isCurrent sameVersion
        subst same
        have ended := commit_ended ran
        cases answer <;> exact ended
      · cases ran
        exact rfl

/-- A patch changes one stored object or nothing. -/
theorem patch_ended
    {change : Object → Object}
    {answer : Except Error Unit}
    (ran : patch missing refused change contest = (answer, final)) :
    Ended Idle
      (fun before _ after => ∃ current, Replaces current (change current) before after)
      contest answer final := by
  unfold patch request at ran
  split at ran
  · cases ran
    exact rfl
  · dsimp only at ran
    split at ran
    · cases ran
      exact rfl
    · rename_i current isCurrent
      have ended := commit_ended ran
      cases answer with
      | error error =>
          exact ended
      | ok done =>
          exact ⟨current, ended⟩

/-- A removal writes no object. -/
theorem remove_idle
    {answer : Except Error Unit}
    (ran : remove missing contest = (answer, final)) :
    Idle contest final := by
  unfold remove request at ran
  split at ran
  · cases ran
    exact rfl
  · dsimp only at ran
    split at ran <;> cases ran <;> exact rfl

end Effects

end Contest

end HarvesterCloudProvider
