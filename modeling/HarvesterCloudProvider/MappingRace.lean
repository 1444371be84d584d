import HarvesterCloudProvider.MappingSync
import HarvesterCloudProvider.StepSystem

namespace HarvesterCloudProvider

open Program

/-!
# Synchronising the mapping from several workers

The controller runs two workers, so several calls of `syncNADMappingConfigMap`
can be under way at once.  A call is a small machine here: it reads the cache
once, and then looks the ConfigMap up and writes it in separate requests, with
the requests of other calls and changes of the cache in between.  A call that
runs alone does what the sequential function does.
-/

/-- The list of instances a call works with. -/
structure MappingRead where
  /-- The number of caches before the one that was listed. -/
  index : Nat
  vmis : List VirtualMachineInstance

/-- The value a call wants to store. -/
def MappingRead.value (read : MappingRead) : String :=
  nadMappingValue read.vmis

/-- Where a call is. -/
inductive SyncPhase where
  /-- It ended without reading the cache. -/
  | refused (error : Err)
  /-- It will look the ConfigMap up. -/
  | reading (read : MappingRead) (retries : Nat)
  /-- It will carry out a decision. -/
  | writing (read : MappingRead) (retries : Nat) (decision : MappingDecision)
  | failed (read : MappingRead) (error : Err)
  | succeeded (read : MappingRead)

namespace SyncPhase

/-- Go on after an error: a conflict starts the next attempt, if one is left. -/
def afterError (read : MappingRead) : Nat → Err → SyncPhase
  | 0, error => .failed read error
  | retries + 1, error =>
      if error.isConflict then .reading read retries else .failed read error

/-- Start a call: check the cluster name and list the cache. -/
def start
    (h : Handler)
    (cfg : Config)
    (index : Nat)
    (vmiCache : List VirtualMachineInstance) :
    SyncPhase :=
  if cfg.unidentified then
    .refused unidentifiedCluster
  else
    .reading
      { index := index
        vmis := h.vmiCacheList cfg.clusterName vmiCache }
      (defaultBackoffSteps - 1)

/-- The next request of a call. -/
def step (phase : SyncPhase) (session : Session) : SyncPhase × Session :=
  match phase with
  | .reading read retries =>
      let looked := configMapGet session
      let next :=
        match decideMapping read.value looked.1 with
        | .refuse error => afterError read retries error
        | .keep => .succeeded read
        | .create configMap => .writing read retries (.create configMap)
        | .update configMap => .writing read retries (.update configMap)
      (next, looked.2)
  | .writing read retries decision =>
      let wrote := decision.commit session
      let next :=
        match wrote.1 with
        | .ok _ => .succeeded read
        | .error error => afterError read retries error
      (next, wrote.2)
  | ended => (ended, session)

/-- The result of a call that has ended. -/
def answer : SyncPhase → Option (Except Err Unit)
  | .refused error => some (.error error)
  | .failed _ error => some (.error error)
  | .succeeded _ => some (.ok ())
  | _ => none

/-- The list that a call works with, once it has read one. -/
def read? : SyncPhase → Option MappingRead
  | .refused _ => none
  | .reading read _ => some read
  | .writing read _ _ => some read
  | .failed read _ => some read
  | .succeeded read => some read

end SyncPhase

section Alone

/-- Some requests of one call with nothing in between. -/
def runAlone (requests : Nat) (reached : SyncPhase × Session) : SyncPhase × Session :=
  (fun state => state.1.step state.2)^[requests] reached

theorem runAlone_succ
    (requests : Nat)
    (phase : SyncPhase)
    (session : Session) :
    runAlone (requests + 1) (phase, session) = runAlone requests (phase.step session) :=
  rfl

/-- A call that ended as a program did. -/
def EndedAs
    (reached : SyncPhase × Session)
    (ran : Except Err Unit × Session) :
    Prop :=
  reached.1.answer = some ran.1 ∧ reached.2 = ran.2

/-- A call that has ended stays as it is. -/
theorem runAlone_endedAs
    {phase : SyncPhase}
    {session : Session}
    {ran : Except Err Unit × Session}
    (ended : EndedAs (phase, session) ran)
    (requests : Nat) :
    EndedAs (runAlone requests (phase, session)) ran := by
  have fixed : runAlone requests (phase, session) = (phase, session) := by
    refine Function.iterate_fixed ?_ requests
    obtain ⟨answered, _⟩ := ended
    cases phase <;> first | rfl | cases answered
  rw [fixed]
  exact ended

/-- What is left to show about a call alone with some retries. -/
def RunsAlone (read : MappingRead) (retries : Nat) : Prop :=
  ∀ (requests : Nat) (session : Session),
    2 * (retries + 1) ≤ requests →
    EndedAs (runAlone requests (.reading read retries, session))
      (retryWhile Err.isConflict (storeMappingValue read.value) retries session)

/-- A failed attempt is followed by the remaining ones. -/
theorem runAlone_afterError
    {read : MappingRead}
    {retries requests : Nat}
    {session reached : Session}
    {error : Err}
    (fewer : ∀ left, retries = left + 1 → RunsAlone read left)
    (enough : 2 * retries ≤ requests)
    (once : storeMappingValue read.value session = (.error error, reached)) :
    EndedAs (runAlone requests (SyncPhase.afterError read retries error, reached))
      (retryWhile Err.isConflict (storeMappingValue read.value) retries session) := by
  cases retries with
  | zero =>
      rw [retryWhile, once]
      exact runAlone_endedAs (by exact ⟨rfl, rfl⟩) requests
  | succ left =>
      rw [retryWhile_of_error once, SyncPhase.afterError]
      split
      · exact fewer left rfl requests reached enough
      · exact runAlone_endedAs (by exact ⟨rfl, rfl⟩) requests

/-- One attempt and what follows it. -/
theorem runAlone_attempt
    {read : MappingRead}
    {retries : Nat}
    (fewer : ∀ left, retries = left + 1 → RunsAlone read left) :
    RunsAlone read retries := by
  intro requests session enough
  obtain ⟨rest, rfl⟩ : ∃ rest, requests = rest + 2 := ⟨requests - 2, by omega⟩
  have enoughRest : 2 * retries ≤ rest := by
    omega
  rw [runAlone_succ, SyncPhase.step]
  cases got : configMapGet session with
  | mk looked middle =>
      have attempted :
          storeMappingValue read.value session =
            (decideMapping read.value looked).commit middle := by
        rw [storeMappingValue, attempt_bind_run, got]
      -- A write is the second request of the attempt.
      have writes
          {decision : MappingDecision}
          (decided : decideMapping read.value looked = decision) :
          EndedAs (runAlone (rest + 1) (.writing read retries decision, middle))
            (retryWhile Err.isConflict (storeMappingValue read.value) retries
              session) := by
        rw [decided] at attempted
        rw [runAlone_succ, SyncPhase.step]
        cases wrote : decision.commit middle with
        | mk outcome final =>
            rw [wrote] at attempted
            cases outcome with
            | ok done =>
                rw [retryWhile_of_ok attempted]
                exact runAlone_endedAs (by exact ⟨rfl, rfl⟩) rest
            | error error =>
                exact runAlone_afterError fewer enoughRest attempted
      dsimp only
      cases decided : decideMapping read.value looked with
      | refuse error =>
          rw [decided] at attempted
          exact runAlone_afterError fewer (by omega) attempted
      | keep =>
          rw [decided] at attempted
          rw [retryWhile_of_ok attempted]
          exact runAlone_endedAs (by exact ⟨rfl, rfl⟩) (rest + 1)
      | create configMap =>
          exact writes decided
      | update configMap =>
          exact writes decided

theorem runsAlone (read : MappingRead) (retries : Nat) : RunsAlone read retries := by
  induction retries with
  | zero =>
      exact runAlone_attempt fun left impossible => by omega
  | succ retries inductionHypothesis =>
      refine runAlone_attempt fun left same => ?_
      obtain rfl : retries = left := by
        omega
      exact inductionHypothesis

/-- A call that runs alone does what the sequential function does. -/
theorem runAlone_syncNADMappingConfigMap
    (h : Handler)
    (cfg : Config)
    (index : Nat)
    (vmiCache : List VirtualMachineInstance)
    (session : Session) :
    EndedAs
      (runAlone (2 * defaultBackoffSteps)
        (SyncPhase.start h cfg index vmiCache, session))
      (h.syncNADMappingConfigMap cfg vmiCache session) := by
  unfold SyncPhase.start Handler.syncNADMappingConfigMap
  split
  · exact runAlone_endedAs (by exact ⟨rfl, rfl⟩) _
  · exact runsAlone _ _ _ session (by decide)

end Alone

section Interleaving

/-- The stored objects, the instance cache over time, and all calls. -/
structure SyncSystem where
  cluster : Cluster
  /-- The earlier contents of the cache, oldest first. -/
  history : List (List VirtualMachineInstance) := []
  vmiCache : List VirtualMachineInstance
  calls : List SyncPhase := []

/-- What can happen next. -/
inductive SyncStep where
  /-- The cache moves on. -/
  | observe (vmiCache : List VirtualMachineInstance)
  /-- A worker starts a call. -/
  | begin
  /-- A call sends its next request, which may fail. -/
  | request (call : Nat) (failure : Option Failure)

namespace SyncSystem

/-- The session of a single request, with no other controller in between. -/
def session (system : SyncSystem) (failure : Option Failure) : Session where
  cluster := system.cluster
  ticks := [{ failure := failure }]

/-- The system after one step. -/
def advance
    (h : Handler)
    (cfg : Config)
    (system : SyncSystem) :
    SyncStep → SyncSystem
  | .observe vmiCache =>
      { system with
        history := system.history ++ [system.vmiCache]
        vmiCache := vmiCache }
  | .begin =>
      { system with
        calls :=
          system.calls ++
            [SyncPhase.start h cfg system.history.length system.vmiCache] }
  | .request call failure =>
      match system.calls[call]? with
      | none => system
      | some phase =>
          let stepped := phase.step (system.session failure)
          { system with
            cluster := stepped.2.cluster
            calls := system.calls.set call stepped.1 }

/-- The lists of the calls that returned without an error. -/
def succeeded (system : SyncSystem) : List MappingRead :=
  system.calls.filterMap fun
    | .succeeded read => some read
    | _ => none

theorem mem_succeeded {system : SyncSystem} {read : MappingRead} :
    read ∈ system.succeeded ↔ SyncPhase.succeeded read ∈ system.calls := by
  simp only [succeeded, List.mem_filterMap]
  constructor
  · rintro ⟨phase, member, same⟩
    cases phase <;> cases same
    exact member
  · exact fun member => ⟨_, member, rfl⟩

end SyncSystem

/-- Whether a write goes through. -/
def MappingDecision.commits
    (decision : MappingDecision)
    (cluster : Cluster)
    (failure : Option Failure) :
    Bool :=
  failure.isNone &&
    match decision with
    | .create _ => cluster.configMap.isNone
    | .update configMap =>
        cluster.configMap.map ConfigMap.resourceVersion =
          some configMap.resourceVersion
    | _ => false

/--
A write goes through only while no call with a more recent list has returned
without an error.
-/
def NoNewerSucceeded (system : SyncSystem) (step : SyncStep) : Prop :=
  match step with
  | .request call failure =>
      match system.calls[call]? with
      | some (.writing read _ decision) =>
          decision.commits system.cluster failure = true →
          ∀ newer ∈ system.succeeded, newer.index ≤ read.index
      | _ => True
  | _ => True

instance (system : SyncSystem) (step : SyncStep) :
    Decidable (NoNewerSucceeded system step) := by
  unfold NoNewerSucceeded
  repeat' split
  all_goals infer_instance

/-- A write that is answered without an error went through. -/
theorem commits_of_commit
    {decision : MappingDecision}
    {system : SyncSystem}
    {failure : Option Failure}
    {reached : Session}
    {value : Unit}
    {configMap : ConfigMap}
    (writes : decision.written = some configMap)
    (wrote : decision.commit (system.session failure) = (.ok value, reached)) :
    decision.commits system.cluster failure = true := by
  cases failure with
  | some failure =>
      cases decision <;> cases writes <;> cases wrote
  | none =>
      cases decision with
      | refuse error =>
          cases writes
      | keep =>
          cases writes
      | create created =>
          cases found : system.cluster.configMap with
          | none =>
              simp [MappingDecision.commits, found]
          | some stored =>
              simp [MappingDecision.commit, configMapClientCreate, call,
                SyncSystem.session, found] at wrote
      | update updated =>
          cases found : system.cluster.configMap with
          | none =>
              simp [MappingDecision.commit, configMapClientUpdate, call,
                SyncSystem.session, found] at wrote
          | some stored =>
              by_cases current : stored.resourceVersion = updated.resourceVersion
              · simp [MappingDecision.commits, found, current]
              · simp [MappingDecision.commit, configMapClientUpdate, call,
                  SyncSystem.session, found, current] at wrote

/-- A call about to write carries the value of its list. -/
def SyncPhase.Carries : SyncPhase → Prop
  | .writing read _ decision =>
      ∃ configMap,
        decision.written = some configMap ∧
          configMap.data.read configMapKeyNADMapping = read.value
  | _ => True

/-- What one request of a call can do. -/
inductive SyncMove
    (failure : Option Failure)
    (before after : Cluster) :
    SyncPhase → SyncPhase → Prop where
  /-- A call that returned does nothing more. -/
  | returned
      {phase : SyncPhase}
      (unchanged : after.configMap = before.configMap) :
      SyncMove failure before after phase phase
  /-- The call goes on or fails, and the ConfigMap is as before. -/
  | unfinished
      {phase next : SyncPhase}
      (sameRead : next.read? = phase.read?)
      (notBefore : ∀ read, phase ≠ .succeeded read)
      (notAfter : ∀ read, next ≠ .succeeded read)
      (unchanged : after.configMap = before.configMap) :
      SyncMove failure before after phase next
  /-- The call returns because the ConfigMap already holds its value. -/
  | kept
      {read : MappingRead}
      {retries : Nat}
      (holds : before.HoldsMapping read.value)
      (unchanged : after.configMap = before.configMap) :
      SyncMove failure before after (.reading read retries) (.succeeded read)
  /-- The call returns because its write went through. -/
  | committed
      {read : MappingRead}
      {retries : Nat}
      {decision : MappingDecision}
      (commits : decision.commits before failure = true)
      (holds : after.HoldsMapping read.value) :
      SyncMove failure before after (.writing read retries decision) (.succeeded read)

theorem SyncSystem.session_undisturbed
    (system : SyncSystem)
    (failure : Option Failure) :
    (system.session failure).Undisturbed := by
  intro tick member
  obtain rfl := List.mem_singleton.mp member
  simp

theorem SyncPhase.afterError_open
    (read : MappingRead)
    (retries : Nat)
    (error : Err) :
    (SyncPhase.afterError read retries error).read? = some read ∧
      (∀ other, SyncPhase.afterError read retries error ≠ .succeeded other) ∧
      (SyncPhase.afterError read retries error).Carries := by
  cases retries with
  | zero =>
      simp [SyncPhase.afterError, SyncPhase.read?, SyncPhase.Carries]
  | succ left =>
      cases conflict : error.isConflict with
      | true =>
          simp [SyncPhase.afterError, conflict, SyncPhase.read?, SyncPhase.Carries]
      | false =>
          simp [SyncPhase.afterError, conflict, SyncPhase.read?, SyncPhase.Carries]

/-- Every request of a call is one of the moves. -/
theorem SyncPhase.step_moves
    {phase : SyncPhase}
    (carries : phase.Carries)
    (system : SyncSystem)
    (failure : Option Failure) :
    SyncMove failure system.cluster (phase.step (system.session failure)).2.cluster
        phase (phase.step (system.session failure)).1 ∧
      (phase.step (system.session failure)).1.Carries := by
  have undisturbed := system.session_undisturbed failure
  cases phase with
  | refused error =>
      exact ⟨.returned rfl, trivial⟩
  | failed read error =>
      exact ⟨.returned rfl, trivial⟩
  | succeeded read =>
      exact ⟨.returned rfl, trivial⟩
  | reading read retries =>
      rw [SyncPhase.step]
      cases got : configMapGet (system.session failure) with
      | mk looked reached =>
          obtain ⟨_, same, found, _⟩ := configMapGet_undisturbed undisturbed got
          cases decided : decideMapping read.value looked with
          | refuse error =>
              obtain ⟨sameRead, notSucceeded, carriesNext⟩ :=
                SyncPhase.afterError_open read retries error
              exact ⟨.unfinished sameRead (by simp) notSucceeded same, carriesNext⟩
          | keep =>
              obtain ⟨existing, rfl, upToDate⟩ := decideMapping_keep decided
              have stored := found existing rfl
              refine ⟨.kept ⟨?_, ?_⟩ same, trivial⟩
              · exact Option.isSome_iff_exists.mpr ⟨existing, stored⟩
              · exact (congrArg
                  (fun configMap => NilableMap.read (configMap.bind ConfigMap.data)
                    configMapKeyNADMapping) stored).trans upToDate
          | create configMap =>
              have written :
                  (decideMapping read.value looked).written = some configMap := by
                rw [decided]
                rfl
              exact ⟨.unfinished rfl (by simp) (by simp) same,
                configMap, rfl, (decideMapping_written written).1⟩
          | update configMap =>
              have written :
                  (decideMapping read.value looked).written = some configMap := by
                rw [decided]
                rfl
              exact ⟨.unfinished rfl (by simp) (by simp) same,
                configMap, rfl, (decideMapping_written written).1⟩
  | writing read retries decision =>
      obtain ⟨configMap, written, value⟩ := carries
      rw [SyncPhase.step]
      cases wrote : decision.commit (system.session failure) with
      | mk outcome reached =>
          obtain ⟨_, effect⟩ := commit_undisturbed undisturbed wrote
          cases outcome with
          | error error =>
              obtain ⟨sameRead, notSucceeded, carriesNext⟩ :=
                SyncPhase.afterError_open read retries error
              exact ⟨.unfinished sameRead (by simp) notSucceeded effect, carriesNext⟩
          | ok done =>
              refine ⟨.committed (commits_of_commit written wrote) ?_, trivial⟩
              rcases effect with ⟨rfl, _⟩ | ⟨stored, version, sameWritten, changed⟩
              · cases written
              · rw [written, Option.some.injEq] at sameWritten
                subst sameWritten
                dsimp only
                rw [Cluster.HoldsMapping, Cluster.mappingData, changed]
                exact ⟨rfl, value⟩

/-- What every reachable state of the calls satisfies. -/
structure SyncSystem.Current
    (h : Handler)
    (cfg : Config)
    (system : SyncSystem) :
    Prop where
  /-- The list of a call is the one of its cache. -/
  recorded :
    ∀ phase ∈ system.calls,
      ∀ read ∈ phase.read?,
        ∃ vmiCache,
          (system.history ++ [system.vmiCache])[read.index]? = some vmiCache ∧
            read.vmis = h.vmiCacheList cfg.clusterName vmiCache
  carries : ∀ phase ∈ system.calls, phase.Carries
  /-- The most recent list of a call that succeeded is the stored one. -/
  newest :
    system.succeeded ≠ [] →
      ∃ newest ∈ system.succeeded,
        (∀ read ∈ system.succeeded, read.index ≤ newest.index) ∧
          system.cluster.HoldsMapping newest.value

theorem Cluster.HoldsMapping.of_same
    {before after : Cluster}
    {value : String}
    (holds : before.HoldsMapping value)
    (same : after.configMap = before.configMap) :
    after.HoldsMapping value := by
  rw [Cluster.HoldsMapping, Cluster.mappingData, same]
  exact holds

variable {h : Handler}
variable {cfg : Config}
variable {system : SyncSystem}

/-- Replacing one element keeps every other element. -/
theorem mem_set_of_ne
    {α : Type}
    {elements : List α}
    {index : Nat}
    {old new element : α}
    (found : elements[index]? = some old)
    (different : element ≠ old)
    (member : element ∈ elements) :
    element ∈ elements.set index new := by
  obtain ⟨position, there⟩ := List.mem_iff_getElem?.mp member
  refine List.mem_iff_getElem?.mpr ⟨position, ?_⟩
  have apart : index ≠ position := by
    rintro rfl
    rw [found, Option.some.injEq] at there
    exact different there.symm
  rw [List.getElem?_set_ne apart]
  exact there

/-- The calls that succeeded after one call moved on. -/
theorem SyncSystem.mem_succeeded_set
    {call : Nat}
    {phase next : SyncPhase}
    {cluster : Cluster}
    {read : MappingRead}
    (found : system.calls[call]? = some phase)
    (notBefore : ∀ read, phase ≠ .succeeded read) :
    read ∈
        ({ system with
          cluster := cluster
          calls := system.calls.set call next } : SyncSystem).succeeded ↔
      read ∈ system.succeeded ∨ next = .succeeded read := by
  rw [mem_succeeded, mem_succeeded]
  constructor
  · intro member
    exact (List.mem_or_eq_of_mem_set member).imp id Eq.symm
  · rintro (member | rfl)
    · exact mem_set_of_ne found (notBefore read).symm member
    · exact List.mem_set (List.getElem?_eq_some_iff.mp found).1 _

theorem SyncMove.read?_eq
    {failure : Option Failure}
    {before after : Cluster}
    {phase next : SyncPhase}
    (move : SyncMove failure before after phase next) :
    next.read? = phase.read? := by
  cases move with
  | unfinished sameRead =>
      exact sameRead
  | _ =>
      rfl

/-- The newest successful call after one call moved on. -/
theorem SyncMove.newest
    {call : Nat}
    {failure : Option Failure}
    {after : Cluster}
    {phase next : SyncPhase}
    (move : SyncMove failure system.cluster after phase next)
    (found : system.calls[call]? = some phase)
    (allowed : NoNewerSucceeded system (.request call failure))
    (current : system.Current h cfg) :
    let moved : SyncSystem :=
      { system with
        cluster := after
        calls := system.calls.set call next }
    moved.succeeded ≠ [] →
      ∃ newest ∈ moved.succeeded,
        (∀ read ∈ moved.succeeded, read.index ≤ newest.index) ∧
          moved.cluster.HoldsMapping newest.value := by
  intro moved anySucceeded
  cases move with
  | returned unchanged =>
      have sameCalls : moved.succeeded = system.succeeded := by
        obtain ⟨bound, there⟩ := List.getElem?_eq_some_iff.mp found
        simp only [moved, SyncSystem.succeeded, ← there, List.set_getElem_self]
      rw [sameCalls] at anySucceeded ⊢
      obtain ⟨newest, member, latest, holds⟩ := current.newest anySucceeded
      exact ⟨newest, member, latest, holds.of_same unchanged⟩
  | unfinished _ notBefore notAfter unchanged =>
      have same (read : MappingRead) :
          read ∈ moved.succeeded ↔ read ∈ system.succeeded := by
        rw [SyncSystem.mem_succeeded_set found notBefore, or_iff_left (notAfter read)]
      obtain ⟨succeeded, member⟩ := List.exists_mem_of_ne_nil _ anySucceeded
      obtain ⟨newest, newestMember, latest, holds⟩ :=
        current.newest (List.ne_nil_of_mem ((same succeeded).mp member))
      exact ⟨newest, (same newest).mpr newestMember,
        fun read member => latest read ((same read).mp member), holds.of_same unchanged⟩
  | @kept read retries holds unchanged =>
      have members (other : MappingRead) :
          other ∈ moved.succeeded ↔ other ∈ system.succeeded ∨ read = other := by
        rw [SyncSystem.mem_succeeded_set found (by simp), SyncPhase.succeeded.injEq]
      by_cases first : system.succeeded = []
      · refine ⟨read, (members read).mpr (.inr rfl), fun other member => ?_,
          holds.of_same unchanged⟩
        rcases (members other).mp member with old | rfl
        · rw [first] at old
          cases old
        · exact le_rfl
      · obtain ⟨newest, newestMember, latest, newestHolds⟩ := current.newest first
        rcases le_total read.index newest.index with older | newer
        · refine ⟨newest, (members newest).mpr (.inl newestMember),
            fun other member => ?_, newestHolds.of_same unchanged⟩
          rcases (members other).mp member with old | rfl
          · exact latest other old
          · exact older
        · refine ⟨read, (members read).mpr (.inr rfl), fun other member => ?_,
            holds.of_same unchanged⟩
          rcases (members other).mp member with old | rfl
          · exact (latest other old).trans newer
          · exact le_rfl
  | @committed read retries decision commits holds =>
      have members (other : MappingRead) :
          other ∈ moved.succeeded ↔ other ∈ system.succeeded ∨ read = other := by
        rw [SyncSystem.mem_succeeded_set found (by simp), SyncPhase.succeeded.injEq]
      simp only [NoNewerSucceeded, found] at allowed
      refine ⟨read, (members read).mpr (.inr rfl), fun other member => ?_, holds⟩
      rcases (members other).mp member with old | rfl
      · exact allowed commits other old
      · exact le_rfl

theorem SyncSystem.advance_request
    {call : Nat}
    {phase : SyncPhase}
    (found : system.calls[call]? = some phase)
    (failure : Option Failure) :
    system.advance h cfg (.request call failure) =
      { system with
        cluster := (phase.step (system.session failure)).2.cluster
        calls := system.calls.set call (phase.step (system.session failure)).1 } := by
  simp only [SyncSystem.advance, found]

/-- A new call works with the current cache, if it works at all. -/
theorem SyncPhase.start_cases
    (h : Handler)
    (cfg : Config)
    (index : Nat)
    (vmiCache : List VirtualMachineInstance) :
    (∃ error, SyncPhase.start h cfg index vmiCache = .refused error) ∨
      ∃ retries,
        SyncPhase.start h cfg index vmiCache =
          .reading ⟨index, h.vmiCacheList cfg.clusterName vmiCache⟩ retries := by
  unfold SyncPhase.start
  split
  · exact .inl ⟨_, rfl⟩
  · exact .inr ⟨_, rfl⟩

/-- A new call keeps the invariant. -/
theorem SyncSystem.Current.begin
    (current : system.Current h cfg) :
    (system.advance h cfg .begin).Current h cfg := by
  have sameSucceeded :
      (system.advance h cfg .begin).succeeded = system.succeeded := by
    simp only [SyncSystem.advance, SyncSystem.succeeded, List.filterMap_append]
    rcases SyncPhase.start_cases h cfg system.history.length system.vmiCache with
      ⟨error, started⟩ | ⟨retries, started⟩
    · simp [started]
    · simp [started]
  refine ⟨fun phase member read isRead => ?_, fun phase member => ?_, ?_⟩
  · rcases List.mem_append.mp member with old | new
    · exact current.recorded phase old read isRead
    · obtain rfl := List.mem_singleton.mp new
      rcases SyncPhase.start_cases h cfg system.history.length system.vmiCache with
        ⟨error, started⟩ | ⟨retries, started⟩
      · rw [started] at isRead
        cases isRead
      · rw [started] at isRead
        cases isRead
        exact ⟨system.vmiCache, by simp [SyncSystem.advance], rfl⟩
  · rcases List.mem_append.mp member with old | new
    · exact current.carries phase old
    · obtain rfl := List.mem_singleton.mp new
      rcases SyncPhase.start_cases h cfg system.history.length system.vmiCache with
        ⟨error, started⟩ | ⟨retries, started⟩
      · rw [started]
        trivial
      · rw [started]
        trivial
  · rw [sameSucceeded]
    exact current.newest

/-- Every step that meets the condition keeps the invariant. -/
theorem SyncSystem.Current.advance
    (current : system.Current h cfg)
    {step : SyncStep}
    (allowed : NoNewerSucceeded system step) :
    (system.advance h cfg step).Current h cfg := by
  cases step with
  | observe vmiCache =>
      refine ⟨fun phase member read isRead => ?_, current.carries, current.newest⟩
      obtain ⟨old, listed, same⟩ := current.recorded phase member read isRead
      refine ⟨old, ?_, same⟩
      exact (List.getElem?_append_left (List.getElem?_eq_some_iff.mp listed).1).trans
        listed
  | begin =>
      exact current.begin
  | request call failure =>
      cases found : system.calls[call]? with
      | none =>
          have unmoved : system.advance h cfg (.request call failure) = system := by
            simp only [SyncSystem.advance, found]
          rw [unmoved]
          exact current
      | some phase =>
          rw [SyncSystem.advance_request found]
          have member := List.mem_of_getElem? found
          obtain ⟨move, carriesNext⟩ :=
            SyncPhase.step_moves (current.carries phase member) system failure
          refine ⟨fun other inCalls read isRead => ?_, fun other inCalls => ?_,
            move.newest found allowed current⟩
          · rcases List.mem_or_eq_of_mem_set inCalls with old | rfl
            · exact current.recorded other old read isRead
            · rw [move.read?_eq] at isRead
              exact current.recorded phase member read isRead
          · rcases List.mem_or_eq_of_mem_set inCalls with old | rfl
            · exact current.carries other old
            · exact carriesNext

end Interleaving

section Stored

variable {h : Handler}
variable {cfg : Config}

/-- All calls returned without an error, and this is their most recent list. -/
structure SyncSystem.Finished
    (system : SyncSystem)
    (newest : MappingRead) :
    Prop where
  returned : ∀ phase ∈ system.calls, ∃ read, phase = .succeeded read
  isRead : newest ∈ system.succeeded
  mostRecent : ∀ read ∈ system.succeeded, read.index ≤ newest.index

/--
In every run in which a write goes through only while no call with a more recent
list has returned, the stored value never falls behind a call that returned,
and it is the value of the most recent list when all calls have returned.
-/
theorem storedMapping_newest
    {start : Cluster}
    {vmiCache : List VirtualMachineInstance}
    {steps : List SyncStep}
    {system : SyncSystem}
    (execution :
      Execution (StepsOf (SyncSystem.advance h cfg) NoNewerSucceeded)
        { cluster := start, vmiCache := vmiCache } steps system) :
    (∀ read ∈ system.succeeded,
      ∃ newest ∈ system.succeeded,
        read.index ≤ newest.index ∧ system.cluster.HoldsMapping newest.value) ∧
      ∀ newest, system.Finished newest → system.cluster.HoldsMapping newest.value := by
  have current : system.Current h cfg := by
    refine execution.invariant (fun reached => reached.Current h cfg) ?_ ?_
    · exact ⟨by simp, by simp, fun anySucceeded => (anySucceeded rfl).elim⟩
    · rintro reached next step earlier ⟨allowed, rfl⟩
      exact earlier.advance allowed
  constructor
  · intro read member
    obtain ⟨newest, newestMember, latest, holds⟩ :=
      current.newest (List.ne_nil_of_mem member)
    exact ⟨newest, newestMember, latest read member, holds⟩
  · rintro mostRecent ⟨_, isRead, latest⟩
    obtain ⟨newest, newestMember, newestLatest, holds⟩ :=
      current.newest (List.ne_nil_of_mem isRead)
    have sameIndex : newest.index = mostRecent.index :=
      le_antisymm (latest newest newestMember) (newestLatest mostRecent isRead)
    -- Two calls that listed the same cache have the same list.
    obtain ⟨cache, there, vmis⟩ :=
      current.recorded _ (SyncSystem.mem_succeeded.mp isRead) mostRecent rfl
    obtain ⟨otherCache, otherThere, otherVmis⟩ :=
      current.recorded _ (SyncSystem.mem_succeeded.mp newestMember) newest rfl
    rw [sameIndex, there, Option.some.injEq] at otherThere
    subst otherThere
    have sameValue : mostRecent.value = newest.value := by
      rw [MappingRead.value, MappingRead.value, vmis, otherVmis]
    rw [sameValue]
    exact holds

/-- The cache before the race. -/
def raceStart : SyncSystem where
  cluster := {}
  vmiCache := [sampleInstance "vm1" "enp1s0"]

/-- Two calls list different caches and then send requests in some order. -/
def raceSteps (order : List Nat) : List SyncStep :=
  [.begin, .observe [sampleInstance "vm1" "enp2s0"], .begin] ++
    order.map fun call => .request call none

/-- The system after such a race. -/
def raceEnd (order : List Nat) : SyncSystem :=
  (raceSteps order).foldl (SyncSystem.advance sampleHandler sampleConfig) raceStart

/-- Both calls of a race returned, the later one with the second cache. -/
def SyncSystem.BothReturned (system : SyncSystem) : Prop :=
  (∀ phase ∈ system.calls, phase.answer.map Except.isOk = some true) ∧
    system.succeeded.map (fun read => (read.index, read.value)) =
      [(0, nadMappingValue [sampleInstance "vm1" "enp1s0"]),
        (1, nadMappingValue [sampleInstance "vm1" "enp2s0"])]

instance (system : SyncSystem) : Decidable system.BothReturned :=
  inferInstanceAs (Decidable (_ ∧ _))

instance (cluster : Cluster) (value : String) : Decidable (cluster.HoldsMapping value) :=
  inferInstanceAs (Decidable (_ ∧ _))

theorem SyncSystem.BothReturned.finished
    {system : SyncSystem}
    (both : system.BothReturned) :
    ∃ newest,
      system.Finished newest ∧
        newest.value = nadMappingValue [sampleInstance "vm1" "enp2s0"] := by
  obtain ⟨returned, reads⟩ := both
  obtain ⟨older, rest, members, olderRead, restReads⟩ := List.map_eq_cons_iff.mp reads
  obtain ⟨newest, rfl, newestRead⟩ := List.map_eq_singleton_iff.mp restReads
  rw [Prod.mk.injEq] at olderRead newestRead
  refine ⟨newest, ⟨fun phase member => ?_, by simp [members], fun read member => ?_⟩,
    newestRead.2⟩
  · have succeeded := returned phase member
    cases phase with
    | succeeded read =>
        exact ⟨read, rfl⟩
    | _ =>
        cases succeeded
  · rw [members] at member
    rcases List.mem_pair.mp member with rfl | rfl
    · omega
    · exact le_rfl

/-- When the older call writes first, the newer value is stored in the end. -/
theorem raceEnd_newest :
    ∃ newest,
      (raceEnd [0, 0, 1, 1]).Finished newest ∧
        (raceEnd [0, 0, 1, 1]).cluster.HoldsMapping newest.value := by
  have evaluated :
      allAllowed (SyncSystem.advance sampleHandler sampleConfig) NoNewerSucceeded
          raceStart (raceSteps [0, 0, 1, 1]) = true ∧
        (raceEnd [0, 0, 1, 1]).BothReturned := by
    decide +kernel
  obtain ⟨newest, finished, _⟩ := evaluated.2.finished
  exact ⟨newest, finished,
    (storedMapping_newest (execution_of_allAllowed evaluated.1)).2 newest finished⟩

/-- When the older call writes last, it overwrites the newer value. -/
theorem storedMapping_not_always_newest :
    ¬ ∀ (steps : List SyncStep) (system : SyncSystem) (newest : MappingRead),
        Execution
          (StepsOf (SyncSystem.advance sampleHandler sampleConfig) fun _ _ => True)
          raceStart steps system →
        system.Finished newest →
        system.cluster.HoldsMapping newest.value := by
  intro always
  have evaluated :
      (raceEnd [1, 1, 0, 0]).BothReturned ∧
        ¬ (raceEnd [1, 1, 0, 0]).cluster.HoldsMapping
          (nadMappingValue [sampleInstance "vm1" "enp2s0"]) := by
    decide +kernel
  obtain ⟨newest, finished, value⟩ := evaluated.1.finished
  have execution :
      Execution
        (StepsOf (SyncSystem.advance sampleHandler sampleConfig) fun _ _ => True)
        raceStart (raceSteps [1, 1, 0, 0]) (raceEnd [1, 1, 0, 0]) :=
    execution_of_allAllowed (by decide +kernel)
  have holds := always _ _ newest execution finished
  rw [value] at holds
  exact evaluated.2 holds

end Stored

end HarvesterCloudProvider
