import HarvesterCloudProvider.LoadBalancerManager
import HarvesterCloudProvider.VersionContest

namespace HarvesterCloudProvider

open Program

/-!
# Updating a service against other writers

The provider reads a service from its cache, changes a copy and sends it to the
API server, and starts over after a conflict.  Other clients write, delete and
recreate the service at any time, and the cache may be behind by any number of
versions.  The server commits an update only if the version of the sent object
is the current one, gives every write a new version, and commits nothing when
it answers with an error.
-/

section Generic

variable {State : Type}

/-- The body of the retry loop, for any cache and any server. -/
def retryFuncOn
    (cacheGet : String → String → Program State Err Service)
    (clientUpdate : Service → Program State Err Unit)
    (service : Service)
    (serviceType ip primaryLabel : String)
    (updateServiceObject : Service → String → String → Service) :
    Program State Err Unit := do
  let newService ←
    mapError
      (.wrap
        (s!"failed to get {serviceType} service " ++
          s!"{service.ns}/{service.name} to update ip {ip}, error: "))
      (cacheGet service.ns service.name)
  if newService.uid ≠ service.uid then
    fail (.errorf
      (s!"failed to get {serviceType} service " ++
        s!"{service.ns}/{service.name} to update ip {ip}, UID " ++
        s!"{service.uid} has changed to {newService.uid}"))
  else
    clientUpdate (updateServiceObject newService ip primaryLabel)

/-- `retryUpdateService`, for any cache and any server. -/
def retryUpdateServiceOn
    (cacheGet : String → String → Program State Err Service)
    (clientUpdate : Service → Program State Err Unit)
    (service : Service)
    (serviceType ip primaryLabel : String)
    (updateServiceObject : Service → String → String → Service) :
    Program State Err Unit :=
  mapError
    (.wrap
      (s!"failed to update {serviceType} service {service.ns}/{service.name} " ++
        s!"with ip {ip} after retry, last error: "))
    (retryWhile Err.isConflict
      (retryFuncOn cacheGet clientUpdate service serviceType ip primaryLabel
        updateServiceObject)
      (defaultBackoffSteps - 1))

/-- The manager's own loop is the one with its cache and its client. -/
theorem retryUpdateService_eq_on
    (service : Service)
    (serviceType ip primaryLabel : String)
    (updateServiceObject : Service → String → String → Service) :
    retryUpdateService service serviceType ip primaryLabel updateServiceObject =
      retryUpdateServiceOn localSvcCacheGet localSvcClientUpdate service serviceType ip
        primaryLabel updateServiceObject :=
  rfl

end Generic

section Changes

/-- A change of a service object that keeps its identity and its version. -/
structure ObjectUpdate where
  apply : Service → String → String → Service
  keepsId : ∀ service ip primaryLabel, (apply service ip primaryLabel).id = service.id
  keepsVersion :
    ∀ service ip primaryLabel,
      (apply service ip primaryLabel).resourceVersion = service.resourceVersion

/-- The change of a primary. -/
def primaryUpdate (resolvedIface : String) : ObjectUpdate where
  apply := updatePrimaryServiceObject resolvedIface
  keepsId := fun _ _ _ => rfl
  keepsVersion := fun _ _ _ => rfl

/-- The change of a secondary. -/
def secondaryUpdate (primary : Service) : ObjectUpdate where
  apply := updateSecondaryServiceObject primary
  keepsId := fun _ _ _ => rfl
  keepsVersion := fun _ _ _ => rfl

end Changes

section Race

/-- Services at the server: a write keeps the identity of the stored object. -/
def serviceKind : ObjectKind Service where
  versionOf := Service.resourceVersion
  withVersion service version := { service with resourceVersion := version }
  versionOf_withVersion _ _ := rfl
  admits before after := before.id = after.id

/-- `localSvcCache.Get`: some state that the server had. -/
def contestSvcCacheGet (_ns name : String) : Program (Contest serviceKind Err) Err Service :=
  Contest.cached (notFound "services" name)

/--
`localSvcClient.Update`: committed only if the version is the current one.  An
object with another UID conflicts as well.
-/
def contestSvcClientUpdate (service : Service) : Program (Contest serviceKind Err) Err Unit :=
  Contest.update (notFound "services" service.name) (conflicting "services" service.name)
    (conflicting "services" service.name) service

end Race

section Commits

/-- The one write of an attempt: the change of the object it replaces. -/
def CommitsOnce
    (update : ObjectUpdate)
    (service : Service)
    (ip primaryLabel : String)
    (contest : Contest serviceKind Err)
    (_ : Unit)
    (final : Contest serviceKind Err) :
    Prop :=
  ∃ (before : Service) (version : Nat),
    before.uid = service.uid ∧
      final.commits =
        contest.commits ++
          [{ before := before
             after :=
              { update.apply before ip primaryLabel with resourceVersion := version } }]

/-- A committed change of a cached service replaces that very service. -/
theorem contestSvcClientUpdate_ended
    {update : ObjectUpdate}
    {service seen : Service}
    {ip primaryLabel : String}
    {contest final : Contest serviceKind Err}
    {answer : Except Err Unit}
    (member : some seen ∈ contest.history.states)
    (sameUid : seen.uid = service.uid)
    (ran :
      contestSvcClientUpdate (update.apply seen ip primaryLabel) contest =
        (answer, final)) :
    Ended Contest.Idle (CommitsOnce update service ip primaryLabel) contest answer final := by
  have ended := Contest.update_ended (update.keepsVersion seen ip primaryLabel) member ran
  cases answer with
  | error error =>
      exact ended
  | ok done =>
      obtain ⟨-, version, committed⟩ := ended
      exact ⟨seen, version, sameUid, committed⟩

/-- One attempt commits the change of the current object or nothing. -/
theorem retryFuncOn_ended
    {update : ObjectUpdate}
    {service : Service}
    {serviceType ip primaryLabel : String}
    {contest final : Contest serviceKind Err}
    {answer : Except Err Unit}
    (ran :
      retryFuncOn contestSvcCacheGet contestSvcClientUpdate service serviceType ip
        primaryLabel update.apply contest = (answer, final)) :
    Ended Contest.Idle (CommitsOnce update service ip primaryLabel) contest answer final := by
  rcases bind_cases ran with ⟨error, failed, rfl⟩ | ⟨newService, reached, got, rest⟩
  · obtain ⟨cause, failed, -⟩ := mapError_error failed
    exact (Contest.cached_ended failed).1
  · obtain ⟨nothing, seen⟩ := Contest.cached_ended (mapError_ok.mp got)
    split at rest
    · simp only [fail_run, Prod.mk.injEq] at rest
      obtain ⟨rfl, rfl⟩ := rest
      exact nothing
    · rename_i sameUid
      have ended := contestSvcClientUpdate_ended (seen newService rfl) (not_not.mp sameUid) rest
      cases answer with
      | error error =>
          exact Contest.Idle.trans nothing ended
      | ok done =>
          obtain ⟨before, version, uid, committed⟩ := ended
          exact ⟨before, version, uid, by rw [committed, nothing]⟩

/--
Whatever other clients do and however far the cache is behind: a call that
succeeds has committed one write, which is its change of the object stored right
before, with the UID of the given service; a call that fails has committed
nothing.
-/
theorem retryUpdateService_commits_once
    (update : ObjectUpdate)
    (service : Service)
    (serviceType ip primaryLabel : String)
    (contest final : Contest serviceKind Err)
    (answer : Except Err Unit)
    (ran :
      retryUpdateServiceOn contestSvcCacheGet contestSvcClientUpdate service serviceType ip
        primaryLabel update.apply contest = (answer, final)) :
    (answer = .ok () → CommitsOnce update service ip primaryLabel contest () final) ∧
      (∀ error, answer = .error error → Contest.Idle contest final) ∧
      ∃ added,
        final.commits = contest.commits ++ added ∧
          ∀ commit ∈ added,
            commit.before.uid = service.uid ∧ commit.after.uid = service.uid := by
  have looped
      {result : Except Err Unit}
      (loop :
        retryWhile Err.isConflict
          (retryFuncOn contestSvcCacheGet contestSvcClientUpdate service serviceType ip
            primaryLabel update.apply) (defaultBackoffSteps - 1) contest =
          (result, final)) :
      Ended Contest.Idle (CommitsOnce update service ip primaryLabel) contest result
        final := by
    refine retryWhile_ended ?_ ?_ (fun _ _ _ once => retryFuncOn_ended once) _ loop
    · intro first second third earlier later
      exact earlier.trans later
    · rintro first second third ⟨⟩ earlier ⟨before, version, uid, committed⟩
      exact ⟨before, version, uid, by rw [committed, earlier]⟩
  cases answer with
  | error error =>
      obtain ⟨cause, failed, -⟩ := mapError_error ran
      have nothing := looped failed
      refine ⟨nofun, fun _ _ => nothing, [], ?_, by simp⟩
      rw [List.append_nil]
      exact nothing
  | ok done =>
      have once := looped (mapError_ok.mp ran)
      refine ⟨fun _ => once, nofun, ?_⟩
      obtain ⟨before, version, uid, committed⟩ := once
      refine ⟨_, committed, ?_⟩
      intro commit member
      rw [List.mem_singleton] at member
      subst member
      have sameId := congrArg ServiceId.uid (update.keepsId before ip primaryLabel)
      exact ⟨uid, sameId.trans uid⟩

/-- A stored secondary. -/
def racedService : Service where
  ns := "default"
  name := "api"
  uid := "uid-1"

/-- Another client writes before the first update, and the second attempt succeeds. -/
def sampleRace : Contest serviceKind Err where
  history := Contest.stored VersionHistory.empty racedService
  turns :=
    [{},
      { others := [some { racedService with annotations := NilableMap.write none "a" "b" }] },
      {}]

/-- After one conflict the change of the other client is kept. -/
theorem sampleRace_commits_once :
    CommitsOnce (secondaryUpdate { racedService with name := "web" }) racedService
      "10.0.0.1" "default.web" sampleRace ()
      (retryUpdateServiceOn contestSvcCacheGet contestSvcClientUpdate racedService
        "secondary" "10.0.0.1" "default.web"
        (secondaryUpdate { racedService with name := "web" }).apply sampleRace).2 := by
  have succeeded :
      (retryUpdateServiceOn contestSvcCacheGet contestSvcClientUpdate racedService
        "secondary" "10.0.0.1" "default.web"
        (secondaryUpdate { racedService with name := "web" }).apply sampleRace).1 =
          .ok () := by
    decide +kernel
  exact
    (retryUpdateService_commits_once (secondaryUpdate { racedService with name := "web" })
      racedService "secondary" "10.0.0.1" "default.web" sampleRace _ _ rfl).1 succeeded

end Commits

end HarvesterCloudProvider
