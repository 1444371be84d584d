import HarvesterCloudProvider.LoadBalancerCleanup
import HarvesterCloudProvider.PortSharing

namespace HarvesterCloudProvider

open Program

/-!
# The service controller and its finalizer

The service controller of the framework puts a finalizer on a service before it
asks the provider for a load balancer, and takes it away after the cleanup.  A
service with a finalizer stays stored when a user deletes it, so that its load
balancer is not forgotten.  The controller also keeps the services it has seen
in memory, which a restart loses.

A run interleaves users, the other controllers, node changes and the service
controller.  The provider calls a load balancer missing that has no address yet,
and does nothing for the deletion of a service that shares another one.  Where
no cleanup meets one of these two cases, every load balancer belongs to a stored
service with the finalizer, in every state of every run.
-/

section Objects

def loadBalancerCleanupFinalizer : String :=
  "service.kubernetes.io/load-balancer-cleanup"

/-- What the service controller reads in a service and the provider does not. -/
structure ServiceMeta where
  finalizers : List String := []
  deletionTimestamp : Option Nat := none
  loadBalancerClass : Option String := none
  deriving Repr, DecidableEq

/-- `HasLBFinalizer`. -/
def ServiceMeta.hasLBFinalizer (metadata : ServiceMeta) : Bool :=
  metadata.finalizers.any fun finalizer => finalizer = loadBalancerCleanupFinalizer

/-- `wantsLoadBalancer`. -/
def wantsLoadBalancer (service : Service) (metadata : ServiceMeta) : Bool :=
  service.serviceType = .loadBalancer && metadata.loadBalancerClass.isNone

/-- `needsCleanup`. -/
def needsCleanup (service : Service) (metadata : ServiceMeta) : Bool :=
  metadata.hasLBFinalizer &&
    (metadata.deletionTimestamp.isSome || service.serviceType ≠ .loadBalancer)

/-- `removeString`. -/
def removeString (slice : List String) (s : String) : List String :=
  slice.filter fun item => item ≠ s

/-- The objects that one synchronisation works on. -/
structure ServiceSession where
  session : Session
  metadata : String → ServiceMeta
  /-- The services that the controller has seen. -/
  cache : Std.ExtTreeMap String (Service × ServiceMeta)
  /-- Whether the coming patches fail on their own. -/
  patchFailures : List (Option Failure) := []

/-- Run a call of the provider. -/
def provider
    {Answer : Type}
    (program : Program Session Err Answer) :
    Program ServiceSession Err Answer :=
  zoom ServiceSession.session (fun session state => { state with session := session }) program

end Objects

section Patches

/-- The answer to a change that the server does not admit. -/
def invalidService (name : String) : Err where
  reason := .invalid
  message := "Service " ++ quote name ++ " is invalid"

/-- `PatchService` of a stored service, if the server admits the change. -/
def patchService
    (service : Service)
    (admits : ServiceMeta → Bool)
    (change : ServiceSession → ServiceSession) :
    Program ServiceSession Err Unit :=
  fun state =>
    let later := { state with patchFailures := state.patchFailures.tail }
    match state.patchFailures.headD none with
    | some failure => (.error failure.toErr, later)
    | none =>
        match state.session.cluster.services.get? service.key with
        | none => (.error (notFound "services" service.name), later)
        | some _ =>
            if admits (state.metadata service.key) then
              (.ok (), change later)
            else
              (.error (invalidService service.name), later)

/-- Change the finalizers; an object that waits for its last one goes away. -/
def ServiceSession.withFinalizers
    (state : ServiceSession)
    (key : String)
    (change : List String → List String) :
    ServiceSession :=
  let finalizers := change (state.metadata key).finalizers
  { state with
    metadata :=
      Function.update state.metadata key
        { state.metadata key with finalizers := finalizers }
    session :=
      if (state.metadata key).deletionTimestamp.isSome ∧ finalizers = [] then
        { state.session with cluster := state.session.cluster.remove key }
      else
        state.session }

/-- `addFinalizer`; the server takes no new finalizer for an object in deletion. -/
def addFinalizer (service : Service) (metadata : ServiceMeta) :
    Program ServiceSession Err Unit :=
  if metadata.hasLBFinalizer then
    pure ()
  else
    patchService service (fun stored => stored.deletionTimestamp.isNone) fun state =>
      state.withFinalizers service.key fun finalizers =>
        finalizers ++ [loadBalancerCleanupFinalizer]

/-- `removeFinalizer`. -/
def removeFinalizer (service : Service) (metadata : ServiceMeta) :
    Program ServiceSession Err Unit :=
  if metadata.hasLBFinalizer then
    patchService service (fun _ => true) fun state =>
      state.withFinalizers service.key fun finalizers =>
        removeString finalizers loadBalancerCleanupFinalizer
  else
    pure ()

/-- `patchStatus`. -/
def patchStatus
    (service : Service)
    (previousStatus newStatus : LoadBalancerStatus) :
    Program ServiceSession Err Unit :=
  if previousStatus.ingress = newStatus.ingress then
    pure ()
  else
    patchService service (fun _ => true) fun state =>
      { state with
        session :=
          { state.session with
            cluster :=
              state.session.cluster.react
                (.assignIngress service.key newStatus.ingress) } }

/-- `patchStatus` with the errors that the controller does not retry. -/
def patchStatusIfFound
    (service : Service)
    (previousStatus newStatus : LoadBalancerStatus) :
    Program ServiceSession Err Unit := do
  match ← attempt (patchStatus service previousStatus newStatus) with
  | .ok _ => pure ()
  | .error error =>
      if error.isNotFound then
        pure ()
      else
        fail (.errorf ("failed to update load balancer status: " ++ error.message))

end Patches

section Controller

variable (l : LoadBalancerManager)
variable (clusterName : String)

/-- What a synchronisation did. -/
inductive LoadBalancerOperation where
  | deleteLoadBalancer
  | ensureLoadBalancer
  deriving Repr, DecidableEq

/-- The deleting branch of `syncLoadBalancerIfNeeded`, up to the finalizer. -/
def deleteIfExists (service : Service) : Program Session Err Unit := do
  match ←
    mapError
      (fun error =>
        .errorf ("failed to check if load balancer exists before cleanup: " ++ error.message))
      (getLoadBalancer clusterName service) with
  | none => pure ()
  | some _ =>
      mapError (fun error => .errorf ("failed to delete load balancer: " ++ error.message))
        (LoadBalancerManager.ensureLoadBalancerDeleted clusterName service)

/-- `syncLoadBalancerIfNeeded` with its patches. -/
def syncLoadBalancer
    (service : Service)
    (metadata : ServiceMeta) :
    Program ServiceSession Err LoadBalancerOperation :=
  if !wantsLoadBalancer service metadata || needsCleanup service metadata then do
    provider (deleteIfExists clusterName service)
    mapError
      (fun error =>
        .errorf ("failed to remove load balancer cleanup finalizer: " ++ error.message))
      (removeFinalizer service metadata)
    patchStatusIfFound service service.loadBalancer {}
    return .deleteLoadBalancer
  else do
    mapError
      (fun error =>
        .errorf ("failed to add load balancer cleanup finalizer: " ++ error.message))
      (addFinalizer service metadata)
    let newStatus ←
      mapError (.wrap "failed to ensure load balancer: ")
        (provider (l.ensureLoadBalancer clusterName service))
    patchStatusIfFound service service.loadBalancer newStatus
    return .ensureLoadBalancer

/-- `processLoadBalancerDelete`. -/
def processLoadBalancerDelete
    (service : Service)
    (metadata : ServiceMeta) :
    Program ServiceSession Err Unit :=
  if wantsLoadBalancer service metadata then
    provider (LoadBalancerManager.ensureLoadBalancerDeleted clusterName service)
  else
    pure ()

/-- Change the cache of the controller. -/
def changeCache
    (change :
      Std.ExtTreeMap String (Service × ServiceMeta) →
        Std.ExtTreeMap String (Service × ServiceMeta)) :
    Program ServiceSession Err Unit :=
  fun state => (.ok (), { state with cache := change state.cache })

/-- The load balancer of a service that was recreated in the meantime is deleted. -/
def deleteRecreated (key : String) (service : Service) : Program ServiceSession Err Unit :=
  fun state =>
    match state.cache[key]? with
    | none => (.ok (), state)
    | some (cached, cachedMeta) =>
        if cached.uid ≠ service.uid then
          processLoadBalancerDelete clusterName cached cachedMeta state
        else
          (.ok (), state)

/-- `processServiceCreateOrUpdate`. -/
def processServiceCreateOrUpdate
    (key : String)
    (service : Service)
    (metadata : ServiceMeta) :
    Program ServiceSession Err Unit := do
  deleteRecreated clusterName key service
  changeCache fun cache => cache.insert key (service, metadata)
  let op ← syncLoadBalancer l clusterName service metadata
  if op = .deleteLoadBalancer then
    changeCache fun cache => cache.erase key
  else
    pure ()

/-- `processServiceDeletion`. -/
def processServiceDeletion (key : String) : Program ServiceSession Err Unit :=
  fun state =>
    match state.cache[key]? with
    | none => (.ok (), state)
    | some (cached, cachedMeta) =>
        (do
          processLoadBalancerDelete clusterName cached cachedMeta
          changeCache fun cache => cache.erase key : Program ServiceSession Err Unit) state

/-- `syncService` with an informer that has caught up. -/
def syncService (key : String) : Program ServiceSession Err Unit :=
  fun state =>
    match state.session.cluster.services.get? key with
    | none => processServiceDeletion clusterName key state
    | some service =>
        processServiceCreateOrUpdate l clusterName key service (state.metadata key) state

/-- `lockedUpdateLoadBalancerHosts`: only an existing load balancer makes an error. -/
def lockedUpdateLoadBalancerHosts (service : Service) : Program Session Err Unit := do
  match ← attempt (l.updateLoadBalancer clusterName service) with
  | .ok _ => pure ()
  | .error error =>
      match ← attempt (getLoadBalancer clusterName service) with
      | .ok none => pure ()
      | _ => fail error

/-- `nodeSyncService` of a service that was listed before, after the nodes have changed. -/
def nodeSyncService (service : Service) (metadata : ServiceMeta) :
    Program ServiceSession Err Unit :=
  if wantsLoadBalancer service metadata then
    provider (lockedUpdateLoadBalancerHosts l clusterName service)
  else
    pure ()

end Controller

section Runs

/-- The objects between two synchronisations. -/
structure ServiceSystem where
  cluster : Cluster := {}
  metadata : String → ServiceMeta := fun _ => {}
  cache : Std.ExtTreeMap String (Service × ServiceMeta) := ∅

/-- One step of a run. -/
inductive ServiceStep where
  /-- A user creates a service. -/
  | create (service : Service) (metadata : ServiceMeta)
  /-- A user changes a service and its load balancer class. -/
  | edit (key : String) (change : UserEdit) (loadBalancerClass : Option String)
  /-- A user deletes a service. -/
  | delete (key : String) (timestamp : Nat)
  /-- Another controller acts. -/
  | environment (action : EnvironmentAction)
  /-- The service controller synchronises a key. -/
  | sync (key : String) (ticks : List Tick) (patchFailures : List (Option Failure))
  /-- The nodes have changed, and the service controller comes to a listed service. -/
  | nodeSync (service : Service) (metadata : ServiceMeta) (ticks : List Tick)
  /-- The service controller starts again. -/
  | restart

namespace ServiceSystem

/-- Start the requests of a synchronisation. -/
def begin
    (system : ServiceSystem)
    (ticks : List Tick)
    (patchFailures : List (Option Failure)) :
    ServiceSession where
  session := { cluster := system.cluster, ticks := ticks }
  metadata := system.metadata
  cache := system.cache
  patchFailures := patchFailures

end ServiceSystem

/-- What a synchronisation leaves. -/
def ServiceSession.finish (state : ServiceSession) : ServiceSystem where
  cluster := state.session.cluster
  metadata := state.metadata
  cache := state.cache

/-- The effect of one step. -/
def ServiceSystem.advance
    (l : LoadBalancerManager)
    (clusterName : String)
    (system : ServiceSystem) :
    ServiceStep → ServiceSystem
  | .create service metadata =>
      match system.cluster.services.get? service.key with
      | some _ => system
      | none =>
          { system with
            cluster := system.cluster.create service
            metadata :=
              Function.update system.metadata service.key
                { metadata with deletionTimestamp := none } }
  | .edit key change loadBalancerClass =>
      { system with
        cluster := system.cluster.edit key change
        metadata :=
          Function.update system.metadata key
            { system.metadata key with loadBalancerClass := loadBalancerClass } }
  | .delete key timestamp =>
      if (system.metadata key).finalizers = [] then
        { system with cluster := system.cluster.remove key }
      else
        { system with
          metadata :=
            Function.update system.metadata key
              { system.metadata key with deletionTimestamp := some timestamp } }
  | .environment action => { system with cluster := system.cluster.react action }
  | .sync key ticks patchFailures =>
      (syncService l clusterName key (system.begin ticks patchFailures)).2.finish
  | .nodeSync service metadata ticks =>
      (nodeSyncService l clusterName service metadata (system.begin ticks [])).2.finish
  | .restart => { system with cache := ∅ }

end Runs

section ProviderCalls

variable {l : LoadBalancerManager}
variable {clusterName : String}
variable {service : Service}

/-- Which services a view has. -/
def View.ids (view : View) (key : String) : Option ServiceId :=
  (view.services key).map Service.id

/-- Writing a stored service under its identity keeps all identities. -/
theorem View.ids_update
    {view : View}
    {current updated : Service}
    (stored : view.services updated.key = some current.content)
    (sameId : updated.id = current.id) :
    View.ids
        { view with
          services := Function.update view.services updated.key (some updated.content) } =
      view.ids := by
  funext key
  unfold View.ids
  dsimp only
  by_cases own : key = updated.key
  · subst own
    rw [Function.update_self, stored]
    exact congrArg some sameId
  · rw [Function.update_of_ne own]

/-- A reconcile keeps the identities of all services. -/
theorem EnsureOutcome.ids_eq
    {view : View}
    {events : List Event}
    {succeeded : Bool}
    (outcome : EnsureOutcome l clusterName service view events succeeded) :
    ((writes events).foldl (fun reached request => request.apply reached) view).ids =
      view.ids := by
  have sameServices
      {after : View}
      (same : after.services = view.services) :
      after.ids = view.ids := by
    unfold View.ids
    rw [same]
  cases succeeded with
  | false =>
      exact sameServices outcome.services_of_failed
  | true =>
      cases outcome with
      | primary unset inner =>
          cases inner with
          | confirmed _ put _ written =>
              obtain ⟨lb, applied⟩ := put.apply_eq
              rw [written, List.foldl_cons, List.foldl_nil, applied]
              exact sameServices rfl
          | @published _ current iface ip _ put refetched written =>
              obtain ⟨lb, applied⟩ := put.apply_eq
              rw [written, List.foldl_cons, applied]
              exact @View.ids_update _ current _
                ((congrArg view.services refetched.sameKey).trans refetched.stored) rfl
      | secondary resolved inner =>
          cases inner with
          | confirmed _ removed _ written =>
              rw [written, removed.apply_eq]
              exact sameServices rfl
          | @published _ current ip _ removed refetched written =>
              rw [written, List.foldl_append, removed.apply_eq]
              exact @View.ids_update _ current _
                ((congrArg view.services refetched.sameKey).trans refetched.stored) rfl

/-- The deletion only takes load balancers away. -/
theorem EnsureDeletedOutcome.loadBalancers_of_some
    {view : View}
    {events : List Event}
    {succeeded : Bool}
    (outcome : EnsureDeletedOutcome clusterName service view events succeeded)
    {name : LBName}
    {lb : LoadBalancer}
    (stored :
      ((writes events).foldl (fun reached request => request.apply reached)
        view).loadBalancers name = some lb) :
    view.loadBalancers name = some lb := by
  cases outcome with
  | unresolved _ reads =>
      rw [writes_eq_nil_of_reads reads] at stored
      exact stored
  | secondary _ reads =>
      rw [writes_eq_nil_of_reads reads] at stored
      exact stored
  | primary _ inner =>
      cases inner with
      | absent _ _ written =>
          rw [written] at stored
          exact stored
      | refused _ written =>
          rw [written] at stored
          exact stored
      | deleted _ _ written =>
          rw [written] at stored
          by_cases own : name = service.loadBalancerName clusterName
          · rw [own] at stored
            have gone := Function.update_self (service.loadBalancerName clusterName)
              (none : Option LoadBalancer) view.loadBalancers
            cases gone.symm.trans stored
          · exact (Function.update_of_ne own _ _).symm.trans stored

/-- Only load balancers go away. -/
structure Session.LosesOnly (before after : Session) : Prop where
  services : after.cluster.view.services = before.cluster.view.services
  loadBalancers :
    ∀ name lb,
      after.cluster.view.loadBalancers name = some lb →
      before.cluster.view.loadBalancers name = some lb

instance : Std.Refl Session.LosesOnly where
  refl _ := ⟨rfl, fun _ _ stored => stored⟩

instance : IsTrans Session Session.LosesOnly where
  trans _ _ _ earlier later :=
    ⟨later.services.trans earlier.services,
      fun name lb stored => earlier.loadBalancers name lb (later.loadBalancers name lb stored)⟩

theorem Session.LosesOnly.of_view_eq
    {before after : Session}
    (same : after.cluster.view = before.cluster.view) :
    before.LosesOnly after :=
  ⟨congrArg View.services same, fun _ _ stored => by rw [← same]; exact stored⟩

theorem getLoadBalancer_losesOnly (service : Service) :
    Respects Session.LosesOnly (getLoadBalancer clusterName service) := by
  intro session
  obtain ⟨_, _, _, sameView⟩ :=
    observed_events (getLoadBalancer_observes clusterName service) (Prod.eta _).symm
  exact .of_view_eq sameView

theorem ensureLoadBalancerDeleted_losesOnly (service : Service) :
    Respects Session.LosesOnly
      (LoadBalancerManager.ensureLoadBalancerDeleted clusterName service) := by
  intro session
  obtain ⟨events, ran, outcome⟩ :=
    @ensureLoadBalancerDeleted_outcome clusterName service session _ _ (Prod.eta _).symm
  refine ⟨?_, fun name lb stored => ?_⟩
  · rw [ran.view_eq]
    exact outcome.services_eq
  · rw [ran.view_eq] at stored
    exact outcome.loadBalancers_of_some stored

theorem deleteIfExists_losesOnly (service : Service) :
    Respects Session.LosesOnly (deleteIfExists clusterName service) := by
  refine .bind (getLoadBalancer_losesOnly service).mapError fun status => ?_
  cases status with
  | none =>
      exact .pure ()
  | some found =>
      exact (ensureLoadBalancerDeleted_losesOnly service).mapError

/-- Where it succeeds, it does what the cleanup does. -/
theorem cleanup_of_deleteIfExists
    {session final : Session}
    (ran : deleteIfExists clusterName service session = (.ok (), final)) :
    cleanup clusterName service session = (.ok (), final) := by
  obtain ⟨status, reached, looked, rest⟩ := bind_ok.mp ran
  refine bind_ok.mpr ⟨status, reached, mapError_ok.mp looked, ?_⟩
  cases status with
  | none =>
      exact rest
  | some found =>
      exact mapError_ok.mp rest

/-- Only load balancers go away; services and their metadata stay. -/
structure ServiceSession.LosesOnly (before after : ServiceSession) : Prop where
  metadata : after.metadata = before.metadata
  session : before.session.LosesOnly after.session

instance : Std.Refl ServiceSession.LosesOnly where
  refl state := ⟨rfl, refl_of Session.LosesOnly state.session⟩

instance : IsTrans ServiceSession ServiceSession.LosesOnly where
  trans _ _ _ earlier later :=
    ⟨later.metadata.trans earlier.metadata,
      trans_of Session.LosesOnly earlier.session later.session⟩

theorem provider_losesOnly
    {Answer : Type}
    {program : Program Session Err Answer}
    (loses : Respects Session.LosesOnly program) :
    Respects ServiceSession.LosesOnly (provider program) :=
  fun state => ⟨rfl, loses state.session⟩

theorem processLoadBalancerDelete_losesOnly (service : Service) (metadata : ServiceMeta) :
    Respects ServiceSession.LosesOnly
      (processLoadBalancerDelete clusterName service metadata) := by
  unfold processLoadBalancerDelete
  split
  · exact provider_losesOnly (ensureLoadBalancerDeleted_losesOnly service)
  · exact .pure ()

theorem changeCache_losesOnly
    (change :
      Std.ExtTreeMap String (Service × ServiceMeta) →
        Std.ExtTreeMap String (Service × ServiceMeta)) :
    Respects ServiceSession.LosesOnly (changeCache change) :=
  fun state => ⟨rfl, refl_of Session.LosesOnly state.session⟩

theorem deleteRecreated_losesOnly (key : String) (service : Service) :
    Respects ServiceSession.LosesOnly (deleteRecreated clusterName key service) := by
  intro state
  unfold deleteRecreated
  split
  · exact refl_of ServiceSession.LosesOnly state
  · split
    · exact processLoadBalancerDelete_losesOnly _ _ state
    · exact refl_of ServiceSession.LosesOnly state

theorem processServiceDeletion_losesOnly (key : String) :
    Respects ServiceSession.LosesOnly (processServiceDeletion clusterName key) := by
  intro state
  unfold processServiceDeletion
  split
  · exact refl_of ServiceSession.LosesOnly state
  · exact
      Respects.bind (processLoadBalancerDelete_losesOnly _ _)
        (fun _ => changeCache_losesOnly _) state

end ProviderCalls

section Guarding

variable {l : LoadBalancerManager}
variable {clusterName : String}
variable {service : Service}
variable {metadata : ServiceMeta}

/-- Every load balancer belongs to a stored service with the finalizer. -/
def Guarded
    (clusterName : String)
    (view : View)
    (metadata : String → ServiceMeta) :
    Prop :=
  ∀ name lb,
    view.loadBalancers name = some lb →
    ∃ key id,
      view.ids key = some id ∧
        id.loadBalancerName clusterName = name ∧
        (metadata key).hasLBFinalizer = true

/-- `Guarded` for the objects of a synchronisation. -/
def ServiceSession.Guarded (clusterName : String) (state : ServiceSession) : Prop :=
  HarvesterCloudProvider.Guarded clusterName state.session.cluster.view state.metadata

theorem ServiceSession.LosesOnly.guarded
    {before after : ServiceSession}
    (loses : before.LosesOnly after)
    (guarded : before.Guarded clusterName) :
    after.Guarded clusterName := by
  intro name lb stored
  obtain ⟨key, id, isId, sameName, marked⟩ :=
    guarded name lb (loses.session.loadBalancers name lb stored)
  refine ⟨key, id, ?_, sameName, ?_⟩
  · unfold View.ids
    rw [loses.session.services]
    exact isId
  · rw [loses.metadata]
    exact marked

/-- A reconcile of a service with the finalizer keeps the load balancers guarded. -/
theorem Guarded.of_ensureOutcome
    {view : View}
    {events : List Event}
    {succeeded : Bool}
    {metadata : String → ServiceMeta}
    (guarded : Guarded clusterName view metadata)
    (outcome : EnsureOutcome l clusterName service view events succeeded)
    (stored : view.ids service.key = some service.id)
    (marked : (metadata service.key).hasLBFinalizer = true) :
    Guarded clusterName
      ((writes events).foldl (fun reached request => request.apply reached) view)
      metadata := by
  intro name lb found
  rw [outcome.ids_eq]
  by_cases own : name = service.loadBalancerName clusterName
  · exact ⟨service.key, service.id, stored, own.symm, marked⟩
  · rw [outcome.callWrites.loadBalancers_of_ne own] at found
    exact guarded name lb found

/-- More finalizers of the controller guard no less. -/
theorem Guarded.mono
    {view : View}
    {before after : String → ServiceMeta}
    (guarded : Guarded clusterName view before)
    (more : ∀ key, (before key).hasLBFinalizer = true → (after key).hasLBFinalizer = true) :
    Guarded clusterName view after := by
  intro name lb stored
  obtain ⟨key, id, isId, sameName, marked⟩ := guarded name lb stored
  exact ⟨key, id, isId, sameName, more key marked⟩

/--
Once the load balancer of a service is gone, its finalizer is not needed any
more, and neither is the service.
-/
theorem Guarded.release
    {before after : View}
    {marks later : String → ServiceMeta}
    {key : String}
    (guarded : Guarded clusterName before marks)
    (absent :
      ∀ id,
        before.ids key = some id →
        before.loadBalancers (id.loadBalancerName clusterName) = none)
    (sameLoadBalancers : after.loadBalancers = before.loadBalancers)
    (others :
      ∀ other,
        other ≠ key →
        after.ids other = before.ids other ∧ later other = marks other) :
    Guarded clusterName after later := by
  intro name lb stored
  rw [sameLoadBalancers] at stored
  obtain ⟨owner, id, isId, sameName, marked⟩ := guarded name lb stored
  by_cases own : owner = key
  · subst own
    have gone := absent id isId
    rw [sameName, stored] at gone
    cases gone
  · obtain ⟨sameId, sameMeta⟩ := others owner own
    exact ⟨owner, id, sameId.trans isId, sameName, by rw [sameMeta]; exact marked⟩

/-- A patch fails and changes nothing, or it changes a stored service. -/
theorem patchService_cases
    {admits : ServiceMeta → Bool}
    {change : ServiceSession → ServiceSession}
    {state final : ServiceSession}
    {answer : Except Err Unit}
    (ran : patchService service admits change state = (answer, final)) :
    (∃ error, answer = .error error ∧
        final = { state with patchFailures := state.patchFailures.tail }) ∨
      (answer = .ok () ∧
        final = change { state with patchFailures := state.patchFailures.tail }) := by
  unfold patchService at ran
  dsimp only at ran
  split at ran
  · cases ran
    exact .inl ⟨_, rfl, rfl⟩
  · split at ran
    · cases ran
      exact .inl ⟨_, rfl, rfl⟩
    · split at ran
      · cases ran
        exact .inr ⟨rfl, rfl⟩
      · cases ran
        exact .inl ⟨_, rfl, rfl⟩

theorem patchStatusIfFound_losesOnly
    (service : Service)
    (previousStatus newStatus : LoadBalancerStatus) :
    Respects ServiceSession.LosesOnly
      (patchStatusIfFound service previousStatus newStatus) := by
  refine .bind (Respects.attempt ?_) fun answer => ?_
  · unfold patchStatus
    split
    · exact .pure ()
    · intro state
      rcases patchService_cases (Prod.eta _).symm with ⟨_, -, final⟩ | ⟨-, final⟩
      · rw [final]
        exact ⟨rfl, refl_of Session.LosesOnly state.session⟩
      · rw [final]
        exact ⟨rfl, .of_view_eq (Cluster.view_react _ _)⟩
  · cases answer with
    | ok done =>
        exact .pure ()
    | error error =>
        exact .pure_or_fail () _

/-- After it was added, the finalizer is there. -/
theorem addFinalizer_guarded
    {state final : ServiceSession}
    {answer : Except Err Unit}
    (guarded : state.Guarded clusterName)
    (current : state.metadata service.key = metadata)
    (ran : addFinalizer service metadata state = (answer, final)) :
    final.Guarded clusterName ∧
      final.session = state.session ∧
      (answer = .ok () → (final.metadata service.key).hasLBFinalizer = true) := by
  unfold addFinalizer at ran
  split at ran
  · rename_i marked
    cases ran
    exact ⟨guarded, rfl, fun _ => by rw [current]; exact marked⟩
  · rcases patchService_cases ran with ⟨error, rfl, rfl⟩ | ⟨rfl, rfl⟩
    · exact ⟨guarded, rfl, fun same => by cases same⟩
    · have kept :
          ¬ ((state.metadata service.key).deletionTimestamp.isSome ∧
            (state.metadata service.key).finalizers ++ [loadBalancerCleanupFinalizer] = []) := by
        simp
      have session :
          (ServiceSession.withFinalizers
            { state with patchFailures := state.patchFailures.tail } service.key
            fun finalizers => finalizers ++ [loadBalancerCleanupFinalizer]).session =
            state.session :=
        if_neg kept
      have marked :
          ((ServiceSession.withFinalizers
            { state with patchFailures := state.patchFailures.tail } service.key
            fun finalizers => finalizers ++ [loadBalancerCleanupFinalizer]).metadata
              service.key).hasLBFinalizer = true := by
        simp [ServiceSession.withFinalizers, ServiceMeta.hasLBFinalizer]
      refine ⟨?_, session, fun _ => marked⟩
      unfold ServiceSession.Guarded
      rw [session]
      refine Guarded.mono guarded fun key hasFinalizer => ?_
      by_cases own : key = service.key
      · rw [own]
        exact marked
      · have same :
            (ServiceSession.withFinalizers
              { state with patchFailures := state.patchFailures.tail } service.key
              fun finalizers => finalizers ++ [loadBalancerCleanupFinalizer]).metadata key =
              state.metadata key :=
          Function.update_of_ne own _ _
        rw [same]
        exact hasFinalizer

/-- The finalizer may go once the load balancer is gone. -/
theorem removeFinalizer_guarded
    {state final : ServiceSession}
    {answer : Except Err Unit}
    (guarded : state.Guarded clusterName)
    (absent :
      metadata.hasLBFinalizer = true →
      ∀ id,
        state.session.cluster.view.ids service.key = some id →
        state.session.cluster.view.loadBalancers (id.loadBalancerName clusterName) = none)
    (ran : removeFinalizer service metadata state = (answer, final)) :
    final.Guarded clusterName := by
  unfold removeFinalizer at ran
  split at ran
  · rename_i marked
    rcases patchService_cases ran with ⟨error, rfl, rfl⟩ | ⟨rfl, rfl⟩
    · exact guarded
    · refine Guarded.release guarded (absent marked) ?_ fun other different => ?_
      · unfold ServiceSession.withFinalizers
        dsimp only
        split <;> rfl
      · refine ⟨?_, Function.update_of_ne different _ _⟩
        unfold ServiceSession.withFinalizers View.ids
        dsimp only
        split
        · rw [Cluster.view_remove_services different]
        · rfl
  · cases ran
    exact guarded

/-- Whether a synchronisation cleans up. -/
def cleansUp (service : Service) (metadata : ServiceMeta) : Bool :=
  !wantsLoadBalancer service metadata || needsCleanup service metadata

/-- A load balancer that the cleanup of a service sees and deletes. -/
def Visible (service : Service) (lb : LoadBalancer) : Prop :=
  service.annotations.lookup keyPrimaryService = none ∧ lb.status.address ≠ ""

instance (service : Service) (lb : LoadBalancer) : Decidable (Visible service lb) :=
  inferInstanceAs (Decidable (_ ∧ _))

/-- After a cleanup that succeeds there is no load balancer, if it was visible. -/
theorem deleteIfExists_absent
    {session final : Session}
    (visible :
      ∀ lb,
        session.cluster.view.loadBalancers (service.loadBalancerName clusterName) = some lb →
        Visible service lb)
    (ran : deleteIfExists clusterName service session = (.ok (), final)) :
    final.cluster.view.loadBalancers (service.loadBalancerName clusterName) = none := by
  cases stored :
      session.cluster.view.loadBalancers (service.loadBalancerName clusterName) with
  | none =>
      have loses := (deleteIfExists_losesOnly service).of_run ran
      refine Option.eq_none_iff_forall_ne_some.mpr fun lb found => ?_
      have before := loses.loadBalancers _ lb found
      rw [stored] at before
      cases before
  | some lb =>
      have unset := (visible lb stored).1
      refine cleanup_absent_of_addressed unset (fun other found => ?_)
        (cleanup_of_deleteIfExists ran)
      exact (visible other found).2

/-- Publishing a status at the end keeps the load balancers guarded. -/
theorem patchStatusIfFound_guarded
    {state final : ServiceSession}
    {newStatus : LoadBalancerStatus}
    {op : LoadBalancerOperation}
    {answer : Except Err LoadBalancerOperation}
    (guarded : state.Guarded clusterName)
    (ran :
      (do
        patchStatusIfFound service service.loadBalancer newStatus
        return op : Program ServiceSession Err LoadBalancerOperation) state =
        (answer, final)) :
    final.Guarded clusterName := by
  have loses := patchStatusIfFound_losesOnly service service.loadBalancer newStatus
  rcases bind_cases ran with ⟨error, failed, rfl⟩ | ⟨_, patched, patches, ended⟩
  · exact (loses.of_run failed).guarded guarded
  · cases ended
    exact (loses.of_run patches).guarded guarded

/-- A call of the provider for a service with the finalizer keeps the load balancers guarded. -/
theorem ensureLoadBalancer_guarded
    {state final : ServiceSession}
    {answer : Except Err LoadBalancerStatus}
    (guarded : state.Guarded clusterName)
    (stored : state.session.cluster.view.ids service.key = some service.id)
    (marked : (state.metadata service.key).hasLBFinalizer = true)
    (ran : provider (l.ensureLoadBalancer clusterName service) state = (answer, final)) :
    final.Guarded clusterName := by
  rw [provider, zoom_run, Prod.mk.injEq] at ran
  obtain ⟨-, rfl⟩ := ran
  obtain ⟨events, recorded, outcome⟩ :=
    @ensureLoadBalancer_outcome l clusterName service state.session _ _ (Prod.eta _).symm
  have sameView :
      (l.ensureLoadBalancer clusterName service state.session).2.cluster.view = _ :=
    recorded.view_eq
  unfold ServiceSession.Guarded
  rw [sameView]
  exact Guarded.of_ensureOutcome guarded outcome stored marked

/-- After the deleting branch the service has no load balancer, if it was visible. -/
theorem absent_of_deleted
    {state deleted : ServiceSession}
    (stored : state.session.cluster.view.ids service.key = some service.id)
    (visible :
      ∀ lb,
        state.session.cluster.view.loadBalancers (service.loadBalancerName clusterName) =
          some lb →
        Visible service lb)
    (ran : provider (deleteIfExists clusterName service) state = (.ok (), deleted))
    {id : ServiceId}
    (isId : deleted.session.cluster.view.ids service.key = some id) :
    deleted.session.cluster.view.loadBalancers (id.loadBalancerName clusterName) = none := by
  have loses := (provider_losesOnly (@deleteIfExists_losesOnly clusterName service)).of_run ran
  have sameIds : deleted.session.cluster.view.ids service.key = some service.id := by
    unfold View.ids
    rw [loses.session.services]
    exact stored
  rw [sameIds, Option.some.injEq] at isId
  subst isId
  rw [provider, zoom_run, Prod.mk.injEq] at ran
  obtain ⟨succeeded, rfl⟩ := ran
  exact deleteIfExists_absent visible (Prod.ext succeeded rfl)

/-- A synchronisation keeps the load balancers guarded. -/
theorem syncLoadBalancer_guarded
    {state final : ServiceSession}
    {answer : Except Err LoadBalancerOperation}
    (guarded : state.Guarded clusterName)
    (current : state.metadata service.key = metadata)
    (stored : state.session.cluster.view.ids service.key = some service.id)
    (visible :
      cleansUp service metadata = true →
      metadata.hasLBFinalizer = true →
      ∀ lb,
        state.session.cluster.view.loadBalancers (service.loadBalancerName clusterName) =
          some lb →
        Visible service lb)
    (ran : syncLoadBalancer l clusterName service metadata state = (answer, final)) :
    final.Guarded clusterName := by
  unfold syncLoadBalancer at ran
  split at ran
  · rename_i cleans
    have deleteLoses := provider_losesOnly (@deleteIfExists_losesOnly clusterName service)
    rcases bind_cases ran with ⟨error, failed, rfl⟩ | ⟨_, deleted, deletes, rest⟩
    · exact (deleteLoses.of_run failed).guarded guarded
    · have removes
          {result : Except Err Unit}
          {reached : ServiceSession}
          (removed : removeFinalizer service metadata deleted = (result, reached)) :
          reached.Guarded clusterName :=
        removeFinalizer_guarded ((deleteLoses.of_run deletes).guarded guarded)
          (fun marked _ => absent_of_deleted stored (visible cleans marked) deletes) removed
      rcases bind_cases rest with ⟨error, failed, rfl⟩ | ⟨_, released, removed, patching⟩
      · obtain ⟨cause, removed, -⟩ := mapError_error failed
        exact removes removed
      · exact patchStatusIfFound_guarded (removes (mapError_ok.mp removed)) patching
  · rcases bind_cases ran with ⟨error, failed, rfl⟩ | ⟨_, marked, adds, rest⟩
    · obtain ⟨cause, added, -⟩ := mapError_error failed
      exact (addFinalizer_guarded guarded current added).1
    · obtain ⟨markedGuarded, sameSession, hasFinalizer⟩ :=
        addFinalizer_guarded guarded current (mapError_ok.mp adds)
      rw [← sameSession] at stored
      rcases bind_cases rest with ⟨error, failed, rfl⟩ | ⟨newStatus, ensured, makes, patching⟩
      · obtain ⟨cause, ensured, -⟩ := mapError_error failed
        exact ensureLoadBalancer_guarded markedGuarded stored (hasFinalizer rfl) ensured
      · have ensuredGuarded :=
          ensureLoadBalancer_guarded markedGuarded stored (hasFinalizer rfl)
            (mapError_ok.mp makes)
        exact patchStatusIfFound_guarded ensuredGuarded patching

/-- The stored service of a key is in the view with its identity. -/
theorem view_ids_of_stored
    {cluster : Cluster}
    {key : String}
    (stored : cluster.services.get? key = some service) :
    service.key = key ∧ cluster.view.ids key = some service.id := by
  refine ⟨(ServiceStore.get?_eq_some.mp stored).2, ?_⟩
  unfold View.ids Cluster.view
  dsimp only
  rw [stored]
  rfl

/-- Processing a stored service keeps the load balancers guarded. -/
theorem processServiceCreateOrUpdate_guarded
    {state final : ServiceSession}
    {answer : Except Err Unit}
    {key : String}
    (guarded : state.Guarded clusterName)
    (isStored : state.session.cluster.services.get? key = some service)
    (visible :
      cleansUp service (state.metadata key) = true →
      (state.metadata key).hasLBFinalizer = true →
      ∀ lb,
        state.session.cluster.view.loadBalancers (service.loadBalancerName clusterName) =
          some lb →
        Visible service lb)
    (ran :
      processServiceCreateOrUpdate l clusterName key service (state.metadata key) state =
        (answer, final)) :
    final.Guarded clusterName := by
  obtain ⟨rfl, stored⟩ := view_ids_of_stored isStored
  have recreatedLoses := @deleteRecreated_losesOnly clusterName service.key service
  rcases bind_cases ran with ⟨error, failed, rfl⟩ | ⟨_, deleted, deletes, rest⟩
  · exact (recreatedLoses.of_run failed).guarded guarded
  rcases bind_cases rest with ⟨error, failed, rfl⟩ | ⟨_, cached, caches, rest⟩
  · cases failed
  have loses : state.LosesOnly cached :=
    trans_of ServiceSession.LosesOnly (recreatedLoses.of_run deletes)
      ((changeCache_losesOnly _).of_run caches)
  have syncs
      {result : Except Err LoadBalancerOperation}
      {reached : ServiceSession}
      (synced :
        syncLoadBalancer l clusterName service (state.metadata service.key) cached =
          (result, reached)) :
      reached.Guarded clusterName := by
    refine syncLoadBalancer_guarded (loses.guarded guarded) ?_ ?_ ?_ synced
    · rw [loses.metadata]
    · unfold View.ids
      rw [loses.session.services]
      exact stored
    · intro cleans marked lb found
      exact visible cleans marked lb (loses.session.loadBalancers _ lb found)
  rcases bind_cases rest with ⟨error, failed, rfl⟩ | ⟨op, synced, syncing, ending⟩
  · exact syncs failed
  · have syncedGuarded := syncs syncing
    split at ending
    · exact ((changeCache_losesOnly _).of_run ending).guarded syncedGuarded
    · cases ending
      exact syncedGuarded

/-- Updating the hosts of a service with the finalizer keeps the load balancers guarded. -/
theorem lockedUpdateLoadBalancerHosts_guarded
    {session final : Session}
    {answer : Except Err Unit}
    {marks : String → ServiceMeta}
    (guarded : Guarded clusterName session.cluster.view marks)
    (stored : session.cluster.view.ids service.key = some service.id)
    (marked : (marks service.key).hasLBFinalizer = true)
    (ran : lockedUpdateLoadBalancerHosts l clusterName service session = (answer, final)) :
    Guarded clusterName final.cluster.view marks := by
  unfold lockedUpdateLoadBalancerHosts at ran
  rw [attempt_bind_run] at ran
  cases updated : l.updateLoadBalancer clusterName service session with
  | mk result reached =>
      obtain ⟨events, recorded, outcome⟩ := updateLoadBalancer_outcome updated
      have reachedGuarded : Guarded clusterName reached.cluster.view marks := by
        rw [recorded.view_eq]
        exact Guarded.of_ensureOutcome guarded outcome stored marked
      rw [updated] at ran
      cases result with
      | ok done =>
          cases ran
          exact reachedGuarded
      | error error =>
          dsimp only at ran
          rw [attempt_bind_run] at ran
          obtain ⟨_, _, _, sameView⟩ :=
            observed_events (getLoadBalancer_observes clusterName service)
              (Prod.eta (getLoadBalancer clusterName service reached)).symm
          have sameFinal : final = (getLoadBalancer clusterName service reached).2 := by
            cases looked : (getLoadBalancer clusterName service reached).1 with
            | error failure =>
                rw [looked] at ran
                cases ran
                rfl
            | ok status =>
                rw [looked] at ran
                cases status with
                | none =>
                    cases ran
                    rfl
                | some found =>
                    cases ran
                    rfl
          rw [sameFinal, sameView]
          exact reachedGuarded

end Guarding

section Invariant

variable {l : LoadBalancerManager}
variable {clusterName : String}

/--
No cleanup of the step misses a load balancer: a service that still has one is
its own primary, and its load balancer has an address.  Hosts are updated only
for services that have their finalizer.
-/
def ServiceStep.Careful
    (clusterName : String)
    (system : ServiceSystem) :
    ServiceStep → Prop
  | .sync key _ _ =>
      ∀ service ∈ system.cluster.services.get? key,
        cleansUp service (system.metadata key) = true →
        (system.metadata key).hasLBFinalizer = true →
        ∀ lb ∈ system.cluster.loadBalancers.get? (service.loadBalancerName clusterName),
          Visible service lb
  | .nodeSync service metadata _ =>
      wantsLoadBalancer service metadata = true →
      (system.metadata service.key).hasLBFinalizer = true ∧
        (system.cluster.services.get? service.key).map Service.id = some service.id
  | _ => True

instance (clusterName : String) (system : ServiceSystem) (step : ServiceStep) :
    Decidable (step.Careful clusterName system) := by
  unfold ServiceStep.Careful
  split <;> infer_instance

/-- `Guarded` for the objects between two synchronisations. -/
def ServiceSystem.Guarded (clusterName : String) (system : ServiceSystem) : Prop :=
  HarvesterCloudProvider.Guarded clusterName system.cluster.view system.metadata

/-- Changing something else in the metadata of a service keeps its finalizers. -/
theorem hasLBFinalizer_update
    {metadata : String → ServiceMeta}
    {key owner : String}
    {changed : ServiceMeta}
    (same : changed.finalizers = (metadata key).finalizers)
    (marked : (metadata owner).hasLBFinalizer = true) :
    (Function.update metadata key changed owner).hasLBFinalizer = true := by
  by_cases own : owner = key
  · subst own
    rw [Function.update_self]
    unfold ServiceMeta.hasLBFinalizer at marked ⊢
    rw [same]
    exact marked
  · rw [Function.update_of_ne own]
    exact marked

theorem Cluster.view_ids_create
    {cluster : Cluster}
    {service : Service}
    {key : String}
    {id : ServiceId}
    (found : cluster.view.ids key = some id)
    (free : cluster.services.get? service.key = none) :
    (cluster.create service).view.ids key = some id ∧ key ≠ service.key := by
  have different : key ≠ service.key := by
    rintro rfl
    unfold View.ids Cluster.view at found
    dsimp only at found
    rw [free] at found
    cases found
  refine ⟨?_, different⟩
  have entered :=
    @ServiceStore.get?_insert_of_ne cluster.services
      { service with resourceVersion := cluster.version + 1, loadBalancer := {} } key different
  exact (congrArg (fun stored => (stored.map Service.content).map Service.id) entered).trans found

theorem Cluster.view_ids_edit
    (cluster : Cluster)
    (key : String)
    (change : UserEdit) :
    (cluster.edit key change).view.ids = cluster.view.ids := by
  unfold Cluster.edit
  split
  · rfl
  · rename_i service stored
    obtain ⟨-, rfl⟩ := ServiceStore.get?_eq_some.mp stored
    rw [@Cluster.view_replace cluster
      { service with
        annotations := change.annotations
        labels := change.labels
        serviceType := change.serviceType
        ports := change.ports
        resourceVersion := cluster.version + 1 } service _ stored rfl]
    refine @View.ids_update cluster.view service _ ?_ rfl
    exact Cluster.view_services_of_mem (ServiceStore.get?_eq_some.mp stored).1

theorem Cluster.view_edit_loadBalancers
    (cluster : Cluster)
    (key : String)
    (change : UserEdit) :
    (cluster.edit key change).view.loadBalancers = cluster.view.loadBalancers := by
  unfold Cluster.edit
  split <;> rfl

/-- A new service takes no name that is in use. -/
theorem ServiceSystem.Guarded.create
    {system : ServiceSystem}
    (guarded : system.Guarded clusterName)
    (service : Service)
    (metadata : ServiceMeta) :
    (system.advance l clusterName (.create service metadata)).Guarded clusterName := by
  unfold ServiceSystem.advance
  dsimp only
  split
  · exact guarded
  · rename_i free
    intro name lb stored
    obtain ⟨key, id, isId, sameName, marked⟩ := guarded name lb stored
    obtain ⟨sameId, different⟩ := Cluster.view_ids_create isId free
    refine ⟨key, id, sameId, sameName, ?_⟩
    dsimp only
    rw [Function.update_of_ne different]
    exact marked

theorem ServiceSystem.Guarded.edit
    {system : ServiceSystem}
    (guarded : system.Guarded clusterName)
    (key : String)
    (change : UserEdit)
    (loadBalancerClass : Option String) :
    (system.advance l clusterName (.edit key change loadBalancerClass)).Guarded
      clusterName := by
  intro name lb stored
  unfold ServiceSystem.advance at stored ⊢
  dsimp only at stored ⊢
  rw [Cluster.view_edit_loadBalancers] at stored
  obtain ⟨owner, id, isId, sameName, marked⟩ := guarded name lb stored
  refine ⟨owner, id, ?_, sameName, hasLBFinalizer_update rfl marked⟩
  rw [Cluster.view_ids_edit]
  exact isId

/-- A service with the finalizer stays stored when it is deleted. -/
theorem ServiceSystem.Guarded.delete
    {system : ServiceSystem}
    (guarded : system.Guarded clusterName)
    (key : String)
    (timestamp : Nat) :
    (system.advance l clusterName (.delete key timestamp)).Guarded clusterName := by
  unfold ServiceSystem.advance
  dsimp only
  split
  · rename_i unmarked
    intro name lb stored
    obtain ⟨owner, id, isId, sameName, marked⟩ := guarded name lb stored
    have different : owner ≠ key := by
      rintro rfl
      unfold ServiceMeta.hasLBFinalizer at marked
      rw [unmarked] at marked
      cases marked
    refine ⟨owner, id, ?_, sameName, marked⟩
    unfold View.ids
    rw [Cluster.view_remove_services different]
    exact isId
  · exact Guarded.mono guarded fun owner marked => hasLBFinalizer_update rfl marked

/-- A careful synchronisation keeps the load balancers guarded. -/
theorem ServiceSystem.Guarded.sync
    {system : ServiceSystem}
    {key : String}
    {ticks : List Tick}
    {patchFailures : List (Option Failure)}
    (guarded : system.Guarded clusterName)
    (careful : (ServiceStep.sync key ticks patchFailures).Careful clusterName system) :
    (system.advance l clusterName (.sync key ticks patchFailures)).Guarded clusterName := by
  have begun : (system.begin ticks patchFailures).Guarded clusterName := guarded
  unfold ServiceSystem.advance syncService
  dsimp only
  cases stored : system.cluster.services.get? key with
  | none =>
      have missing :
          (system.begin ticks patchFailures).session.cluster.services.get? key = none :=
        stored
      rw [missing]
      exact (processServiceDeletion_losesOnly key _).guarded begun
  | some service =>
      have present :
          (system.begin ticks patchFailures).session.cluster.services.get? key =
            some service :=
        stored
      rw [present]
      refine processServiceCreateOrUpdate_guarded begun present ?_ (Prod.eta _).symm
      intro cleans marked lb found
      obtain ⟨raw, isRaw, rfl⟩ := Option.map_eq_some_iff.mp found
      exact careful service stored cleans marked raw isRaw

theorem ServiceSystem.Guarded.nodeSync
    {system : ServiceSystem}
    {service : Service}
    {metadata : ServiceMeta}
    {ticks : List Tick}
    (guarded : system.Guarded clusterName)
    (careful : (ServiceStep.nodeSync service metadata ticks).Careful clusterName system) :
    (system.advance l clusterName (.nodeSync service metadata ticks)).Guarded clusterName := by
  unfold ServiceSystem.advance nodeSyncService
  dsimp only
  split
  · rename_i wants
    obtain ⟨marked, sameId⟩ := careful wants
    obtain ⟨current, stored, same⟩ := Option.map_eq_some_iff.mp sameId
    obtain ⟨-, ids⟩ := view_ids_of_stored stored
    rw [same] at ids
    exact
      @lockedUpdateLoadBalancerHosts_guarded l clusterName service
        (system.begin ticks []).session _ _ _ guarded ids marked (Prod.eta _).symm
  · exact guarded

/-- Every careful step keeps the load balancers guarded. -/
theorem advance_guarded
    {system : ServiceSystem}
    {step : ServiceStep}
    (guarded : system.Guarded clusterName)
    (careful : step.Careful clusterName system) :
    (system.advance l clusterName step).Guarded clusterName := by
  cases step with
  | create service metadata =>
      exact guarded.create service metadata
  | edit key change loadBalancerClass =>
      exact guarded.edit key change loadBalancerClass
  | delete key timestamp =>
      exact guarded.delete key timestamp
  | environment action =>
      unfold ServiceSystem.advance ServiceSystem.Guarded
      dsimp only
      rw [Cluster.view_react]
      exact guarded
  | sync key ticks patchFailures =>
      exact guarded.sync careful
  | nodeSync service metadata ticks =>
      exact guarded.nodeSync careful
  | restart =>
      exact guarded

/--
In every run of careful steps, every load balancer belongs to a stored service
with the finalizer, whatever fails, whenever the controller restarts and in
whatever order users, nodes and other controllers act.
-/
theorem loadBalancers_guarded
    {start system : ServiceSystem}
    {steps : List ServiceStep}
    (fresh : ∀ name, start.cluster.loadBalancers.get? name = none)
    (execution :
      Execution
        (StepsOf (ServiceSystem.advance l clusterName) fun reached step =>
          step.Careful clusterName reached)
        start steps system)
    (name : LBName)
    (lb : LoadBalancer)
    (stored : system.cluster.loadBalancers.get? name = some lb) :
    ∃ service ∈ system.cluster.services,
      service.loadBalancerName clusterName = name ∧
        loadBalancerCleanupFinalizer ∈ (system.metadata service.key).finalizers := by
  have guarded : system.Guarded clusterName := by
    refine execution.invariant (fun reached => reached.Guarded clusterName) ?_ ?_
    · intro other missing found
      simp [Cluster.view, fresh] at found
    · rintro reached next step earlier ⟨careful, rfl⟩
      exact advance_guarded earlier careful
  obtain ⟨key, id, isId, sameName, marked⟩ :=
    guarded name lb.content (Option.map_eq_some_iff.mpr ⟨lb, stored, rfl⟩)
  unfold View.ids Cluster.view at isId
  obtain ⟨content, found, rfl⟩ := Option.map_eq_some_iff.mp isId
  obtain ⟨service, isStored, rfl⟩ := Option.map_eq_some_iff.mp found
  obtain ⟨member, rfl⟩ := ServiceStore.get?_eq_some.mp isStored
  refine ⟨service, member, sameName, ?_⟩
  simpa [ServiceMeta.hasLBFinalizer] using marked

/-- A service gets its load balancer, the controller restarts, and a user deletes it. -/
def deletedSteps : List ServiceStep :=
  [.create webService {},
    .sync "default/web" (allocatingAfter 3 webService "10.0.0.1") [],
    .restart,
    .delete "default/web" 1]

/-- The service stays stored as long as its load balancer. -/
theorem web_loadBalancer_guarded :
    ∃ service ∈
        (deletedSteps.foldl (ServiceSystem.advance sampleManager "prod") {}).cluster.services,
      service.loadBalancerName "prod" = webService.loadBalancerName "prod" ∧
        loadBalancerCleanupFinalizer ∈
          ((deletedSteps.foldl (ServiceSystem.advance sampleManager "prod") {}).metadata
            service.key).finalizers := by
  have present :
      ((deletedSteps.foldl (ServiceSystem.advance sampleManager "prod")
        {}).cluster.loadBalancers.get? (webService.loadBalancerName "prod")).isSome = true := by
    decide +kernel
  obtain ⟨lb, stored⟩ := Option.isSome_iff_exists.mp present
  exact
    loadBalancers_guarded (fun _ => rfl) (execution_of_allAllowed (by decide +kernel)) _ lb
      stored

end Invariant

end HarvesterCloudProvider
