import HarvesterCloudProvider.ServiceEvents
import HarvesterCloudProvider.LoadBalancerConstruct

namespace HarvesterCloudProvider

open Program
open LoadBalancerManager

/-!
# A service outside the queue has its load balancer

The event handlers put changed services into the queue of the service controller,
the workers take them out, and a key leaves the queue when its synchronisation
succeeds.  A restart loses the queue and fills it from the listed services.

A run interleaves users, the other controllers, restarts and the two kinds of
work.  In every state of every run, a primary service that is to have a load
balancer is in the queue, or its load balancer is there and shows what the service
asks for.  Node changes are the exception that has to be ruled out: an update of
hosts that fails deletes the load balancer and is taken for a success, and one
that works on an old version of a service writes this version.
-/

section Reflecting

/-- What a load balancer shows of its service. -/
structure LoadBalancer.Reflects
    (lb : LoadBalancer)
    (cfg : Config)
    (clusterName : String)
    (service : Service) :
    Prop where
  clusterLabel : lb.labels.lookup lbClusterNameKey = some clusterName
  namespaceLabel : lb.labels.lookup lbServiceNamespaceKey = some service.ns
  nameLabel : lb.labels.lookup lbServiceNameKey = some service.name
  cluster : lb.annotations.lookup annotationKeyCluster = some clusterName
  project :
    lb.annotations.lookup annotationKeyProject = some (service.annotations.read keyProject)
  namespaceAnnotation :
    lb.annotations.lookup annotationKeyNamespace =
      some (service.annotations.read keyNamespace)
  managementNetwork :
    lb.annotations.lookup annotationKeyGuestClusterManagementNetworkOnLB =
      cfg.managementAnnotated
  ipam : lb.spec.ipam = (service.annotations.lookup keyIPAM).getD "pool"
  workloadType : lb.spec.workloadType = "cluster"

variable {l : LoadBalancerManager}
variable {clusterName : String}
variable {service : Service}

theorem constructLB_reflects (oldLB : Option LoadBalancer) (name : LBName) :
    (l.constructLB oldLB service name clusterName).Reflects l.config clusterName service := by
  refine
    { clusterLabel := ?_
      namespaceLabel := ?_
      nameLabel := ?_
      cluster := ?_
      project := ?_
      namespaceAnnotation := ?_
      managementNetwork := ?_
      ipam := ?_
      workloadType := ?_ }
  · rw [constructLB_labels_lookup]
    rfl
  · rw [constructLB_labels_lookup]
    rfl
  · rw [constructLB_labels_lookup]
    rfl
  · rw [constructLB_annotations_lookup]
    rfl
  · rw [constructLB_annotations_lookup]
    rfl
  · rw [constructLB_annotations_lookup]
    rfl
  · rw [constructLB_annotations_lookup]
    rfl
  · rw [constructLB_eq]
  · rw [constructLB_eq]

/-- What other controllers and the server write does not matter. -/
theorem LoadBalancer.reflects_content
    {lb : LoadBalancer}
    {cfg : Config} :
    lb.content.Reflects cfg clusterName service ↔ lb.Reflects cfg clusterName service := by
  constructor
  · rintro ⟨cluster, ns, name, annotated, project, namespaced, network, ipam, workload⟩
    exact ⟨cluster, ns, name, annotated, project, namespaced, network, ipam, workload⟩
  · rintro ⟨cluster, ns, name, annotated, project, namespaced, network, ipam, workload⟩
    exact ⟨cluster, ns, name, annotated, project, namespaced, network, ipam, workload⟩

/-- Only the names and the annotations of the service matter. -/
theorem LoadBalancer.Reflects.of_same
    {lb : LoadBalancer}
    {cfg : Config}
    {other : Service}
    (shown : lb.Reflects cfg clusterName service)
    (sameId : service.id = other.id)
    (annotations : service.annotations = other.annotations) :
    lb.Reflects cfg clusterName other := by
  have ns : service.ns = other.ns := congrArg ServiceId.ns sameId
  have name : service.name = other.name := congrArg ServiceId.name sameId
  obtain ⟨_, namespaceLabel, nameLabel, _, project, namespaceAnnotation, _, ipam, _⟩ := shown
  rw [ns] at namespaceLabel
  rw [name] at nameLabel
  rw [annotations] at project namespaceAnnotation ipam
  constructor <;> assumption

/-- A view has the load balancer of a service. -/
def View.Delivers
    (view : View)
    (cfg : Config)
    (clusterName : String)
    (service : Service) :
    Prop :=
  ∃ lb,
    view.loadBalancers (service.loadBalancerName clusterName) = some lb ∧
      lb.Reflects cfg clusterName service

/-- Another view with the same load balancer has it for another version of the service. -/
theorem View.Delivers.of_same
    {before after : View}
    {cfg : Config}
    {other : Service}
    (delivers : before.Delivers cfg clusterName service)
    (sameLoadBalancer :
      after.loadBalancers (service.loadBalancerName clusterName) =
        before.loadBalancers (service.loadBalancerName clusterName))
    (sameId : service.id = other.id)
    (annotations : service.annotations = other.annotations) :
    after.Delivers cfg clusterName other := by
  obtain ⟨lb, stored, shown⟩ := delivers
  have sameName : service.loadBalancerName clusterName = other.loadBalancerName clusterName :=
    congrArg (fun id => id.loadBalancerName clusterName) sameId
  refine ⟨lb, ?_, shown.of_same sameId annotations⟩
  rw [← sameName, sameLoadBalancer]
  exact stored

/-- A written load balancer shows what the service asks for. -/
theorem View.Written.delivers
    {view : View}
    {request : Request}
    (written : view.Written l clusterName service request) :
    (request.apply view).Delivers l.config clusterName service := by
  cases written with
  | created missing =>
      refine ⟨_, ?_, LoadBalancer.reflects_content.mpr
        (constructLB_reflects none (service.loadBalancerName clusterName))⟩
      simp only [Request.apply, constructLB_name_of_none, Function.update_self]
  | @updated lb stored sameName =>
      have named : lb.name ≠ [] := LoadBalancer.name_ne_nil sameName
      refine ⟨_, ?_, LoadBalancer.reflects_content.mpr
        (constructLB_reflects (some lb) (service.loadBalancerName clusterName))⟩
      simp only [Request.apply, constructLB_name_of_some named, sameName, Function.update_self]

/-- After a reconcile that succeeds, a primary service has its load balancer. -/
theorem EnsureOutcome.delivers
    {view : View}
    {events : List Event}
    (outcome : EnsureOutcome l clusterName service view events true)
    (unset : service.annotations.lookup keyPrimaryService = none) :
    ((writes events).foldl (fun reached request => request.apply reached) view).Delivers
      l.config clusterName service := by
  cases outcome with
  | primary _ inner =>
      cases inner with
      | confirmed _ put _ written =>
          rw [written]
          exact put.delivers
      | published iface ip _ put _ written =>
          rw [written]
          exact put.delivers
  | secondary resolved inner =>
      exact (resolved.annotation_ne_none unset).elim

end Reflecting

section Framing

variable {l : LoadBalancerManager}
variable {clusterName : String}
variable {service : Service}

/-- Load balancers under other names and the identities of services stay. -/
structure Session.Frames (owned : LBName → Prop) (before after : Session) : Prop where
  loadBalancers :
    ∀ name,
      ¬ owned name →
      after.cluster.view.loadBalancers name = before.cluster.view.loadBalancers name
  ids :
    ∀ key id,
      after.cluster.view.ids key = some id →
      before.cluster.view.ids key = some id

instance (owned : LBName → Prop) : Std.Refl (Session.Frames owned) where
  refl _ := ⟨fun _ _ => rfl, fun _ _ stored => stored⟩

instance (owned : LBName → Prop) : IsTrans Session (Session.Frames owned) where
  trans _ _ _ earlier later :=
    ⟨fun name free => (later.loadBalancers name free).trans (earlier.loadBalancers name free),
      fun key id stored => earlier.ids key id (later.ids key id stored)⟩

theorem Session.Frames.of_view_eq
    {owned : LBName → Prop}
    {before after : Session}
    (same : after.cluster.view = before.cluster.view) :
    before.Frames owned after :=
  ⟨fun _ _ => by rw [same], fun _ _ stored => by rw [← same]; exact stored⟩

/-- The name of the load balancer of a service. -/
def OwnName (clusterName : String) (service : Service) (name : LBName) : Prop :=
  name = service.loadBalancerName clusterName

theorem getLoadBalancer_frames (service : Service) (owned : LBName → Prop) :
    Respects (Session.Frames owned) (getLoadBalancer clusterName service) := by
  intro session
  obtain ⟨_, _, _, sameView⟩ :=
    observed_events (getLoadBalancer_observes clusterName service) (Prod.eta _).symm
  exact .of_view_eq sameView

theorem ensureLoadBalancer_frames (service : Service) :
    Respects (Session.Frames (OwnName clusterName service))
      (l.ensureLoadBalancer clusterName service) := by
  intro session
  obtain ⟨events, ran, outcome⟩ :=
    @ensureLoadBalancer_outcome l clusterName service session _ _ (Prod.eta _).symm
  refine ⟨fun name free => ?_, fun key id stored => ?_⟩
  · rw [ran.view_eq]
    exact outcome.callWrites.loadBalancers_of_ne free
  · rw [ran.view_eq, outcome.ids_eq] at stored
    exact stored

theorem updateLoadBalancer_frames (service : Service) :
    Respects (Session.Frames (OwnName clusterName service))
      (l.updateLoadBalancer clusterName service) := by
  refine .bind (ensureLoadBalancer_frames service).mapError fun _ => ?_
  exact .pure ()

/-- The deletion touches no load balancer but the own one of the service. -/
theorem EnsureDeletedOutcome.loadBalancers_of_ne
    {view : View}
    {events : List Event}
    {succeeded : Bool}
    (outcome : EnsureDeletedOutcome clusterName service view events succeeded)
    {name : LBName}
    (different : name ≠ service.loadBalancerName clusterName) :
    ((writes events).foldl (fun reached request => request.apply reached)
        view).loadBalancers name =
      view.loadBalancers name := by
  cases outcome with
  | unresolved _ reads =>
      rw [writes_eq_nil_of_reads reads]
      rfl
  | secondary _ reads =>
      rw [writes_eq_nil_of_reads reads]
      rfl
  | primary _ inner =>
      cases inner with
      | absent _ _ written =>
          rw [written]
          rfl
      | refused _ written =>
          rw [written]
          rfl
      | deleted _ _ written =>
          rw [written]
          exact Function.update_of_ne different _ _

theorem ensureLoadBalancerDeleted_frames (service : Service) :
    Respects (Session.Frames (OwnName clusterName service))
      (LoadBalancerManager.ensureLoadBalancerDeleted clusterName service) := by
  intro session
  obtain ⟨events, ran, outcome⟩ :=
    @ensureLoadBalancerDeleted_outcome clusterName service session _ _ (Prod.eta _).symm
  refine ⟨fun name free => ?_, fun key id stored => ?_⟩
  · rw [ran.view_eq]
    exact outcome.loadBalancers_of_ne free
  · unfold View.ids at stored ⊢
    rw [ran.view_eq, outcome.services_eq] at stored
    exact stored

theorem deleteIfExists_frames (service : Service) :
    Respects (Session.Frames (OwnName clusterName service))
      (deleteIfExists clusterName service) := by
  refine .bind (getLoadBalancer_frames service _).mapError fun status => ?_
  cases status with
  | none =>
      exact .pure ()
  | some found =>
      exact (ensureLoadBalancerDeleted_frames service).mapError

theorem lockedUpdateLoadBalancerHosts_frames (service : Service) :
    Respects (Session.Frames (OwnName clusterName service))
      (lockedUpdateLoadBalancerHosts l clusterName service) := by
  refine .bind (updateLoadBalancer_frames service).attempt fun updated => ?_
  cases updated with
  | ok done =>
      exact .pure ()
  | error error =>
      refine .bind (getLoadBalancer_frames service _).attempt fun looked => ?_
      cases looked with
      | error failure =>
          exact .fail error
      | ok status =>
          cases status with
          | none =>
              exact .pure ()
          | some found =>
              exact .fail error

/-- The same for the objects of a synchronisation; no deletion is taken back. -/
structure ServiceSession.Frames
    (owned : LBName → Prop)
    (before after : ServiceSession) :
    Prop where
  session : before.session.Frames owned after.session
  deletion :
    ∀ key,
      (after.metadata key).deletionTimestamp = (before.metadata key).deletionTimestamp

instance (owned : LBName → Prop) : Std.Refl (ServiceSession.Frames owned) where
  refl state := ⟨refl_of (Session.Frames owned) state.session, fun _ => rfl⟩

instance (owned : LBName → Prop) : IsTrans ServiceSession (ServiceSession.Frames owned) where
  trans _ _ _ earlier later :=
    ⟨trans_of (Session.Frames owned) earlier.session later.session,
      fun key => (later.deletion key).trans (earlier.deletion key)⟩

theorem provider_frames
    {Answer : Type}
    {owned : LBName → Prop}
    {program : Program Session Err Answer}
    (frames : Respects (Session.Frames owned) program) :
    Respects (ServiceSession.Frames owned) (provider program) :=
  fun state => ⟨frames state.session, fun _ => rfl⟩

theorem changeCache_frames
    (owned : LBName → Prop)
    (change :
      Std.ExtTreeMap String (Service × ServiceMeta) →
        Std.ExtTreeMap String (Service × ServiceMeta)) :
    Respects (ServiceSession.Frames owned) (changeCache change) :=
  fun state => ⟨refl_of (Session.Frames owned) state.session, fun _ => rfl⟩

/-- A service that is left after a removal was there before. -/
theorem Cluster.view_ids_of_remove
    {cluster : Cluster}
    {removed key : String}
    {id : ServiceId}
    (stored : (cluster.remove removed).view.ids key = some id) :
    cluster.view.ids key = some id := by
  by_cases own : key = removed
  · have erased := ServiceStore.get?_erase cluster.services removed key
    rw [if_pos own.symm] at erased
    have gone : (cluster.remove removed).view.ids key = none :=
      congrArg (fun found => (found.map Service.content).map Service.id) erased
    rw [gone] at stored
    cases stored
  · unfold View.ids at stored ⊢
    rw [Cluster.view_remove_services own] at stored
    exact stored

/-- A patch of the finalizers. -/
theorem withFinalizers_frames
    (owned : LBName → Prop)
    (state : ServiceSession)
    (key : String)
    (change : List String → List String) :
    state.Frames owned (state.withFinalizers key change) := by
  refine ⟨⟨fun name free => ?_, fun other id stored => ?_⟩, fun other => ?_⟩
  · unfold ServiceSession.withFinalizers
    dsimp only
    split <;> rfl
  · unfold ServiceSession.withFinalizers at stored
    dsimp only at stored
    split at stored
    · exact Cluster.view_ids_of_remove stored
    · exact stored
  · unfold ServiceSession.withFinalizers
    dsimp only
    by_cases own : other = key
    · rw [own, Function.update_self]
    · rw [Function.update_of_ne own]

/-- A patch that only changes what the frame leaves. -/
theorem patchService_frames
    {owned : LBName → Prop}
    {admits : ServiceMeta → Bool}
    {change : ServiceSession → ServiceSession}
    (changes : ∀ state : ServiceSession, state.Frames owned (change state)) :
    Respects (ServiceSession.Frames owned) (patchService service admits change) := by
  intro state
  have skipped : state.Frames owned { state with patchFailures := state.patchFailures.tail } :=
    ⟨refl_of (Session.Frames owned) state.session, fun _ => rfl⟩
  rcases patchService_cases (Prod.eta _).symm with ⟨_, -, final⟩ | ⟨-, final⟩
  · rw [final]
    exact skipped
  · rw [final]
    exact trans_of (ServiceSession.Frames owned) skipped (changes _)

theorem addFinalizer_frames
    (owned : LBName → Prop)
    (service : Service)
    (metadata : ServiceMeta) :
    Respects (ServiceSession.Frames owned) (addFinalizer service metadata) := by
  unfold addFinalizer
  split
  · exact .pure ()
  · exact patchService_frames fun state => withFinalizers_frames owned state _ _

theorem removeFinalizer_frames
    (owned : LBName → Prop)
    (service : Service)
    (metadata : ServiceMeta) :
    Respects (ServiceSession.Frames owned) (removeFinalizer service metadata) := by
  unfold removeFinalizer
  split
  · exact patchService_frames fun state => withFinalizers_frames owned state _ _
  · exact .pure ()

theorem patchStatusIfFound_frames
    (owned : LBName → Prop)
    (service : Service)
    (previousStatus newStatus : LoadBalancerStatus) :
    Respects (ServiceSession.Frames owned)
      (patchStatusIfFound service previousStatus newStatus) := by
  refine .bind (Respects.attempt ?_) fun answer => ?_
  · unfold patchStatus
    split
    · exact .pure ()
    · exact patchService_frames fun state =>
        ⟨.of_view_eq (Cluster.view_react _ _), fun _ => rfl⟩
  · cases answer with
    | ok done =>
        exact .pure ()
    | error error =>
        exact .pure_or_fail () _

/-- A synchronisation touches the load balancer of its service only. -/
theorem syncLoadBalancer_frames (service : Service) (metadata : ServiceMeta) :
    Respects (ServiceSession.Frames (OwnName clusterName service))
      (syncLoadBalancer l clusterName service metadata) := by
  unfold syncLoadBalancer
  split
  · refine .bind (provider_frames (deleteIfExists_frames service)) fun _ => ?_
    refine .bind (removeFinalizer_frames _ service metadata).mapError fun _ => ?_
    refine .bind (patchStatusIfFound_frames _ service _ _) fun _ => ?_
    exact .pure _
  · refine .bind (addFinalizer_frames _ service metadata).mapError fun _ => ?_
    refine .bind (provider_frames (ensureLoadBalancer_frames service)).mapError fun _ => ?_
    refine .bind (patchStatusIfFound_frames _ service _ _) fun _ => ?_
    exact .pure _

theorem processLoadBalancerDelete_frames (service : Service) (metadata : ServiceMeta) :
    Respects (ServiceSession.Frames (OwnName clusterName service))
      (processLoadBalancerDelete clusterName service metadata) := by
  unfold processLoadBalancerDelete
  split
  · exact provider_frames (ensureLoadBalancerDeleted_frames service)
  · exact .pure ()

/-- More names may be touched. -/
theorem ServiceSession.Frames.mono
    {owned more : LBName → Prop}
    {before after : ServiceSession}
    (frames : before.Frames owned after)
    (wider : ∀ name, owned name → more name) :
    before.Frames more after :=
  ⟨⟨fun name free => frames.session.loadBalancers name fun own => free (wider name own),
      frames.session.ids⟩, frames.deletion⟩

end Framing

section Work

variable {l : LoadBalancerManager}
variable {clusterName : String}
variable {service : Service}

/-- The versions of a service that the synchronisation of its key works on. -/
def ServiceSystem.versions (system : ServiceSystem) (key : String) : List Service :=
  (system.cluster.services.get? key).toList ++ (system.cache[key]?).toList.map Prod.fst

/-- The names that the synchronisation of a key may touch. -/
def ServiceSession.Owns
    (clusterName : String)
    (state : ServiceSession)
    (key : String)
    (name : LBName) :
    Prop :=
  ∃ version ∈ state.finish.versions key, OwnName clusterName version name

theorem ServiceSession.owns_of_stored
    {state : ServiceSession}
    {key : String}
    (stored : state.session.cluster.services.get? key = some service)
    {name : LBName}
    (own : OwnName clusterName service name) :
    state.Owns clusterName key name :=
  ⟨service, List.mem_append_left _ (Option.mem_toList.mpr stored), own⟩

theorem ServiceSession.owns_of_cached
    {state : ServiceSession}
    {key : String}
    {cached : Service × ServiceMeta}
    (entry : state.cache[key]? = some cached)
    {name : LBName}
    (own : OwnName clusterName cached.1 name) :
    state.Owns clusterName key name :=
  ⟨cached.1, List.mem_append_right _ (List.mem_map.mpr ⟨cached, Option.mem_toList.mpr entry, rfl⟩),
    own⟩

theorem deleteRecreated_frames
    (key : String)
    (service : Service)
    (state : ServiceSession) :
    state.Frames (state.Owns clusterName key)
      (deleteRecreated clusterName key service state).2 := by
  unfold deleteRecreated
  split
  · exact refl_of (ServiceSession.Frames _) state
  · rename_i cached cachedMeta entry
    split
    · exact (processLoadBalancerDelete_frames cached cachedMeta state).mono fun name own =>
        state.owns_of_cached entry own
    · exact refl_of (ServiceSession.Frames _) state

/-- A synchronisation of a key touches the load balancers of its versions only. -/
theorem syncService_frames (key : String) (state : ServiceSession) :
    state.Frames (state.Owns clusterName key) (syncService l clusterName key state).2 := by
  unfold syncService
  split
  · unfold processServiceDeletion
    split
    · exact refl_of (ServiceSession.Frames _) state
    · rename_i cached cachedMeta entry
      have deletes :=
        Respects.bind (@processLoadBalancerDelete_frames clusterName cached cachedMeta)
          (fun _ => changeCache_frames _ fun cache => cache.erase key) state
      exact deletes.mono fun name own => state.owns_of_cached entry own
  · rename_i service stored
    have first := @deleteRecreated_frames clusterName key service state
    have owns : ∀ name, OwnName clusterName service name → state.Owns clusterName key name :=
      fun name own => state.owns_of_stored stored own
    have later :
        Respects (ServiceSession.Frames (OwnName clusterName service))
          (do
            changeCache fun cache => cache.insert key (service, state.metadata key)
            let op ← syncLoadBalancer l clusterName service (state.metadata key)
            if op = .deleteLoadBalancer then
              changeCache fun cache => cache.erase key
            else
              pure () : Program ServiceSession Err Unit) := by
      refine .bind (changeCache_frames _ _) fun _ => ?_
      refine .bind (syncLoadBalancer_frames service _) fun op => ?_
      split
      · exact changeCache_frames _ _
      · exact .pure ()
    rcases bind_cases
        (Prod.eta (processServiceCreateOrUpdate l clusterName key service (state.metadata key)
          state)).symm with ⟨error, failed, -⟩ | ⟨_, deleted, deletes, rest⟩
    · rw [failed] at first
      exact first
    · rw [deletes] at first
      exact trans_of (ServiceSession.Frames _) first ((later.of_run rest).mono owns)

theorem nodeSyncService_frames (service : Service) (metadata : ServiceMeta) :
    Respects (ServiceSession.Frames (OwnName clusterName service))
      (nodeSyncService l clusterName service metadata) := by
  unfold nodeSyncService
  split
  · exact provider_frames (lockedUpdateLoadBalancerHosts_frames service)
  · exact .pure ()

/-- A view keeps a delivered load balancer through a frame that does not own it. -/
theorem ServiceSession.Frames.delivers
    {owned : LBName → Prop}
    {before after : ServiceSession}
    {cfg : Config}
    (frames : before.Frames owned after)
    (free : ¬ owned (service.loadBalancerName clusterName))
    (delivers : before.session.cluster.view.Delivers cfg clusterName service) :
    after.session.cluster.view.Delivers cfg clusterName service :=
  delivers.of_same (frames.session.loadBalancers _ free) rfl rfl

/-- The ensuring branch leaves the load balancer of a primary service. -/
theorem syncLoadBalancer_delivers
    {metadata : ServiceMeta}
    {state final : ServiceSession}
    {op : LoadBalancerOperation}
    (unset : service.annotations.lookup keyPrimaryService = none)
    (ensures : cleansUp service metadata = false)
    (ran : syncLoadBalancer l clusterName service metadata state = (.ok op, final)) :
    final.session.cluster.view.Delivers l.config clusterName service := by
  have noCleanup :
      ¬ (!wantsLoadBalancer service metadata || needsCleanup service metadata) = true := by
    rw [show (!wantsLoadBalancer service metadata || needsCleanup service metadata) = false
      from ensures]
    exact Bool.false_ne_true
  unfold syncLoadBalancer at ran
  rw [if_neg noCleanup] at ran
  obtain ⟨_, marked, -, rest⟩ := bind_ok.mp ran
  obtain ⟨newStatus, ensured, makes, rest⟩ := bind_ok.mp rest
  obtain ⟨_, patched, patches, ended⟩ := bind_ok.mp rest
  cases ended
  have made := mapError_ok.mp makes
  rw [provider, zoom_run, Prod.mk.injEq] at made
  obtain ⟨succeeded, rfl⟩ := made
  obtain ⟨events, recorded, outcome⟩ :=
    @ensureLoadBalancer_outcome l clusterName service marked.session _ _ (Prod.eta _).symm
  rw [succeeded] at outcome
  have delivers := outcome.delivers unset
  rw [← recorded.view_eq] at delivers
  have frames := (patchStatusIfFound_frames (fun _ => False) service _ _).of_run patches
  exact frames.delivers not_false delivers

/-- A synchronisation that succeeds leaves the load balancer of a primary service. -/
theorem syncService_delivers
    {key : String}
    {state final : ServiceSession}
    (stored : state.session.cluster.services.get? key = some service)
    (unset : service.annotations.lookup keyPrimaryService = none)
    (ensures : cleansUp service (state.metadata key) = false)
    (ran : syncService l clusterName key state = (.ok (), final)) :
    final.session.cluster.view.Delivers l.config clusterName service := by
  unfold syncService at ran
  rw [stored] at ran
  obtain ⟨_, deleted, -, rest⟩ := bind_ok.mp ran
  obtain ⟨_, cached, -, rest⟩ := bind_ok.mp rest
  obtain ⟨op, synced, syncs, ended⟩ := bind_ok.mp rest
  have delivers := syncLoadBalancer_delivers unset ensures syncs
  have frames : synced.Frames (fun _ => False) final := by
    split at ended
    · exact (changeCache_frames _ _).of_run ended
    · cases ended
      exact refl_of (ServiceSession.Frames _) final
  exact frames.delivers not_false delivers

/-- An update of hosts that succeeds leaves the load balancer of a primary service. -/
theorem lockedUpdateLoadBalancerHosts_delivers
    {session : Session}
    (unset : service.annotations.lookup keyPrimaryService = none)
    (succeeds : (l.updateLoadBalancer clusterName service session).1.isOk = true) :
    (lockedUpdateLoadBalancerHosts l clusterName service session).2.cluster.view.Delivers
      l.config clusterName service := by
  unfold lockedUpdateLoadBalancerHosts
  rw [attempt_bind_run]
  cases updated : l.updateLoadBalancer clusterName service session with
  | mk answer reached =>
      rw [updated] at succeeds
      obtain ⟨events, recorded, outcome⟩ := updateLoadBalancer_outcome updated
      rw [succeeds] at outcome
      have delivers := outcome.delivers unset
      rw [← recorded.view_eq] at delivers
      cases answer with
      | ok done =>
          exact delivers
      | error error =>
          cases succeeds

end Work

section Queueing

open WatchedService

/-- The objects with the queue of the service controller. -/
structure QueuedSystem where
  objects : ServiceSystem := {}
  /-- What the event handlers compare beyond the stored service and its metadata. -/
  details : String → WatchedService
  queue : Finset String := ∅

/-- One step of a run. -/
inductive QueuedStep where
  | taken (step : ServiceStep)
  /-- A user changes something that only the event handlers compare. -/
  | redetailed (key : String) (details : WatchedService)
  /-- The informer reports an unchanged service again. -/
  | resynced (key : String)

namespace QueuedSystem

/-- A stored service with all that the event handlers compare. -/
def watched (system : QueuedSystem) (key : String) : Option WatchedService :=
  (system.objects.cluster.services.get? key).map fun service =>
    { system.details key with
      service := service
      metadata := system.objects.metadata key }

/--
The keys that the event handlers put into the queue.  An unchanged service is
among them only if it waits for its cleanup.
-/
def reported
    (system : QueuedSystem)
    (older : String → Option WatchedService) :
    Finset String :=
  system.objects.cluster.services.items.keys.toFinset.filter fun key =>
    (system.watched key).any fun current => eventHandlers.notices (older key) current

/-- The queue that the work of a step leaves. -/
def worked
    (l : LoadBalancerManager)
    (clusterName : String)
    (system : QueuedSystem) :
    ServiceStep → Finset String
  | .sync key ticks patchFailures =>
      if (syncService l clusterName key (system.objects.begin ticks patchFailures)).1.isOk then
        system.queue.erase key
      else
        system.queue
  | .nodeSync service metadata ticks =>
      if (nodeSyncService l clusterName service metadata
          (system.objects.begin ticks [])).1.isOk then
        system.queue
      else
        insert service.key system.queue
  | .restart => ∅
  | _ => system.queue

/-- The versions that the event handlers know; after a restart they know none. -/
def known (system : QueuedSystem) : ServiceStep → String → Option WatchedService
  | .restart, _ => none
  | _, key => system.watched key

/-- The effect of one step. -/
def advance
    (l : LoadBalancerManager)
    (clusterName : String)
    (system : QueuedSystem) :
    QueuedStep → QueuedSystem
  | .taken step =>
      let after := { system with objects := system.objects.advance l clusterName step }
      { after with
        queue := system.worked l clusterName step ∪ after.reported (system.known step) }
  | .redetailed key details =>
      let after := { system with details := Function.update system.details key details }
      { after with queue := system.queue ∪ after.reported system.watched }
  | .resynced key =>
      match system.watched key with
      | none => system
      | some current =>
          if eventHandlers.onUpdate current current then
            { system with queue := insert key system.queue }
          else
            system

theorem mem_reported
    {system : QueuedSystem}
    {older : String → Option WatchedService}
    {key : String}
    {current : WatchedService}
    (found : system.watched key = some current)
    (noticed : eventHandlers.notices (older key) current = true) :
    key ∈ system.reported older := by
  obtain ⟨service, stored, -⟩ := Option.map_eq_some_iff.mp found
  refine Finset.mem_filter.mpr ⟨List.mem_toFinset.mpr ?_, ?_⟩
  · rw [Std.ExtTreeMap.mem_keys, Std.ExtTreeMap.mem_iff_isSome_getElem?]
    exact Option.isSome_iff_exists.mpr ⟨service, stored⟩
  · rw [found]
    exact noticed

end QueuedSystem

end Queueing

section Keeping

variable {l : LoadBalancerManager}
variable {clusterName : String}

/-- A service that is stored before and after a step is the same one. -/
theorem advance_ids
    {system : ServiceSystem}
    {step : ServiceStep}
    {key : String}
    {id : ServiceId}
    (present : (system.cluster.services.get? key).isSome)
    (found : (system.advance l clusterName step).cluster.view.ids key = some id) :
    system.cluster.view.ids key = some id := by
  cases step with
  | create service metadata =>
      unfold ServiceSystem.advance at found
      dsimp only at found
      split at found
      · exact found
      · rename_i free
        have different : key ≠ service.key := by
          rintro rfl
          rw [free] at present
          cases present
        have entered :=
          @ServiceStore.get?_insert_of_ne system.cluster.services
            { service with
              resourceVersion := system.cluster.version + 1
              loadBalancer := {} } key different
        have same : (system.cluster.create service).view.ids key = system.cluster.view.ids key :=
          congrArg (fun stored => (stored.map Service.content).map Service.id) entered
        rw [← same]
        exact found
  | edit edited change loadBalancerClass =>
      rw [← Cluster.view_ids_edit system.cluster edited change]
      exact found
  | delete deleted timestamp =>
      unfold ServiceSystem.advance at found
      dsimp only at found
      split at found
      · exact Cluster.view_ids_of_remove found
      · exact found
  | environment action =>
      rw [← Cluster.view_react system.cluster action]
      exact found
  | sync synced ticks patchFailures =>
      exact (syncService_frames synced (system.begin ticks patchFailures)).session.ids key id found
  | nodeSync service metadata ticks =>
      exact (nodeSyncService_frames service metadata (system.begin ticks [])).session.ids key id
        found
  | restart =>
      exact found

/-- No step takes a deletion back. -/
theorem advance_deletion
    {system : ServiceSystem}
    {step : ServiceStep}
    {key : String}
    (present : (system.cluster.services.get? key).isSome)
    (kept :
      ((system.advance l clusterName step).metadata key).deletionTimestamp = none) :
    (system.metadata key).deletionTimestamp = none := by
  cases step with
  | create service metadata =>
      unfold ServiceSystem.advance at kept
      dsimp only at kept
      split at kept
      · exact kept
      · rename_i free
        have different : key ≠ service.key := by
          rintro rfl
          rw [free] at present
          cases present
        dsimp only at kept
        rw [Function.update_of_ne different] at kept
        exact kept
  | edit edited change loadBalancerClass =>
      unfold ServiceSystem.advance at kept
      dsimp only at kept
      by_cases own : key = edited
      · rw [own, Function.update_self] at kept
        rw [own]
        exact kept
      · rw [Function.update_of_ne own] at kept
        exact kept
  | delete deleted timestamp =>
      unfold ServiceSystem.advance at kept
      dsimp only at kept
      split at kept
      · exact kept
      · dsimp only at kept
        by_cases own : key = deleted
        · rw [own, Function.update_self] at kept
          cases kept
        · rw [Function.update_of_ne own] at kept
          exact kept
  | environment action =>
      exact kept
  | sync synced ticks patchFailures =>
      have frames :=
        @syncService_frames l clusterName synced (system.begin ticks patchFailures)
      exact (frames.deletion key).symm.trans kept
  | nodeSync service metadata ticks =>
      have frames :=
        @nodeSyncService_frames l clusterName service metadata (system.begin ticks [])
      exact (frames.deletion key).symm.trans kept
  | restart =>
      exact kept

/--
No work of the step comes between a service and its load balancer: load balancers
of different keys have different names, and hosts are updated without a failure and
for the version of the service that is stored.
-/
def ServiceStep.Apart
    (l : LoadBalancerManager)
    (clusterName : String)
    (system : ServiceSystem) :
    ServiceStep → Prop
  | .sync key _ _ =>
      ∀ other ∈ system.cluster.services,
        other.key ≠ key →
        ∀ version ∈ system.versions key,
          other.loadBalancerName clusterName ≠ version.loadBalancerName clusterName
  | .nodeSync service metadata ticks =>
      wantsLoadBalancer service metadata = true →
      ∀ other ∈ system.cluster.services,
        other.loadBalancerName clusterName = service.loadBalancerName clusterName →
        service.id = other.id ∧
          service.annotations = other.annotations ∧
          (l.updateLoadBalancer clusterName service
            (system.begin ticks []).session).1.isOk = true
  | _ => True

/-- What holds of all stored services can be evaluated. -/
instance ServiceStore.decidableForall
    (store : ServiceStore)
    (property : Service → Prop)
    [DecidablePred property] :
    Decidable (∀ service ∈ store, property service) :=
  decidable_of_iff (∀ entry ∈ store.items.toList, property entry.2)
    ⟨fun all service member =>
      all (service.key, service) (Std.ExtTreeMap.mem_toList_iff_getElem?_eq_some.mpr member),
    fun all entry member => by
      have stored := Std.ExtTreeMap.mem_toList_iff_getElem?_eq_some.mp member
      have sameKey := store.keyed stored
      have underKey : store.items[entry.2.key]? = some entry.2 := by
        rw [sameKey]
        exact stored
      exact all entry.2 underKey⟩

instance ServiceStep.decidableApart
    (l : LoadBalancerManager)
    (clusterName : String)
    (system : ServiceSystem)
    (step : ServiceStep) :
    Decidable (step.Apart l clusterName system) :=
  match step with
  | .sync key _ _ =>
      inferInstanceAs
        (Decidable
          (∀ other ∈ system.cluster.services,
            other.key ≠ key → ∀ version ∈ system.versions key, _ ≠ _))
  | .nodeSync _ _ _ =>
      inferInstanceAs
        (Decidable (_ = true → ∀ other ∈ system.cluster.services, _ = _ → _ ∧ _ ∧ _))
  | .create _ _ => isTrue trivial
  | .edit _ _ _ => isTrue trivial
  | .delete _ _ => isTrue trivial
  | .environment _ => isTrue trivial
  | .restart => isTrue trivial

/-- A step keeps the load balancers that it does not work on. -/
theorem advance_delivers
    {system : ServiceSystem}
    {step : ServiceStep}
    {key : String}
    {service : Service}
    (apart : step.Apart l clusterName system)
    (stored : system.cluster.services.get? key = some service)
    (unset : service.annotations.lookup keyPrimaryService = none)
    (unworked : ∀ ticks patchFailures, step ≠ .sync key ticks patchFailures)
    (delivers : system.cluster.view.Delivers l.config clusterName service) :
    (system.advance l clusterName step).cluster.view.Delivers l.config clusterName service := by
  obtain ⟨member, sameKey⟩ := ServiceStore.get?_eq_some.mp stored
  cases step with
  | create created metadata =>
      unfold ServiceSystem.advance
      dsimp only
      split <;> exact delivers
  | edit edited change loadBalancerClass =>
      refine delivers.of_same ?_ rfl rfl
      exact congrFun (Cluster.view_edit_loadBalancers system.cluster edited change) _
  | delete deleted timestamp =>
      unfold ServiceSystem.advance
      dsimp only
      split <;> exact delivers
  | environment action =>
      unfold ServiceSystem.advance
      dsimp only
      rw [Cluster.view_react]
      exact delivers
  | sync synced ticks patchFailures =>
      have different : service.key ≠ synced := by
        rintro rfl
        exact unworked ticks patchFailures (by rw [sameKey])
      refine (syncService_frames synced (system.begin ticks patchFailures)).delivers ?_ delivers
      rintro ⟨version, isVersion, own⟩
      exact apart service member different version isVersion own
  | nodeSync listed metadata ticks =>
      unfold ServiceSystem.advance nodeSyncService
      dsimp only
      split
      · rename_i wants
        by_cases same :
            service.loadBalancerName clusterName = listed.loadBalancerName clusterName
        · obtain ⟨sameId, annotations, succeeds⟩ := apart wants service member same
          have updated :=
            lockedUpdateLoadBalancerHosts_delivers (by rw [annotations]; exact unset) succeeds
          exact updated.of_same rfl sameId annotations
        · have frames :=
            provider_frames (@lockedUpdateLoadBalancerHosts_frames l clusterName listed)
              (system.begin ticks [])
          exact frames.delivers same delivers
      · exact delivers
  | restart =>
      exact delivers

end Keeping

section Delivery

open WatchedService

variable {l : LoadBalancerManager}
variable {clusterName : String}

/-- Every primary service that is to have a load balancer is queued or has it. -/
def QueuedSystem.Delivered
    (l : LoadBalancerManager)
    (clusterName : String)
    (system : QueuedSystem) :
    Prop :=
  ∀ key current,
    system.watched key = some current →
    Due current →
    current.service.annotations.lookup keyPrimaryService = none →
    key ∉ system.queue →
    system.objects.cluster.view.Delivers l.config clusterName current.service

/-- The steps that the controllers and the users take. -/
def QueuedStep.Apart
    (l : LoadBalancerManager)
    (clusterName : String)
    (system : QueuedSystem) :
    QueuedStep → Prop
  | .taken (.sync key ticks patchFailures) =>
      key ∈ system.queue ∧
        (ServiceStep.sync key ticks patchFailures).Apart l clusterName system.objects
  | .taken step => step.Apart l clusterName system.objects
  | _ => True

instance QueuedStep.decidableApart
    (l : LoadBalancerManager)
    (clusterName : String)
    (system : QueuedSystem)
    (step : QueuedStep) :
    Decidable (step.Apart l clusterName system) :=
  match step with
  | .taken (.sync key ticks patchFailures) =>
      inferInstanceAs
        (Decidable
          (key ∈ system.queue ∧
            (ServiceStep.sync key ticks patchFailures).Apart l clusterName system.objects))
  | .taken (.nodeSync service metadata ticks) =>
      ServiceStep.decidableApart l clusterName system.objects (.nodeSync service metadata ticks)
  | .taken (.create _ _) => isTrue trivial
  | .taken (.edit _ _ _) => isTrue trivial
  | .taken (.delete _ _) => isTrue trivial
  | .taken (.environment _) => isTrue trivial
  | .taken .restart => isTrue trivial
  | .redetailed _ _ => isTrue trivial
  | .resynced _ => isTrue trivial

/-- Only queued keys are synchronised. -/
theorem QueuedStep.Apart.of_unqueued
    {system : QueuedSystem}
    {step : ServiceStep}
    {key : String}
    (apart : (QueuedStep.taken step).Apart l clusterName system)
    (unqueued : key ∉ system.queue) :
    step.Apart l clusterName system.objects ∧
      ∀ ticks patchFailures, step ≠ .sync key ticks patchFailures := by
  cases step with
  | sync synced ticks patchFailures =>
      refine ⟨apart.2, fun otherTicks otherFailures same => ?_⟩
      cases same
      exact unqueued apart.1
  | create | edit | delete | environment | nodeSync | restart =>
      exact ⟨apart, fun _ _ same => by cases same⟩

/-- What a dropped report says about the version before. -/
theorem older_of_unnoticed
    {older : Option WatchedService}
    {current : WatchedService}
    (due : Due current)
    (unnoticed : ¬ eventHandlers.notices older current = true) :
    ∃ old,
      older = some old ∧
        old.wants = true ∧
        old.service.annotations = current.service.annotations := by
  cases older with
  | none =>
      exact (unnoticed (Bool.or_eq_true_iff.mpr (.inl due.1))).elim
  | some old =>
      have noUpdate : needsUpdate old current = false := by
        cases updates : needsUpdate old current with
        | false =>
            rfl
        | true =>
            exact (unnoticed (Bool.or_eq_true_iff.mpr (.inl updates))).elim
      obtain ⟨oldWants, -, annotations, -⟩ := of_needsUpdate_eq_false due.1 noUpdate
      exact ⟨old, rfl, oldWants, annotations⟩

/-- A service that is to have a load balancer is not cleaned up. -/
theorem cleansUp_of_due
    {current : WatchedService}
    (due : Due current) :
    cleansUp current.service current.metadata = false := by
  obtain ⟨wants, alive⟩ := due
  have isLoadBalancer : current.service.serviceType = .loadBalancer := by
    unfold WatchedService.wants wantsLoadBalancer at wants
    exact of_decide_eq_true (Bool.and_eq_true_iff.mp wants).1
  unfold cleansUp needsCleanup
  rw [show wantsLoadBalancer current.service current.metadata = true from wants, alive,
    isLoadBalancer]
  simp

/-- The event handlers know the stored version, unless the controller has restarted. -/
theorem QueuedSystem.watched_of_known
    {system : QueuedSystem}
    {step : ServiceStep}
    {key : String}
    {old : WatchedService}
    (isKnown : system.known step key = some old) :
    system.watched key = some old ∧ step ≠ .restart := by
  cases step with
  | restart =>
      cases isKnown
  | create | edit | delete | environment | sync | nodeSync =>
      exact ⟨isKnown, fun restarts => by cases restarts⟩

/-- Only a synchronisation that succeeds takes a key out of the queue. -/
theorem QueuedSystem.finished_of_notMem_worked
    {system : QueuedSystem}
    {step : ServiceStep}
    {key : String}
    (runs : step ≠ .restart)
    (queued : key ∈ system.queue)
    (gone : key ∉ system.worked l clusterName step) :
    ∃ ticks patchFailures final,
      step = .sync key ticks patchFailures ∧
        syncService l clusterName key (system.objects.begin ticks patchFailures) =
          (.ok (), final) := by
  unfold QueuedSystem.worked at gone
  cases step with
  | sync synced ticks patchFailures =>
      dsimp only at gone
      split at gone
      · rename_i succeeds
        have own : key = synced := by
          by_contra other
          exact gone (Finset.mem_erase.mpr ⟨other, queued⟩)
        subst own
        cases ran : syncService l clusterName key (system.objects.begin ticks patchFailures) with
        | mk answer final =>
            rw [ran] at succeeds
            cases answer with
            | ok done =>
                exact ⟨ticks, patchFailures, final, rfl, ran⟩
            | error error =>
                cases succeeds
      · exact (gone queued).elim
  | nodeSync service metadata ticks =>
      dsimp only at gone
      split at gone
      · exact (gone queued).elim
      · exact (gone (Finset.mem_insert_of_mem queued)).elim
  | restart =>
      exact (runs rfl).elim
  | create | edit | delete | environment =>
      exact (gone queued).elim

/-- A step of the objects keeps every service queued or delivered. -/
theorem QueuedSystem.Delivered.taken
    {system : QueuedSystem}
    {step : ServiceStep}
    (delivered : system.Delivered l clusterName)
    (apart : (QueuedStep.taken step).Apart l clusterName system) :
    (system.advance l clusterName (.taken step)).Delivered l clusterName := by
  intro key current found due unset outside
  obtain ⟨unworked, unreported⟩ := not_or.mp (fun inside => outside (Finset.mem_union.mpr inside))
  obtain ⟨old, isKnown, oldWants, annotations⟩ :=
    older_of_unnoticed due fun noticed => unreported (mem_reported found noticed)
  obtain ⟨wasWatched, runs⟩ := watched_of_known isKnown
  obtain ⟨oldService, oldStored, rfl⟩ := Option.map_eq_some_iff.mp wasWatched
  obtain ⟨newService, newStored, rfl⟩ := Option.map_eq_some_iff.mp found
  have present : (system.objects.cluster.services.get? key).isSome :=
    Option.isSome_iff_exists.mpr ⟨oldService, oldStored⟩
  have sameId : oldService.id = newService.id := by
    have before := (view_ids_of_stored oldStored).2
    have after := advance_ids present (view_ids_of_stored newStored).2
    exact Option.some.inj (before.symm.trans after)
  have oldUnset : oldService.annotations.lookup keyPrimaryService = none := by
    rw [show oldService.annotations = newService.annotations from annotations]
    exact unset
  have oldAlive : (system.objects.metadata key).deletionTimestamp = none :=
    advance_deletion present due.2
  suffices kept :
      (system.objects.advance l clusterName step).cluster.view.Delivers l.config clusterName
        oldService from
    kept.of_same rfl sameId annotations
  by_cases queued : key ∈ system.queue
  · obtain ⟨ticks, patchFailures, final, rfl, ran⟩ :=
      finished_of_notMem_worked runs queued unworked
    have delivers :=
      syncService_delivers oldStored oldUnset (cleansUp_of_due ⟨oldWants, oldAlive⟩) ran
    unfold ServiceSystem.advance
    dsimp only
    rw [ran]
    exact delivers
  · have before := delivered key _ wasWatched ⟨oldWants, oldAlive⟩ oldUnset queued
    obtain ⟨stepApart, unsynced⟩ := apart.of_unqueued queued
    exact advance_delivers stepApart oldStored oldUnset unsynced before

/-- Nothing but a noticed change or an insertion happens to the queue without work. -/
theorem QueuedSystem.Delivered.redetailed
    {system : QueuedSystem}
    (delivered : system.Delivered l clusterName)
    (key : String)
    (details : WatchedService) :
    (system.advance l clusterName (.redetailed key details)).Delivered l clusterName := by
  intro other current found due unset outside
  obtain ⟨unqueued, unreported⟩ := not_or.mp (fun inside => outside (Finset.mem_union.mpr inside))
  obtain ⟨old, wasWatched, oldWants, -⟩ :=
    older_of_unnoticed due fun noticed => unreported (mem_reported found noticed)
  obtain ⟨oldService, oldStored, rfl⟩ := Option.map_eq_some_iff.mp wasWatched
  obtain ⟨newService, newStored, rfl⟩ := Option.map_eq_some_iff.mp found
  have same : oldService = newService := Option.some.inj (oldStored.symm.trans newStored)
  subst same
  have before := delivered other _ wasWatched ⟨oldWants, due.2⟩ unset unqueued
  exact before

/-- Every step keeps every service queued or delivered. -/
theorem QueuedSystem.Delivered.advance
    {system : QueuedSystem}
    {step : QueuedStep}
    (delivered : system.Delivered l clusterName)
    (apart : step.Apart l clusterName system) :
    (system.advance l clusterName step).Delivered l clusterName := by
  cases step with
  | taken step =>
      exact delivered.taken apart
  | redetailed key details =>
      exact delivered.redetailed key details
  | resynced key =>
      unfold QueuedSystem.advance
      dsimp only
      split
      · exact delivered
      · split
        · intro other current found due unset outside
          exact delivered other current found due unset fun queued =>
            outside (Finset.mem_insert_of_mem queued)
        · exact delivered

/--
In every run, a primary service that is to have a load balancer is in the queue, or
its load balancer is stored and shows what the service asks for.
-/
theorem unqueued_service_is_delivered
    {details : String → WatchedService}
    {system : QueuedSystem}
    {steps : List QueuedStep}
    (execution :
      Execution
        (StepsOf (QueuedSystem.advance l clusterName) fun reached step =>
          step.Apart l clusterName reached)
        { details := details } steps system)
    {service : Service}
    (stored : service ∈ system.objects.cluster.services)
    (wants : wantsLoadBalancer service (system.objects.metadata service.key) = true)
    (alive : (system.objects.metadata service.key).deletionTimestamp = none)
    (unset : service.annotations.lookup keyPrimaryService = none)
    (outside : service.key ∉ system.queue) :
    ∃ lb,
      system.objects.cluster.loadBalancers.get? (service.loadBalancerName clusterName) =
          some lb ∧
        lb.Reflects l.config clusterName service := by
  have delivered : system.Delivered l clusterName := by
    refine execution.invariant (fun reached => reached.Delivered l clusterName) ?_ ?_
    · intro key current missing
      cases missing
    · rintro reached next step earlier ⟨apart, rfl⟩
      exact earlier.advance apart
  have found := ServiceStore.get?_eq_some.mpr ⟨stored, rfl⟩
  obtain ⟨content, isContent, shown⟩ :=
    delivered service.key _ (Option.map_eq_some_iff.mpr ⟨service, found, rfl⟩) ⟨wants, alive⟩
      unset outside
  obtain ⟨lb, isStored, rfl⟩ := Option.map_eq_some_iff.mp isContent
  exact ⟨lb, isStored, LoadBalancer.reflects_content.mp shown⟩

/-- A service is made and synchronised until nothing is left to do. -/
def deliveredSteps : List QueuedStep :=
  [.taken (.create webService {}),
    .taken (.sync "default/web" (allocatingAfter 3 webService "10.0.0.1") []),
    .taken (.sync "default/web" [] [])]

/-- The system after these steps. -/
def deliveredSystem : QueuedSystem :=
  deliveredSteps.foldl (QueuedSystem.advance sampleManager "prod")
    { details := fun _ => { service := webService } }

/-- The published service is outside the queue and has its load balancer. -/
theorem web_service_is_delivered :
    ∃ service ∈ deliveredSystem.objects.cluster.services,
      ∃ lb,
        deliveredSystem.objects.cluster.loadBalancers.get? (service.loadBalancerName "prod") =
            some lb ∧
          lb.Reflects sampleManager.config "prod" service := by
  have present :
      ((deliveredSystem.objects.cluster.services.get? "default/web").any fun service =>
        decide
          (wantsLoadBalancer service (deliveredSystem.objects.metadata "default/web") = true ∧
            (deliveredSystem.objects.metadata "default/web").deletionTimestamp = none ∧
            service.annotations.lookup keyPrimaryService = none)) = true := by
    decide +kernel
  have outside : "default/web" ∉ deliveredSystem.queue := by
    decide +kernel
  cases found : deliveredSystem.objects.cluster.services.get? "default/web" with
  | none =>
      rw [found] at present
      cases present
  | some service =>
      rw [found] at present
      obtain ⟨wants, alive, unset⟩ := of_decide_eq_true present
      obtain ⟨stored, sameKey⟩ := ServiceStore.get?_eq_some.mp found
      rw [← sameKey] at wants alive outside
      have execution :
          Execution
            (StepsOf (QueuedSystem.advance sampleManager "prod") fun reached step =>
              step.Apart sampleManager "prod" reached)
            { details := fun _ => { service := webService } } deliveredSteps
            deliveredSystem :=
        execution_of_allAllowed (by decide +kernel)
      exact
        ⟨service, stored, unqueued_service_is_delivered execution stored wants alive unset
          outside⟩

/-- The service as the controller has it in memory. -/
def listedService : Service :=
  ((deliveredSystem.objects.cache["default/web"]?).map Prod.fst).getD webService

/--
The condition on node changes is needed: a node change whose wait for the address
fails takes the load balancer away, and the service is not queued again.
-/
example :
    let lost :=
      deliveredSystem.advance sampleManager "prod"
        (.taken (.nodeSync listedService {}
          (List.replicate 3 ({} : Tick) ++ List.replicate 10 ({ failure := some {} } : Tick))))
    lost.queue = ∅ ∧
      (lost.objects.cluster.loadBalancers.get? (webService.loadBalancerName "prod")).isNone := by
  decide +kernel

end Delivery

end HarvesterCloudProvider
