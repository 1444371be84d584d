import HarvesterCloudProvider.LoadBalancerCleanup
import HarvesterCloudProvider.PortSharing

namespace HarvesterCloudProvider

open Program

/-!
# The sharing label over whole runs

A secondary declares its primary in an annotation; the reconcile copies the
declaration into a label, and two checks list services by that label.  Users
change the annotation and the type of a service, and the service controller
reconciles every change.  Both reconciles of a load balancer service settle the
label.  The cleanup of a service of another type does not look at it, so the
label follows the declaration only as long as no labelled service is cleaned up.
-/

section Runs

/-- `syncLoadBalancerIfNeeded` of the service controller. -/
def syncLoadBalancerIfNeeded
    (l : LoadBalancerManager)
    (clusterName : String)
    (service : Service) :
    Program Session Err Unit :=
  if service.serviceType = .loadBalancer then do
    let _ ← l.ensureLoadBalancer clusterName service
    pure ()
  else
    cleanup clusterName service

/-- The stored objects, and the services changed since their last successful reconcile. -/
structure SharingState where
  cluster : Cluster := {}
  pending : List String := []

/-- One step of a run. -/
inductive SharingStep where
  /-- A user creates a service. -/
  | create (service : Service)
  /-- A user sets, changes or removes the primary-service annotation. -/
  | annotate (key : String) (primary : Option String)
  /-- A user changes the type of a service. -/
  | retype (key : String) (serviceType : ServiceType)
  /-- A user changes a service in any other way. -/
  | edit (key : String) (change : UserEdit)
  /-- A service goes away. -/
  | remove (key : String)
  /-- Another controller acts. -/
  | environment (action : EnvironmentAction)
  /-- The service controller reconciles the stored service under a key. -/
  | sync (key : String) (ticks : List Tick)

/-- The edit that sets, changes or removes the primary-service annotation. -/
def Service.annotated (service : Service) (primary : Option String) : UserEdit where
  annotations :=
    match primary with
    | some text => service.annotations.write keyPrimaryService text
    | none => service.annotations.remove keyPrimaryService
  labels := service.labels
  serviceType := service.serviceType
  ports := service.ports

/-- The edit that changes the type. -/
def Service.retyped (service : Service) (serviceType : ServiceType) : UserEdit where
  annotations := service.annotations
  labels := service.labels
  serviceType := serviceType
  ports := service.ports

namespace SharingState

/-- A user changes the stored service under a key. -/
def edited (state : SharingState) (key : String) (change : Service → UserEdit) :
    SharingState :=
  match state.cluster.services.get? key with
  | none => state
  | some service =>
      { cluster := state.cluster.edit key (change service)
        pending := key :: state.pending }

/-- The state after a reconcile; a service stays pending until one succeeds. -/
def synced
    (state : SharingState)
    (key : String)
    (answer : Except Err Unit)
    (final : Session) :
    SharingState where
  cluster := final.cluster
  pending :=
    if answer.isOk then
      state.pending.filter fun other => other ≠ key
    else
      state.pending

/-- The state after one step. -/
def advance
    (l : LoadBalancerManager)
    (clusterName : String)
    (state : SharingState) :
    SharingStep → SharingState
  | .create service =>
      -- A creation under a taken key is refused and changes nothing.
      if (state.cluster.services.get? service.key).isSome then
        state
      else
        { cluster := state.cluster.create service
          pending := service.key :: state.pending }
  | .annotate key primary => state.edited key fun service => service.annotated primary
  | .retype key serviceType => state.edited key fun service => service.retyped serviceType
  | .edit key change => state.edited key fun _ => change
  | .remove key => { state with cluster := state.cluster.remove key }
  | .environment action => { state with cluster := state.cluster.react action }
  | .sync key ticks =>
      match state.cluster.services.get? key with
      | none => state
      | some service =>
          let (answer, final) :=
            syncLoadBalancerIfNeeded l clusterName service
              { cluster := state.cluster, ticks := ticks }
          state.synced key answer final

/-- A service that is cleaned up as no load balancer carries no sharing label. -/
def CleanedUpUnlabelled (state : SharingState) (step : SharingStep) : Prop :=
  match step with
  | .sync key _ =>
      ∀ service ∈ state.cluster.services.get? key,
        service.serviceType ≠ .loadBalancer →
        service.labels.read keyPrimaryService = ""
  | _ => True

instance (state : SharingState) (step : SharingStep) :
    Decidable (state.CleanedUpUnlabelled step) := by
  unfold CleanedUpUnlabelled
  split <;> infer_instance

end SharingState

/-- What `getPrimaryService` answers when no request fails. -/
def Cluster.primaryOf (cluster : Cluster) (service : Service) :
    Except Err (Option Service) :=
  (getPrimaryService service { cluster := cluster, ticks := [] }).1

/-- The sharing label agrees with type and annotation of every reconciled service. -/
structure SharingState.LabelsTrack (state : SharingState) : Prop where
  tracks :
    ∀ service ∈ state.cluster.services,
      service.key ∉ state.pending →
      ∀ primary ∈ state.cluster.services,
        primary.annotations.read keyPrimaryService = "" →
        (service.labels.lookup keyPrimaryService =
            some (primaryServiceLabelValue primary) ↔
          service.serviceType = .loadBalancer ∧
            state.cluster.primaryOf service = .ok (some primary))
  unblocked :
    ∀ primary ∈ state.cluster.services,
      primary.annotations.read keyPrimaryService = "" →
      (∀ service ∈ state.cluster.services,
        service.key ∉ state.pending ∧
          (service.serviceType = .loadBalancer →
            state.cluster.primaryOf service ≠ .ok (some primary))) →
      (checkSecondaryServicesBeforeDeleted primary
        { cluster := state.cluster, ticks := [] }).1 = .ok ()

end Runs

section Declarations

/-- The primary-service annotation names a cache key. -/
def Service.Declares (service : Service) (key : String) : Prop :=
  ∃ text ns name,
    service.annotations.lookup keyPrimaryService = some text ∧
      splitAtSlash text = some (ns, name) ∧
      key = metaNamespaceKey ns name

/-- An annotation names at most one key. -/
theorem Service.Declares.unique
    {service : Service}
    {first second : String}
    (declaresFirst : service.Declares first)
    (declaresSecond : service.Declares second) :
    first = second :=
  annotatedKey_unique declaresFirst declaresSecond

/-- The label value of a service is determined by its cache key. -/
theorem primaryServiceLabelValue_eq_of_key
    {first second : Service}
    (firstAdmitted : first.Admissible)
    (secondAdmitted : second.Admissible)
    (sameKey : first.key = second.key) :
    primaryServiceLabelValue first = primaryServiceLabelValue second := by
  have nonempty
      {service : Service}
      (admitted : service.Admissible) :
      service.ns ≠ "" := by
    intro empty
    have valid := admitted.1
    rw [empty] at valid
    exact absurd valid (by decide +kernel)
  simp only [Service.key, metaNamespaceKey, nonempty firstAdmitted,
    nonempty secondAdmitted, ↓reduceIte] at sameKey
  have bytes := congrArg bytesOf sameKey
  have slash : bytesOf "/" = [47] := by
    decide +kernel
  simp only [bytesOf_append, slash, List.append_assoc, List.singleton_append] at bytes
  have outside : isLabelByte 47 = false := by
    decide
  obtain ⟨sameNs, _, sameName⟩ :=
    (List.append_cons_inj_of_notMem
      (isDNS1123Label_notMem firstAdmitted.1 outside)
      (isDNS1123Label_notMem firstAdmitted.2 outside)).mp bytes
  rw [primaryServiceLabelValue, primaryServiceLabelValue, bytesOf_injective sameNs,
    bytesOf_injective sameName]

/-- Without failures a stored primary is found exactly by its declared key. -/
theorem Cluster.primaryOf_eq_iff
    {cluster : Cluster}
    {service primary : Service}
    (stored : primary ∈ cluster.services)
    (unannotated : primary.annotations.read keyPrimaryService = "") :
    cluster.primaryOf service = .ok (some primary) ↔ service.Declares primary.key := by
  constructor
  · intro answered
    have resolved :=
      getPrimaryService_some (Prod.ext answered rfl :
        getPrimaryService service { cluster := cluster, ticks := [] } =
          (.ok (some primary),
            (getPrimaryService service { cluster := cluster, ticks := [] }).2))
    exact resolved.annotated
  · rintro ⟨text, ns, name, annotated, parts, sameKey⟩
    have found : cluster.services.get? (metaNamespaceKey ns name) = some primary :=
      ServiceStore.get?_eq_some.mpr ⟨stored, sameKey⟩
    simp [Cluster.primaryOf, getPrimaryService, annotated, parts, localSvcCacheGet,
      call, found, unannotated, bind_run, mapError]

/-- What the sharing label of a reconciled service can be. -/
inductive Service.LabelTracked (service : Service) : Prop where
  | outside
      (otherType : service.serviceType ≠ .loadBalancer)
      (unlabelled : service.labels.read keyPrimaryService = "")
  | primary
      (unset : service.annotations.lookup keyPrimaryService = none)
      (unlabelled : service.labels.read keyPrimaryService = "")
  | secondary
      {primary : Service}
      (isLoadBalancer : service.serviceType = .loadBalancer)
      (admitted : primary.Admissible)
      (declared : service.Declares primary.key)
      (label :
        service.labels.lookup keyPrimaryService =
          some (primaryServiceLabelValue primary))

/-- A tracked label names a primary exactly when the service declares it. -/
theorem Service.LabelTracked.label_iff
    {service primary : Service}
    (tracked : service.LabelTracked)
    (admitted : primary.Admissible) :
    service.labels.lookup keyPrimaryService =
        some (primaryServiceLabelValue primary) ↔
      service.serviceType = .loadBalancer ∧ service.Declares primary.key := by
  have labelled
      (label :
        service.labels.lookup keyPrimaryService =
          some (primaryServiceLabelValue primary)) :
      service.labels.read keyPrimaryService ≠ "" := by
    rw [NilableMap.read_of_lookup label]
    exact primaryServiceLabelValue_ne_empty primary
  cases tracked with
  | outside otherType unlabelled =>
      exact ⟨fun label => (labelled label unlabelled).elim,
        fun both => (otherType both.1).elim⟩
  | primary unset unlabelled =>
      refine ⟨fun label => (labelled label unlabelled).elim, ?_⟩
      rintro ⟨_, text, _, _, annotated, _⟩
      rw [unset] at annotated
      cases annotated
  | @secondary named isLoadBalancer namedAdmitted declared label =>
      rw [label, Option.some.injEq]
      constructor
      · intro sameValue
        have sameKey := key_eq_of_primaryServiceLabelValue namedAdmitted sameValue
        exact ⟨isLoadBalancer, sameKey ▸ declared⟩
      · rintro ⟨_, declaresPrimary⟩
        exact primaryServiceLabelValue_eq_of_key namedAdmitted admitted
          (declared.unique declaresPrimary)

end Declarations

section Steps

variable {l : LoadBalancerManager}
variable {clusterName : String}

/-- Every service that is not pending carries the label it should. -/
def SharingState.Tracked (state : SharingState) : Prop :=
  ∀ key service,
    state.cluster.view.services key = some service →
    key ∉ state.pending →
    service.LabelTracked

/-- A service that is there after a removal was there before. -/
theorem Cluster.view_services_of_remove
    {cluster : Cluster}
    {removed key : String}
    {service : Service}
    (found : (cluster.remove removed).view.services key = some service) :
    cluster.view.services key = some service := by
  by_cases own : key = removed
  · subst own
    have erased := ServiceStore.get?_erase cluster.services key key
    rw [if_pos rfl] at erased
    have gone : (cluster.remove key).view.services key = none :=
      congrArg (Option.map Service.content) erased
    rw [gone] at found
    cases found
  · rwa [Cluster.view_remove_services own] at found

/-- A cleanup writes no service. -/
theorem cleanup_services
    {service : Service}
    {session final : Session}
    {answer : Except Err Unit}
    (ran : cleanup clusterName service session = (answer, final)) :
    final.cluster.view.services = session.cluster.view.services := by
  rcases bind_cases ran with ⟨error, looked, rfl⟩ | ⟨status, reached, looked, ran⟩
  · obtain ⟨_, _, _, sameView⟩ :=
      observed_events (getLoadBalancer_observes clusterName service) looked
    rw [sameView]
  · obtain ⟨_, _, _, sameView⟩ :=
      observed_events (getLoadBalancer_observes clusterName service) looked
    cases status with
    | none =>
        simp only [pure_run, Prod.mk.injEq] at ran
        obtain ⟨rfl, rfl⟩ := ran
        rw [sameView]
    | some found =>
        obtain ⟨events, recorded, outcome⟩ := ensureLoadBalancerDeleted_outcome ran
        rw [recorded.view_eq, outcome.services_eq, sameView]

/-- The reconcile of a load balancer service settles its label or writes nothing. -/
theorem ensureLoadBalancer_label
    {service : Service}
    {cluster : Cluster}
    {ticks : List Tick}
    {final : Session}
    {answer : Except Err LoadBalancerStatus}
    (stored : service ∈ cluster.services)
    (isLoadBalancer : service.serviceType = .loadBalancer)
    (ran :
      l.ensureLoadBalancer clusterName service { cluster := cluster, ticks := ticks } =
        (answer, final)) :
    (answer.isOk = false ∧ final.cluster.view.services = cluster.view.services) ∨
      ∃ updated : Service,
        updated.LabelTracked ∧
          final.cluster.view.services =
            Function.update cluster.view.services service.key (some updated) := by
  obtain ⟨events, recorded, outcome⟩ := ensureLoadBalancer_outcome ran
  rw [recorded.view_eq]
  cases succeeded : answer.isOk with
  | false =>
      rw [succeeded] at outcome
      exact .inl ⟨rfl, outcome.services_of_failed⟩
  | true =>
      rw [succeeded] at outcome
      obtain ⟨updated, reconciled⟩ :=
        outcome.reconciled (Cluster.view_services_of_mem stored)
      refine .inr ⟨updated, ?_, reconciled.services⟩
      cases reconciled.role with
      | primary unset label =>
          exact .primary (reconciled.sameAnnotation.trans unset) label
      | @secondary primary resolved portsFree label =>
          have admitted : primary.Admissible :=
            (Cluster.view_services_stored resolved.stored).2
          refine .secondary (reconciled.sameType.trans isLoadBalancer) admitted ?_ label
          obtain ⟨text, ns, name, annotated, parts, sameKey⟩ := resolved.annotated
          exact ⟨text, ns, name, reconciled.sameAnnotation.trans annotated, parts, sameKey⟩

/-- A reconcile settles the label of its service, or fails and writes no service. -/
theorem syncLoadBalancerIfNeeded_label
    {service : Service}
    {cluster : Cluster}
    {ticks : List Tick}
    {final : Session}
    {answer : Except Err Unit}
    (stored : service ∈ cluster.services)
    (unlabelled :
      service.serviceType ≠ .loadBalancer →
      service.labels.read keyPrimaryService = "")
    (ran :
      syncLoadBalancerIfNeeded l clusterName service
        { cluster := cluster, ticks := ticks } = (answer, final)) :
    (answer.isOk = false ∧ final.cluster.view.services = cluster.view.services) ∨
      ∃ updated : Service,
        updated.LabelTracked ∧
          final.cluster.view.services =
            Function.update cluster.view.services service.key (some updated) := by
  unfold syncLoadBalancerIfNeeded at ran
  split at ran
  · rename_i isLoadBalancer
    rcases bind_cases ran with ⟨error, ensured, rfl⟩ | ⟨_, reached, ensured, ran⟩
    · exact ensureLoadBalancer_label stored isLoadBalancer ensured
    · simp only [pure_run, Prod.mk.injEq] at ran
      obtain ⟨rfl, rfl⟩ := ran
      exact ensureLoadBalancer_label stored isLoadBalancer ensured
  · rename_i otherType
    -- The cleanup leaves the label alone, so it has to be settled before.
    have sameServices := cleanup_services ran
    have inHand := Cluster.view_services_of_mem stored
    refine .inr ⟨service.content, .outside otherType (unlabelled otherType), ?_⟩
    exact sameServices.trans (Function.update_eq_self_iff.mpr inHand.symm).symm

namespace SharingState

/-- A change that marks its key as pending and shows up there only. -/
theorem Tracked.of_pending
    {before after : SharingState}
    (tracked : before.Tracked)
    {changed : String}
    (marked : after.pending = changed :: before.pending)
    (elsewhere :
      ∀ key,
        key ≠ changed →
        after.cluster.view.services key = before.cluster.view.services key) :
    after.Tracked := by
  intro key service found settled
  rw [marked, List.mem_cons, not_or] at settled
  rw [elsewhere key settled.1] at found
  exact tracked key service found settled.2

/-- A user may change a service in any way; it is pending afterwards. -/
theorem Tracked.edited
    {state : SharingState}
    (tracked : state.Tracked)
    (key : String)
    (change : Service → UserEdit) :
    (state.edited key change).Tracked := by
  unfold SharingState.edited
  split
  · exact tracked
  · exact tracked.of_pending rfl fun other different =>
      Cluster.view_edit_services different

/-- A reconcile keeps every settled label settled. -/
theorem Tracked.synced
    {state : SharingState}
    (tracked : state.Tracked)
    {service : Service}
    {ticks : List Tick}
    {answer : Except Err Unit}
    {final : Session}
    (stored : service ∈ state.cluster.services)
    (unlabelled :
      service.serviceType ≠ .loadBalancer →
      service.labels.read keyPrimaryService = "")
    (ran :
      syncLoadBalancerIfNeeded l clusterName service
        { cluster := state.cluster, ticks := ticks } = (answer, final)) :
    (state.synced service.key answer final).Tracked := by
  intro key found foundAfter settled
  have afterwards : final.cluster.view.services key = some found := foundAfter
  unfold SharingState.synced at settled
  rcases syncLoadBalancerIfNeeded_label stored unlabelled ran with
    ⟨failed, sameServices⟩ | ⟨updated, updatedTracked, services⟩
  · rw [failed, if_neg Bool.false_ne_true] at settled
    rw [sameServices] at afterwards
    exact tracked key found afterwards settled
  · rw [services] at afterwards
    by_cases own : key = service.key
    · subst own
      rw [Function.update_self, Option.some.injEq] at afterwards
      exact afterwards ▸ updatedTracked
    · rw [Function.update_of_ne own] at afterwards
      refine tracked key found afterwards fun waiting => settled ?_
      split
      · exact List.mem_filter.mpr ⟨waiting, decide_eq_true own⟩
      · exact waiting

/-- Every step that meets the condition keeps every settled label settled. -/
theorem Tracked.advance
    {state : SharingState}
    (tracked : state.Tracked)
    {step : SharingStep}
    (unlabelled : state.CleanedUpUnlabelled step) :
    (state.advance l clusterName step).Tracked := by
  cases step with
  | create service =>
      simp only [SharingState.advance]
      split
      · exact tracked
      · refine tracked.of_pending rfl fun key different => ?_
        exact congrArg (Option.map Service.content)
          (ServiceStore.get?_insert_of_ne _ different)
  | annotate key primary =>
      exact tracked.edited key _
  | retype key serviceType =>
      exact tracked.edited key _
  | edit key change =>
      exact tracked.edited key _
  | remove key =>
      intro other service found settled
      exact tracked other service (Cluster.view_services_of_remove found) settled
  | environment action =>
      intro other service found settled
      have kept : (state.cluster.react action).view.services other = some service :=
        found
      rw [Cluster.view_react] at kept
      exact tracked other service kept settled
  | sync key ticks =>
      cases stored : state.cluster.services.get? key with
      | none =>
          simp only [SharingState.advance, stored]
          exact tracked
      | some service =>
          simp only [SharingState.advance, stored]
          obtain ⟨member, rfl⟩ := ServiceStore.get?_eq_some.mp stored
          exact tracked.synced member (unlabelled service stored) rfl

/-- The label of a settled service names the primary it declares and no other. -/
theorem Tracked.label_iff
    {state : SharingState}
    (tracked : state.Tracked)
    {service primary : Service}
    (stored : service ∈ state.cluster.services)
    (settled : service.key ∉ state.pending)
    (primaryStored : primary ∈ state.cluster.services)
    (unannotated : primary.annotations.read keyPrimaryService = "") :
    service.labels.lookup keyPrimaryService =
        some (primaryServiceLabelValue primary) ↔
      service.serviceType = .loadBalancer ∧
        state.cluster.primaryOf service = .ok (some primary) := by
  have isTracked :=
    tracked service.key service.content (Cluster.view_services_of_mem stored) settled
  have admitted := state.cluster.services.admitted primaryStored
  rw [Cluster.primaryOf_eq_iff primaryStored unannotated]
  exact isTracked.label_iff admitted

/-- Settled labels say what the annotation and the type say. -/
theorem Tracked.labelsTrack
    {state : SharingState}
    (tracked : state.Tracked) :
    state.LabelsTrack where
  tracks service stored settled primary primaryStored unannotated :=
    tracked.label_iff stored settled primaryStored unannotated
  unblocked primary primaryStored unannotated released := by
    have nobody :
        state.cluster.services.labelled (primaryServiceLabelValue primary) = [] := by
      refine List.eq_nil_iff_forall_not_mem.mpr fun service listed => ?_
      obtain ⟨stored, label⟩ := ServiceStore.mem_labelled.mp listed
      obtain ⟨settled, notSharing⟩ := released service stored
      obtain ⟨isLoadBalancer, shares⟩ :=
        (tracked.label_iff stored settled primaryStored unannotated).mp label
      exact notSharing isLoadBalancer shares
    simp [checkSecondaryServicesBeforeDeleted, localSvcCacheList, call, nobody, bind_run]

end SharingState

end Steps

section Sharing

variable {l : LoadBalancerManager}
variable {clusterName : String}

/--
In every run in which no labelled service is cleaned up as no load balancer,
the sharing label of every reconciled service agrees with its annotation and
its type, and only services that share a primary block the deletion of its load
balancer.
-/
theorem labels_track_sharing
    {start reached : SharingState}
    {steps : List SharingStep}
    (initially : start.Tracked)
    (execution :
      Execution
        (StepsOf (SharingState.advance l clusterName) SharingState.CleanedUpUnlabelled)
        start steps reached) :
    reached.LabelsTrack := by
  have tracked : reached.Tracked := by
    refine execution.invariant SharingState.Tracked initially ?_
    rintro earlier next step earlierTracked ⟨unlabelled, rfl⟩
    exact earlierTracked.advance unlabelled
  exact tracked.labelsTrack

/-- `apiService` shares the load balancer of `webService`, both reconciled. -/
def sharingSteps : List SharingStep :=
  [.create webService,
    .sync "default/web" (allocatingAfter 3 webService "10.0.0.1"),
    .environment (.assignIngress "default/web" [⟨"10.0.0.1"⟩]),
    .sync "default/web" [],
    .create apiService,
    .sync "default/api" []]

/-- The secondary leaves the group before it stops being a load balancer. -/
def releasingSteps : List SharingStep :=
  sharingSteps ++
    [.annotate "default/api" none,
      .sync "default/api" (allocatingAfter 3 apiService "10.0.0.2"),
      .retype "default/api" .clusterIP,
      .sync "default/api" []]

/-- The secondary stops being a load balancer while it shares one. -/
def convertingSteps : List SharingStep :=
  sharingSteps ++
    [.retype "default/api" .clusterIP,
      .sync "default/api" []]

/-- The state after steps from nothing. -/
def sharingEnd (steps : List SharingStep) : SharingState :=
  steps.foldl (SharingState.advance sampleManager "prod") {}

/-- The services that carry the label of `webService`, by their types. -/
def SharingState.webGroup (state : SharingState) : List (ServiceId × ServiceType) :=
  (state.cluster.services.labelled "default.web").map fun service =>
    (service.id, service.serviceType)

/-- A secondary that is released first leaves no label behind. -/
theorem releasing_labels_track :
    (sharingEnd sharingSteps).webGroup = [(apiService.id, .loadBalancer)] ∧
      (sharingEnd releasingSteps).webGroup = [] ∧
      (sharingEnd releasingSteps).pending = [] ∧
      (sharingEnd releasingSteps).LabelsTrack := by
  have evaluated :
      (sharingEnd sharingSteps).webGroup = [(apiService.id, .loadBalancer)] ∧
        (sharingEnd releasingSteps).webGroup = [] ∧
        (sharingEnd releasingSteps).pending = [] ∧
        allAllowed (SharingState.advance sampleManager "prod")
          SharingState.CleanedUpUnlabelled {} releasingSteps = true := by
    decide +kernel
  obtain ⟨shared, released, settled, allowed⟩ := evaluated
  refine ⟨shared, released, settled, ?_⟩
  refine labels_track_sharing ?_ (execution_of_allAllowed allowed)
  intro key service found
  cases found

/-- Users change annotation or type, and each change is reconciled successfully. -/
def SharingState.Serial
    (l : LoadBalancerManager)
    (clusterName : String)
    (state : SharingState)
    (step : SharingStep) :
    Prop :=
  match step with
  | .create service =>
      state.pending = [] ∧ service.labels.lookup keyPrimaryService = none
  | .annotate _ _ => state.pending = []
  | .retype _ serviceType =>
      state.pending = [] ∧
        (serviceType = .loadBalancer ∨ serviceType = .clusterIP)
  | .edit _ _ => False
  | .remove _ => False
  | .environment _ => state.pending = []
  | .sync key ticks =>
      (∀ other ∈ state.pending, other = key) ∧
        (state.advance l clusterName (.sync key ticks)).pending = []

instance
    (l : LoadBalancerManager)
    (clusterName : String)
    (state : SharingState)
    (step : SharingStep) :
    Decidable (state.Serial l clusterName step) := by
  unfold SharingState.Serial
  split <;> infer_instance

/-- A secondary that becomes another type keeps its label for good. -/
theorem labels_do_not_always_track_sharing :
    ¬ ∀ (steps : List SharingStep) (reached : SharingState),
        Execution
          (StepsOf (SharingState.advance sampleManager "prod")
            (SharingState.Serial sampleManager "prod"))
          {} steps reached →
        reached.pending = [] →
        reached.LabelsTrack := by
  intro always
  have evaluated :
      allAllowed (SharingState.advance sampleManager "prod")
          (SharingState.Serial sampleManager "prod") {} convertingSteps = true ∧
        (sharingEnd convertingSteps).pending = [] ∧
        ((sharingEnd convertingSteps).cluster.services.get? "default/web").map
            (fun web =>
              (primaryServiceLabelValue web, web.annotations.read keyPrimaryService)) =
          some ("default.web", "") ∧
        ((sharingEnd convertingSteps).cluster.services.get? "default/api").map
            (fun api => (api.serviceType, api.labels.lookup keyPrimaryService)) =
          some (.clusterIP, some "default.web") := by
    decide +kernel
  obtain ⟨allowed, settled, primary, secondary⟩ := evaluated
  obtain ⟨web, webFound, webSeen⟩ := Option.map_eq_some_iff.mp primary
  obtain ⟨api, apiFound, apiSeen⟩ := Option.map_eq_some_iff.mp secondary
  obtain ⟨webValue, webUnannotated⟩ := Prod.mk.inj webSeen
  obtain ⟨apiType, apiLabel⟩ := Prod.mk.inj apiSeen
  have track :=
    always convertingSteps (sharingEnd convertingSteps) (execution_of_allAllowed allowed)
      settled
  have apiSettled : api.key ∉ (sharingEnd convertingSteps).pending := by
    rw [settled]
    exact List.not_mem_nil
  have tracked :=
    track.tracks api (ServiceStore.get?_eq_some.mp apiFound).1 apiSettled web
      (ServiceStore.get?_eq_some.mp webFound).1 webUnannotated
  rw [webValue] at tracked
  have isLoadBalancer := (tracked.mp apiLabel).1
  rw [apiType] at isLoadBalancer
  cases isLoadBalancer

end Sharing

end HarvesterCloudProvider
