import HarvesterCloudProvider.ServiceController
import HarvesterCloudProvider.WatchQueue

namespace HarvesterCloudProvider

/-!
# Which changes of a service reach the provider

The service controller looks at a changed service only when its event handlers
put the key into the queue.  They compare the parts of a service that a load
balancer usually depends on.  The provider reads two parts that they do not
compare: the labels and the published addresses.  No other change that could
alter what the provider does is dropped.
-/

section Handlers

/-- What else is compared in one port. -/
structure PortDetail where
  name : String := ""
  protocol : String := "TCP"
  nodePort : Int32 := 0
  targetPort : String := ""
  appProtocol : Option String := none
  deriving Repr, DecidableEq

structure ClientIPConfig where
  timeoutSeconds : Option Int32 := none
  deriving Repr, DecidableEq

structure SessionAffinityConfig where
  clientIP : Option ClientIPConfig := none
  deriving Repr, DecidableEq

/-- A service with all that the event handlers compare. -/
structure WatchedService where
  service : Service
  metadata : ServiceMeta := {}
  portDetails : List PortDetail := []
  loadBalancerSourceRanges : Option (List String) := none
  sessionAffinity : String := "None"
  sessionAffinityConfig : Option SessionAffinityConfig := none
  loadBalancerIP : String := ""
  externalIPs : List String := []
  externalTrafficPolicy : String := ""
  healthCheckNodePort : Int32 := 0
  ipFamilies : List String := []

namespace WatchedService

/-- `wantsLoadBalancer`. -/
def wants (watched : WatchedService) : Bool :=
  wantsLoadBalancer watched.service watched.metadata

/-- `portsEqualForLB`. -/
def portsEqualForLB (x y : WatchedService) : Bool :=
  x.service.ports = y.service.ports && x.portDetails = y.portDetails

/-- `needsUpdate`. -/
def needsUpdate (oldService newService : WatchedService) : Bool :=
  if !oldService.wants && !newService.wants then
    false
  else if oldService.wants ≠ newService.wants then
    true
  else if newService.wants &&
      oldService.loadBalancerSourceRanges ≠ newService.loadBalancerSourceRanges then
    true
  else if !portsEqualForLB oldService newService ||
      oldService.sessionAffinity ≠ newService.sessionAffinity then
    true
  else if oldService.sessionAffinityConfig ≠ newService.sessionAffinityConfig then
    true
  else if oldService.loadBalancerIP ≠ newService.loadBalancerIP then
    true
  else if oldService.externalIPs ≠ newService.externalIPs then
    true
  else if oldService.service.annotations ≠ newService.service.annotations then
    true
  else if oldService.service.uid ≠ newService.service.uid then
    true
  else if oldService.externalTrafficPolicy ≠ newService.externalTrafficPolicy then
    true
  else if oldService.healthCheckNodePort ≠ newService.healthCheckNodePort then
    true
  else
    oldService.ipFamilies.length ≠ newService.ipFamilies.length

/-- The event handlers of the service informer. -/
def eventHandlers : WatchFilter WatchedService where
  onAdd svc := svc.wants || needsCleanup svc.service svc.metadata
  onUpdate oldSvc curSvc :=
    needsUpdate oldSvc curSvc || needsCleanup curSvc.service curSvc.metadata

end WatchedService

end Handlers

section Reading

/-- What the provider reads in a service, apart from labels and addresses. -/
structure SameRequest (first second : Service) : Prop where
  ns : first.ns = second.ns
  name : first.name = second.name
  uid : first.uid = second.uid
  annotations : first.annotations = second.annotations
  ports : first.ports = second.ports

/--
Two services that differ in nothing else are the same to the provider, whatever
happens during the call.
-/
theorem SameRequest.ensureLoadBalancer_eq
    {first second : Service}
    (same : SameRequest first second)
    (l : LoadBalancerManager)
    (clusterName : String) :
    l.ensureLoadBalancer clusterName second =
      l.ensureLoadBalancer clusterName
        { first with labels := second.labels, loadBalancer := second.loadBalancer } := by
  obtain ⟨ns, name, uid, annotations, labels, version, serviceType, ports, status⟩ := first
  obtain ⟨ns', name', uid', annotations', labels', version', serviceType', ports', status'⟩ :=
    second
  obtain ⟨sameNs, sameName, sameUid, sameAnnotations, samePorts⟩ := same
  dsimp only at sameNs sameName sameUid sameAnnotations samePorts
  subst sameNs sameName sameUid sameAnnotations samePorts
  rfl

end Reading

section Dropped

open WatchedService

variable {old new : WatchedService}

/-- A comparison that finds nothing passes on to the next one. -/
theorem of_ite_true_eq_false
    {differs : Prop}
    [Decidable differs]
    {rest : Bool}
    (unnoticed : (if differs then true else rest) = false) :
    ¬ differs ∧ rest = false := by
  by_cases found : differs
  · rw [if_pos found] at unnoticed
    cases unnoticed
  · rw [if_neg found] at unnoticed
    exact ⟨found, unnoticed⟩

/-- A change that is dropped leaves what the provider reads. -/
theorem of_needsUpdate_eq_false
    (wants : new.wants = true)
    (unnoticed : needsUpdate old new = false) :
    old.wants = true ∧
      old.service.ports = new.service.ports ∧
      old.service.annotations = new.service.annotations ∧
      old.service.uid = new.service.uid := by
  unfold needsUpdate at unnoticed
  rw [if_neg (by simp [wants])] at unnoticed
  obtain ⟨sameWants, unnoticed⟩ := of_ite_true_eq_false unnoticed
  obtain ⟨-, unnoticed⟩ := of_ite_true_eq_false unnoticed
  obtain ⟨ports, unnoticed⟩ := of_ite_true_eq_false unnoticed
  obtain ⟨-, unnoticed⟩ := of_ite_true_eq_false unnoticed
  obtain ⟨-, unnoticed⟩ := of_ite_true_eq_false unnoticed
  obtain ⟨-, unnoticed⟩ := of_ite_true_eq_false unnoticed
  obtain ⟨annotations, unnoticed⟩ := of_ite_true_eq_false unnoticed
  obtain ⟨uid, -⟩ := of_ite_true_eq_false unnoticed
  refine ⟨(not_not.mp sameWants).trans wants, ?_, not_not.mp annotations, not_not.mp uid⟩
  simp only [portsEqualForLB, Bool.or_eq_true, Bool.not_eq_true', Bool.and_eq_false_iff,
    decide_eq_false_iff_not, not_or, not_not] at ports
  exact ports.1.1

/-- A service that is to have a load balancer and is not being deleted. -/
def Due (watched : WatchedService) : Prop :=
  watched.wants = true ∧ watched.metadata.deletionTimestamp = none

/-- The provider does the same for both, up to labels and published addresses. -/
def Agrees (last current : WatchedService) : Prop :=
  SameRequest last.service current.service

/-- What the server admits: names are kept, and a deletion is not taken back. -/
structure AdmittedUpdate (old new : WatchedService) : Prop where
  ns : old.service.ns = new.service.ns
  name : old.service.name = new.service.name
  deletion :
    old.service.uid = new.service.uid →
    new.metadata.deletionTimestamp = none →
    old.metadata.deletionTimestamp = none

/-- The event handlers drop no change that matters to the provider. -/
theorem eventHandlers_sound :
    WatchState.Sound eventHandlers AdmittedUpdate Due Agrees where
  added := by
    intro object due
    exact Bool.or_eq_true_iff.mpr (.inl due.1)
  updated := by
    intro old new admitted due unnoticed
    have noUpdate : needsUpdate old new = false := (Bool.or_eq_false_iff.mp unnoticed).1
    obtain ⟨oldWants, ports, annotations, uid⟩ := of_needsUpdate_eq_false due.1 noUpdate
    exact
      ⟨⟨oldWants, admitted.deletion uid due.2⟩,
        ⟨admitted.ns, admitted.name, uid, annotations, ports⟩⟩
  refl := by
    intro object
    exact ⟨rfl, rfl, rfl, rfl, rfl⟩
  trans := by
    intro first second third earlier later
    exact
      ⟨earlier.ns.trans later.ns, earlier.name.trans later.name, earlier.uid.trans later.uid,
        earlier.annotations.trans later.annotations, earlier.ports.trans later.ports⟩

/--
No update is lost: in every state of every run of the service controller, for a
service outside the queue that is to have a load balancer, the provider does
what it does for the version that was synchronised last with the labels and the
published addresses of now.
-/
theorem unqueued_service_is_synced
    {state : WatchState String WatchedService}
    {steps : List (WatchStep String WatchedService)}
    (execution :
      Execution
        (StepsOf (WatchState.advance eventHandlers) fun reached step =>
          reached.Admitted AdmittedUpdate step)
        {} steps state)
    {key : String}
    {current : WatchedService}
    (stored : state.stored key = some current)
    (due : Due current)
    (outside : key ∉ state.queue) :
    ∃ last,
      state.processed key = some last ∧
        Due last ∧
        ∀ (l : LoadBalancerManager) (clusterName : String),
          l.ensureLoadBalancer clusterName current.service =
            l.ensureLoadBalancer clusterName
              { last.service with
                labels := current.service.labels
                loadBalancer := current.service.loadBalancer } := by
  have initially : WatchState.UpToDate Due Agrees ({} : WatchState String WatchedService) := by
    intro other object missing
    cases missing
  have upToDate := WatchState.upToDate_of_execution eventHandlers_sound initially execution
  obtain ⟨last, processed, lastDue, same⟩ := upToDate key current stored due outside
  exact ⟨last, processed, lastDue, same.ensureLoadBalancer_eq⟩

/-- A service with an address in its status. -/
def publishedService : WatchedService where
  service := { webService with loadBalancer := { ingress := [⟨"10.0.0.1"⟩] } }

/-- A service is made, synchronised and published; the publication is dropped. -/
def publishedSteps : List (WatchStep String WatchedService) :=
  [.write "default/web" { service := webService },
    .process "default/web" true,
    .write "default/web" publishedService]

/-- The published service is not synchronised again, and need not be but for its address. -/
theorem published_service_is_synced :
    ∃ last : WatchedService,
      (publishedSteps.foldl (WatchState.advance eventHandlers) {}).processed "default/web" =
          some last ∧
        Due last := by
  have execution :
      Execution
        (StepsOf (WatchState.advance eventHandlers) fun reached step =>
          reached.Admitted AdmittedUpdate step)
        {} publishedSteps (publishedSteps.foldl (WatchState.advance eventHandlers) {}) := by
    refine Execution.snoc (.snoc (.snoc .nil ⟨?_, rfl⟩) ⟨trivial, rfl⟩) ⟨?_, rfl⟩
    · intro old stored
      cases stored
      exact ⟨rfl, rfl, fun _ _ => rfl⟩
    · intro old missing
      cases missing
  obtain ⟨last, processed, due, -⟩ :=
    @unqueued_service_is_synced _ _ execution "default/web" publishedService rfl
      ⟨by decide +kernel, rfl⟩ (by decide +kernel)
  exact ⟨last, processed, due⟩

end Dropped

end HarvesterCloudProvider
