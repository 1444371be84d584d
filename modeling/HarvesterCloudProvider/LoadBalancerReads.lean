import HarvesterCloudProvider.ApiEffects
import HarvesterCloudProvider.LoadBalancerObject

namespace HarvesterCloudProvider

open Program

/-!
# The checks of the load balancer manager

Most functions of the manager only read.  This module proves so for each of
them, and states what a check that passes says about the stored objects.  The
statements speak about the view, so they stay true while the other controllers
move.
-/

section Observing

/-- The events of a reading program, and the view it leaves alone. -/
theorem observed_events
    {Value : Type}
    {program : Program Session Err Value}
    (observes : Respects Observes program)
    {session final : Session}
    {answer : Except Err Value}
    (ran : program session = (answer, final)) :
    ∃ events,
      Ran session events final ∧
        (∀ event ∈ events, event.Reads) ∧
        final.cluster.view = session.cluster.view := by
  obtain ⟨events, recorded, reads⟩ := observes.of_run ran
  exact ⟨events, recorded, reads,
    recorded.view_eq_of_writes_nil (writes_eq_nil_of_reads reads)⟩

theorem lbClientGet_observes (name : LBName) :
    Respects Observes (lbClientGet name) :=
  call_respects (lbClientGet_serves name) fun _ requested => by
    rw [Event.Reads, requested]
    rfl

theorem localSvcCacheGet_observes (ns name : String) :
    Respects Observes (localSvcCacheGet ns name) :=
  call_respects (localSvcCacheGet_serves ns name) fun _ requested => by
    rw [Event.Reads, requested]
    rfl

theorem localSvcCacheList_observes (label : String) :
    Respects Observes (localSvcCacheList label) :=
  call_respects (localSvcCacheList_serves label) fun _ requested => by
    rw [Event.Reads, requested]
    rfl

theorem configMapGet_observes :
    Respects Observes configMapGet :=
  call_respects configMapGet_serves fun _ requested => by
    rw [Event.Reads, requested]
    rfl

theorem getPrimaryService_observes (service : Service) :
    Respects Observes (getPrimaryService service) := by
  unfold getPrimaryService
  split
  · exact .pure _
  · split
    · exact .fail _
    · refine .bind (localSvcCacheGet_observes _ _).mapError fun primarySvc => ?_
      split
      · exact .fail _
      · exact .pure _

section Requesting

variable {relation : Session → Session → Prop}
variable [Std.Refl relation] [IsTrans Session relation]

/-- Reading the mapping moves the session as reading the ConfigMap does. -/
theorem getNADInterfaceMapping_respects (get : Respects relation configMapGet) :
    Respects relation getNADInterfaceMapping := by
  unfold getNADInterfaceMapping
  refine .bind get.attempt fun answer => ?_
  cases answer with
  | error error =>
      exact .pure_or_fail _ _
  | ok configMap =>
      dsimp only
      split
      · exact .pure _
      · split
        · exact .pure _
        · exact .fail _

theorem resolveNetworkInterface_respects
    (get : Respects relation configMapGet)
    (service : Service) :
    Respects relation (resolveNetworkInterface service) := by
  unfold resolveNetworkInterface
  dsimp only
  split
  · exact .pure _
  · refine .bind (getNADInterfaceMapping_respects get) fun mapping => ?_
    cases mapping with
    | none =>
        exact .pure _
    | some entries =>
        dsimp only
        split
        · exact .fail _
        · split
          · exact .pure _
          · exact .fail _

/-- Checking the network moves the session as reading the load balancer does. -/
theorem checkNetworkChanged_respects
    {lbName : LBName}
    (get : Respects relation (lbClientGet lbName))
    (service : Service)
    (secondary : Bool) :
    Respects relation (checkNetworkChanged service lbName secondary) := by
  unfold checkNetworkChanged
  refine .bind get.attempt fun answer => ?_
  cases answer with
  | error error =>
      exact .pure_or_fail _ _
  | ok lb =>
      dsimp only
      repeat' split
      all_goals first | exact .pure _ | exact .fail _

end Requesting

theorem resolveNetworkInterface_observes (service : Service) :
    Respects Observes (resolveNetworkInterface service) :=
  resolveNetworkInterface_respects configMapGet_observes service

theorem checkNetworkChanged_observes
    (service : Service)
    (lbName : LBName)
    (secondary : Bool) :
    Respects Observes (checkNetworkChanged service lbName secondary) :=
  checkNetworkChanged_respects (lbClientGet_observes lbName) service secondary

theorem checkPortOverlap_observes (primary secondary : Service) :
    Respects Observes (checkPortOverlap primary secondary) := by
  unfold checkPortOverlap
  refine .bind (localSvcCacheList_observes _).mapError fun listed => ?_
  split
  · exact .pure _
  · exact .fail _

theorem checkSecondaryServicesBeforeDeleted_observes (primary : Service) :
    Respects Observes (checkSecondaryServicesBeforeDeleted primary) := by
  unfold checkSecondaryServicesBeforeDeleted
  refine .bind (localSvcCacheList_observes _) fun services => ?_
  split
  · exact .fail _
  · exact .pure _

theorem waitForIP_observes
    {callback : Program Session Err (LoadBalancer × String)}
    (observes : Respects Observes callback) :
    Respects Observes (waitForIP callback) :=
  (observes.poll retryTimes _).mapError

theorem getLoadBalancerName_observes
    (clusterName : String)
    (service : Service) :
    Respects Observes (getLoadBalancerName clusterName service) := by
  unfold getLoadBalancerName
  refine .bind (getPrimaryService_observes service).attempt fun answer => ?_
  repeat' split
  all_goals exact .pure _

theorem getLoadBalancer_observes
    (clusterName : String)
    (service : Service) :
    Respects Observes (getLoadBalancer clusterName service) := by
  unfold getLoadBalancer
  refine .bind (getLoadBalancerName_observes clusterName service) fun name => ?_
  refine .bind (lbClientGet_observes name).attempt fun answer => ?_
  cases answer with
  | error error =>
      exact .pure_or_fail _ _
  | ok lb =>
      dsimp only
      split
      · exact .pure _
      · exact .pure _

end Observing

section Facts

/-- Some stored service carries the primary-service label with this value. -/
def View.Shared (view : View) (value : String) : Prop :=
  ∃ key service,
    view.services key = some service ∧
      service.labels.lookup keyPrimaryService = some value

theorem labelled_eq_nil_iff
    {cluster : Cluster}
    {value : String} :
    cluster.services.labelled value = [] ↔ ¬ cluster.view.Shared value := by
  rw [List.eq_nil_iff_forall_not_mem]
  constructor
  · rintro none ⟨key, content, found, label⟩
    obtain ⟨service, stored, rfl⟩ := Option.map_eq_some_iff.mp found
    exact none service
      (ServiceStore.mem_labelled.mpr
        ⟨(ServiceStore.get?_eq_some.mp stored).1, label⟩)
  · intro unshared service member
    obtain ⟨stored, label⟩ := ServiceStore.mem_labelled.mp member
    refine unshared ⟨service.key, service.content, ?_, label⟩
    exact Cluster.view_services_of_mem stored

/-- The primary-service annotation names at most one key. -/
theorem annotatedKey_unique
    {annotations : StringMap}
    {first second : String}
    (namesFirst :
      ∃ text ns name,
        annotations.lookup keyPrimaryService = some text ∧
          splitAtSlash text = some (ns, name) ∧
          first = metaNamespaceKey ns name)
    (namesSecond :
      ∃ text ns name,
        annotations.lookup keyPrimaryService = some text ∧
          splitAtSlash text = some (ns, name) ∧
          second = metaNamespaceKey ns name) :
    first = second := by
  obtain ⟨text, ns, name, annotated, parts, rfl⟩ := namesFirst
  obtain ⟨other, otherNs, otherName, otherAnnotated, otherParts, rfl⟩ := namesSecond
  rw [annotated, Option.some.injEq] at otherAnnotated
  subst otherAnnotated
  rw [parts, Option.some.injEq, Prod.mk.injEq] at otherParts
  rw [otherParts.1, otherParts.2]

/-- A service has the primary-service annotation, and it resolves. -/
structure View.Primary
    (view : View)
    (service primary : Service) :
    Prop where
  annotated :
    ∃ text ns name,
      service.annotations.lookup keyPrimaryService = some text ∧
        splitAtSlash text = some (ns, name) ∧
        primary.key = metaNamespaceKey ns name
  stored : view.services primary.key = some primary.content
  unannotated : primary.annotations.read keyPrimaryService = ""

/-- A service with a primary has the annotation. -/
theorem View.Primary.annotation_ne_none
    {view : View}
    {service primary : Service}
    (resolved : view.Primary service primary) :
    service.annotations.lookup keyPrimaryService ≠ none := by
  obtain ⟨text, ns, name, annotated, _⟩ := resolved.annotated
  rw [annotated]
  exact Option.some_ne_none text

/-- A service whose annotation is not set is its own primary. -/
theorem getPrimaryService_run_of_unset
    {service : Service}
    (unset : service.annotations.lookup keyPrimaryService = none)
    (session : Session) :
    getPrimaryService service session = (.ok none, session) := by
  simp only [getPrimaryService, unset]
  rfl

/-- What a lookup without error has seen. -/
theorem getPrimaryService_ok
    {service : Service}
    {answer : Option Service}
    {session final : Session}
    (ran : getPrimaryService service session = (.ok answer, final)) :
    (answer = none ∧ service.annotations.lookup keyPrimaryService = none) ∨
      ∃ primary,
        answer = some primary ∧ session.cluster.view.Primary service primary := by
  cases annotated : service.annotations.lookup keyPrimaryService with
  | none =>
      rw [getPrimaryService_run_of_unset annotated] at ran
      cases ran
      exact .inl ⟨rfl, rfl⟩
  | some text =>
      cases parts : splitAtSlash text with
      | none =>
          simp [getPrimaryService, annotated, parts] at ran
      | some part =>
          simp only [getPrimaryService, annotated, parts] at ran
          obtain ⟨primarySvc, reached, got, answered⟩ := bind_ok.mp ran
          obtain ⟨event, _, facts⟩ := localSvcCacheGet_answered (mapError_ok.mp got)
          obtain ⟨stored, _, sameKey⟩ := facts primarySvc rfl
          split at answered
          · simp at answered
          · rename_i unannotated
            cases answered
            exact .inr ⟨primarySvc, rfl, {
              annotated := ⟨text, part.1, part.2, annotated, parts, sameKey⟩
              stored := by rw [sameKey]; exact stored
              unannotated := by simpa using unannotated }⟩

/-- No primary means that the annotation is not set. -/
theorem getPrimaryService_none
    {service : Service}
    {session final : Session}
    (ran : getPrimaryService service session = (.ok none, final)) :
    service.annotations.lookup keyPrimaryService = none := by
  obtain ⟨_, unset⟩ | ⟨primary, found, _⟩ := getPrimaryService_ok ran
  · exact unset
  · cases found

/-- A primary that is returned is stored and not a secondary itself. -/
theorem getPrimaryService_some
    {service primary : Service}
    {session final : Session}
    (ran : getPrimaryService service session = (.ok (some primary), final)) :
    session.cluster.view.Primary service primary := by
  obtain ⟨missing, _⟩ | ⟨_, found, resolved⟩ := getPrimaryService_ok ran
  · cases missing
  · cases found
    exact resolved

/-- A network check that passes. -/
def View.NetworkFits
    (view : View)
    (service : Service)
    (lbName : LBName)
    (secondary : Bool) :
    Prop :=
  ∀ lb,
    view.loadBalancers lbName = some lb →
    lb.name ≠ [] →
    (secondary = true ∧ service.network = "" ∧ lb.recordedNetwork ≠ "") ∨
      service.network = lb.recordedNetwork

theorem checkNetworkChanged_ok
    {service : Service}
    {lbName : LBName}
    {secondary : Bool}
    {session final : Session}
    (ran : checkNetworkChanged service lbName secondary session = (.ok (), final)) :
    session.cluster.view.NetworkFits service lbName secondary := by
  obtain ⟨answer, reached, got, answered⟩ := bind_ok.mp ran
  simp only [attempt_run, Prod.mk.injEq, Except.ok.injEq] at got
  obtain ⟨event, _, whenFound, whenMissing⟩ :=
    lbClientGet_answered (Prod.ext got.1 got.2)
  intro content stored named
  cases answer with
  | error error =>
      dsimp only at answered
      split at answered
      · rename_i missing
        rw [whenMissing error rfl missing] at stored
        cases stored
      · simp at answered
  | ok lb =>
      obtain ⟨found, _⟩ := whenFound lb rfl
      have same : lb.content = content := Option.some.inj (found.symm.trans stored)
      subst same
      dsimp only at answered
      split at answered
      · rename_i unnamed
        exact (named unnamed).elim
      · split at answered
        · rename_i skipped
          exact .inl skipped
        · split at answered
          · simp at answered
          · rename_i unchanged
            right
            have same :
                service.annotations.read keyNetwork =
                  lb.annotations.read annotationKeyNetworkOnLB := by
              simpa [isNetworkChanged] using unchanged
            exact same

/-- No other service behind the load balancer of a primary uses these ports. -/
structure View.PortsFree
    (view : View)
    (primary secondary : Service) :
    Prop where
  labelled :
    ∀ key service,
      view.services key = some service →
      service.labels.lookup keyPrimaryService =
        some (primaryServiceLabelValue primary) →
      service.uid ≠ secondary.uid →
      List.Disjoint service.ports secondary.ports
  ofPrimary :
    primary.uid ≠ secondary.uid →
    List.Disjoint primary.ports secondary.ports

/-- A service list without used ports shares no port with the secondary. -/
theorem disjoint_of_usedPort_none
    {secondary service : Service}
    {services : List Service}
    (unused : usedPort secondary services = none)
    (member : service ∈ services)
    (other : service.uid ≠ secondary.uid) :
    List.Disjoint service.ports secondary.ports := by
  have noPort := List.findSome?_eq_none_iff.mp unused service member
  simp only [other, ↓reduceIte, Option.map_eq_none_iff,
    List.find?_eq_none, List.any_eq_true, decide_eq_true_eq,
    not_exists, not_and] at noPort
  intro port used own
  exact noPort port used port own rfl

theorem checkPortOverlap_ok
    {primary secondary : Service}
    {session final : Session}
    (ran : checkPortOverlap primary secondary session = (.ok (), final)) :
    session.cluster.view.PortsFree primary secondary := by
  obtain ⟨listed, reached, got, answered⟩ := bind_ok.mp ran
  obtain ⟨event, sent, facts⟩ := localSvcCacheList_answered (mapError_ok.mp got)
  have listedEq := facts listed rfl
  cases unused : usedPort secondary (listed ++ [primary]) with
  | some taken =>
      simp [unused] at answered
  | none =>
      constructor
      · intro key content stored label other
        rw [← sent.met] at stored
        obtain ⟨service, found, rfl⟩ := Option.map_eq_some_iff.mp stored
        have listedHere : service ∈ listed ++ [primary] := by
          rw [listedEq]
          exact List.mem_append_left _
            (ServiceStore.mem_labelled.mpr
              ⟨(ServiceStore.get?_eq_some.mp found).1, label⟩)
        have disjoint : List.Disjoint service.ports secondary.ports :=
          disjoint_of_usedPort_none unused listedHere other
        exact disjoint
      · intro other
        exact disjoint_of_usedPort_none unused (by simp) other

/-- The services listed before a deletion decide whether it goes on. -/
theorem checkSecondaryServicesBeforeDeleted_ok
    {primary : Service}
    {session final : Session}
    (ran : checkSecondaryServicesBeforeDeleted primary session = (.ok (), final)) :
    ¬ session.cluster.view.Shared (primaryServiceLabelValue primary) := by
  obtain ⟨services, reached, got, answered⟩ := bind_ok.mp ran
  obtain ⟨event, sent, facts⟩ := localSvcCacheList_answered got
  have listedEq := facts services rfl
  split at answered
  · simp at answered
  · rename_i none
    rw [← sent.met, ← labelled_eq_nil_iff, ← listedEq]
    simpa using none

end Facts

end HarvesterCloudProvider
