import HarvesterCloudProvider.LoadBalancerRun

namespace HarvesterCloudProvider

/-!
# What a failed reconcile leaves behind

A reconcile that fails before its first load balancer write changes nothing.
One that fails later takes its own load balancer away again, whether the call
had created it or only updated it, unless other services share it.  A reconcile
that turns a service into a secondary gives the own load balancer up before the
last step, so it is gone when that step fails.  No other load balancer comes or
goes.
-/

/-- Whether a request changes which load balancers exist or what they are. -/
def Request.isLoadBalancerWrite : Request → Bool
  | .createLoadBalancer _ => true
  | .updateLoadBalancer _ => true
  | .deleteLoadBalancer _ => true
  | _ => false

/-- Whether an event is a committed load balancer write. -/
def Event.changesLoadBalancer (event : Event) : Bool :=
  event.request.isLoadBalancerWrite && event.error.isNone

variable {l : LoadBalancerManager}
variable {clusterName : String}

/-- Committed load balancer writes are among the committed writes. -/
theorem mem_writes_of_changesLoadBalancer
    {events : List Event}
    {event : Event}
    (member : event ∈ events)
    (changes : event.changesLoadBalancer = true) :
    event.request ∈ writes events := by
  obtain ⟨isWrite, committed⟩ := Bool.and_eq_true_iff.mp changes
  refine List.mem_map.mpr ⟨event, List.mem_filter.mpr ⟨member, ?_⟩, rfl⟩
  have write : event.request.isWrite = true := by
    cases request : event.request <;>
      simp_all [Request.isLoadBalancerWrite, Request.isWrite]
  rw [write, committed]
  rfl

/-- Without committed writes no load balancer was written. -/
theorem not_changesLoadBalancer_of_no_writes
    {events : List Event}
    (noWrites : writes events = []) :
    ¬ ∃ event ∈ events, event.changesLoadBalancer = true := by
  rintro ⟨event, member, changes⟩
  have written := mem_writes_of_changesLoadBalancer member changes
  rw [noWrites] at written
  cases written

/-- The view has the load balancers that are stored. -/
theorem Cluster.isSome_loadBalancers
    (cluster : Cluster)
    (name : LBName) :
    (cluster.loadBalancers.get? name).isSome =
      (cluster.view.loadBalancers name).isSome :=
  Option.isSome_map.symm

/-- A committed write of a load balancer was recorded as such. -/
theorem changesLoadBalancer_of_mem_writes
    {events : List Event}
    {request : Request}
    (member : request ∈ writes events)
    (isLoadBalancerWrite : request.isLoadBalancerWrite = true) :
    ∃ event ∈ events, event.changesLoadBalancer = true := by
  obtain ⟨event, kept, rfl⟩ := List.mem_map.mp member
  obtain ⟨inEvents, committed⟩ := List.mem_filter.mp kept
  refine ⟨event, inEvents, ?_⟩
  rw [Event.changesLoadBalancer, isLoadBalancerWrite,
    (Bool.and_eq_true_iff.mp committed).2]
  rfl

theorem View.Written.isLoadBalancerWrite
    {view : View}
    {service : Service}
    {request : Request}
    (written : view.Written l clusterName service request) :
    request.isLoadBalancerWrite = true := by
  cases written <;> rfl

/-- How a failed reconcile left the own load balancer of its service. -/
inductive View.AfterFailure
    (view : View)
    (clusterName : String)
    (service : Service)
    (events : List Event)
    (final : View) :
    Prop where
  | untouched
      (written : writes events = [])
      (same : final = view)
  | kept
      (unset : service.annotations.lookup keyPrimaryService = none)
      (changed : ∃ event ∈ events, event.changesLoadBalancer = true)
      (because :
        view.Shared (primaryServiceLabelValue service) ∨ Disturbed events)
      (present :
        (final.loadBalancers (service.loadBalancerName clusterName)).isSome = true)
  | withdrawn
      (unset : service.annotations.lookup keyPrimaryService = none)
      (changed : ∃ event ∈ events, event.changesLoadBalancer = true)
      (unshared : ¬ view.Shared (primaryServiceLabelValue service))
      (absent : final.loadBalancers (service.loadBalancerName clusterName) = none)
  | detached
      (annotated : service.annotations.lookup keyPrimaryService ≠ none)
      (changed : ∃ event ∈ events, event.changesLoadBalancer = true)
      (absent : final.loadBalancers (service.loadBalancerName clusterName) = none)

theorem EnsureOutcome.afterFailure
    {service : Service}
    {view final : View}
    {events : List Event}
    (outcome : EnsureOutcome l clusterName service view events false)
    (finalEq :
      final =
        (writes events).foldl (fun reached request => request.apply reached) view) :
    view.AfterFailure clusterName service events final := by
  have nothing (noWrites : writes events = []) :
      view.AfterFailure clusterName service events final :=
    .untouched noWrites (by rw [finalEq, noWrites]; rfl)
  have putChanges
      {request : Request}
      {rest : List Request}
      (put : view.Written l clusterName service request)
      (written : writes events = request :: rest) :
      ∃ event ∈ events, event.changesLoadBalancer = true :=
    changesLoadBalancer_of_mem_writes (by rw [written]; exact List.mem_cons_self)
      put.isLoadBalancerWrite
  cases outcome with
  | refused reads =>
      exact nothing (writes_eq_nil_of_reads reads)
  | primary unset inner =>
      cases inner with
      | refused reads =>
          exact nothing (writes_eq_nil_of_reads reads)
      | unwritten _ written =>
          exact nothing written
      | kept _ put because written =>
          obtain ⟨lb, applied⟩ := put.apply_eq
          refine .kept unset (putChanges put written) because ?_
          rw [finalEq, written, List.foldl_cons, List.foldl_nil, applied]
          simp
      | withdrawn _ put unshared written =>
          refine .withdrawn unset (putChanges put written) unshared ?_
          rw [finalEq, written]
          exact Function.update_self _ _ _
  | secondary resolved inner =>
      have annotated := resolved.annotation_ne_none
      cases inner with
      | refused reads =>
          exact nothing (writes_eq_nil_of_reads reads)
      | blocked _ written =>
          exact nothing written
      | detached accepted removed written =>
          cases removed with
          | absent missing =>
              exact nothing written
          | deleted present =>
              refine .detached annotated
                (changesLoadBalancer_of_mem_writes
                  (by rw [written]; exact List.mem_cons_self) rfl) ?_
              rw [finalEq, written]
              exact Function.update_self _ _ _

/-- Which load balancers exist after a failed reconcile. -/
structure Entry.FailedReconcile
    (entry : Entry)
    (clusterName : String)
    (service : Service) :
    Prop where
  /-- No load balancer of another name comes or goes. -/
  others :
    ∀ name,
      name ≠ service.loadBalancerName clusterName →
      (entry.after.loadBalancers.get? name).isSome =
        (entry.before.loadBalancers.get? name).isSome
  /-- Without a load balancer write the own one stays as it was. -/
  untouched :
    (∀ event ∈ entry.events, event.changesLoadBalancer = false) →
    (entry.after.loadBalancers.get? (service.loadBalancerName clusterName)).isSome =
      (entry.before.loadBalancers.get? (service.loadBalancerName clusterName)).isSome
  /-- The written load balancer of a primary stays if it is shared. -/
  kept :
    service.annotations.lookup keyPrimaryService = none →
    (∃ event ∈ entry.events, event.changesLoadBalancer = true) →
    entry.before.services.labelled (primaryServiceLabelValue service) ≠ [] →
    (entry.after.loadBalancers.get?
      (service.loadBalancerName clusterName)).isSome = true
  /-- The written load balancer of a primary goes if it is known to be unshared. -/
  withdrawn :
    service.annotations.lookup keyPrimaryService = none →
    (∃ event ∈ entry.events, event.changesLoadBalancer = true) →
    entry.before.services.labelled (primaryServiceLabelValue service) = [] →
    (∀ event ∈ entry.events, event.listFailed = false) →
    entry.after.loadBalancers.get? (service.loadBalancerName clusterName) = none
  /-- A service that became a secondary has lost its own load balancer. -/
  detached :
    service.annotations.lookup keyPrimaryService ≠ none →
    (∃ event ∈ entry.events, event.changesLoadBalancer = true) →
    entry.after.loadBalancers.get? (service.loadBalancerName clusterName) = none

/-- The view decides which load balancers exist. -/
theorem View.AfterFailure.failedReconcile
    {service : Service}
    {entry : Entry}
    (after :
      entry.before.view.AfterFailure clusterName service entry.events
        entry.after.view)
    (others :
      ∀ name,
        name ≠ service.loadBalancerName clusterName →
        entry.after.view.loadBalancers name = entry.before.view.loadBalancers name)
    (calls : ∀ event ∈ entry.events, event.loadBalancerFailed = false) :
    entry.FailedReconcile clusterName service := by
  have changedAnyway
      (changed : ∃ event ∈ entry.events, event.changesLoadBalancer = true)
      (none : ∀ event ∈ entry.events, event.changesLoadBalancer = false) :
      False := by
    obtain ⟨event, member, changes⟩ := changed
    rw [none event member] at changes
    cases changes
  have elsewhere :
      ∀ name,
        name ≠ service.loadBalancerName clusterName →
        (entry.after.loadBalancers.get? name).isSome =
          (entry.before.loadBalancers.get? name).isSome := by
    intro name different
    rw [Cluster.isSome_loadBalancers, Cluster.isSome_loadBalancers,
      others name different]
  cases after with
  | untouched written same =>
      have unchanged := not_changesLoadBalancer_of_no_writes written
      exact {
        others := elsewhere
        untouched := fun _ => by
          rw [Cluster.isSome_loadBalancers, Cluster.isSome_loadBalancers, same]
        kept := fun _ changed => (unchanged changed).elim
        withdrawn := fun _ changed => (unchanged changed).elim
        detached := fun _ changed => (unchanged changed).elim }
  | kept unset changed because stillThere =>
      refine {
        others := elsewhere
        untouched := fun none => (changedAnyway changed none).elim
        kept := fun _ _ _ => by
          rw [Cluster.isSome_loadBalancers]
          exact stillThere
        withdrawn := fun _ _ unlabelled listed => ?_
        detached := fun annotated => (annotated unset).elim }
      rcases because with shared | ⟨event, member, failed | failed⟩
      · exact (labelled_eq_nil_iff.mp unlabelled shared).elim
      · rw [calls event member] at failed
        cases failed
      · rw [listed event member] at failed
        cases failed
  | withdrawn unset changed unshared absent =>
      exact {
        others := elsewhere
        untouched := fun none => (changedAnyway changed none).elim
        kept := fun _ _ labelled =>
          (labelled (labelled_eq_nil_iff.mpr unshared)).elim
        withdrawn := fun _ _ _ _ => Cluster.view_loadBalancers_eq_none.mp absent
        detached := fun annotated => (annotated unset).elim }
  | detached annotated changed absent =>
      exact {
        others := elsewhere
        untouched := fun none => (changedAnyway changed none).elim
        kept := fun unset => (annotated unset).elim
        withdrawn := fun unset => (annotated unset).elim
        detached := fun _ _ => Cluster.view_loadBalancers_eq_none.mp absent }

/--
What a failed `ensureLoadBalancer` or `updateLoadBalancer` leaves behind when
the load balancer requests themselves succeed.
-/
theorem failedReconcile_effect
    {operation : Operation}
    {service : Service}
    {ticks : List Tick}
    {cluster : Cluster}
    (reconciles : operation ≠ .ensureLoadBalancerDeleted)
    (failed :
      ((Step.invoke operation service ticks).perform l clusterName
        cluster).succeeded = false)
    (calls :
      ∀ event ∈
          ((Step.invoke operation service ticks).perform l clusterName cluster).events,
        event.loadBalancerFailed = false) :
    ((Step.invoke operation service ticks).perform l clusterName
      cluster).FailedReconcile clusterName service := by
  obtain ⟨replays, outcome⟩ :=
    invoke_outcome l clusterName operation service ticks cluster
  have others
      (name : LBName)
      (different : name ≠ service.loadBalancerName clusterName) :=
    outcome.callWrites.loadBalancers_of_ne different
  rw [← replays.final_eq] at others
  rw [failed] at outcome
  refine View.AfterFailure.failedReconcile ?_ others calls
  cases operation with
  | ensureLoadBalancer =>
      exact EnsureOutcome.afterFailure outcome replays.final_eq
  | updateLoadBalancer =>
      exact EnsureOutcome.afterFailure outcome replays.final_eq
  | ensureLoadBalancerDeleted =>
      exact (reconciles rfl).elim

/-- A service has its load balancer, and then the allocated address is lost. -/
def lostAddress : Cluster :=
  (System.play sampleManager "prod" { cluster := {} }
    [.create webService,
      .call .ensureLoadBalancer "default/web" (allocatingAfter 3 webService "10.0.0.1"),
      .environment (.allocate (webService.loadBalancerName "prod") {} [])]).cluster

/-- Waiting for the lost address in vain withdraws the load balancer. -/
theorem lostAddress_withdraws :
    lostAddress.services.labelled (primaryServiceLabelValue webService) = [] ∧
      ((Step.invoke .updateLoadBalancer webService []).perform sampleManager "prod"
        lostAddress).after.loadBalancers.get?
          (webService.loadBalancerName "prod") = none := by
  have facts :
      (lostAddress.services.labelled
        (primaryServiceLabelValue webService)).isEmpty = true ∧
      ((Step.invoke .updateLoadBalancer webService []).perform sampleManager "prod"
        lostAddress).succeeded = false ∧
      (((Step.invoke .updateLoadBalancer webService []).perform sampleManager "prod"
        lostAddress).events.all fun event =>
          !event.loadBalancerFailed && !event.listFailed) = true ∧
      (((Step.invoke .updateLoadBalancer webService []).perform sampleManager "prod"
        lostAddress).events.any Event.changesLoadBalancer) = true := by
    decide +kernel
  obtain ⟨unlabelled, failed, calls, changed⟩ := facts
  rw [List.isEmpty_iff] at unlabelled
  simp only [List.all_eq_true, Bool.and_eq_true, Bool.not_eq_true'] at calls
  have effect :=
    failedReconcile_effect (by decide) failed fun event member => (calls event member).1
  refine ⟨unlabelled, effect.withdrawn rfl ?_ ?_ ?_⟩
  · exact List.any_eq_true.mp changed
  · rw [perform_before]
    exact unlabelled
  · exact fun event member => (calls event member).2

/-- A failed reconcile can take a load balancer away that existed before. -/
theorem failedReconcile_destroys_existing :
    ¬ ∀ (cluster : Cluster) (service : Service) (ticks : List Tick),
        ((Step.invoke .ensureLoadBalancer service ticks).perform sampleManager "prod"
          cluster).succeeded = false →
        (∀ event ∈
            ((Step.invoke .ensureLoadBalancer service ticks).perform sampleManager
              "prod" cluster).events,
          event.loadBalancerFailed = false) →
        ∀ name,
          (((Step.invoke .ensureLoadBalancer service ticks).perform sampleManager
              "prod" cluster).after.loadBalancers.get? name).isSome =
            (cluster.loadBalancers.get? name).isSome := by
  intro always
  have facts :
      ((Step.invoke .ensureLoadBalancer webService []).perform sampleManager "prod"
        lostAddress).succeeded = false ∧
      (((Step.invoke .ensureLoadBalancer webService []).perform sampleManager "prod"
        lostAddress).events.all fun event => !event.loadBalancerFailed) = true ∧
      (((Step.invoke .ensureLoadBalancer webService []).perform sampleManager "prod"
        lostAddress).after.loadBalancers.get?
          (webService.loadBalancerName "prod")).isSome = false ∧
      (lostAddress.loadBalancers.get?
        (webService.loadBalancerName "prod")).isSome = true := by
    decide +kernel
  obtain ⟨failed, calls, gone, existed⟩ := facts
  simp only [List.all_eq_true, Bool.not_eq_true'] at calls
  have same := always lostAddress webService [] failed calls
    (webService.loadBalancerName "prod")
  rw [gone, existed] at same
  cases same

end HarvesterCloudProvider
