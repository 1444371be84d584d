import HarvesterCloudProvider.LoadBalancerRun

namespace HarvesterCloudProvider

/-!
# A shared load balancer is never deleted under its users

Every deletion that the provider commits is a deletion of the own load balancer
of the service in hand, and right before it no service carries the label of
that service.  Distinct load balancer names turn this into a statement about
the load balancer of any service.
-/

/-- Whether an event is a committed deletion of a load balancer. -/
def Event.deletes (event : Event) (name : LBName) : Bool :=
  match event.request, event.error with
  | .deleteLoadBalancer deleted, none => deleted = name
  | _, _ => false

theorem Event.deletes_iff
    {event : Event}
    {name : LBName} :
    event.deletes name = true ↔
      event.request = .deleteLoadBalancer name ∧ event.error = none := by
  rcases event with ⟨request, before, error⟩
  cases request <;> cases error <;> simp [Event.deletes]

variable {l : LoadBalancerManager}
variable {clusterName : String}

/-- What is known where a call deletes a load balancer. -/
structure View.DeletesOwn
    (view : View)
    (clusterName : String)
    (service : Service)
    (name : LBName)
    (before : List Request) :
    Prop where
  own : name = service.loadBalancerName clusterName
  unshared : ¬ view.Shared (primaryServiceLabelValue service)
  sameServices :
    (before.foldl (fun reached request => request.apply reached) view).services =
      view.services

/-- A load balancer write is not a deletion. -/
theorem View.Written.ne_delete
    {view : View}
    {service : Service}
    {request : Request}
    (written : view.Written l clusterName service request)
    (name : LBName) :
    request ≠ .deleteLoadBalancer name := by
  cases written <;> simp

/-- A put is no deletion, so a deletion in a list that starts with it is further down. -/
theorem View.Written.split_rest
    {view : View}
    {service : Service}
    {request : Request}
    (written : view.Written l clusterName service request)
    {name : LBName}
    {rest before after : List Request}
    (split : request :: rest = before ++ .deleteLoadBalancer name :: after) :
    ∃ middle,
      before = request :: middle ∧
        rest = middle ++ .deleteLoadBalancer name :: after := by
  rcases before with _ | ⟨first, middle⟩
  · simp only [List.nil_append, List.cons.injEq] at split
    exact (written.ne_delete name split.1).elim
  · simp only [List.cons_append, List.cons.injEq] at split
    exact ⟨middle, by rw [split.1], split.2⟩

/-- The deletion in a removal is the one of the own load balancer. -/
theorem View.Removed.deletesOwn
    {view : View}
    {service : Service}
    {removal rest : List Request}
    (removed : view.Removed clusterName service removal)
    (unshared : ¬ view.Shared (primaryServiceLabelValue service))
    {name : LBName}
    {before after : List Request}
    (restKeeps : .deleteLoadBalancer name ∉ rest)
    (split : removal ++ rest = before ++ .deleteLoadBalancer name :: after) :
    view.DeletesOwn clusterName service name before := by
  cases removed with
  | absent missing =>
      rw [List.nil_append] at split
      exact (restKeeps (by rw [split]; simp)).elim
  | deleted present =>
      rcases before with _ | ⟨first, middle⟩
      · simp only [List.singleton_append, List.nil_append, List.cons.injEq,
          Request.deleteLoadBalancer.injEq] at split
        exact ⟨split.1.symm, unshared, rfl⟩
      · simp only [List.cons_append, List.nil_append, List.cons.injEq] at split
        exact (restKeeps (by rw [split.2]; simp)).elim

/-- Every deletion of a call is one of the own load balancer, unshared. -/
theorem CallWrites.deletesOwn
    {service : Service}
    {view : View}
    {requests : List Request}
    (call : CallWrites l clusterName service view requests)
    {name : LBName}
    {before after : List Request}
    (split : requests = before ++ .deleteLoadBalancer name :: after) :
    view.DeletesOwn clusterName service name before := by
  cases call with
  | nothing =>
      simp at split
  | put unset written =>
      obtain ⟨middle, _, rest⟩ := written.split_rest split
      simp at rest
  | putPublished unset written =>
      obtain ⟨middle, _, rest⟩ := written.split_rest split
      rcases middle with _ | ⟨first, others⟩ <;> simp at rest
  | withdrawn unset written unshared =>
      obtain ⟨middle, beforeEq, rest⟩ := written.split_rest split
      rcases middle with _ | ⟨first, others⟩
      · simp only [List.nil_append, List.cons.injEq,
          Request.deleteLoadBalancer.injEq] at rest
        obtain ⟨lb, applied⟩ := written.apply_eq
        refine ⟨rest.1.symm, unshared, ?_⟩
        rw [beforeEq, List.foldl_cons, List.foldl_nil, applied]
      · simp at rest
  | removed unshared removed =>
      exact removed.deletesOwn unshared List.not_mem_nil (by rw [List.append_nil, split])
  | removedPublished unshared removed =>
      exact removed.deletesOwn unshared (by simp) split

/-- A committed deletion belongs to the service in hand, and nobody shares it. -/
theorem perform_deletes
    {step : Step}
    {cluster : Cluster}
    {event : Event}
    {name : LBName}
    (member : event ∈ (step.perform l clusterName cluster).events)
    (deleted : event.deletes name = true) :
    ∃ service,
      step.inHand = some service ∧
        name = service.loadBalancerName clusterName ∧
        event.before.services.labelled (primaryServiceLabelValue service) = [] := by
  obtain ⟨requested, committed⟩ := Event.deletes_iff.mp deleted
  cases step with
  | create service =>
      simp [Step.perform] at member
  | edit key change =>
      simp [Step.perform] at member
  | remove key =>
      simp [Step.perform] at member
  | environment action =>
      simp [Step.perform] at member
  | invoke operation service ticks =>
      obtain ⟨replays, outcome⟩ :=
        invoke_outcome l clusterName operation service ticks cluster
      have isWrite : event.request.isWrite = true := by
        rw [requested]
        rfl
      obtain ⟨before, after, split, met⟩ :=
        replays.met_writes member isWrite committed
      rw [requested] at split
      have facts := outcome.callWrites.deletesOwn split
      refine ⟨service, rfl, facts.own, ?_⟩
      rw [labelled_eq_nil_iff]
      rintro ⟨key, sharing, stored, label⟩
      rw [met, facts.sameServices] at stored
      exact facts.unshared ⟨key, sharing, stored, label⟩

/-- Every service the provider is called with is among the known ones. -/
def InvokesKnown (known : Set ServiceId) (_ : System) (step : Step) : Prop :=
  ∀ service ∈ step.inHand, service.id ∈ known

instance
    (known : Set ServiceId)
    [DecidablePred (· ∈ known)]
    (system : System)
    (step : Step) :
    Decidable (InvokesKnown known system step) :=
  inferInstanceAs (Decidable (∀ service ∈ step.inHand, service.id ∈ known))

/--
In every run, whatever users, failures and other controllers do, a load
balancer is only deleted while no service carries the label of its owner.
-/
theorem sharedLoadBalancer_not_deleted
    {known : Set ServiceId}
    {start : Cluster}
    {steps : List Step}
    {system : System}
    {entry : Entry}
    {event : Event}
    {primary : Service}
    (distinct :
      Set.InjOn (fun id : ServiceId => id.loadBalancerName clusterName) known)
    (execution :
      Execution (StepsOf (System.advance l clusterName) (InvokesKnown known))
        { cluster := start } steps system)
    (logged : entry ∈ system.log)
    (recorded : event ∈ entry.events)
    (primaryKnown : primary.id ∈ known)
    (deleted : event.deletes (primary.loadBalancerName clusterName) = true) :
    event.before.services.labelled (primaryServiceLabelValue primary) = [] := by
  obtain ⟨reached, step, invokesKnown, rfl⟩ := performed_of_logged execution logged
  obtain ⟨service, inHand, sameName, unshared⟩ := perform_deletes recorded deleted
  have same : primary.id = service.id :=
    distinct primaryKnown (invokesKnown service inHand) sameName
  have sameLabel :
      primaryServiceLabelValue primary = primaryServiceLabelValue service := by
    unfold primaryServiceLabelValue
    rw [show primary.ns = service.ns from congrArg ServiceId.ns same,
      show primary.name = service.name from congrArg ServiceId.name same]
  rw [sameLabel]
  exact unshared

/-- A reconcile that waits for an address in vain deletes its load balancer. -/
theorem failedReconcile_deletes_unshared :
    ∃ event ∈
        ((Step.invoke .ensureLoadBalancer webService []).perform sampleManager "prod"
          (Cluster.create {} webService)).events,
      event.deletes (webService.loadBalancerName "prod") = true ∧
        event.before.services.labelled (primaryServiceLabelValue webService) = [] := by
  have deletion :
      ((Step.invoke .ensureLoadBalancer webService []).perform sampleManager "prod"
        (Cluster.create {} webService)).events.any
          (·.deletes (webService.loadBalancerName "prod")) = true := by
    decide +kernel
  obtain ⟨event, recorded, deleted⟩ := List.any_eq_true.mp deletion
  have execution :
      Execution (StepsOf (System.advance sampleManager "prod") (InvokesKnown {webService.id}))
        { cluster := {} } [.create webService, .invoke .ensureLoadBalancer webService []]
        ((System.advance sampleManager "prod" { cluster := {} }
          (.create webService)).advance sampleManager "prod"
            (.invoke .ensureLoadBalancer webService [])) := by
    refine .snoc (.snoc .nil ⟨?_, rfl⟩) ⟨?_, rfl⟩
    · rintro service ⟨⟩
      rfl
    · rintro service ⟨⟩
  exact ⟨event, recorded, deleted,
    sharedLoadBalancer_not_deleted (Set.injOn_singleton _ _) execution
      List.mem_cons_self recorded rfl deleted⟩

end HarvesterCloudProvider
