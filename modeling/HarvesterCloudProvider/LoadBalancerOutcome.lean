import HarvesterCloudProvider.LoadBalancerReads

namespace HarvesterCloudProvider

open Program

/-!
# Every way a provider call can end

Each writing function of the manager gets one outcome type.  An outcome lists
the committed writes of a call, in order, together with the facts about the
view before the call that the code has checked on the way.  The outcome is
indexed by whether the call succeeds.  Later proofs read the outcome and never
unfold the manager again.
-/

section Failures

/-- A load balancer request failed; a missing object is an answer to `Get`. -/
def Event.loadBalancerFailed (event : Event) : Bool :=
  match event.request, event.error with
  | .getLoadBalancer _, some error => !error.isNotFound
  | .createLoadBalancer _, some _ => true
  | .updateLoadBalancer _, some _ => true
  | .deleteLoadBalancer _, some _ => true
  | _, _ => false

/-- The services could not be listed. -/
def Event.listFailed (event : Event) : Bool :=
  match event.request, event.error with
  | .listServices _, some _ => true
  | _, _ => false

/-- Some load balancer request or some service list failed. -/
def Disturbed (events : List Event) : Prop :=
  ∃ event ∈ events,
    event.loadBalancerFailed = true ∨ event.listFailed = true

theorem Disturbed.append_left
    {events : List Event}
    (disturbed : Disturbed events)
    (before : List Event) :
    Disturbed (before ++ events) := by
  obtain ⟨event, member, failed⟩ := disturbed
  exact ⟨event, List.mem_append_right _ member, failed⟩

variable {α : Type}
variable {request : Request}
variable {session final : Session}
variable {event : Event}

theorem Answered.writes_of_ok
    {value : α}
    (answered : Answered request session (.ok value) final event)
    (isWrite : request.isWrite = true) :
    writes [event] = [request] := by
  have noError : event.error = none := answered.answered
  simp [writes, answered.requested, isWrite, noError]

theorem Answered.writes_of_error
    {error : Err}
    (answered : Answered request session (.error error : Except Err α) final event) :
    writes [event] = [] := by
  have failed : event.error = some error := answered.answered
  simp [writes, failed]

theorem Answered.writes_of_read
    {answer : Except Err α}
    (answered : Answered request session answer final event)
    (isRead : request.isWrite = false) :
    writes [event] = [] := by
  simp [writes, answered.requested, isRead]

/-- A failed request about a load balancer is a disturbance. -/
theorem Answered.disturbed_of_error
    {error : Err}
    (answered : Answered request session (.error error : Except Err α) final event)
    (fails :
      Event.loadBalancerFailed ⟨request, event.before, some error⟩ = true) :
    Disturbed [event] := by
  have failed : event.error = some error := answered.answered
  refine ⟨event, by simp, .inl ?_⟩
  unfold Event.loadBalancerFailed at fails ⊢
  rw [answered.requested, failed]
  exact fails

end Failures

section Deleting

/-- How the deletion of the own load balancer of a service can end. -/
inductive DeletionOutcome
    (clusterName : String)
    (service : Service)
    (view : View)
    (events : List Event) :
    Bool → Prop where
  | absent
      (unshared : ¬ view.Shared (primaryServiceLabelValue service))
      (missing : view.loadBalancers (service.loadBalancerName clusterName) = none)
      (written : writes events = []) :
      DeletionOutcome clusterName service view events true
  | deleted
      (unshared : ¬ view.Shared (primaryServiceLabelValue service))
      (present :
        (view.loadBalancers (service.loadBalancerName clusterName)).isSome)
      (written :
        writes events =
          [.deleteLoadBalancer (service.loadBalancerName clusterName)]) :
      DeletionOutcome clusterName service view events true
  | refused
      (because :
        view.Shared (primaryServiceLabelValue service) ∨ Disturbed events)
      (written : writes events = []) :
      DeletionOutcome clusterName service view events false

/-- A failing check lists a sharing service or could not list them. -/
theorem checkSecondaryServicesBeforeDeleted_error
    {primary : Service}
    {session final : Session}
    {error : Err}
    (ran :
      checkSecondaryServicesBeforeDeleted primary session = (.error error, final)) :
    ∃ events,
      Ran session events final ∧
        (∀ event ∈ events, event.Reads) ∧
        (session.cluster.view.Shared (primaryServiceLabelValue primary) ∨
          Disturbed events) := by
  obtain ⟨events, recorded, reads, _⟩ :=
    observed_events (checkSecondaryServicesBeforeDeleted_observes primary) ran
  refine ⟨events, recorded, reads, ?_⟩
  rcases bind_cases ran with ⟨cause, listed, _⟩ | ⟨services, reached, listed, rest⟩
  · obtain ⟨event, sent, _⟩ := localSvcCacheList_answered listed
    obtain rfl := recorded.unique sent.ran
    have failed : event.error = some cause := sent.answered
    exact .inr ⟨event, by simp, .inr (by simp [Event.listFailed, sent.requested, failed])⟩
  · obtain ⟨event, sent, facts⟩ := localSvcCacheList_answered listed
    have listedEq := facts services rfl
    split at rest
    · rename_i found
      left
      by_contra unshared
      rw [← sent.met, ← labelled_eq_nil_iff, ← listedEq] at unshared
      exact found unshared
    · simp at rest

theorem deleteLoadBalancer_outcome
    {clusterName : String}
    {service : Service}
    {session final : Session}
    {answer : Except Err Unit}
    (ran : deleteLoadBalancer clusterName service session = (answer, final)) :
    ∃ events,
      Ran session events final ∧
        DeletionOutcome clusterName service session.cluster.view events
          answer.isOk := by
  rcases bind_cases ran with ⟨error, checked, rfl⟩ | ⟨_, reached, checked, rest⟩
  · obtain ⟨cause, checked, -⟩ := mapError_error checked
    obtain ⟨events, recorded, reads, because⟩ :=
      checkSecondaryServicesBeforeDeleted_error checked
    exact ⟨events, recorded, .refused because (writes_eq_nil_of_reads reads)⟩
  · have checked := mapError_ok.mp checked
    have unshared := checkSecondaryServicesBeforeDeleted_ok checked
    obtain ⟨before, recorded, reads, sameView⟩ :=
      observed_events (checkSecondaryServicesBeforeDeleted_observes service) checked
    have noWrites := writes_eq_nil_of_reads reads
    dsimp only at rest
    rw [attempt_bind_run] at rest
    cases got : lbClientGet (service.loadBalancerName clusterName) reached with
    | mk found middle =>
        rw [got] at rest
        obtain ⟨event, sent, whenFound, whenMissing⟩ := lbClientGet_answered got
        rw [sameView] at whenFound whenMissing
        cases found with
        | error error =>
            dsimp only at rest
            have silent := sent.writes_of_error
            split at rest
            · rename_i missing
              simp only [pure_run, Prod.mk.injEq] at rest
              obtain ⟨rfl, rfl⟩ := rest
              exact ⟨_, recorded.append sent.ran,
                .absent unshared (whenMissing error rfl missing)
                  (by simp [noWrites, silent])⟩
            · rename_i present
              simp only [fail_run, Prod.mk.injEq] at rest
              obtain ⟨rfl, rfl⟩ := rest
              have disturbed :=
                sent.disturbed_of_error (by simpa [Event.loadBalancerFailed] using present)
              exact ⟨_, recorded.append sent.ran,
                .refused (.inr (disturbed.append_left before))
                  (by simp [noWrites, silent])⟩
        | ok lb =>
            dsimp only at rest
            obtain ⟨stored, _⟩ := whenFound lb rfl
            obtain ⟨last, deletion, _⟩ :=
              call_answered (lbClientDelete_serves _) rest
            have silent := sent.writes_of_read rfl
            refine ⟨_, recorded.append (sent.ran.append deletion.ran), ?_⟩
            cases answer with
            | ok value =>
                have committed := deletion.writes_of_ok rfl
                exact .deleted unshared (by simp [stored])
                  (by simp only [writes_append, noWrites, silent, committed,
                    List.nil_append])
            | error error =>
                have failed := deletion.writes_of_error
                have disturbed := deletion.disturbed_of_error rfl
                exact .refused
                  (.inr ((disturbed.append_left [event]).append_left before))
                  (by simp only [writes_append, noWrites, silent, failed,
                    List.nil_append])

end Deleting

section Writing

/-- The load balancer request of a reconcile that gets to its write. -/
inductive View.Written
    (view : View)
    (l : LoadBalancerManager)
    (clusterName : String)
    (service : Service) :
    Request → Prop where
  | created
      (missing : view.loadBalancers (service.loadBalancerName clusterName) = none) :
      View.Written view l clusterName service
        (.createLoadBalancer
          (l.constructLB none service
            (service.loadBalancerName clusterName) clusterName))
  | updated
      {lb : LoadBalancer}
      (stored :
        view.loadBalancers (service.loadBalancerName clusterName) =
          some lb.content)
      (named : lb.name = service.loadBalancerName clusterName) :
      View.Written view l clusterName service
        (.updateLoadBalancer
          (l.constructLB (some lb) service
            (service.loadBalancerName clusterName) clusterName))

/-- The requests between two sessions committed nothing. -/
def Quiet (session final : Session) : Prop :=
  ∃ events, Ran session events final ∧ writes events = []

theorem Quiet.trans
    {first second third : Session}
    (earlier : Quiet first second)
    (later : Quiet second third) :
    Quiet first third := by
  obtain ⟨early, earlyRan, earlyNone⟩ := earlier
  obtain ⟨late, lateRan, lateNone⟩ := later
  refine ⟨_, earlyRan.append lateRan, ?_⟩
  rw [writes_append, earlyNone, lateNone, List.nil_append]

theorem Quiet.view_eq
    {session final : Session}
    (quiet : Quiet session final) :
    final.cluster.view = session.cluster.view := by
  obtain ⟨events, ran, noWrites⟩ := quiet
  exact ran.view_eq_of_writes_nil noWrites

/-- The requests between two sessions committed one load balancer write. -/
def Puts
    (l : LoadBalancerManager)
    (clusterName : String)
    (service : Service)
    (session : Session)
    (_ : Unit)
    (final : Session) :
    Prop :=
  ∃ events request,
    Ran session events final ∧
      session.cluster.view.Written l clusterName service request ∧
      writes events = [request]

theorem createOrUpdateLoadBalancer_ended
    {l : LoadBalancerManager}
    {clusterName : String}
    {service : Service}
    {session final : Session}
    {answer : Except Err Unit}
    (ran :
      l.createOrUpdateLoadBalancer (service.loadBalancerName clusterName)
        clusterName service session = (answer, final)) :
    Ended Quiet (Puts l clusterName service) session answer final := by
  unfold LoadBalancerManager.createOrUpdateLoadBalancer at ran
  rw [attempt_bind_run] at ran
  cases got : lbClientGet (service.loadBalancerName clusterName) session with
  | mk found middle =>
      rw [got] at ran
      obtain ⟨event, sent, whenFound, whenMissing⟩ := lbClientGet_answered got
      have silent := sent.writes_of_read rfl
      have written {last : Event} : writes ([event] ++ [last]) = writes [last] := by
        rw [writes_append, silent, List.nil_append]
      cases found with
      | error error =>
          dsimp only at ran
          split at ran
          · rename_i missing
            obtain ⟨last, creation, _⟩ := call_answered (lbClientCreate_serves _) ran
            cases answer with
            | ok value =>
                exact ⟨_, _, sent.ran.append creation.ran,
                  .created (whenMissing error rfl missing),
                  written.trans (creation.writes_of_ok rfl)⟩
            | error error =>
                exact ⟨_, sent.ran.append creation.ran,
                  written.trans creation.writes_of_error⟩
          · simp only [fail_run, Prod.mk.injEq] at ran
            obtain ⟨rfl, rfl⟩ := ran
            exact ⟨_, sent.ran, silent⟩
      | ok lb =>
          dsimp only at ran
          obtain ⟨stored, named⟩ := whenFound lb rfl
          obtain ⟨last, change, _⟩ := call_answered (lbClientUpdate_serves _) ran
          cases answer with
          | ok value =>
              exact ⟨_, _, sent.ran.append change.ran, .updated stored named,
                written.trans (change.writes_of_ok rfl)⟩
          | error error =>
              exact ⟨_, sent.ran.append change.ran,
                written.trans change.writes_of_error⟩

/-- The stored object a service update starts from. -/
structure View.Refetched
    (view : View)
    (service current : Service) :
    Prop where
  stored : view.services service.key = some current.content
  sameKey : current.key = service.key
  sameUid : current.uid = service.uid

/-- The requests between two sessions committed one changed service. -/
def Publishes
    (service : Service)
    (update : Service → Service)
    (session : Session)
    (_ : Unit)
    (final : Session) :
    Prop :=
  ∃ events current,
    Ran session events final ∧
      session.cluster.view.Refetched service current ∧
      writes events = [.updateService (update current)]

theorem Quiet.publishes
    {service : Service}
    {update : Service → Service}
    {first second third : Session}
    {value : Unit}
    (earlier : Quiet first second)
    (later : Publishes service update second value third) :
    Publishes service update first value third := by
  have sameView := earlier.view_eq
  obtain ⟨early, earlyRan, earlyNone⟩ := earlier
  obtain ⟨late, current, lateRan, refetched, lateOne⟩ := later
  rw [sameView] at refetched
  refine ⟨_, current, earlyRan.append lateRan, refetched, ?_⟩
  rw [writes_append, earlyNone, lateOne, List.nil_append]

theorem retryFunc_ended
    {service : Service}
    {serviceType ip primaryLabel : String}
    {updateServiceObject : Service → String → String → Service}
    {session final : Session}
    {answer : Except Err Unit}
    (ran :
      retryFunc service serviceType ip primaryLabel updateServiceObject session =
        (answer, final)) :
    Ended Quiet
      (Publishes service fun current => updateServiceObject current ip primaryLabel)
      session answer final := by
  rcases bind_cases ran with ⟨error, got, rfl⟩ | ⟨current, middle, got, rest⟩
  · obtain ⟨cause, got, -⟩ := mapError_error got
    obtain ⟨event, sent, _⟩ := localSvcCacheGet_answered got
    exact ⟨_, sent.ran, sent.writes_of_error⟩
  · obtain ⟨event, sent, facts⟩ := localSvcCacheGet_answered (mapError_ok.mp got)
    obtain ⟨stored, _, sameKey⟩ := facts current rfl
    have silent := sent.writes_of_read rfl
    split at rest
    · simp only [fail_run, Prod.mk.injEq] at rest
      obtain ⟨rfl, rfl⟩ := rest
      exact ⟨_, sent.ran, silent⟩
    · rename_i sameUid
      obtain ⟨last, change, _⟩ := call_answered (localSvcClientUpdate_serves _) rest
      cases answer with
      | ok value =>
          refine ⟨_, current, sent.ran.append change.ran, ?_, ?_⟩
          · exact ⟨stored, sameKey, not_not.mp sameUid⟩
          · rw [writes_append, silent, change.writes_of_ok rfl, List.nil_append]
      | error error =>
          refine ⟨_, sent.ran.append change.ran, ?_⟩
          rw [writes_append, silent, change.writes_of_error, List.nil_append]

theorem retryUpdateService_ended
    {service : Service}
    {serviceType ip primaryLabel : String}
    {updateServiceObject : Service → String → String → Service}
    {session final : Session}
    {answer : Except Err Unit}
    (ran :
      retryUpdateService service serviceType ip primaryLabel updateServiceObject
        session = (answer, final)) :
    Ended Quiet
      (Publishes service fun current => updateServiceObject current ip primaryLabel)
      session answer final := by
  have looped
      {result : Except Err Unit}
      (loopRan :
        retryOnConflict
          (retryFunc service serviceType ip primaryLabel updateServiceObject)
          session = (result, final)) :
      Ended Quiet
        (Publishes service fun current => updateServiceObject current ip primaryLabel)
        session result final := by
    refine retryWhile_ended ?_ ?_ ?_ _ loopRan
    · exact fun _ _ _ earlier later => earlier.trans later
    · exact fun _ _ _ _ earlier later => earlier.publishes later
    · exact fun _ _ _ once => retryFunc_ended once
  cases answer with
  | ok value =>
      exact looped (mapError_ok.mp ran)
  | error error =>
      obtain ⟨cause, failed, -⟩ := mapError_error ran
      have ended := looped failed
      exact ended

end Writing

section Primary

variable {l : LoadBalancerManager}
variable {clusterName : String}
variable {service : Service}
variable {session final : Session}

/-- The written object is the own load balancer of the service. -/
theorem View.Written.apply_eq
    {view : View}
    {request : Request}
    (written : view.Written l clusterName service request) :
    ∃ lb : LoadBalancer,
      request.apply view =
        { view with
          loadBalancers :=
            Function.update view.loadBalancers
              (service.loadBalancerName clusterName) (some lb.content) } := by
  cases written with
  | created missing =>
      refine ⟨l.constructLB none service
        (service.loadBalancerName clusterName) clusterName, ?_⟩
      simp only [Request.apply, constructLB_name_of_none]
  | @updated lb stored sameName =>
      refine ⟨l.constructLB (some lb) service
        (service.loadBalancerName clusterName) clusterName, ?_⟩
      have named : lb.name ≠ [] := LoadBalancer.name_ne_nil sameName
      simp only [Request.apply, constructLB_name_of_some named, sameName]

theorem updatePrimaryServiceLoadBalancerIP_callback_observes (lbName : LBName) :
    Respects Observes
      (do
        let lb ← mapError (.wrap "fail to get lb ") (lbClientGet lbName)
        if lb.status.allocatedAddress.ip = "" then
          fail (.errorf
            (s!"ip is not allocated, mode: {lb.spec.ipam}, " ++
              s!"message: {lb.readyMessage}"))
        else
          pure (lb, lb.status.allocatedAddress.ip) :
        Program Session Err (LoadBalancer × String)) := by
  refine .bind (lbClientGet_observes lbName).mapError fun lb => ?_
  split
  · exact .fail _
  · exact .pure _

/-- A primary was left as it is or written with its address. -/
def ConfirmsPrimary
    (service : Service)
    (session : Session)
    (value : Unit)
    (final : Session) :
    Prop :=
  (Quiet session final ∧ service.labels.read keyPrimaryService = "") ∨
    ∃ iface ip,
      Publishes service
        (fun current => updatePrimaryServiceObject iface current ip "")
        session value final

theorem updatePrimaryServiceLoadBalancerIP_ended
    {lbName : LBName}
    {answer : Except Err Unit}
    (ran :
      updatePrimaryServiceLoadBalancerIP lbName service session = (answer, final)) :
    Ended Quiet (ConfirmsPrimary service) session answer final := by
  have quiet
      {Value : Type}
      {program : Program Session Err Value}
      (observes : Respects Observes program)
      {state reached : Session}
      {result : Except Err Value}
      (stepped : program state = (result, reached)) :
      Quiet state reached := by
    obtain ⟨events, recorded, reads⟩ := observes.of_run stepped
    exact ⟨events, recorded, writes_eq_nil_of_reads reads⟩
  unfold updatePrimaryServiceLoadBalancerIP at ran
  rcases bind_cases ran with ⟨error, resolved, rfl⟩ | ⟨iface, first, resolved, ran⟩
  · exact quiet (resolveNetworkInterface_observes service).mapError resolved
  · have resolving := quiet (resolveNetworkInterface_observes service).mapError resolved
    rcases bind_cases ran with ⟨error, waited, rfl⟩ | ⟨⟨lb, ip⟩, second, waited, ran⟩
    · exact resolving.trans
        (quiet
          (waitForIP_observes
            (updatePrimaryServiceLoadBalancerIP_callback_observes lbName)) waited)
    · have waiting := resolving.trans
        (quiet
          (waitForIP_observes
            (updatePrimaryServiceLoadBalancerIP_callback_observes lbName)) waited)
      dsimp only at ran
      split at ran
      · rename_i upToDate
        simp only [pure_run, Prod.mk.injEq] at ran
        obtain ⟨rfl, rfl⟩ := ran
        refine .inl ⟨waiting, ?_⟩
        unfold isPrimaryServiceUpdatedWithIP at upToDate
        split at upToDate
        · cases upToDate
        · simp only [Bool.and_eq_true, decide_eq_true_eq] at upToDate
          exact upToDate.2
      · have ended := retryUpdateService_ended ran
        cases answer with
        | ok value =>
            exact .inr ⟨iface, ip, waiting.publishes ended⟩
        | error error =>
            exact waiting.trans ended

/-- How the reconcile of a primary service can end. -/
inductive PrimaryOutcome
    (l : LoadBalancerManager)
    (clusterName : String)
    (service : Service)
    (view : View)
    (events : List Event) :
    Bool → Prop where
  | refused
      (reads : ∀ event ∈ events, event.Reads) :
      PrimaryOutcome l clusterName service view events false
  | unwritten
      (fits :
        view.NetworkFits service (service.loadBalancerName clusterName) false)
      (written : writes events = []) :
      PrimaryOutcome l clusterName service view events false
  | kept
      {request : Request}
      (fits :
        view.NetworkFits service (service.loadBalancerName clusterName) false)
      (put : view.Written l clusterName service request)
      (because :
        view.Shared (primaryServiceLabelValue service) ∨ Disturbed events)
      (written : writes events = [request]) :
      PrimaryOutcome l clusterName service view events false
  | withdrawn
      {request : Request}
      (fits :
        view.NetworkFits service (service.loadBalancerName clusterName) false)
      (put : view.Written l clusterName service request)
      (unshared : ¬ view.Shared (primaryServiceLabelValue service))
      (written :
        writes events =
          [request, .deleteLoadBalancer (service.loadBalancerName clusterName)]) :
      PrimaryOutcome l clusterName service view events false
  | confirmed
      {request : Request}
      (fits :
        view.NetworkFits service (service.loadBalancerName clusterName) false)
      (put : view.Written l clusterName service request)
      (unlabelled : service.labels.read keyPrimaryService = "")
      (written : writes events = [request]) :
      PrimaryOutcome l clusterName service view events true
  | published
      {request : Request}
      {current : Service}
      (iface ip : String)
      (fits :
        view.NetworkFits service (service.loadBalancerName clusterName) false)
      (put : view.Written l clusterName service request)
      (refetched : view.Refetched service current)
      (written :
        writes events =
          [request,
            .updateService (updatePrimaryServiceObject iface current ip "")]) :
      PrimaryOutcome l clusterName service view events true

/-- Reads before a reconcile do not change how it ends. -/
theorem PrimaryOutcome.prepend
    {view : View}
    {events : List Event}
    {succeeded : Bool}
    (outcome : PrimaryOutcome l clusterName service view events succeeded)
    {before : List Event}
    (reads : ∀ event ∈ before, event.Reads) :
    PrimaryOutcome l clusterName service view (before ++ events) succeeded := by
  have same := writes_append_of_reads reads events
  cases outcome with
  | refused allRead =>
      refine .refused fun event member => ?_
      exact (List.mem_append.mp member).elim (reads event) (allRead event)
  | unwritten fits written =>
      exact .unwritten fits (same.trans written)
  | kept fits put because written =>
      exact .kept fits put
        (because.imp id fun disturbed => disturbed.append_left before)
        (same.trans written)
  | withdrawn fits put unshared written =>
      exact .withdrawn fits put unshared (same.trans written)
  | confirmed fits put unlabelled written =>
      exact .confirmed fits put unlabelled (same.trans written)
  | published iface ip fits put refetched written =>
      exact .published iface ip fits put refetched (same.trans written)

/-- Taking back a load balancer that is there deletes it or finds it in use. -/
theorem withdraw_outcome
    {wrapping : Err → Err}
    {failure : Err}
    {answer : Except Err LoadBalancerStatus}
    (present :
      session.cluster.view.loadBalancers (service.loadBalancerName clusterName) ≠ none)
    (ran :
      (do
        mapError wrapping (deleteLoadBalancer clusterName service)
        fail failure :
        Program Session Err LoadBalancerStatus) session = (answer, final)) :
    ∃ events,
      Ran session events final ∧
        answer.isOk = false ∧
        (((session.cluster.view.Shared (primaryServiceLabelValue service) ∨
            Disturbed events) ∧
          writes events = []) ∨
          (¬ session.cluster.view.Shared (primaryServiceLabelValue service) ∧
            writes events =
              [.deleteLoadBalancer (service.loadBalancerName clusterName)])) := by
  rcases bind_cases ran with ⟨cause, removed, rfl⟩ | ⟨_, reached, removed, ran⟩
  · obtain ⟨cause, removed, -⟩ := mapError_error removed
    obtain ⟨removing, removeRan, outcome⟩ := deleteLoadBalancer_outcome removed
    cases outcome with
    | refused because noRemoval =>
        exact ⟨removing, removeRan, rfl, .inl ⟨because, noRemoval⟩⟩
  · simp only [fail_run, Prod.mk.injEq] at ran
    obtain ⟨rfl, rfl⟩ := ran
    obtain ⟨removing, removeRan, outcome⟩ :=
      deleteLoadBalancer_outcome (mapError_ok.mp removed)
    cases outcome with
    | absent unshared missing noRemoval =>
        exact (present missing).elim
    | deleted unshared found oneRemoval =>
        exact ⟨removing, removeRan, rfl, .inr ⟨unshared, oneRemoval⟩⟩

/-- How a primary ends whose load balancer has been written. -/
theorem updateWritten_outcome
    {wrapping : Err → Err}
    {failure : Err → Err}
    {answer : Except Err LoadBalancerStatus}
    {before : View}
    {request : Request}
    {putting : List Event}
    (fits : before.NetworkFits service (service.loadBalancerName clusterName) false)
    (written : before.Written l clusterName service request)
    (onePut : writes putting = [request])
    (met : session.cluster.view = request.apply before)
    (ran :
      (do
        match ← attempt
          (updatePrimaryServiceLoadBalancerIP (service.loadBalancerName clusterName)
            service) with
        | .error error =>
            mapError wrapping (deleteLoadBalancer clusterName service)
            fail (failure error)
        | .ok _ => pure service.loadBalancer :
        Program Session Err LoadBalancerStatus) session = (answer, final)) :
    ∃ events,
      Ran session events final ∧
        PrimaryOutcome l clusterName service before (putting ++ events)
          answer.isOk := by
  obtain ⟨lb, applied⟩ := written.apply_eq
  rw [applied] at met
  rw [attempt_bind_run] at ran
  cases updated : updatePrimaryServiceLoadBalancerIP
      (service.loadBalancerName clusterName) service session with
  | mk result reached =>
      rw [updated] at ran
      have ended := updatePrimaryServiceLoadBalancerIP_ended updated
      cases result with
      | ok value =>
          dsimp only at ran
          simp only [pure_run, Prod.mk.injEq] at ran
          obtain ⟨rfl, rfl⟩ := ran
          rcases ended with
            ⟨⟨updating, updateRan, noUpdate⟩, unlabelled⟩ |
            ⟨iface, ip, updating, current, updateRan, refetched, oneUpdate⟩
          · refine ⟨updating, updateRan, .confirmed fits written unlabelled ?_⟩
            rw [writes_append, onePut, noUpdate, List.append_nil]
          · rw [met] at refetched
            refine ⟨updating, updateRan, .published iface ip fits written
              ⟨refetched.stored, refetched.sameKey, refetched.sameUid⟩ ?_⟩
            rw [writes_append, onePut, oneUpdate, List.singleton_append]
      | error error =>
          dsimp only at ran
          have reachedView := ended.view_eq
          obtain ⟨updating, updateRan, noUpdate⟩ := ended
          rw [met] at reachedView
          obtain ⟨removing, removeRan, failed, removal⟩ :=
            withdraw_outcome (by rw [reachedView]; simp) ran
          rw [reachedView] at removal
          refine ⟨_, updateRan.append removeRan, ?_⟩
          rw [failed]
          rcases removal with ⟨because, noRemoval⟩ | ⟨unshared, oneRemoval⟩
          · refine .kept fits written ?_ ?_
            · exact because.imp id fun disturbed =>
                (disturbed.append_left updating).append_left putting
            · simp only [writes_append, onePut, noUpdate, noRemoval, List.append_nil]
          · refine .withdrawn fits written unshared ?_
            simp only [writes_append, onePut, noUpdate, oneRemoval,
              List.nil_append, List.singleton_append]

theorem ensurePrimaryLoadBalancer_outcome
    {answer : Except Err LoadBalancerStatus}
    (ran : l.ensurePrimaryLoadBalancer clusterName service session = (answer, final)) :
    ∃ events,
      Ran session events final ∧
        PrimaryOutcome l clusterName service session.cluster.view events
          answer.isOk := by
  unfold LoadBalancerManager.ensurePrimaryLoadBalancer at ran
  rcases bind_cases ran with ⟨error, checked, rfl⟩ | ⟨_, reached, checked, ran⟩
  · obtain ⟨events, recorded, reads, _⟩ :=
      observed_events (checkNetworkChanged_observes _ _ _) checked
    exact ⟨events, recorded, .refused reads⟩
  have fits := checkNetworkChanged_ok checked
  obtain ⟨checking, checkRan, reads, sameView⟩ :=
    observed_events (checkNetworkChanged_observes _ _ _) checked
  rw [← sameView] at fits ⊢
  rcases bind_cases ran with ⟨error, put, rfl⟩ | ⟨_, second, put, ran⟩
  · obtain ⟨cause, put, -⟩ := mapError_error put
    obtain ⟨putting, putRan, noPut⟩ := createOrUpdateLoadBalancer_ended put
    exact ⟨_, checkRan.append putRan, (PrimaryOutcome.unwritten fits noPut).prepend reads⟩
  obtain ⟨putting, request, putRan, written, onePut⟩ :=
    createOrUpdateLoadBalancer_ended (mapError_ok.mp put)
  have met : second.cluster.view = request.apply reached.cluster.view := by
    rw [putRan.view_eq, onePut]
    rfl
  obtain ⟨events, recorded, outcome⟩ :=
    updateWritten_outcome fits written onePut met ran
  exact ⟨_, checkRan.append (putRan.append recorded), outcome.prepend reads⟩

end Primary

section Secondary

variable {clusterName : String}
variable {primary secondary : Service}
variable {session final : Session}

/-- The writes of a deletion that succeeded. -/
inductive View.Removed
    (view : View)
    (clusterName : String)
    (service : Service) :
    List Request → Prop where
  | absent
      (missing : view.loadBalancers (service.loadBalancerName clusterName) = none) :
      View.Removed view clusterName service []
  | deleted
      (present :
        (view.loadBalancers (service.loadBalancerName clusterName)).isSome) :
      View.Removed view clusterName service
        [.deleteLoadBalancer (service.loadBalancerName clusterName)]

/-- Deleting removes the own load balancer and touches no service. -/
theorem View.Removed.apply_eq
    {view : View}
    {service : Service}
    {requests : List Request}
    (removed : view.Removed clusterName service requests) :
    requests.foldl (fun reached request => request.apply reached) view =
      { view with
        loadBalancers :=
          Function.update view.loadBalancers
            (service.loadBalancerName clusterName) none } := by
  cases removed with
  | absent missing =>
      ext1
      · rfl
      · exact (Function.update_eq_self_iff.mpr missing.symm).symm
  | deleted present =>
      rfl

/-- Everything a secondary has to pass before its own load balancer goes. -/
structure View.Accepted
    (view : View)
    (clusterName : String)
    (primary secondary : Service) :
    Prop where
  portsFree : view.PortsFree primary secondary
  fits : view.NetworkFits secondary (primary.loadBalancerName clusterName) true
  unshared : ¬ view.Shared (primaryServiceLabelValue secondary)

/-- How the reconcile of a secondary service can end. -/
inductive SecondaryOutcome
    (clusterName : String)
    (primary secondary : Service)
    (view : View)
    (events : List Event) :
    Bool → Prop where
  | refused
      (reads : ∀ event ∈ events, event.Reads) :
      SecondaryOutcome clusterName primary secondary view events false
  | blocked
      (because :
        view.Shared (primaryServiceLabelValue secondary) ∨ Disturbed events)
      (written : writes events = []) :
      SecondaryOutcome clusterName primary secondary view events false
  | detached
      {removal : List Request}
      (accepted : view.Accepted clusterName primary secondary)
      (removed : view.Removed clusterName secondary removal)
      (written : writes events = removal) :
      SecondaryOutcome clusterName primary secondary view events false
  | confirmed
      {removal : List Request}
      {ip : String}
      (accepted : view.Accepted clusterName primary secondary)
      (removed : view.Removed clusterName secondary removal)
      (upToDate :
        isSecondaryServiceUpdatedWithPrimary primary secondary ip
          (primaryServiceLabelValue primary) = true)
      (written : writes events = removal) :
      SecondaryOutcome clusterName primary secondary view events true
  | published
      {removal : List Request}
      {current : Service}
      (ip : String)
      (accepted : view.Accepted clusterName primary secondary)
      (removed : view.Removed clusterName secondary removal)
      (refetched : view.Refetched secondary current)
      (written :
        writes events =
          removal ++
            [.updateService
              (updateSecondaryServiceObject primary current ip
                (primaryServiceLabelValue primary))]) :
      SecondaryOutcome clusterName primary secondary view events true

/-- The last step of a secondary leaves it alone or writes it. -/
theorem updateSecondaryServiceLoadBalancerIP_ended
    {ip : String}
    {answer : Except Err Unit}
    (ran :
      updateSecondaryServiceLoadBalancerIP ip primary secondary session =
        (answer, final)) :
    (answer = .ok () ∧
      final = session ∧
      isSecondaryServiceUpdatedWithPrimary primary secondary ip
        (primaryServiceLabelValue primary) = true) ∨
      Ended Quiet
        (Publishes secondary fun current =>
          updateSecondaryServiceObject primary current ip
            (primaryServiceLabelValue primary))
        session answer final := by
  unfold updateSecondaryServiceLoadBalancerIP at ran
  split at ran
  · rename_i upToDate
    simp only [pure_run, Prod.mk.injEq] at ran
    exact .inl ⟨ran.1.symm, ran.2.symm, upToDate⟩
  · exact .inr (retryUpdateService_ended ran)

/-- Reads before a reconcile do not change how it ends. -/
theorem SecondaryOutcome.prepend
    {view : View}
    {events : List Event}
    {succeeded : Bool}
    (outcome :
      SecondaryOutcome clusterName primary secondary view events succeeded)
    {before : List Event}
    (reads : ∀ event ∈ before, event.Reads) :
    SecondaryOutcome clusterName primary secondary view (before ++ events)
      succeeded := by
  have same := writes_append_of_reads reads events
  cases outcome with
  | refused allRead =>
      refine .refused fun event member => ?_
      exact (List.mem_append.mp member).elim (reads event) (allRead event)
  | blocked because written =>
      exact .blocked
        (because.imp id fun disturbed => disturbed.append_left before)
        (same.trans written)
  | detached accepted removed written =>
      exact .detached accepted removed (same.trans written)
  | confirmed accepted removed upToDate written =>
      exact .confirmed accepted removed upToDate (same.trans written)
  | published ip accepted removed refetched written =>
      exact .published ip accepted removed refetched (same.trans written)

/-- A deletion that succeeds leaves an unshared load balancer removed. -/
theorem DeletionOutcome.removed
    {service : Service}
    {view : View}
    {events : List Event}
    (outcome : DeletionOutcome clusterName service view events true) :
    ¬ view.Shared (primaryServiceLabelValue service) ∧
      view.Removed clusterName service (writes events) := by
  cases outcome with
  | absent unshared missing written =>
      rw [written]
      exact ⟨unshared, .absent missing⟩
  | deleted unshared present written =>
      rw [written]
      exact ⟨unshared, .deleted present⟩

/-- How a secondary ends that has passed the checks of its ports and network. -/
theorem detachAndUpdate_outcome
    {ip : String}
    {answer : Except Err LoadBalancerStatus}
    (portsFree : session.cluster.view.PortsFree primary secondary)
    (fits :
      session.cluster.view.NetworkFits secondary
        (primary.loadBalancerName clusterName) true)
    (ran :
      (do
        deleteLoadBalancer clusterName secondary
        updateSecondaryServiceLoadBalancerIP ip primary secondary
        pure secondary.loadBalancer :
        Program Session Err LoadBalancerStatus) session = (answer, final)) :
    ∃ events,
      Ran session events final ∧
        SecondaryOutcome clusterName primary secondary session.cluster.view events
          answer.isOk := by
  rcases bind_cases ran with ⟨error, removal, rfl⟩ | ⟨_, cleared, removal, ran⟩
  · obtain ⟨removing, removeRan, outcome⟩ := deleteLoadBalancer_outcome removal
    cases outcome with
    | refused because written =>
        exact ⟨removing, removeRan, .blocked because written⟩
  obtain ⟨removing, removeRan, outcome⟩ := deleteLoadBalancer_outcome removal
  obtain ⟨unshared, removed⟩ := outcome.removed
  have accepted : session.cluster.view.Accepted clusterName primary secondary :=
    ⟨portsFree, fits, unshared⟩
  have clearedView : cleared.cluster.view.services = session.cluster.view.services := by
    rw [removeRan.view_eq, removed.apply_eq]
  rcases bind_cases ran with ⟨error, update, rfl⟩ | ⟨_, updated, update, ran⟩
  · rcases updateSecondaryServiceLoadBalancerIP_ended update with
      ⟨impossible, _⟩ | ended
    · cases impossible
    · obtain ⟨updating, updateRan, noUpdate⟩ := ended
      refine ⟨_, removeRan.append updateRan, .detached accepted removed ?_⟩
      rw [writes_append, noUpdate, List.append_nil]
  · simp only [pure_run, Prod.mk.injEq] at ran
    obtain ⟨rfl, rfl⟩ := ran
    rcases updateSecondaryServiceLoadBalancerIP_ended update with
      ⟨_, rfl, upToDate⟩ | ended
    · exact ⟨_, removeRan, .confirmed accepted removed upToDate rfl⟩
    · obtain ⟨updating, current, updateRan, refetched, oneUpdate⟩ := ended
      have refetchedBefore : session.cluster.view.Refetched secondary current :=
        ⟨clearedView ▸ refetched.stored, refetched.sameKey, refetched.sameUid⟩
      refine ⟨_, removeRan.append updateRan,
        .published ip accepted removed refetchedBefore ?_⟩
      rw [writes_append, oneUpdate]

theorem ensureSecondaryLoadBalancer_outcome
    {answer : Except Err LoadBalancerStatus}
    (ran :
      LoadBalancerManager.ensureSecondaryLoadBalancer clusterName primary secondary
        session = (answer, final)) :
    ∃ events,
      Ran session events final ∧
        SecondaryOutcome clusterName primary secondary session.cluster.view events
          answer.isOk := by
  unfold LoadBalancerManager.ensureSecondaryLoadBalancer at ran
  cases ingress : primary.loadBalancer.ingress with
  | nil =>
      simp only [ingress, fail_run, Prod.mk.injEq] at ran
      obtain ⟨rfl, rfl⟩ := ran
      exact ⟨[], .refl _, .refused (by simp)⟩
  | cons first others =>
      simp only [ingress] at ran
      rcases bind_cases ran with ⟨error, overlap, rfl⟩ | ⟨_, reached, overlap, ran⟩
      · obtain ⟨events, recorded, reads, _⟩ :=
          observed_events (checkPortOverlap_observes primary secondary).mapError overlap
        exact ⟨events, recorded, .refused reads⟩
      have portsFree := checkPortOverlap_ok (mapError_ok.mp overlap)
      obtain ⟨listing, listRan, listReads, listView⟩ :=
        observed_events (checkPortOverlap_observes primary secondary).mapError overlap
      rcases bind_cases ran with ⟨error, network, rfl⟩ | ⟨_, checked, network, ran⟩
      · obtain ⟨events, recorded, reads, _⟩ :=
          observed_events (checkNetworkChanged_observes _ _ _) network
        refine ⟨_, listRan.append recorded, .refused fun event member => ?_⟩
        exact (List.mem_append.mp member).elim (listReads event) (reads event)
      have fits := checkNetworkChanged_ok network
      obtain ⟨checking, checkRan, checkReads, checkView⟩ :=
        observed_events (checkNetworkChanged_observes _ _ _) network
      rw [← listView] at portsFree ⊢
      rw [← checkView] at portsFree fits ⊢
      -- The checks only read, so the rest decides how the call ends.
      obtain ⟨events, recorded, outcome⟩ := detachAndUpdate_outcome portsFree fits ran
      exact ⟨_, listRan.append (checkRan.append recorded),
        (outcome.prepend checkReads).prepend listReads⟩

end Secondary

section Operations

variable {l : LoadBalancerManager}
variable {clusterName : String}
variable {service : Service}
variable {session final : Session}

/-- How `ensureLoadBalancer` and `updateLoadBalancer` can end. -/
inductive EnsureOutcome
    (l : LoadBalancerManager)
    (clusterName : String)
    (service : Service)
    (view : View)
    (events : List Event) :
    Bool → Prop where
  | refused
      (reads : ∀ event ∈ events, event.Reads) :
      EnsureOutcome l clusterName service view events false
  | primary
      {succeeded : Bool}
      (unset : service.annotations.lookup keyPrimaryService = none)
      (outcome : PrimaryOutcome l clusterName service view events succeeded) :
      EnsureOutcome l clusterName service view events succeeded
  | secondary
      {succeeded : Bool}
      {primary : Service}
      (resolved : view.Primary service primary)
      (outcome :
        SecondaryOutcome clusterName primary service view events succeeded) :
      EnsureOutcome l clusterName service view events succeeded

theorem ensureLoadBalancer_outcome
    {answer : Except Err LoadBalancerStatus}
    (ran : l.ensureLoadBalancer clusterName service session = (answer, final)) :
    ∃ events,
      Ran session events final ∧
        EnsureOutcome l clusterName service session.cluster.view events
          answer.isOk := by
  unfold LoadBalancerManager.ensureLoadBalancer at ran
  rcases bind_cases ran with ⟨error, network, rfl⟩ | ⟨_, first, network, ran⟩
  · obtain ⟨events, recorded, reads, _⟩ :=
      observed_events (resolveNetworkInterface_observes service) network
    exact ⟨events, recorded, .refused reads⟩
  obtain ⟨resolving, resolveRan, resolveReads, firstView⟩ :=
    observed_events (resolveNetworkInterface_observes service) network
  rcases bind_cases ran with ⟨error, looked, rfl⟩ | ⟨found, second, looked, ran⟩
  · obtain ⟨events, recorded, reads, _⟩ :=
      observed_events (getPrimaryService_observes service) looked
    refine ⟨_, resolveRan.append recorded, .refused fun event member => ?_⟩
    exact (List.mem_append.mp member).elim (resolveReads event) (reads event)
  obtain ⟨looking, lookRan, lookReads, secondView⟩ :=
    observed_events (getPrimaryService_observes service) looked
  have reads : ∀ event ∈ resolving ++ looking, event.Reads := by
    intro event member
    exact (List.mem_append.mp member).elim (resolveReads event) (lookReads event)
  cases found with
  | none =>
      obtain ⟨events, recorded, outcome⟩ := ensurePrimaryLoadBalancer_outcome ran
      rw [secondView, firstView] at outcome
      exact ⟨_, (resolveRan.append lookRan).append recorded,
        .primary (getPrimaryService_none looked) (outcome.prepend reads)⟩
  | some primary =>
      have resolved := getPrimaryService_some looked
      rw [firstView] at resolved
      obtain ⟨events, recorded, outcome⟩ := ensureSecondaryLoadBalancer_outcome ran
      rw [secondView, firstView] at outcome
      exact ⟨_, (resolveRan.append lookRan).append recorded,
        .secondary resolved (outcome.prepend reads)⟩

theorem updateLoadBalancer_outcome
    {answer : Except Err Unit}
    (ran : l.updateLoadBalancer clusterName service session = (answer, final)) :
    ∃ events,
      Ran session events final ∧
        EnsureOutcome l clusterName service session.cluster.view events
          answer.isOk := by
  unfold LoadBalancerManager.updateLoadBalancer at ran
  rcases bind_cases ran with ⟨error, ensured, rfl⟩ | ⟨_, reached, ensured, ran⟩
  · obtain ⟨cause, ensured, -⟩ := mapError_error ensured
    exact ensureLoadBalancer_outcome ensured
  · simp only [pure_run, Prod.mk.injEq] at ran
    obtain ⟨rfl, rfl⟩ := ran
    exact ensureLoadBalancer_outcome (mapError_ok.mp ensured)

/-- How `ensureLoadBalancerDeleted` can end. -/
inductive EnsureDeletedOutcome
    (clusterName : String)
    (service : Service)
    (view : View)
    (events : List Event) :
    Bool → Prop where
  | unresolved
      (annotated : (service.annotations.lookup keyPrimaryService).isSome)
      (reads : ∀ event ∈ events, event.Reads) :
      EnsureDeletedOutcome clusterName service view events false
  | secondary
      {primary : Service}
      (resolved : view.Primary service primary)
      (reads : ∀ event ∈ events, event.Reads) :
      EnsureDeletedOutcome clusterName service view events true
  | primary
      {succeeded : Bool}
      (unset : service.annotations.lookup keyPrimaryService = none)
      (outcome : DeletionOutcome clusterName service view events succeeded) :
      EnsureDeletedOutcome clusterName service view events succeeded

theorem ensureLoadBalancerDeleted_outcome
    {answer : Except Err Unit}
    (ran :
      LoadBalancerManager.ensureLoadBalancerDeleted clusterName service session =
        (answer, final)) :
    ∃ events,
      Ran session events final ∧
        EnsureDeletedOutcome clusterName service session.cluster.view events
          answer.isOk := by
  cases set : service.annotations.lookup keyPrimaryService with
  | none =>
      rcases bind_cases ran with ⟨error, looked, rfl⟩ | ⟨found, reached, looked, ran⟩
      · rw [getPrimaryService_run_of_unset set] at looked
        simp at looked
      · rw [getPrimaryService_run_of_unset set] at looked
        simp only [Prod.mk.injEq, Except.ok.injEq] at looked
        obtain ⟨rfl, rfl⟩ := looked
        obtain ⟨events, recorded, outcome⟩ := deleteLoadBalancer_outcome ran
        exact ⟨events, recorded, .primary set outcome⟩
  | some text =>
      rcases bind_cases ran with ⟨error, looked, rfl⟩ | ⟨found, reached, looked, ran⟩
      · obtain ⟨events, recorded, reads, _⟩ :=
          observed_events (getPrimaryService_observes service) looked
        exact ⟨events, recorded, .unresolved (by simp [set]) reads⟩
      · obtain ⟨events, recorded, reads, _⟩ :=
          observed_events (getPrimaryService_observes service) looked
        cases found with
        | none =>
            rw [getPrimaryService_none looked] at set
            cases set
        | some primary =>
            simp only [pure_run, Prod.mk.injEq] at ran
            obtain ⟨rfl, rfl⟩ := ran
            exact ⟨events, recorded, .secondary (getPrimaryService_some looked) reads⟩

end Operations

end HarvesterCloudProvider
