import HarvesterCloudProvider.ApiSession

namespace HarvesterCloudProvider

open Program

/-!
# What a sequence of requests does to the stored objects

A session moves the view of its cluster by its committed writes and by nothing
else: the other controllers only touch what the view leaves out.  `Ran` states
this for the events recorded between two sessions.  Each client operation gets
one lemma that relates its answer to the view.
-/

section Views

/-- A stored service is in the view under its key. -/
theorem Cluster.view_services_of_mem
    {cluster : Cluster}
    {service : Service}
    (stored : service ∈ cluster.services) :
    cluster.view.services service.key = some service.content :=
  Option.map_eq_some_iff.mpr ⟨service, stored, rfl⟩

/-- Writing a load balancer changes one entry of the view. -/
theorem Cluster.view_put
    (cluster : Cluster)
    (lb : LoadBalancer)
    (version : Nat) :
    ({ cluster with
        loadBalancers := cluster.loadBalancers.put lb
        version := version } : Cluster).view =
      { cluster.view with
        loadBalancers :=
          Function.update cluster.view.loadBalancers lb.name
            (some lb.content) } := by
  ext1
  · rfl
  · funext name
    by_cases sameName : name = lb.name
    · subst sameName
      simp [Cluster.view, LoadBalancerStore.put]
    · simp [Cluster.view, LoadBalancerStore.put, sameName]

/-- Deleting a load balancer clears one entry of the view. -/
theorem Cluster.view_erase
    (cluster : Cluster)
    (name : LBName) :
    ({ cluster with
        loadBalancers := cluster.loadBalancers.erase name } : Cluster).view =
      { cluster.view with
        loadBalancers :=
          Function.update cluster.view.loadBalancers name none } := by
  ext1
  · rfl
  · funext other
    by_cases sameName : other = name
    · subst sameName
      simp [Cluster.view, LoadBalancerStore.erase]
    · simp [Cluster.view, LoadBalancerStore.erase, sameName]

/-- Replacing a stored service changes one entry of the view. -/
theorem Cluster.view_replace
    (cluster : Cluster)
    {service old : Service}
    (version : Nat)
    (stored : cluster.services.get? service.key = some old)
    (sameId : old.id = service.id) :
    ({ cluster with
        services := cluster.services.replace service
        version := version } : Cluster).view =
      { cluster.view with
        services :=
          Function.update cluster.view.services service.key
            (some service.content) } := by
  ext1
  · funext key
    simp only [Cluster.view, ServiceStore.get?_replace stored sameId]
    by_cases sameKey : key = service.key
    · subst sameKey
      simp
    · simp [sameKey]
  · rfl

theorem Cluster.view_loadBalancers_eq_none
    {cluster : Cluster}
    {name : LBName} :
    cluster.view.loadBalancers name = none ↔
      cluster.loadBalancers.get? name = none :=
  Option.map_eq_none_iff

/-- The other controllers do not change the view. -/
theorem Cluster.view_react
    (cluster : Cluster)
    (action : EnvironmentAction) :
    (cluster.react action).view = cluster.view := by
  cases action with
  | allocate name address conditions =>
      simp only [Cluster.react]
      split
      · rfl
      · rename_i lb found
        have named := cluster.loadBalancers.named found
        subst named
        rw [Cluster.view_put]
        ext1
        · rfl
        · refine Function.update_eq_self_iff.mpr ?_
          simp [Cluster.view, found, LoadBalancer.content]
  | assignIngress key ingress =>
      simp only [Cluster.react]
      split
      · rfl
      · rename_i service found
        obtain ⟨_, sameKey⟩ := ServiceStore.get?_eq_some.mp found
        subst sameKey
        rw [@Cluster.view_replace cluster
          { service with
            resourceVersion := cluster.version + 1
            loadBalancer := { ingress := ingress } }
          service _ found rfl]
        ext1
        · refine Function.update_eq_self_iff.mpr ?_
          simp only [Cluster.view, Service.key, Service.content]
          rw [show cluster.services.get?
            (metaNamespaceKey service.ns service.name) = some service from found]
          rfl
        · rfl
  | storeMapping configMap =>
      rfl

/-- Any number of actions of the other controllers keeps the view. -/
theorem Cluster.view_foldl_react
    (actions : List EnvironmentAction)
    (cluster : Cluster) :
    (actions.foldl Cluster.react cluster).view = cluster.view := by
  induction actions generalizing cluster with
  | nil =>
      rfl
  | cons action rest inductionHypothesis =>
      rw [List.foldl_cons, inductionHypothesis, Cluster.view_react]

end Views

section Recording

/-- Replaying answered requests from one view to another. -/
inductive Replays : View → List Event → View → Prop where
  | nil (view : View) :
      Replays view [] view
  | cons
      {event : Event}
      {rest : List Event}
      {initial final : View} :
      event.before.view = initial →
      Replays (event.apply initial) rest final →
      Replays initial (event :: rest) final

theorem Replays.append
    {initial middle final : View}
    {first second : List Event}
    (firstReplays : Replays initial first middle)
    (secondReplays : Replays middle second final) :
    Replays initial (first ++ second) final := by
  induction firstReplays with
  | nil =>
      exact secondReplays
  | cons met _ inductionHypothesis =>
      exact .cons met (inductionHypothesis secondReplays)

/-- What happened between two states of one session. -/
structure Ran
    (session : Session)
    (events : List Event)
    (final : Session) :
    Prop where
  recorded : final.events = session.events ++ events
  replayed : Replays session.cluster.view events final.cluster.view

theorem Ran.refl (session : Session) : Ran session [] session where
  recorded := by simp
  replayed := .nil _

theorem Ran.append
    {session middle final : Session}
    {first second : List Event}
    (firstRan : Ran session first middle)
    (secondRan : Ran middle second final) :
    Ran session (first ++ second) final where
  recorded := by
    rw [secondRan.recorded, firstRan.recorded, List.append_assoc]
  replayed := firstRan.replayed.append secondRan.replayed

/-- The events between two sessions are determined by the sessions. -/
theorem Ran.unique
    {session final : Session}
    {first second : List Event}
    (firstRan : Ran session first final)
    (secondRan : Ran session second final) :
    first = second :=
  List.append_cancel_left (firstRan.recorded.symm.trans secondRan.recorded)

/-- Whether a request asks for a change of the stored objects. -/
def Request.isWrite : Request → Bool
  | .createLoadBalancer _ => true
  | .updateLoadBalancer _ => true
  | .deleteLoadBalancer _ => true
  | .updateService _ => true
  | .createConfigMap _ => true
  | .updateConfigMap _ => true
  | .getLoadBalancer _ => false
  | .getService _ _ => false
  | .listServices _ => false
  | .getConfigMap => false

/-- The committed writes among some answered requests, in order. -/
def writes (events : List Event) : List Request :=
  (events.filter fun event =>
    event.request.isWrite && event.error.isNone).map Event.request

@[simp] theorem writes_nil : writes [] = [] :=
  rfl

@[simp] theorem writes_append (first second : List Event) :
    writes (first ++ second) = writes first ++ writes second := by
  simp [writes]

/-- Only committed writes move the view. -/
theorem Replays.final_eq
    {initial final : View}
    {events : List Event}
    (replays : Replays initial events final) :
    final = (writes events).foldl (fun view request => request.apply view) initial := by
  induction replays with
  | nil =>
      rfl
  | @cons event rest initial final _ _ inductionHypothesis =>
      rw [inductionHypothesis]
      rcases event with ⟨request, before, error⟩
      cases error with
      | none =>
          cases request <;> rfl
      | some error =>
          cases request <;> rfl

theorem Ran.view_eq
    {session final : Session}
    {events : List Event}
    (ran : Ran session events final) :
    final.cluster.view =
      (writes events).foldl (fun view request => request.apply view)
        session.cluster.view :=
  ran.replayed.final_eq

/-- Without committed writes the view stays. -/
theorem Ran.view_eq_of_writes_nil
    {session final : Session}
    {events : List Event}
    (ran : Ran session events final)
    (noWrites : writes events = []) :
    final.cluster.view = session.cluster.view := by
  rw [ran.view_eq, noWrites]
  rfl

/-- A replay can be cut anywhere. -/
theorem Replays.split
    {initial final : View}
    {first second : List Event}
    (replays : Replays initial (first ++ second) final) :
    ∃ middle, Replays initial first middle ∧ Replays middle second final := by
  induction first generalizing initial with
  | nil =>
      exact ⟨initial, .nil initial, replays⟩
  | cons event rest inductionHypothesis =>
      cases replays with
      | cons met later =>
          obtain ⟨middle, firstReplays, secondReplays⟩ := inductionHypothesis later
          exact ⟨middle, .cons met firstReplays, secondReplays⟩

/-- A committed write meets the view that the writes before it left. -/
theorem Replays.met_writes
    {initial final : View}
    {events : List Event}
    {event : Event}
    (replays : Replays initial events final)
    (member : event ∈ events)
    (isWrite : event.request.isWrite = true)
    (committed : event.error = none) :
    ∃ before after,
      writes events = before ++ event.request :: after ∧
        event.before.view =
          before.foldl (fun view request => request.apply view) initial := by
  obtain ⟨first, second, rfl⟩ := List.append_of_mem member
  obtain ⟨middle, firstReplays, secondReplays⟩ := replays.split
  refine ⟨writes first, writes second, ?_, ?_⟩
  · rw [writes_append]
    simp [writes, isWrite, committed]
  · cases secondReplays with
    | cons met later =>
        rw [met, firstReplays.final_eq]

/-- A session is continued by events that all have a property. -/
def Extends
    (property : Event → Prop)
    (session final : Session) :
    Prop :=
  ∃ events, Ran session events final ∧ ∀ event ∈ events, property event

instance (property : Event → Prop) : Std.Refl (Extends property) where
  refl session := ⟨[], .refl session, by simp⟩

instance (property : Event → Prop) : IsTrans Session (Extends property) where
  trans first middle final := by
    rintro ⟨firstEvents, firstRan, firstHold⟩ ⟨secondEvents, secondRan, secondHold⟩
    refine ⟨_, firstRan.append secondRan, fun event member => ?_⟩
    rcases List.mem_append.mp member with inFirst | inSecond
    · exact firstHold event inFirst
    · exact secondHold event inSecond

theorem Extends.mono
    {stronger weaker : Event → Prop}
    {session final : Session}
    (extended : Extends stronger session final)
    (weakens : ∀ event, stronger event → weaker event) :
    Extends weaker session final := by
  obtain ⟨events, ran, hold⟩ := extended
  exact ⟨events, ran, fun event member => weakens event (hold event member)⟩

/-- The request of an event only reads. -/
def Event.Reads (event : Event) : Prop :=
  event.request.isWrite = false

/-- A session is continued by reads only. -/
abbrev Observes : Session → Session → Prop :=
  Extends Event.Reads

theorem writes_eq_nil_of_reads
    {events : List Event}
    (reads : ∀ event ∈ events, event.Reads) :
    writes events = [] := by
  simp only [writes, List.map_eq_nil_iff, List.filter_eq_nil_iff]
  intro event member
  have isRead : event.request.isWrite = false := reads event member
  simp [isRead]

/-- Reads before other events add no writes. -/
theorem writes_append_of_reads
    {before : List Event}
    (reads : ∀ event ∈ before, event.Reads)
    (events : List Event) :
    writes (before ++ events) = writes events := by
  rw [writes_append, writes_eq_nil_of_reads reads, List.nil_append]

end Recording

section Calls

variable {α : Type}

/-- The server commits exactly the requests it answers without an error. -/
def Serves
    (request : Request)
    (serve : Cluster → Except Err α × Cluster) :
    Prop :=
  ∀ cluster : Cluster,
    (serve cluster).2.view =
      match (serve cluster).1 with
      | .ok _ => request.apply cluster.view
      | .error _ => cluster.view

/-- One request was sent, answered and recorded. -/
structure Answered
    (request : Request)
    (session : Session)
    (answer : Except Err α)
    (final : Session)
    (event : Event) :
    Prop where
  ran : Ran session [event] final
  requested : event.request = request
  answered : event.error = errorOf answer
  met : event.before.view = session.cluster.view

/-- Every request is recorded with its answer. -/
theorem call_answered
    {request : Request}
    {serve : Cluster → Except Err α × Cluster}
    (serves : Serves request serve)
    {session final : Session}
    {answer : Except Err α}
    (called : call request serve session = (answer, final)) :
    ∃ event,
      Answered request session answer final event ∧
        ((∃ failure : Failure, answer = .error failure.toErr) ∨
          serve event.before = (answer, final.cluster)) := by
  unfold call at called
  simp only [Prod.mk.injEq] at called
  obtain ⟨answerEq, finalEq⟩ := called
  generalize session.ticks.headD {} = tick at answerEq finalEq
  set before := tick.environment.foldl Cluster.react session.cluster with beforeEq
  have beforeView : before.view = session.cluster.view :=
    Cluster.view_foldl_react tick.environment session.cluster
  let event : Event :=
    { request := request, before := before, error := errorOf answer }
  have replays
      {after : View}
      (applied : after = event.apply before.view) :
      Replays session.cluster.view [event] after := by
    rw [applied, beforeView]
    exact .cons beforeView (.nil _)
  refine ⟨event, ?_⟩
  cases failed : tick.failure with
  | some failure =>
      simp only [failed] at answerEq finalEq
      subst answerEq finalEq
      refine ⟨?_, .inl ⟨failure, rfl⟩⟩
      exact {
        ran := ⟨rfl, replays rfl⟩
        requested := rfl
        answered := rfl
        met := beforeView }
  | none =>
      simp only [failed] at answerEq finalEq
      subst finalEq
      have applied := serves before
      rw [answerEq] at applied
      refine ⟨?_, .inr (Prod.ext answerEq rfl)⟩
      refine {
        ran := ⟨by rw [answerEq], replays ?_⟩
        requested := rfl
        answered := rfl
        met := beforeView }
      cases answer <;> exact applied

/-- A failed request is never answered with a missing object. -/
theorem Failure.isNotFound_toErr (failure : Failure) :
    failure.toErr.isNotFound = false := by
  unfold Failure.toErr Err.isNotFound
  cases failure.conflict <;> rfl

/-- A request extends the session by one event with that request. -/
theorem call_respects
    {request : Request}
    {serve : Cluster → Except Err α × Cluster}
    {property : Event → Prop}
    (serves : Serves request serve)
    (holds : ∀ event : Event, event.request = request → property event) :
    Respects (Extends property) (call request serve) := by
  intro session
  obtain ⟨event, answered, _⟩ := call_answered serves (Prod.eta _).symm
  refine ⟨[event], answered.ran, ?_⟩
  simpa using holds event answered.requested

theorem lbClientGet_serves (name : LBName) :
    Serves (.getLoadBalancer name) fun cluster =>
      match cluster.loadBalancers.get? name with
      | some lb => (.ok lb, cluster)
      | none => (.error (notFound "loadbalancers" (textOf name)), cluster) := by
  intro cluster
  dsimp only
  split <;> rfl

/-- A load balancer that is found is stored, one that is not found is not. -/
theorem lbClientGet_answered
    {name : LBName}
    {session final : Session}
    {answer : Except Err LoadBalancer}
    (called : lbClientGet name session = (answer, final)) :
    ∃ event,
      Answered (.getLoadBalancer name) session answer final event ∧
        (∀ lb,
          answer = .ok lb →
            session.cluster.view.loadBalancers name = some lb.content ∧
              lb.name = name) ∧
        ∀ error,
          answer = .error error →
          error.isNotFound = true →
          session.cluster.view.loadBalancers name = none := by
  obtain ⟨event, answered, served⟩ :=
    call_answered (lbClientGet_serves name) called
  refine ⟨event, answered, ?_, ?_⟩
  · rintro lb rfl
    rw [← answered.met]
    rcases served with ⟨failure, failed⟩ | served
    · cases failed
    · cases found : event.before.loadBalancers.get? name with
      | none =>
          simp [found] at served
      | some stored =>
          simp only [found, Prod.mk.injEq, Except.ok.injEq] at served
          obtain ⟨rfl, _⟩ := served
          exact ⟨by simp [Cluster.view, found],
            event.before.loadBalancers.named found⟩
  · rintro error rfl missing
    rw [← answered.met]
    rcases served with ⟨failure, failed⟩ | served
    · cases failed
      rw [failure.isNotFound_toErr] at missing
      cases missing
    · cases found : event.before.loadBalancers.get? name with
      | none =>
          simp [Cluster.view, found]
      | some stored =>
          simp [found] at served

theorem lbClientCreate_serves (lb : LoadBalancer) :
    Serves (.createLoadBalancer lb) fun cluster =>
      match cluster.loadBalancers.get? lb.name with
      | some _ => (.error (alreadyExists "loadbalancers" (textOf lb.name)), cluster)
      | none =>
          (.ok (),
            { cluster with
              loadBalancers := cluster.loadBalancers.put
                { lb with resourceVersion := cluster.version + 1 }
              version := cluster.version + 1 }) := by
  intro cluster
  dsimp only
  split
  · rfl
  · exact Cluster.view_put _ _ _

theorem lbClientUpdate_serves (lb : LoadBalancer) :
    Serves (.updateLoadBalancer lb) fun cluster =>
      match cluster.loadBalancers.get? lb.name with
      | none => (.error (notFound "loadbalancers" (textOf lb.name)), cluster)
      | some stored =>
          if stored.resourceVersion = lb.resourceVersion then
            (.ok (),
              { cluster with
                loadBalancers := cluster.loadBalancers.put
                  { lb with resourceVersion := cluster.version + 1 }
                version := cluster.version + 1 })
          else
            (.error (conflicting "loadbalancers" (textOf lb.name)), cluster) := by
  intro cluster
  dsimp only
  split
  · rfl
  · split
    · exact Cluster.view_put _ _ _
    · rfl

theorem lbClientDelete_serves (name : LBName) :
    Serves (.deleteLoadBalancer name) fun cluster =>
      match cluster.loadBalancers.get? name with
      | none => (.error (notFound "loadbalancers" (textOf name)), cluster)
      | some _ =>
          (.ok (),
            { cluster with loadBalancers := cluster.loadBalancers.erase name }) := by
  intro cluster
  dsimp only
  split
  · rfl
  · exact Cluster.view_erase _ _

theorem localSvcCacheGet_serves (ns name : String) :
    Serves (.getService ns name) fun cluster =>
      match cluster.services.get? (metaNamespaceKey ns name) with
      | some service => (.ok service, cluster)
      | none => (.error (notFound "services" name), cluster) := by
  intro cluster
  dsimp only
  split <;> rfl

/-- A service that is found is stored under the key that was asked for. -/
theorem localSvcCacheGet_answered
    {ns name : String}
    {session final : Session}
    {answer : Except Err Service}
    (called : localSvcCacheGet ns name session = (answer, final)) :
    ∃ event,
      Answered (.getService ns name) session answer final event ∧
        ∀ service,
          answer = .ok service →
            session.cluster.view.services (metaNamespaceKey ns name) =
                some service.content ∧
              service ∈ event.before.services ∧
              service.key = metaNamespaceKey ns name := by
  obtain ⟨event, answered, served⟩ :=
    call_answered (localSvcCacheGet_serves ns name) called
  refine ⟨event, answered, ?_⟩
  rintro service rfl
  rcases served with ⟨failure, failed⟩ | served
  · cases failed
  · cases found : event.before.services.get? (metaNamespaceKey ns name) with
    | none =>
        simp [found] at served
    | some stored =>
        simp only [found, Prod.mk.injEq, Except.ok.injEq] at served
        obtain ⟨rfl, _⟩ := served
        refine ⟨?_, ServiceStore.get?_eq_some.mp found⟩
        rw [← answered.met]
        simp [Cluster.view, found]

theorem localSvcCacheList_serves (label : String) :
    Serves (.listServices label) fun cluster =>
      ((.ok (cluster.services.labelled label) : Except Err _), cluster) := by
  intro cluster
  rfl

/-- The list has exactly the services that carry the label. -/
theorem localSvcCacheList_answered
    {label : String}
    {session final : Session}
    {answer : Except Err (List Service)}
    (called : localSvcCacheList label session = (answer, final)) :
    ∃ event,
      Answered (.listServices label) session answer final event ∧
        ∀ services,
          answer = .ok services →
          services = event.before.services.labelled label := by
  obtain ⟨event, answered, served⟩ :=
    call_answered (localSvcCacheList_serves label) called
  refine ⟨event, answered, ?_⟩
  rintro services rfl
  rcases served with ⟨failure, failed⟩ | served
  · cases failed
  · simp only [Prod.mk.injEq, Except.ok.injEq] at served
    exact served.1.symm

theorem localSvcClientUpdate_serves (service : Service) :
    Serves (.updateService service) fun cluster =>
      match cluster.services.get? service.key with
      | none => (.error (notFound "services" service.name), cluster)
      | some stored =>
          if stored.id = service.id ∧
              stored.resourceVersion = service.resourceVersion then
            (.ok (),
              { cluster with
                services := cluster.services.replace
                  { service with resourceVersion := cluster.version + 1 }
                version := cluster.version + 1 })
          else
            (.error (conflicting "services" service.name), cluster) := by
  intro cluster
  dsimp only
  split
  · rfl
  · rename_i stored found
    split
    · rename_i current
      exact @Cluster.view_replace cluster
        { service with resourceVersion := cluster.version + 1 }
        stored _ found current.1
    · rfl

theorem configMapGet_serves :
    Serves .getConfigMap fun cluster =>
      match cluster.configMap with
      | some configMap => (.ok configMap, cluster)
      | none => (.error (notFound "configmaps" configMapNADMapping), cluster) := by
  intro cluster
  dsimp only
  split <;> rfl

end Calls

end HarvesterCloudProvider
