import HarvesterCloudProvider.LoadBalancerOutcome
import HarvesterCloudProvider.StepSystem

namespace HarvesterCloudProvider

open Program

/-!
# Serial runs of the provider

A run interleaves users, the other controllers and the service controller,
which calls one provider operation at a time.  Every step leaves an entry in
the log of the run: the clusters before and after it, the requests of the
operation and whether it succeeded.
-/

/-- The operations the service controller calls. -/
inductive Operation where
  | ensureLoadBalancer
  | updateLoadBalancer
  | ensureLoadBalancerDeleted
  deriving Repr, DecidableEq

/-- What a user sets on an existing service. -/
structure UserEdit where
  annotations : StringMap
  labels : StringMap
  serviceType : ServiceType
  ports : List ServicePort

/-- One step of a run. -/
inductive Step where
  /-- A user creates a service. -/
  | create (service : Service)
  /-- A user changes a service. -/
  | edit (key : String) (change : UserEdit)
  /-- A service goes away. -/
  | remove (key : String)
  /-- Another controller acts. -/
  | environment (action : EnvironmentAction)
  /-- The service controller calls the provider with a service in hand. -/
  | invoke (operation : Operation) (service : Service) (ticks : List Tick)

/-- What one step did. -/
structure Entry where
  step : Step
  before : Cluster
  events : List Event
  succeeded : Bool
  after : Cluster

/-- The stored objects and the entries of all steps so far, newest first. -/
structure System where
  cluster : Cluster
  log : List Entry := []

/-- The provider operation behind a call of the service controller. -/
def Operation.run
    (l : LoadBalancerManager)
    (clusterName : String)
    (operation : Operation)
    (service : Service) :
    Program Session Err Unit :=
  match operation with
  | .ensureLoadBalancer => do
      let _ ← l.ensureLoadBalancer clusterName service
      pure ()
  | .updateLoadBalancer => l.updateLoadBalancer clusterName service
  | .ensureLoadBalancerDeleted =>
      LoadBalancerManager.ensureLoadBalancerDeleted clusterName service

namespace Cluster

/-- A new service enters with an empty status. -/
def create (cluster : Cluster) (service : Service) : Cluster :=
  { cluster with
    services := cluster.services.insert
      { service with
        resourceVersion := cluster.version + 1
        loadBalancer := {} }
    version := cluster.version + 1 }

/-- A user changes a stored service; its identity and status stay. -/
def edit (cluster : Cluster) (key : String) (change : UserEdit) : Cluster :=
  match cluster.services.get? key with
  | none => cluster
  | some service =>
      { cluster with
        services := cluster.services.replace
          { service with
            annotations := change.annotations
            labels := change.labels
            serviceType := change.serviceType
            ports := change.ports
            resourceVersion := cluster.version + 1 }
        version := cluster.version + 1 }

/-- A service goes away. -/
def remove (cluster : Cluster) (key : String) : Cluster :=
  { cluster with services := cluster.services.erase key }

end Cluster

/-- What a step does to the cluster, as an entry of the log. -/
def Step.perform
    (l : LoadBalancerManager)
    (clusterName : String)
    (step : Step)
    (cluster : Cluster) :
    Entry :=
  match step with
  | .create service =>
      { step := step
        before := cluster
        events := []
        succeeded := true
        after := cluster.create service }
  | .edit key change =>
      { step := step
        before := cluster
        events := []
        succeeded := true
        after := cluster.edit key change }
  | .remove key =>
      { step := step
        before := cluster
        events := []
        succeeded := true
        after := cluster.remove key }
  | .environment action =>
      { step := step
        before := cluster
        events := []
        succeeded := true
        after := cluster.react action }
  | .invoke operation service ticks =>
      let ran :=
        operation.run l clusterName service { cluster := cluster, ticks := ticks }
      { step := step
        before := cluster
        events := ran.2.events
        succeeded := ran.1.isOk
        after := ran.2.cluster }

/-- The system after one step. -/
def System.advance
    (l : LoadBalancerManager)
    (clusterName : String)
    (system : System)
    (step : Step) :
    System :=
  let entry := step.perform l clusterName system.cluster
  { cluster := entry.after
    log := entry :: system.log }

/-- The service in hand of a provider call. -/
def Step.inHand : Step → Option Service
  | .invoke _ service _ => some service
  | _ => none

/-- The provider is called with the stored service. -/
def InHandIsStored (system : System) (step : Step) : Prop :=
  ∀ service ∈ step.inHand, service ∈ system.cluster.services

section Entries

variable {l : LoadBalancerManager}
variable {clusterName : String}

/-- How a call of the service controller can end. -/
def Operation.Outcome
    (l : LoadBalancerManager)
    (clusterName : String)
    (operation : Operation)
    (service : Service)
    (view : View)
    (events : List Event)
    (succeeded : Bool) :
    Prop :=
  match operation with
  | .ensureLoadBalancer => EnsureOutcome l clusterName service view events succeeded
  | .updateLoadBalancer => EnsureOutcome l clusterName service view events succeeded
  | .ensureLoadBalancerDeleted =>
      EnsureDeletedOutcome clusterName service view events succeeded

theorem Operation.run_outcome
    {operation : Operation}
    {service : Service}
    {session final : Session}
    {answer : Except Err Unit}
    (ran : operation.run l clusterName service session = (answer, final)) :
    ∃ events,
      Ran session events final ∧
        operation.Outcome l clusterName service session.cluster.view events
          answer.isOk := by
  cases operation with
  | ensureLoadBalancer =>
      rcases bind_cases ran with ⟨error, ensured, rfl⟩ | ⟨_, reached, ensured, ran⟩
      · exact ensureLoadBalancer_outcome ensured
      · simp only [pure_run, Prod.mk.injEq] at ran
        obtain ⟨rfl, rfl⟩ := ran
        exact ensureLoadBalancer_outcome ensured
  | updateLoadBalancer =>
      exact updateLoadBalancer_outcome ran
  | ensureLoadBalancerDeleted =>
      exact ensureLoadBalancerDeleted_outcome ran

/-- The committed writes of one provider call, whatever the operation. -/
inductive CallWrites
    (l : LoadBalancerManager)
    (clusterName : String)
    (service : Service)
    (view : View) :
    List Request → Prop where
  | nothing :
      CallWrites l clusterName service view []
  | put
      {request : Request}
      (unset : service.annotations.lookup keyPrimaryService = none)
      (written : view.Written l clusterName service request) :
      CallWrites l clusterName service view [request]
  | withdrawn
      {request : Request}
      (unset : service.annotations.lookup keyPrimaryService = none)
      (written : view.Written l clusterName service request)
      (unshared : ¬ view.Shared (primaryServiceLabelValue service)) :
      CallWrites l clusterName service view
        [request, .deleteLoadBalancer (service.loadBalancerName clusterName)]
  | putPublished
      {request : Request}
      {updated : Service}
      (unset : service.annotations.lookup keyPrimaryService = none)
      (written : view.Written l clusterName service request) :
      CallWrites l clusterName service view [request, .updateService updated]
  | removed
      {removal : List Request}
      (unshared : ¬ view.Shared (primaryServiceLabelValue service))
      (removed : view.Removed clusterName service removal) :
      CallWrites l clusterName service view removal
  | removedPublished
      {removal : List Request}
      {updated : Service}
      (unshared : ¬ view.Shared (primaryServiceLabelValue service))
      (removed : view.Removed clusterName service removal) :
      CallWrites l clusterName service view (removal ++ [.updateService updated])

theorem EnsureOutcome.callWrites
    {service : Service}
    {view : View}
    {events : List Event}
    {succeeded : Bool}
    (outcome : EnsureOutcome l clusterName service view events succeeded) :
    CallWrites l clusterName service view (writes events) := by
  cases outcome with
  | refused reads =>
      rw [writes_eq_nil_of_reads reads]
      exact .nothing
  | primary unset inner =>
      cases inner with
      | refused reads =>
          rw [writes_eq_nil_of_reads reads]
          exact .nothing
      | unwritten _ written =>
          rw [written]
          exact .nothing
      | kept _ put _ written =>
          rw [written]
          exact .put unset put
      | withdrawn _ put unshared written =>
          rw [written]
          exact .withdrawn unset put unshared
      | confirmed _ put _ written =>
          rw [written]
          exact .put unset put
      | published iface ip _ put _ written =>
          rw [written]
          exact .putPublished unset put
  | secondary resolved inner =>
      cases inner with
      | refused reads =>
          rw [writes_eq_nil_of_reads reads]
          exact .nothing
      | blocked _ written =>
          rw [written]
          exact .nothing
      | detached accepted removed written =>
          rw [written]
          exact .removed accepted.unshared removed
      | confirmed accepted removed _ written =>
          rw [written]
          exact .removed accepted.unshared removed
      | published ip accepted removed _ written =>
          rw [written]
          exact .removedPublished accepted.unshared removed

theorem EnsureDeletedOutcome.callWrites
    {service : Service}
    {view : View}
    {events : List Event}
    {succeeded : Bool}
    (outcome : EnsureDeletedOutcome clusterName service view events succeeded) :
    CallWrites l clusterName service view (writes events) := by
  cases outcome with
  | unresolved _ reads =>
      rw [writes_eq_nil_of_reads reads]
      exact .nothing
  | secondary _ reads =>
      rw [writes_eq_nil_of_reads reads]
      exact .nothing
  | primary _ inner =>
      cases inner with
      | absent _ _ written =>
          rw [written]
          exact .nothing
      | refused _ written =>
          rw [written]
          exact .nothing
      | deleted unshared present written =>
          rw [written]
          exact .removed unshared (.deleted present)

theorem Operation.Outcome.callWrites
    {operation : Operation}
    {service : Service}
    {view : View}
    {events : List Event}
    {succeeded : Bool}
    (outcome : operation.Outcome l clusterName service view events succeeded) :
    CallWrites l clusterName service view (writes events) := by
  cases operation with
  | ensureLoadBalancer =>
      exact EnsureOutcome.callWrites outcome
  | updateLoadBalancer =>
      exact EnsureOutcome.callWrites outcome
  | ensureLoadBalancerDeleted =>
      exact EnsureDeletedOutcome.callWrites outcome

/-- A provider call touches no load balancer but the own one of the service. -/
theorem CallWrites.loadBalancers_of_ne
    {service : Service}
    {view : View}
    {requests : List Request}
    (call : CallWrites l clusterName service view requests)
    {name : LBName}
    (different : name ≠ service.loadBalancerName clusterName) :
    (requests.foldl (fun reached request => request.apply reached) view).loadBalancers
        name =
      view.loadBalancers name := by
  have afterPut
      {request : Request}
      (written : view.Written l clusterName service request) :
      (request.apply view).loadBalancers name = view.loadBalancers name := by
    obtain ⟨lb, applied⟩ := written.apply_eq
    rw [applied]
    exact Function.update_of_ne different _ _
  have afterRemoval
      {removal : List Request}
      (removed : view.Removed clusterName service removal) :
      (removal.foldl (fun reached request => request.apply reached)
        view).loadBalancers name = view.loadBalancers name := by
    rw [removed.apply_eq]
    exact Function.update_of_ne different _ _
  cases call with
  | nothing =>
      rfl
  | put unset written =>
      exact afterPut written
  | putPublished unset written =>
      exact afterPut written
  | withdrawn unset written unshared =>
      exact (Function.update_of_ne different _ _).trans (afterPut written)
  | removed unshared removed =>
      exact afterRemoval removed
  | removedPublished unshared removed =>
      rw [List.foldl_append]
      exact afterRemoval removed

/-- A call for an annotated service never brings its own load balancer back. -/
theorem CallWrites.absent_of_annotated
    {service : Service}
    {view : View}
    {requests : List Request}
    (call : CallWrites l clusterName service view requests)
    (annotated : service.annotations.lookup keyPrimaryService ≠ none)
    (absent : view.loadBalancers (service.loadBalancerName clusterName) = none) :
    (requests.foldl (fun reached request => request.apply reached) view).loadBalancers
      (service.loadBalancerName clusterName) = none := by
  cases call with
  | nothing =>
      exact absent
  | put unset _ =>
      exact (annotated unset).elim
  | putPublished unset _ =>
      exact (annotated unset).elim
  | withdrawn unset _ _ =>
      exact (annotated unset).elim
  | removed unshared removed =>
      rw [removed.apply_eq]
      exact Function.update_self _ _ _
  | removedPublished unshared removed =>
      rw [List.foldl_append, removed.apply_eq]
      exact Function.update_self _ _ _

/-- What an entry of a provider call says. -/
theorem invoke_outcome
    (l : LoadBalancerManager)
    (clusterName : String)
    (operation : Operation)
    (service : Service)
    (ticks : List Tick)
    (cluster : Cluster) :
    let entry :=
      (Step.invoke operation service ticks).perform l clusterName cluster
    Replays cluster.view entry.events entry.after.view ∧
      operation.Outcome l clusterName service cluster.view entry.events
        entry.succeeded := by
  obtain ⟨events, ran, outcome⟩ :=
    @Operation.run_outcome l clusterName operation service
      { cluster := cluster, ticks := ticks } _ _ (Prod.eta _).symm
  have recorded := ran.recorded
  simp only [List.nil_append] at recorded
  refine ⟨?_, ?_⟩
  · have replayed := ran.replayed
    rw [← recorded] at replayed
    exact replayed
  · rw [← recorded] at outcome
    exact outcome

/-- A provider call moves the view by its committed writes. -/
theorem invoke_view
    (l : LoadBalancerManager)
    (clusterName : String)
    (operation : Operation)
    (service : Service)
    (ticks : List Tick)
    (cluster : Cluster) :
    let entry :=
      (Step.invoke operation service ticks).perform l clusterName cluster
    entry.after.view =
      (writes entry.events).foldl (fun view request => request.apply view)
        cluster.view :=
  (invoke_outcome l clusterName operation service ticks cluster).1.final_eq

/-- A step calls the provider or leaves the load balancers alone. -/
theorem advance_cases
    (l : LoadBalancerManager)
    (clusterName : String)
    (system : System)
    (step : Step) :
    (∃ operation service ticks, step = .invoke operation service ticks) ∨
      step.inHand = none ∧
        (system.advance l clusterName step).cluster.view.loadBalancers =
          system.cluster.view.loadBalancers := by
  cases step with
  | invoke operation service ticks =>
      exact .inl ⟨operation, service, ticks, rfl⟩
  | create service =>
      exact .inr ⟨rfl, rfl⟩
  | edit key change =>
      refine .inr ⟨rfl, ?_⟩
      simp only [System.advance, Step.perform, Cluster.edit]
      split <;> rfl
  | remove key =>
      exact .inr ⟨rfl, rfl⟩
  | environment action =>
      exact .inr ⟨rfl, congrArg View.loadBalancers (Cluster.view_react system.cluster action)⟩

/-- Every entry of the log was made by its step in a reached state. -/
theorem performed_of_logged
    {condition : System → Step → Prop}
    {start : Cluster}
    {steps : List Step}
    {system : System}
    (execution :
      Execution (StepsOf (System.advance l clusterName) condition) { cluster := start } steps
        system)
    {entry : Entry}
    (logged : entry ∈ system.log) :
    ∃ reached step,
      condition reached step ∧
        entry = step.perform l clusterName reached.cluster := by
  have every :=
    execution.invariant
      (fun reached =>
        ∀ entry ∈ reached.log,
          ∃ earlier step,
            condition earlier step ∧
              entry = step.perform l clusterName earlier.cluster)
      (by simp) ?_
  · exact every entry logged
  rintro reached next step earlier ⟨meets, rfl⟩ entry logged
  rcases List.mem_cons.mp logged with rfl | older
  · exact ⟨reached, step, meets, rfl⟩
  · exact earlier entry older

@[simp] theorem perform_step (step : Step) (cluster : Cluster) :
    (step.perform l clusterName cluster).step = step := by
  cases step <;> rfl

@[simp] theorem perform_before (step : Step) (cluster : Cluster) :
    (step.perform l clusterName cluster).before = cluster := by
  cases step <;> rfl

end Entries

section Scripts

/-- A step of a run whose service in hand is looked up when it is taken. -/
inductive Move where
  | create (service : Service)
  | edit (key : String) (change : UserEdit)
  | environment (action : EnvironmentAction)
  | call (operation : Operation) (key : String) (ticks : List Tick)

/-- The step of a move in a cluster; a call of a missing service does nothing. -/
def Move.step (cluster : Cluster) : Move → Step
  | .create service => .create service
  | .edit key change => .edit key change
  | .environment action => .environment action
  | .call operation key ticks =>
      match cluster.services.get? key with
      | some service => .invoke operation service ticks
      | none => .remove key

/-- The entry of the next move. -/
def System.entryOf
    (l : LoadBalancerManager)
    (clusterName : String)
    (system : System)
    (move : Move) :
    Entry :=
  (move.step system.cluster).perform l clusterName system.cluster

/-- The system after one move. -/
def System.moved
    (l : LoadBalancerManager)
    (clusterName : String)
    (system : System)
    (move : Move) :
    System :=
  system.advance l clusterName (move.step system.cluster)

/-- Take moves one after the other. -/
def System.play
    (l : LoadBalancerManager)
    (clusterName : String)
    (system : System)
    (moves : List Move) :
    System :=
  moves.foldl (System.moved l clusterName) system

theorem System.play_append
    (l : LoadBalancerManager)
    (clusterName : String)
    (system : System)
    (first second : List Move) :
    system.play l clusterName (first ++ second) =
      (system.play l clusterName first).play l clusterName second :=
  List.foldl_append

theorem System.play_cons
    (l : LoadBalancerManager)
    (clusterName : String)
    (system : System)
    (move : Move)
    (rest : List Move) :
    system.play l clusterName (move :: rest) =
      (system.play l clusterName [move]).play l clusterName rest :=
  rfl

theorem System.log_play_singleton
    (l : LoadBalancerManager)
    (clusterName : String)
    (system : System)
    (move : Move) :
    (system.play l clusterName [move]).log =
      system.entryOf l clusterName move :: system.log :=
  rfl

/-- Later moves only add to the log. -/
theorem System.log_play
    (l : LoadBalancerManager)
    (clusterName : String)
    (system : System)
    (moves : List Move) :
    ∃ newer, (system.play l clusterName moves).log = newer ++ system.log := by
  induction moves generalizing system with
  | nil =>
      exact ⟨[], rfl⟩
  | cons move rest inductionHypothesis =>
      obtain ⟨newer, later⟩ :=
        inductionHypothesis (system.moved l clusterName move)
      refine ⟨newer ++ [system.entryOf l clusterName move], ?_⟩
      rw [List.append_assoc]
      exact later

/-- The step behind the entry of a call. -/
theorem System.entryOf_call_step
    {l : LoadBalancerManager}
    {clusterName : String}
    {system : System}
    {operation : Operation}
    {key : String}
    {ticks : List Tick}
    {service : Service}
    (found : system.cluster.services.get? key = some service) :
    (system.entryOf l clusterName (.call operation key ticks)).step =
      .invoke operation service ticks := by
  rw [System.entryOf, perform_step]
  simp [Move.step, found]

/-- Moves call the provider with stored services. -/
theorem Move.inHandIsStored (move : Move) (system : System) :
    InHandIsStored system (move.step system.cluster) := by
  intro service inHand
  cases move with
  | call operation key ticks =>
      cases found : system.cluster.services.get? key with
      | none =>
          simp [Move.step, found, Step.inHand] at inHand
      | some stored =>
          simp only [Move.step, found, Step.inHand, Option.mem_some_iff] at inHand
          subst inHand
          exact (ServiceStore.get?_eq_some.mp found).1
  | _ =>
      cases inHand

/-- A condition on the step that a move stands for. -/
def Move.Meets (condition : System → Step → Prop) (system : System) (move : Move) : Prop :=
  condition system (move.step system.cluster)

instance
    (condition : System → Step → Prop)
    [∀ system step, Decidable (condition system step)]
    (system : System)
    (move : Move) :
    Decidable (move.Meets condition system) :=
  inferInstanceAs (Decidable (condition _ _))

/-- Playing moves whose steps meet a condition is a run. -/
theorem play_execution
    {l : LoadBalancerManager}
    {clusterName : String}
    {condition : System → Step → Prop}
    {start : System}
    {moves : List Move}
    (execution :
      Execution (StepsOf (System.moved l clusterName) (Move.Meets condition)) start moves
        (start.play l clusterName moves)) :
    ∃ steps,
      Execution (StepsOf (System.advance l clusterName) condition) start steps
        (start.play l clusterName moves) :=
  @Execution.translated _ _ (System.advance l clusterName) condition _
    (fun (system : System) (move : Move) => move.step system.cluster) _ _ _ execution

/-- The manager of the concrete runs below. -/
def sampleManager : LoadBalancerManager where
  ns := "default"

/-- A service without annotations. -/
def webService : Service where
  ns := "default"
  name := "web"
  uid := "1"
  ports := [⟨80⟩]

/-- A service that asks for a network. -/
def netService (network : String) : Service :=
  { webService with annotations := NilableMap.write none keyNetwork network }

/-- A service that shares the load balancer of `webService`. -/
def apiService : Service where
  ns := "default"
  name := "api"
  uid := "2"
  annotations := NilableMap.write none keyPrimaryService "default/web"
  ports := [⟨81⟩]

/-- Ticks in which an address is allocated after some number of requests. -/
def allocatingAfter (requests : Nat) (service : Service) (ip : String) : List Tick :=
  List.replicate requests ({} : Tick) ++
    [{ environment :=
        [.allocate (service.loadBalancerName "prod") { ip := ip } []] }]

end Scripts

end HarvesterCloudProvider
