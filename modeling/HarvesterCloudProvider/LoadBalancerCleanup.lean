import HarvesterCloudProvider.SharedDeletion

namespace HarvesterCloudProvider

open Program

/-!
# What cleaning up a service leaves behind

The service controller asks whether a load balancer exists and deletes it only
then.  Existence is judged by an address that a later reconcile copies from the
service, so a load balancer without address survives the cleanup of its
service.  A service that became a secondary is not cleaned up at all, so its
own load balancer is gone only if a reconcile has deleted it before.
-/

variable {l : LoadBalancerManager}
variable {clusterName : String}

section Cleanup

/-- `syncLoadBalancerIfNeeded` of the service controller, the deleting branch. -/
def cleanup
    (clusterName : String)
    (service : Service) :
    Program Session Err Unit := do
  match ← getLoadBalancer clusterName service with
  | none => pure ()
  | some _ => LoadBalancerManager.ensureLoadBalancerDeleted clusterName service

/-- A service that is its own primary looks at its own load balancer. -/
theorem getLoadBalancer_run_of_unset
    {service : Service}
    (unset : service.annotations.lookup keyPrimaryService = none)
    (session : Session) :
    getLoadBalancer clusterName service session =
      (attempt (lbClientGet (service.loadBalancerName clusterName)) >>= fun answer =>
        match answer with
        | .error error => if error.isNotFound then pure none else fail error
        | .ok lb =>
            if lb.status.address = "" then
              pure none
            else
              pure (some service.loadBalancer) :
        Program Session Err (Option LoadBalancerStatus)) session := by
  have named :
      getLoadBalancerName clusterName service session =
        (.ok (service.loadBalancerName clusterName), session) := by
    rw [getLoadBalancerName, attempt_bind_run, getPrimaryService_run_of_unset unset]
    rfl
  exact bind_run_of_ok named

/-- What the existence test says about the stored load balancer. -/
theorem getLoadBalancer_ok
    {service : Service}
    {session final : Session}
    {status : Option LoadBalancerStatus}
    (unset : service.annotations.lookup keyPrimaryService = none)
    (ran : getLoadBalancer clusterName service session = (.ok status, final)) :
    (status = none →
      ∀ lb,
        session.cluster.view.loadBalancers (service.loadBalancerName clusterName) =
          some lb →
        lb.status.address = "") := by
  rw [getLoadBalancer_run_of_unset unset, attempt_bind_run] at ran
  rintro rfl lb stored
  cases got : lbClientGet (service.loadBalancerName clusterName) session with
  | mk answer reached =>
      rw [got] at ran
      obtain ⟨event, _, whenFound, whenMissing⟩ := lbClientGet_answered got
      cases answer with
      | error error =>
          dsimp only at ran
          split at ran
          · rename_i missing
            rw [whenMissing error rfl missing] at stored
            cases stored
          · simp at ran
      | ok found =>
          dsimp only at ran
          obtain ⟨foundStored, _⟩ := whenFound found rfl
          rw [foundStored, Option.some.injEq] at stored
          subst stored
          split at ran
          · rename_i unaddressed
            exact unaddressed
          · simp at ran

/-- Without failures, a load balancer without address is taken as missing. -/
theorem cleanup_run_of_unaddressed
    {service : Service}
    {cluster : Cluster}
    {lb : LoadBalancer}
    (unset : service.annotations.lookup keyPrimaryService = none)
    (stored :
      cluster.loadBalancers.get? (service.loadBalancerName clusterName) = some lb)
    (unaddressed : lb.status.address = "") :
    ∃ final,
      cleanup clusterName service { cluster := cluster, ticks := [] } =
          (.ok (), final) ∧
        final.cluster = cluster := by
  have got :
      ∃ reached,
        lbClientGet (service.loadBalancerName clusterName)
            { cluster := cluster, ticks := [] } = (.ok lb, reached) ∧
          reached.cluster = cluster := by
    refine ⟨_, Prod.ext ?_ rfl, ?_⟩
    · simp [lbClientGet, call, stored]
    · simp [lbClientGet, call, stored]
  obtain ⟨reached, got, same⟩ := got
  refine ⟨reached, ?_, same⟩
  unfold cleanup
  rw [bind_run, getLoadBalancer_run_of_unset unset, attempt_bind_run, got]
  dsimp only
  rw [if_pos unaddressed]
  rfl

/-- A cleanup that succeeds removes a load balancer that has an address. -/
theorem cleanup_absent_of_addressed
    {service : Service}
    {session final : Session}
    (unset : service.annotations.lookup keyPrimaryService = none)
    (addressed :
      ∀ lb,
        session.cluster.view.loadBalancers (service.loadBalancerName clusterName) =
          some lb →
        lb.status.address ≠ "")
    (ran : cleanup clusterName service session = (.ok (), final)) :
    final.cluster.view.loadBalancers (service.loadBalancerName clusterName) = none := by
  obtain ⟨status, reached, looked, rest⟩ := bind_ok.mp ran
  obtain ⟨_, _, _, sameView⟩ :=
    observed_events (getLoadBalancer_observes clusterName service) looked
  cases status with
  | none =>
      simp only [pure_run, Prod.mk.injEq, true_and] at rest
      subst rest
      rw [sameView]
      cases stored :
          session.cluster.view.loadBalancers (service.loadBalancerName clusterName) with
      | none =>
          rfl
      | some lb =>
          exact (addressed lb stored
            (getLoadBalancer_ok unset looked rfl lb stored)).elim
  | some _ =>
      obtain ⟨events, deleting, outcome⟩ := ensureLoadBalancerDeleted_outcome rest
      cases outcome with
      | secondary resolved _ =>
          exact (resolved.annotation_ne_none unset).elim
      | primary _ inner =>
          cases inner with
          | absent _ missing written =>
              rw [deleting.view_eq_of_writes_nil written]
              exact missing
          | deleted _ _ written =>
              rw [deleting.view_eq, written]
              exact Function.update_self _ _ _

/-- A service whose reconcile leaves an address on its load balancer. -/
def Addressed
    (clusterName : String)
    (service : Service)
    (isStored : LBName → Bool) :
    Prop :=
  (service.loadBalancer.ingress = [] →
      isStored (service.loadBalancerName clusterName) = true) ∧
    ∀ first ∈ service.loadBalancer.ingress.head?, first.ip ≠ ""

instance
    (clusterName : String)
    (service : Service)
    (isStored : LBName → Bool) :
    Decidable (Addressed clusterName service isStored) :=
  inferInstanceAs (Decidable (_ ∧ _))

/-- A reconcile of a primary that leaves an address on its load balancer. -/
def AddressedReconcile
    (clusterName : String)
    (system : System)
    (step : Step) :
    Prop :=
  ∀ service ∈ step.inHand,
    service.annotations.lookup keyPrimaryService = none →
    Addressed clusterName service fun name =>
      (system.cluster.loadBalancers.get? name).isSome

instance (clusterName : String) (system : System) (step : Step) :
    Decidable (AddressedReconcile clusterName system step) :=
  inferInstanceAs (Decidable (∀ service ∈ step.inHand, _ → Addressed _ service _))

/-- Every stored load balancer has an address. -/
def View.AllAddressed (view : View) : Prop :=
  ∀ name lb,
    view.loadBalancers name = some lb →
    lb.status.address ≠ ""

/-- The object an addressed reconcile writes has an address. -/
theorem View.AllAddressed.put
    {view : View}
    {service : Service}
    {request : Request}
    (addressed : view.AllAddressed)
    (ingress :
      Addressed clusterName service fun name => (view.loadBalancers name).isSome)
    (written : view.Written l clusterName service request) :
    (request.apply view).AllAddressed := by
  have putting
      {lb : LoadBalancer}
      (hasAddress : lb.status.address ≠ "") :
      View.AllAddressed
        { view with
          loadBalancers :=
            Function.update view.loadBalancers lb.name (some lb.content) } := by
    intro name other stored
    by_cases own : name = lb.name
    · subst own
      simp only [Function.update_self, Option.some.injEq] at stored
      subst stored
      exact hasAddress
    · simp only [Function.update_of_ne own] at stored
      exact addressed name other stored
  cases written with
  | created missing =>
      refine putting ?_
      rw [constructLB_address]
      cases entries : service.loadBalancer.ingress with
      | nil =>
          have present := ingress.1 entries
          dsimp only at present
          rw [missing] at present
          cases present
      | cons first rest =>
          exact ingress.2 first (by rw [entries]; rfl)
  | @updated lb stored sameName =>
      refine putting ?_
      rw [constructLB_address]
      cases entries : service.loadBalancer.ingress with
      | nil =>
          have named : lb.name ≠ [] := LoadBalancer.name_ne_nil sameName
          rw [startingLB_of_named named]
          exact addressed _ lb.content stored
      | cons first rest =>
          exact ingress.2 first (by rw [entries]; rfl)

/-- Deleting load balancers keeps the others addressed. -/
theorem View.AllAddressed.erase
    {view : View}
    (addressed : view.AllAddressed)
    (name : LBName) :
    View.AllAddressed
      { view with loadBalancers := Function.update view.loadBalancers name none } := by
  intro other lb stored
  by_cases same : other = name
  · subst same
    simp at stored
  · simp only [Function.update_of_ne same] at stored
    exact addressed other lb stored

/-- A provider call with an addressed service keeps all addresses. -/
theorem CallWrites.allAddressed
    {service : Service}
    {view : View}
    {requests : List Request}
    (call : CallWrites l clusterName service view requests)
    (ingress :
      service.annotations.lookup keyPrimaryService = none →
      Addressed clusterName service fun name => (view.loadBalancers name).isSome)
    (addressed : view.AllAddressed) :
    View.AllAddressed
      (requests.foldl (fun reached request => request.apply reached) view) := by
  cases call with
  | nothing =>
      exact addressed
  | put unset written =>
      exact addressed.put (ingress unset) written
  | putPublished unset written =>
      exact addressed.put (ingress unset) written
  | withdrawn unset written unshared =>
      exact (addressed.put (ingress unset) written).erase _
  | removed unshared removed =>
      rw [removed.apply_eq]
      exact addressed.erase _
  | removedPublished unshared removed =>
      rw [List.foldl_append, removed.apply_eq]
      exact addressed.erase _

/-- In a run of addressed reconciles every load balancer has an address. -/
theorem allAddressed_of_execution
    {start : Cluster}
    {steps : List Step}
    {system : System}
    (fresh : ∀ name, start.loadBalancers.get? name = none)
    (execution :
      Execution (StepsOf (System.advance l clusterName) (AddressedReconcile clusterName))
        { cluster := start } steps system) :
    system.cluster.view.AllAddressed := by
  refine execution.invariant (fun reached => reached.cluster.view.AllAddressed) ?_ ?_
  · intro name lb stored
    simp [Cluster.view, fresh] at stored
  rintro reached next step earlier ⟨meets, rfl⟩
  rcases advance_cases l clusterName reached step with
    ⟨operation, service, ticks, rfl⟩ | ⟨-, same⟩
  · obtain ⟨_, outcome⟩ :=
      invoke_outcome l clusterName operation service ticks reached.cluster
    have view := invoke_view l clusterName operation service ticks reached.cluster
    dsimp only at view
    unfold System.advance
    dsimp only
    rw [view]
    refine outcome.callWrites.allAddressed (fun unset => ?_) earlier
    have given := meets service rfl unset
    simpa only [Cluster.view, Option.isSome_map] using given
  · intro name lb stored
    rw [same] at stored
    exact earlier name lb stored

/--
In every state, cleaning up a service that is its own primary leaves no load
balancer behind exactly when its load balancer is missing or has an address.
In a run whose reconciles all leave an address, none is ever left behind.
-/
theorem cleanup_leaves_none_iff
    {service : Service}
    (unset : service.annotations.lookup keyPrimaryService = none) :
    (∀ cluster : Cluster,
      (∀ ticks final,
        cleanup clusterName service { cluster := cluster, ticks := ticks } =
          (.ok (), final) →
        final.cluster.loadBalancers.get? (service.loadBalancerName clusterName) =
          none) ↔
      ∀ lb,
        cluster.loadBalancers.get? (service.loadBalancerName clusterName) = some lb →
        lb.status.address ≠ "") ∧
    ∀ (start : Cluster) (steps : List Step) (system : System),
      (∀ name, start.loadBalancers.get? name = none) →
      Execution (StepsOf (System.advance l clusterName) (AddressedReconcile clusterName))
        { cluster := start } steps system →
      ∀ ticks final,
        cleanup clusterName service { cluster := system.cluster, ticks := ticks } =
          (.ok (), final) →
        final.cluster.loadBalancers.get? (service.loadBalancerName clusterName) =
          none := by
  refine ⟨fun cluster => ⟨?_, ?_⟩, ?_⟩
  · intro removes lb stored unaddressed
    obtain ⟨final, ran, same⟩ := cleanup_run_of_unaddressed unset stored unaddressed
    have absent := removes [] final ran
    rw [same, stored] at absent
    cases absent
  · intro addressed ticks final ran
    refine Cluster.view_loadBalancers_eq_none.mp
      (cleanup_absent_of_addressed unset ?_ ran)
    intro content stored
    obtain ⟨lb, found, rfl⟩ := Option.map_eq_some_iff.mp stored
    exact addressed lb found
  · intro start steps system fresh addressedRun ticks final ran
    exact Cluster.view_loadBalancers_eq_none.mp
      (cleanup_absent_of_addressed unset
        (allAddressed_of_execution fresh addressedRun _) ran)

/-- A service gets its load balancer once it has an ingress address. -/
def addressedMoves : List Move :=
  [.create webService,
    .environment (.assignIngress "default/web" [⟨"10.0.0.1"⟩]),
    .call .ensureLoadBalancer "default/web" (allocatingAfter 3 webService "10.0.0.1")]

/-- The state that the addressed script reaches. -/
def addressedEnd : Session :=
  { cluster :=
      (System.play sampleManager "prod" { cluster := {} } addressedMoves).cluster
    ticks := [] }

/-- Once the address is on the load balancer, the cleanup succeeds and is complete. -/
theorem cleanup_complete_after_addressedMoves :
    (cleanup "prod" webService addressedEnd).1.toOption = some () ∧
      (cleanup "prod" webService addressedEnd).2.cluster.loadBalancers.get?
        (webService.loadBalancerName "prod") = none := by
  have checked :
      allAllowed (System.moved sampleManager "prod")
        (Move.Meets (AddressedReconcile "prod")) { cluster := {} } addressedMoves = true := by
    decide +kernel
  have succeeded :
      (cleanup "prod" webService addressedEnd).1.toOption = some () := by
    decide +kernel
  obtain ⟨steps, execution⟩ := play_execution (execution_of_allAllowed checked)
  refine ⟨succeeded, ?_⟩
  cases ran : cleanup "prod" webService addressedEnd with
  | mk result final =>
      rw [ran] at succeeded
      cases result with
      | ok value =>
          exact (cleanup_leaves_none_iff rfl).2 {} steps _ (fun _ => rfl) execution [] final
            ran
      | error failure =>
          cases succeeded

/-- A service gets its load balancer while it has no ingress address yet. -/
def firstReconcile : List Move :=
  [.create webService,
    .call .ensureLoadBalancer "default/web" (allocatingAfter 3 webService "10.0.0.1")]

/-- The first reconcile leaves a load balancer that the cleanup does not see. -/
theorem cleanup_leaks_loadBalancer :
    ¬ ∀ (steps : List Step) (system : System) (service : Service)
        (ticks : List Tick) (final : Session),
        Execution (StepsOf (System.advance sampleManager "prod") InHandIsStored)
          { cluster := {} } steps system →
        service ∈ system.cluster.services →
        service.annotations.lookup keyPrimaryService = none →
        system.cluster.services.labelled (primaryServiceLabelValue service) = [] →
        cleanup "prod" service { cluster := system.cluster, ticks := ticks } =
          (.ok (), final) →
        final.cluster.loadBalancers.get? (service.loadBalancerName "prod") = none := by
  intro complete
  obtain ⟨steps, execution⟩ :=
    @play_execution sampleManager "prod" InHandIsStored { cluster := {} } firstReconcile
      (execution_foldl fun _ move _ _ => move.inHandIsStored _)
  have facts :
      (((System.play sampleManager "prod" { cluster := {} }
          firstReconcile).cluster.services.get? "default/web").map fun service =>
            (service.annotations.lookup keyPrimaryService,
              service.loadBalancerName "prod", primaryServiceLabelValue service)) =
        some (none, webService.loadBalancerName "prod", "default.web") ∧
      (System.play sampleManager "prod" { cluster := {} }
        firstReconcile).cluster.services.labelled "default.web" = [] ∧
      ((System.play sampleManager "prod" { cluster := {} }
        firstReconcile).cluster.loadBalancers.get?
          (webService.loadBalancerName "prod")).map
            (fun lb => lb.status.address) = some "" := by
    rw [← List.isEmpty_iff]
    decide +kernel
  obtain ⟨service, found, same⟩ := Option.map_eq_some_iff.mp facts.1
  obtain ⟨lb, stored, unaddressed⟩ := Option.map_eq_some_iff.mp facts.2.2
  simp only [Prod.mk.injEq] at same
  obtain ⟨unset, sameName, sameLabel⟩ := same
  rw [← sameName] at stored
  obtain ⟨final, ran, kept⟩ := cleanup_run_of_unaddressed unset stored unaddressed
  have absent :=
    complete steps _ service [] final execution
      (ServiceStore.get?_eq_some.mp found).1 unset (sameLabel ▸ facts.2.1) ran
  rw [kept, stored] at absent
  cases absent

end Cleanup

section Conversion

/--
Whether the last reconciles of a service shared another load balancer: since
the provider was last called with the service unannotated, some reconcile of
the service succeeded.
-/
def convertedSince (id : ServiceId) : List Entry → Bool
  | [] => false
  | entry :: older =>
      match entry.step with
      | .invoke operation service _ =>
          if service.id = id then
            if service.annotations.lookup keyPrimaryService = none then
              false
            else
              (operation != .ensureLoadBalancerDeleted && entry.succeeded) ||
                convertedSince id older
          else
            convertedSince id older
      | _ => convertedSince id older

/-- A successful reconcile of an annotated service removes its own load balancer. -/
theorem EnsureOutcome.absent_of_annotated
    {service : Service}
    {view : View}
    {events : List Event}
    (outcome : EnsureOutcome l clusterName service view events true)
    (annotated : service.annotations.lookup keyPrimaryService ≠ none) :
    ((writes events).foldl (fun reached request => request.apply reached)
      view).loadBalancers (service.loadBalancerName clusterName) = none := by
  cases outcome with
  | primary unset _ =>
      exact (annotated unset).elim
  | secondary resolved inner =>
      cases inner with
      | confirmed _ removed _ written =>
          rw [written, removed.apply_eq]
          exact Function.update_self _ _ _
      | published ip _ removed _ written =>
          rw [written, List.foldl_append, removed.apply_eq]
          exact Function.update_self _ _ _

/-- Deleting works for unannotated services and does nothing for the others. -/
theorem EnsureDeletedOutcome.absent_iff
    {service : Service}
    {view : View}
    {events : List Event}
    (outcome : EnsureDeletedOutcome clusterName service view events true) :
    ((writes events).foldl (fun reached request => request.apply reached)
        view).loadBalancers (service.loadBalancerName clusterName) = none ↔
      service.annotations.lookup keyPrimaryService = none ∨
        view.loadBalancers (service.loadBalancerName clusterName) = none := by
  cases outcome with
  | secondary resolved reads =>
      rw [writes_eq_nil_of_reads reads]
      simp [resolved.annotation_ne_none]
  | primary unset inner =>
      refine iff_of_true ?_ (.inl unset)
      cases inner with
      | absent _ missing written =>
          rw [written]
          exact missing
      | deleted _ _ written =>
          rw [written]
          exact Function.update_self _ _ _

/-- A provider call keeps the own load balancer of a converted service away. -/
theorem absent_of_convertedSince_invoke
    {system : System}
    {operation : Operation}
    {service : Service}
    {ticks : List Tick}
    {id : ServiceId}
    (apart :
      service.id ≠ id →
      id.loadBalancerName clusterName ≠ service.loadBalancerName clusterName)
    (earlier :
      convertedSince id system.log = true →
      system.cluster.view.loadBalancers (id.loadBalancerName clusterName) = none) :
    let next := system.advance l clusterName (.invoke operation service ticks)
    convertedSince id next.log = true →
      next.cluster.view.loadBalancers (id.loadBalancerName clusterName) = none := by
  intro next converted
  obtain ⟨_, outcome⟩ :=
    invoke_outcome l clusterName operation service ticks system.cluster
  have view : next.cluster.view = _ :=
    invoke_view l clusterName operation service ticks system.cluster
  rw [view]
  unfold next System.advance convertedSince at converted
  rw [perform_step] at converted
  dsimp only at converted
  split at converted
  · rename_i sameId
    have ownName :
        id.loadBalancerName clusterName = service.loadBalancerName clusterName := by
      rw [← sameId]
      rfl
    rw [ownName] at earlier ⊢
    split at converted
    · cases converted
    · rename_i annotated
      rcases Bool.or_eq_true_iff.mp converted with justNow | before
      · obtain ⟨isReconcile, succeeded⟩ := Bool.and_eq_true_iff.mp justNow
        rw [succeeded] at outcome
        cases operation with
        | ensureLoadBalancer =>
            exact EnsureOutcome.absent_of_annotated outcome annotated
        | updateLoadBalancer =>
            exact EnsureOutcome.absent_of_annotated outcome annotated
        | ensureLoadBalancerDeleted =>
            cases isReconcile
      · exact outcome.callWrites.absent_of_annotated annotated (earlier before)
  · rename_i otherId
    rw [outcome.callWrites.loadBalancers_of_ne (apart otherId)]
    exact earlier converted

/-- Only provider calls decide whether a service counts as converted. -/
theorem convertedSince_of_inHand_none
    {step : Step}
    (noCall : step.inHand = none)
    (cluster : Cluster)
    (log : List Entry)
    (id : ServiceId) :
    convertedSince id (step.perform l clusterName cluster :: log) =
      convertedSince id log := by
  cases step with
  | invoke operation service ticks =>
      cases noCall
  | _ =>
      rfl

/-- A converted service has no own load balancer, whatever else happens. -/
theorem absent_of_convertedSince
    {known : Set ServiceId}
    {start : Cluster}
    {steps : List Step}
    {system : System}
    {id : ServiceId}
    (distinct :
      Set.InjOn (fun id : ServiceId => id.loadBalancerName clusterName) known)
    (execution :
      Execution (StepsOf (System.advance l clusterName) (InvokesKnown known))
        { cluster := start } steps system)
    (idKnown : id ∈ known)
    (converted : convertedSince id system.log = true) :
    system.cluster.view.loadBalancers (id.loadBalancerName clusterName) = none := by
  refine execution.invariant
    (fun reached =>
      convertedSince id reached.log = true →
        reached.cluster.view.loadBalancers (id.loadBalancerName clusterName) = none)
    (by simp [convertedSince]) ?_ converted
  rintro reached next step earlier ⟨invokesKnown, rfl⟩
  rcases advance_cases l clusterName reached step with
    ⟨operation, service, ticks, rfl⟩ | ⟨noCall, same⟩
  · refine absent_of_convertedSince_invoke (fun otherId sameName => ?_) earlier
    exact otherId (distinct (invokesKnown service rfl) idKnown sameName.symm)
  · intro nowConverted
    unfold System.advance at nowConverted
    rw [convertedSince_of_inHand_none noCall] at nowConverted
    rw [same]
    exact earlier nowConverted

/--
In every run, a deletion that succeeds leaves no own load balancer behind
exactly when the service is unannotated or its load balancer was gone before;
and it is gone from the first successful reconcile as a secondary on, until
the provider is called with the service unannotated again.
-/
theorem ensureLoadBalancerDeleted_absent_iff
    {known : Set ServiceId}
    {start : Cluster}
    {steps : List Step}
    {system : System}
    (distinct :
      Set.InjOn (fun id : ServiceId => id.loadBalancerName clusterName) known)
    (execution :
      Execution (StepsOf (System.advance l clusterName) (InvokesKnown known))
        { cluster := start } steps system) :
    (∀ entry ∈ system.log, ∀ service ticks,
      entry.step = .invoke .ensureLoadBalancerDeleted service ticks →
      entry.succeeded = true →
      (entry.after.loadBalancers.get? (service.loadBalancerName clusterName) = none ↔
        service.annotations.lookup keyPrimaryService = none ∨
          entry.before.loadBalancers.get? (service.loadBalancerName clusterName) =
            none)) ∧
    ∀ id ∈ known,
      convertedSince id system.log = true →
      system.cluster.loadBalancers.get? (id.loadBalancerName clusterName) = none := by
  constructor
  · intro entry logged service ticks called succeeded
    obtain ⟨reached, step, _, rfl⟩ := performed_of_logged execution logged
    rw [perform_step] at called
    subst called
    obtain ⟨_, outcome⟩ :=
      invoke_outcome l clusterName .ensureLoadBalancerDeleted service ticks
        reached.cluster
    have view :=
      invoke_view l clusterName .ensureLoadBalancerDeleted service ticks reached.cluster
    dsimp only at view
    rw [succeeded] at outcome
    have absentIff := EnsureDeletedOutcome.absent_iff outcome
    rw [← view, Cluster.view_loadBalancers_eq_none,
      Cluster.view_loadBalancers_eq_none] at absentIff
    rw [perform_before]
    exact absentIff
  · intro id idKnown converted
    exact Cluster.view_loadBalancers_eq_none.mp
      (absent_of_convertedSince distinct execution idKnown converted)

/-- A service with an own load balancer becomes a secondary and is reconciled. -/
def conversionMoves : List Move :=
  [.create webService,
    .environment (.assignIngress "default/web" [⟨"10.0.0.1"⟩]),
    .create { apiService with annotations := none },
    .call .ensureLoadBalancer "default/api" (allocatingAfter 3 apiService "10.0.0.2"),
    .edit "default/api"
      { annotations := apiService.annotations
        labels := none
        serviceType := .loadBalancer
        ports := apiService.ports },
    .call .ensureLoadBalancer "default/api" []]

/-- A successful conversion leaves no own load balancer behind. -/
theorem conversionMoves_absent :
    convertedSince apiService.id
        (System.play sampleManager "prod" { cluster := {} } conversionMoves).log =
          true ∧
      (System.play sampleManager "prod" { cluster := {} }
        conversionMoves).cluster.loadBalancers.get?
          (apiService.id.loadBalancerName "prod") = none := by
  have checked :
      allAllowed (System.moved sampleManager "prod")
          (Move.Meets (InvokesKnown {id | id ∈ [webService.id, apiService.id]}))
          { cluster := {} } conversionMoves = true ∧
        convertedSince apiService.id
          (System.play sampleManager "prod" { cluster := {} } conversionMoves).log =
            true := by
    decide +kernel
  have distinct :
      Set.InjOn (fun id : ServiceId => id.loadBalancerName "prod")
        {id | id ∈ [webService.id, apiService.id]} := by
    have namesDiffer :
        webService.id.loadBalancerName "prod" ≠ apiService.id.loadBalancerName "prod" := by
      decide +kernel
    intro first firstKnown second secondKnown same
    rcases List.mem_pair.mp firstKnown with rfl | rfl <;>
      rcases List.mem_pair.mp secondKnown with rfl | rfl
    · rfl
    · exact (namesDiffer same).elim
    · exact (namesDiffer same.symm).elim
    · rfl
  obtain ⟨steps, execution⟩ := play_execution (execution_of_allAllowed checked.1)
  exact ⟨checked.2,
    (ensureLoadBalancerDeleted_absent_iff distinct execution).2 apiService.id
      (by simp) checked.2⟩

/-- A primary without ingress address, and a second service. -/
def twoServices : List Move :=
  [.create webService, .create { apiService with annotations := none }]

/-- The second service gets its own load balancer. -/
def ownReconcile : Move :=
  .call .ensureLoadBalancer "default/api" (allocatingAfter 3 apiService "10.0.0.2")

/-- It names the first service, and the reconcile is refused. -/
def refusedConversion : List Move :=
  [.edit "default/api"
    { annotations := apiService.annotations
      labels := none
      serviceType := .loadBalancer
      ports := apiService.ports },
    .call .ensureLoadBalancer "default/api" []]

/-- The state before the own reconcile. -/
def beforeOwn : System :=
  System.play sampleManager "prod" { cluster := {} } twoServices

/-- The state before the deletion. -/
def beforeDeletion : System :=
  beforeOwn.play sampleManager "prod" (ownReconcile :: refusedConversion)

/-- The refused conversion and the deletion leave the load balancer behind. -/
theorem ensureLoadBalancerDeleted_leaks_own :
    ¬ ∀ (steps : List Step) (system : System) (created deleted : Entry)
        (between older : List Entry) (before service : Service)
        (ticks laterTicks : List Tick),
        Execution (StepsOf (System.advance sampleManager "prod") InHandIsStored)
          { cluster := {} } steps system →
        system.log = deleted :: (between ++ created :: older) →
        created.step = .invoke .ensureLoadBalancer before ticks →
        before.id = service.id →
        before.annotations.lookup keyPrimaryService = none →
        (created.after.loadBalancers.get?
          (service.loadBalancerName "prod")).isSome = true →
        deleted.step = .invoke .ensureLoadBalancerDeleted service laterTicks →
        (service.annotations.lookup keyPrimaryService).isSome = true →
        deleted.succeeded = true →
        deleted.after.loadBalancers.get? (service.loadBalancerName "prod") = none := by
  intro always
  let deletion : Move := .call .ensureLoadBalancerDeleted "default/api" []
  obtain ⟨steps, execution⟩ :=
    @play_execution sampleManager "prod" InHandIsStored { cluster := {} }
      (twoServices ++ (ownReconcile :: refusedConversion ++ [deletion]))
      (execution_foldl fun _ move _ _ => move.inHandIsStored _)
  rw [System.play_append, System.play_append] at execution
  have facts :
      ((beforeOwn.cluster.services.get? "default/api").map fun service =>
          (service.id, service.annotations.lookup keyPrimaryService)) =
        some (apiService.id, none) ∧
      ((beforeOwn.entryOf sampleManager "prod" ownReconcile).after.loadBalancers.get?
        (apiService.id.loadBalancerName "prod")).isSome = true ∧
      ((beforeDeletion.cluster.services.get? "default/api").map fun service =>
          (service.id, (service.annotations.lookup keyPrimaryService).isSome)) =
        some (apiService.id, true) ∧
      (beforeDeletion.entryOf sampleManager "prod" deletion).succeeded = true ∧
      ((beforeDeletion.entryOf sampleManager "prod" deletion).after.loadBalancers.get?
        (apiService.id.loadBalancerName "prod")).isSome = true := by
    decide +kernel
  obtain ⟨firstFacts, created, secondFacts, succeeded, leftover⟩ := facts
  obtain ⟨first, firstFound, firstSame⟩ := Option.map_eq_some_iff.mp firstFacts
  obtain ⟨second, secondFound, secondSame⟩ := Option.map_eq_some_iff.mp secondFacts
  obtain ⟨firstId, firstUnset⟩ := Prod.mk.inj firstSame
  obtain ⟨secondId, secondSet⟩ := Prod.mk.inj secondSame
  have name : second.loadBalancerName "prod" = apiService.id.loadBalancerName "prod" := by
    rw [Service.loadBalancerName, secondId]
  obtain ⟨between, logged⟩ :=
    System.log_play sampleManager "prod"
      (beforeOwn.play sampleManager "prod" [ownReconcile]) refusedConversion
  rw [System.log_play_singleton, ← System.play_cons] at logged
  have absent :=
    always steps (beforeDeletion.play sampleManager "prod" [deletion])
      (beforeOwn.entryOf sampleManager "prod" ownReconcile)
      (beforeDeletion.entryOf sampleManager "prod" deletion)
      between beforeOwn.log first second _ _ execution
      (by rw [System.log_play_singleton, beforeDeletion, logged])
      (System.entryOf_call_step firstFound)
      (firstId.trans secondId.symm) firstUnset (by rw [name]; exact created)
      (System.entryOf_call_step secondFound) secondSet succeeded
  rw [name] at absent
  rw [absent] at leftover
  cases leftover

end Conversion

end HarvesterCloudProvider
