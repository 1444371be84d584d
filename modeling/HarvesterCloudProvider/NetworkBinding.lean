import HarvesterCloudProvider.LoadBalancerRun

namespace HarvesterCloudProvider

/-!
# The network of a load balancer and of its services

The network of a load balancer is taken from its primary service when the load
balancer is created, and stays until it is deleted.  A secondary service is
checked against this network, but the network it is given comes from the
current annotation of the primary, so the two agree under a condition only.
-/

variable {l : LoadBalancerManager}
variable {clusterName : String}

section Fixed

/-- The recorded and the requested network of a stored load balancer. -/
def View.networks (view : View) (name : LBName) : Option (String × String) :=
  (view.loadBalancers name).map fun lb =>
    (lb.recordedNetwork, lb.requestedNetwork)

/-- Follow the creation and the deletion of one load balancer. -/
def trackNetwork
    (name : LBName)
    (network : String)
    (tracked : Option String) :
    Request → Option String
  | .createLoadBalancer lb => if lb.name = name then some network else tracked
  | .deleteLoadBalancer deleted => if deleted = name then none else tracked
  | _ => tracked

/--
The network that the service in hand asked for when the load balancer of this
name was created, if it was created and not deleted since.
-/
def networkAtCreation (name : LBName) : List Entry → Option String
  | [] => none
  | entry :: older =>
      match entry.step.inHand with
      | some service =>
          (writes entry.events).foldl (trackNetwork name service.network)
            (networkAtCreation name older)
      | none => networkAtCreation name older

/-- Both networks of a load balancer are the tracked one. -/
def View.Tracks (view : View) (name : LBName) (tracked : Option String) : Prop :=
  view.networks name = tracked.map fun network => (network, network)

/-- Writing the own load balancer sets its networks at creation only. -/
theorem View.Written.tracks
    {view : View}
    {service : Service}
    {request : Request}
    {name : LBName}
    {tracked : Option String}
    (written : view.Written l clusterName service request)
    (tracks : view.Tracks name tracked) :
    (request.apply view).Tracks name
      (trackNetwork name service.network tracked request) := by
  cases written with
  | created missing =>
      obtain ⟨recorded, requested⟩ :=
        constructLB_network_of_none l service
          (service.loadBalancerName clusterName) clusterName
      by_cases own : service.loadBalancerName clusterName = name
      · subst own
        simp [View.Tracks, View.networks, Request.apply, trackNetwork,
          constructLB_name_of_none, recorded, requested]
      · simpa [View.Tracks, View.networks, Request.apply, trackNetwork,
          constructLB_name_of_none, own, Function.update_of_ne (Ne.symm own)]
          using tracks
  | @updated lb stored sameName =>
      have named : lb.name ≠ [] := LoadBalancer.name_ne_nil sameName
      obtain ⟨recorded, requested⟩ :=
        @constructLB_network_of_some l service
          (service.loadBalancerName clusterName) clusterName lb named
      by_cases own : service.loadBalancerName clusterName = name
      · subst own
        have before : view.networks (service.loadBalancerName clusterName) =
            some (lb.recordedNetwork, lb.requestedNetwork) := by
          simp [View.networks, stored]
        refine Eq.trans ?_ tracks
        rw [before]
        simp [View.networks, Request.apply, constructLB_name_of_some named,
          sameName, recorded, requested]
      · simpa [View.Tracks, View.networks, Request.apply, trackNetwork,
          constructLB_name_of_some named, sameName,
          Function.update_of_ne (Ne.symm own)] using tracks

/-- Deleting the own load balancer forgets its networks. -/
theorem View.Removed.tracks
    {view : View}
    {service : Service}
    {removal : List Request}
    {name : LBName}
    {network : String}
    {tracked : Option String}
    (removed : view.Removed clusterName service removal)
    (tracks : view.Tracks name tracked) :
    View.Tracks (removal.foldl (fun reached request => request.apply reached) view)
      name (removal.foldl (trackNetwork name network) tracked) := by
  cases removed with
  | absent missing =>
      exact tracks
  | deleted present =>
      simp only [List.foldl_cons, List.foldl_nil, trackNetwork]
      by_cases own : service.loadBalancerName clusterName = name
      · simp [View.Tracks, View.networks, Request.apply, own]
      · simpa [View.Tracks, View.networks, Request.apply, own,
          Function.update_of_ne (Ne.symm own)] using tracks

/-- A provider call keeps the networks equal to the tracked ones. -/
theorem CallWrites.tracks
    {service : Service}
    {view : View}
    {requests : List Request}
    {name : LBName}
    {tracked : Option String}
    (call : CallWrites l clusterName service view requests)
    (tracks : view.Tracks name tracked) :
    View.Tracks (requests.foldl (fun reached request => request.apply reached) view)
      name (requests.foldl (trackNetwork name service.network) tracked) := by
  cases call with
  | nothing =>
      exact tracks
  | put unset written =>
      exact written.tracks tracks
  | putPublished unset written =>
      exact written.tracks tracks
  | @withdrawn request unset written unshared =>
      have afterPut := written.tracks tracks
      obtain ⟨lb, applied⟩ := written.apply_eq
      have present :
          ((request.apply view).loadBalancers
            (service.loadBalancerName clusterName)).isSome := by
        rw [applied]
        simp
      exact (View.Removed.deleted present).tracks afterPut
  | removed unshared removed =>
      exact removed.tracks tracks
  | removedPublished unshared removed =>
      rw [List.foldl_append, List.foldl_append]
      exact removed.tracks tracks

/-- A service that asks for another network than its load balancer is refused. -/
theorem EnsureOutcome.refused_of_network
    {service : Service}
    {cluster : Cluster}
    {events : List Event}
    {succeeded : Bool}
    {lb : LoadBalancer}
    (outcome :
      EnsureOutcome l clusterName service cluster.view events succeeded)
    (unset : service.annotations.lookup keyPrimaryService = none)
    (stored :
      cluster.loadBalancers.get? (service.loadBalancerName clusterName) = some lb)
    (different : service.network ≠ lb.recordedNetwork) :
    succeeded = false ∧ ∀ event ∈ events, event.Reads := by
  have misfit :
      ¬ cluster.view.NetworkFits service
        (service.loadBalancerName clusterName) false := by
    intro fits
    have inView :
        cluster.view.loadBalancers (service.loadBalancerName clusterName) =
          some lb.content := by
      simp [Cluster.view, stored]
    have named : lb.content.name ≠ [] := by
      rw [LoadBalancer.name_content]
      exact LoadBalancer.name_ne_nil (cluster.loadBalancers.named stored)
    rcases fits lb.content inView named with ⟨impossible, _⟩ | same
    · cases impossible
    · exact different same
  cases outcome with
  | refused reads =>
      exact ⟨rfl, reads⟩
  | secondary resolved _ =>
      exact (resolved.annotation_ne_none unset).elim
  | primary _ inner =>
      cases inner with
      | refused reads =>
          exact ⟨rfl, reads⟩
      | unwritten fits _ =>
          exact (misfit fits).elim
      | kept fits _ _ _ =>
          exact (misfit fits).elim
      | withdrawn fits _ _ _ =>
          exact (misfit fits).elim
      | confirmed fits _ _ _ =>
          exact (misfit fits).elim
      | published _ _ fits _ _ _ =>
          exact (misfit fits).elim

/-- In every reached state both networks are the one at creation. -/
theorem tracks_of_execution
    {start : Cluster}
    {steps : List Step}
    {system : System}
    {name : LBName}
    (absent : start.loadBalancers.get? name = none)
    (execution :
      Execution (StepsOf (System.advance l clusterName) fun _ _ => True)
        { cluster := start } steps system) :
    system.cluster.view.Tracks name (networkAtCreation name system.log) := by
  refine execution.invariant
    (fun reached =>
      reached.cluster.view.Tracks name (networkAtCreation name reached.log))
    ?_ ?_
  · simp [View.Tracks, View.networks, Cluster.view, absent, networkAtCreation]
  rintro reached next step earlier ⟨_, rfl⟩
  rcases advance_cases l clusterName reached step with
    ⟨operation, service, ticks, rfl⟩ | ⟨noCall, same⟩
  · obtain ⟨_, outcome⟩ :=
      invoke_outcome l clusterName operation service ticks reached.cluster
    have moved := outcome.callWrites.tracks earlier
    have view := invoke_view l clusterName operation service ticks reached.cluster
    dsimp only at view
    rw [← view] at moved
    exact moved
  · have unlogged :
        networkAtCreation name (reached.advance l clusterName step).log =
          networkAtCreation name reached.log := by
      unfold System.advance
      rw [networkAtCreation, perform_step, noCall]
    rw [unlogged]
    unfold View.Tracks View.networks at earlier ⊢
    rw [same]
    exact earlier

/--
From its creation to its deletion a load balancer has the network its primary
service asked for at creation, and as long as the service asks for another one
its reconcile fails without a single write.
-/
theorem loadBalancer_network_fixed
    {start : Cluster}
    {steps : List Step}
    {system : System}
    {name : LBName}
    (absent : start.loadBalancers.get? name = none)
    (execution :
      Execution (StepsOf (System.advance l clusterName) fun _ _ => True)
        { cluster := start } steps system) :
    ((system.cluster.loadBalancers.get? name).map fun lb =>
        (lb.recordedNetwork, lb.requestedNetwork)) =
      ((networkAtCreation name system.log).map fun network => (network, network)) ∧
    ∀ (service : Service) (ticks : List Tick) (network : String),
      networkAtCreation name system.log = some network →
      service.loadBalancerName clusterName = name →
      service.annotations.lookup keyPrimaryService = none →
      service.network ≠ network →
      let entry :=
        (Step.invoke .ensureLoadBalancer service ticks).perform l clusterName
          system.cluster
      entry.succeeded = false ∧
        ∀ event ∈ entry.events, event.request.isWrite = false := by
  have networks :
      ((system.cluster.loadBalancers.get? name).map fun lb =>
          (lb.recordedNetwork, lb.requestedNetwork)) =
        ((networkAtCreation name system.log).map fun network => (network, network)) := by
    rw [← tracks_of_execution absent execution]
    simp only [View.networks, Cluster.view, Option.map_map]
    rfl
  refine ⟨networks, ?_⟩
  intro service ticks network created sameName unset different
  rw [created, Option.map_some] at networks
  obtain ⟨lb, stored, both⟩ := Option.map_eq_some_iff.mp networks
  obtain ⟨_, outcome⟩ :=
    invoke_outcome l clusterName .ensureLoadBalancer service ticks system.cluster
  refine EnsureOutcome.refused_of_network outcome unset (sameName.symm ▸ stored) ?_
  rw [(Prod.mk.inj both).1]
  exact different

/-- A user turns to another network after the load balancer was created. -/
theorem networkChange_refused_after_creation :
    let created : System :=
      ((System.advance sampleManager "prod" { cluster := {} }
        (.create (netService "default/blue"))).advance sampleManager "prod"
          (.invoke .ensureLoadBalancer (netService "default/blue")
            (allocatingAfter 5 webService "10.0.0.1")))
    networkAtCreation (webService.loadBalancerName "prod") created.log =
        some "default/blue" ∧
      ((Step.invoke .ensureLoadBalancer (netService "default/red") []).perform
        sampleManager "prod" created.cluster).succeeded = false := by
  intro created
  have network :
      networkAtCreation (webService.loadBalancerName "prod") created.log =
        some "default/blue" := by
    decide +kernel
  have execution :
      Execution (StepsOf (System.advance sampleManager "prod") fun _ _ => True) { cluster := {} }
        [.create (netService "default/blue"),
          .invoke .ensureLoadBalancer (netService "default/blue")
            (allocatingAfter 5 webService "10.0.0.1")]
        created :=
    .snoc (.snoc .nil ⟨trivial, rfl⟩) ⟨trivial, rfl⟩
  exact ⟨network,
    ((loadBalancer_network_fixed rfl execution).2 (netService "default/red") [] _
      network rfl (by decide +kernel) (by decide +kernel)).1⟩

end Fixed

section Shared

/-- The annotation of a service resolves to one stored object. -/
theorem View.Primary.content_unique
    {view : View}
    {service first second : Service}
    (firstPrimary : view.Primary service first)
    (secondPrimary : view.Primary service second) :
    first.content = second.content := by
  have sameKey := annotatedKey_unique firstPrimary.annotated secondPrimary.annotated
  have stored := firstPrimary.stored
  rw [sameKey, secondPrimary.stored, Option.some.injEq] at stored
  exact stored.symm

/-- The network a secondary has after it was reconciled successfully. -/
theorem SecondaryOutcome.network
    {primary secondary : Service}
    {view : View}
    {events : List Event}
    (outcome : SecondaryOutcome clusterName primary secondary view events true)
    (inHand : view.services secondary.key = some secondary.content) :
    (((writes events).foldl (fun reached request => request.apply reached)
        view).services secondary.key).map Service.network =
      some (if primary.network = "" then secondary.network else primary.network) := by
  cases outcome with
  | confirmed accepted removed upToDate written =>
      rw [written, removed.apply_eq]
      dsimp only
      rw [inHand, Option.map_some, Service.network_content]
      unfold isSecondaryServiceUpdatedWithPrimary at upToDate
      split at upToDate
      · cases upToDate
      · rename_i agrees
        by_cases unset : primary.network = ""
        · rw [if_pos unset]
        · rw [if_neg unset]
          have same : secondary.network = primary.network := by
            by_contra different
            exact agrees ⟨decide_eq_true unset, different⟩
          rw [same]
  | @published removal current ip accepted removed refetched written =>
      have sameContent : secondary.content = current.content :=
        Option.some.inj (inHand.symm.trans refetched.stored)
      have sameNetwork : current.network = secondary.network :=
        (congrArg Service.network sameContent).symm
      have updatedKey :
          (updateSecondaryServiceObject primary current ip
            (primaryServiceLabelValue primary)).key = secondary.key :=
        refetched.sameKey
      rw [written, List.foldl_append, List.foldl_cons, List.foldl_nil]
      simp only [Request.apply, updatedKey, Function.update_self, Option.map_some,
        Service.network_content, updateSecondaryServiceObject_network, sameNetwork]

/-- A logged call that let a secondary share a load balancer with a network. -/
structure System.SharedNetwork
    (system : System)
    (clusterName : String)
    (entry : Entry)
    (service primary : Service)
    (lb : LoadBalancer) :
    Prop where
  logged : entry ∈ system.log
  called : ∃ ticks, entry.step = .invoke .ensureLoadBalancer service ticks
  succeeded : entry.succeeded = true
  resolved : entry.before.view.Primary service primary
  stored :
    entry.before.loadBalancers.get? (primary.loadBalancerName clusterName) = some lb
  bound : lb.recordedNetwork ≠ ""

/--
In every run, a secondary that was reconciled successfully has the network of
the load balancer it shares exactly when the annotation of the primary still
is that network, or is empty while the secondary itself asks for it.
-/
theorem secondary_network_iff
    {start : Cluster}
    {steps : List Step}
    {system : System}
    {entry : Entry}
    {service primary : Service}
    {lb : LoadBalancer}
    (execution :
      Execution (StepsOf (System.advance l clusterName) InHandIsStored)
        { cluster := start } steps system)
    (shared : system.SharedNetwork clusterName entry service primary lb) :
    (entry.after.services.get? service.key).map Service.network =
        some lb.recordedNetwork ↔
      primary.network = lb.recordedNetwork ∨
        (primary.network = "" ∧ service.network = lb.recordedNetwork) := by
  obtain ⟨logged, ⟨ticks, called⟩, succeeded, resolved, _, bound⟩ := shared
  obtain ⟨reached, step, inHandStored, rfl⟩ := performed_of_logged execution logged
  rw [perform_step] at called
  subst called
  rw [perform_before] at resolved
  have inHand := Cluster.view_services_of_mem (inHandStored service rfl)
  obtain ⟨_, outcome⟩ :=
    invoke_outcome l clusterName .ensureLoadBalancer service ticks reached.cluster
  rw [succeeded] at outcome
  have view := invoke_view l clusterName .ensureLoadBalancer service ticks reached.cluster
  dsimp only at view
  have after :
      (((Step.invoke .ensureLoadBalancer service ticks).perform l clusterName
        reached.cluster).after.services.get? service.key).map Service.network =
        some (if primary.network = "" then service.network else primary.network) := by
    cases outcome with
    | primary unset _ =>
        exact (resolved.annotation_ne_none unset).elim
    | @secondary _ other otherResolved inner =>
        have sameNetwork : other.network = primary.network := by
          simpa only [Service.network_content] using
            congrArg Service.network (otherResolved.content_unique resolved)
        have network := inner.network inHand
        rw [← view, sameNetwork] at network
        rw [← network]
        simp only [Cluster.view, Option.map_map]
        rfl
  rw [after, Option.some.injEq]
  by_cases unset : primary.network = ""
  · rw [if_pos unset]
    constructor
    · exact fun same => .inr ⟨unset, same⟩
    · rintro (same | ⟨_, same⟩)
      · exact (bound (same.symm.trans unset)).elim
      · exact same
  · rw [if_neg unset]
    constructor
    · exact .inl
    · rintro (same | ⟨empty, _⟩)
      · exact same
      · exact (unset empty).elim

/-- A call that will share a load balancer, seen on the stored objects. -/
def System.ReadyToShare
    (reached : System)
    (l : LoadBalancerManager)
    (clusterName key text ns name network : String)
    (ticks : List Tick)
    (lbName : LBName) :
    Prop :=
  ((reached.cluster.services.get? key).map fun service =>
      service.annotations.lookup keyPrimaryService) = some (some text) ∧
    splitAtSlash text = some (ns, name) ∧
    ((reached.cluster.services.get? (metaNamespaceKey ns name)).map fun primary =>
      (primary.annotations.read keyPrimaryService,
        primary.loadBalancerName clusterName)) = some ("", lbName) ∧
    (reached.cluster.loadBalancers.get? lbName).map
      LoadBalancer.recordedNetwork = some network ∧
    network ≠ "" ∧
    (reached.entryOf l clusterName
      (.call .ensureLoadBalancer key ticks)).succeeded = true

instance
    (reached : System)
    (l : LoadBalancerManager)
    (clusterName key text ns name network : String)
    (ticks : List Tick)
    (lbName : LBName) :
    Decidable
      (reached.ReadyToShare l clusterName key text ns name network ticks lbName) :=
  inferInstanceAs (Decidable (_ ∧ _))

theorem System.ReadyToShare.sharedNetwork
    {reached : System}
    {key text ns name network : String}
    {ticks : List Tick}
    {lbName : LBName}
    (ready :
      reached.ReadyToShare l clusterName key text ns name network ticks lbName) :
    ∃ service primary lb,
      (reached.play l clusterName
          [.call .ensureLoadBalancer key ticks]).SharedNetwork clusterName
        (reached.entryOf l clusterName (.call .ensureLoadBalancer key ticks))
        service primary lb ∧
        service.key = key ∧
        reached.cluster.services.get? (metaNamespaceKey ns name) = some primary ∧
        lb.recordedNetwork = network := by
  obtain ⟨annotated, parts, unannotated, recorded, bound, succeeded⟩ := ready
  obtain ⟨service, found, lookup⟩ := Option.map_eq_some_iff.mp annotated
  obtain ⟨primary, primaryFound, both⟩ := Option.map_eq_some_iff.mp unannotated
  obtain ⟨lb, lbFound, lbNetwork⟩ := Option.map_eq_some_iff.mp recorded
  obtain ⟨unset, sameName⟩ := Prod.mk.inj both
  have primaryKey := (ServiceStore.get?_eq_some.mp primaryFound).2
  refine ⟨service, primary, lb, ?_, (ServiceStore.get?_eq_some.mp found).2,
    primaryFound, lbNetwork⟩
  exact {
    logged := List.mem_cons_self
    called := ⟨ticks, System.entryOf_call_step found⟩
    succeeded := succeeded
    resolved := by
      rw [System.entryOf, perform_before]
      exact {
        annotated := ⟨text, ns, name, lookup, parts, primaryKey⟩
        stored := by simp [Cluster.view, primaryKey, primaryFound]
        unannotated := unset }
    stored := by rw [System.entryOf, perform_before, sameName]; exact lbFound
    bound := by rw [lbNetwork]; exact bound }

/--
A primary on the network `default/blue` has its load balancer, its annotation
is set to some network, and a second service without network names it.
-/
def sharingMoves (network : String) : List Move :=
  [.create (netService "default/blue"),
    .call .ensureLoadBalancer "default/web" (allocatingAfter 5 webService "10.0.0.1"),
    .environment (.assignIngress "default/web" [⟨"10.0.0.1"⟩]),
    .edit "default/web"
      { annotations := (netService network).annotations
        labels := none
        serviceType := .loadBalancer
        ports := webService.ports },
    .create apiService]

/-- The system in which the second service is reconciled for the first time. -/
def sharingSetup (network : String) : System :=
  System.play sampleManager "prod" { cluster := {} } (sharingMoves network)

/-- The setup and the reconcile of the second service form a run. -/
theorem sharingSetup_execution (network : String) :
    ∃ steps,
      Execution (StepsOf (System.advance sampleManager "prod") InHandIsStored)
        { cluster := {} } steps
        ((sharingSetup network).play sampleManager "prod"
          [.call .ensureLoadBalancer "default/api" []]) := by
  rw [sharingSetup, ← System.play_append]
  exact play_execution (execution_foldl fun _ move _ _ => move.inHandIsStored _)

/-- An unchanged primary hands its network on. -/
theorem sharingCall_binds_unchanged_network :
    ∃ service primary lb,
      ((sharingSetup "default/blue").play sampleManager "prod"
          [.call .ensureLoadBalancer "default/api" []]).SharedNetwork "prod"
        ((sharingSetup "default/blue").entryOf sampleManager "prod"
          (.call .ensureLoadBalancer "default/api" [])) service primary lb ∧
        (((sharingSetup "default/blue").entryOf sampleManager "prod"
          (.call .ensureLoadBalancer "default/api" [])).after.services.get?
            service.key).map Service.network = some lb.recordedNetwork := by
  obtain ⟨steps, execution⟩ := sharingSetup_execution "default/blue"
  obtain ⟨service, primary, lb, shared, _, found, recorded⟩ :=
    @System.ReadyToShare.sharedNetwork sampleManager "prod"
      (sharingSetup "default/blue") "default/api" "default/web" "default" "web"
      "default/blue" [] (webService.loadBalancerName "prod") (by decide +kernel)
  have network : primary.network = "default/blue" := by
    have looked :
        ((sharingSetup "default/blue").cluster.services.get?
          (metaNamespaceKey "default" "web")).map Service.network =
            some "default/blue" := by
      decide +kernel
    rw [found] at looked
    exact Option.some.inj looked
  refine ⟨service, primary, lb, shared, ?_⟩
  exact (secondary_network_iff execution shared).mpr
    (.inl (network.trans recorded.symm))

/-- A primary whose annotation was changed hands the wrong network on. -/
theorem sharedNetwork_not_always_bound :
    ¬ ∀ (steps : List Step) (system : System) (entry : Entry)
        (service primary : Service) (lb : LoadBalancer),
        Execution (StepsOf (System.advance sampleManager "prod") InHandIsStored)
          { cluster := {} } steps system →
        system.SharedNetwork "prod" entry service primary lb →
        (entry.after.services.get? service.key).map Service.network =
          some lb.recordedNetwork := by
  intro always
  obtain ⟨steps, execution⟩ := sharingSetup_execution "default/red"
  obtain ⟨service, primary, lb, shared, sameKey, _, recorded⟩ :=
    @System.ReadyToShare.sharedNetwork sampleManager "prod"
      (sharingSetup "default/red") "default/api" "default/web" "default" "web"
      "default/blue" [] (webService.loadBalancerName "prod") (by decide +kernel)
  have bound := always steps _ _ service primary lb execution shared
  rw [sameKey, recorded] at bound
  have red :
      (((sharingSetup "default/red").entryOf sampleManager "prod"
        (.call .ensureLoadBalancer "default/api" [])).after.services.get?
          "default/api").map Service.network = some "default/red" := by
    decide +kernel
  rw [bound] at red
  exact absurd red (by decide)

end Shared

end HarvesterCloudProvider
