import HarvesterCloudProvider.LoadBalancerConstruct
import HarvesterCloudProvider.LoadBalancerReads
import HarvesterCloudProvider.NetworkResolution
import HarvesterCloudProvider.PortSharing

namespace HarvesterCloudProvider

open Program

/-!
# Updates that their checks recognise

Before it writes a service the provider checks whether the service already
carries what it would write.  Check and update are written separately.  The
check of a secondary recognises every updated secondary.  The check of a
primary also asks for a label map, which the update of a primary never makes,
so a primary without labels is written again by every reconcile.
-/

/-- Two services agree except for some labels and annotations. -/
structure Service.AgreeExcept
    (labelKeys annotationKeys : List String)
    (first second : Service) :
    Prop where
  rest :
    { first with labels := second.labels, annotations := second.annotations } = second
  labels :
    ∀ key,
      key ∉ labelKeys →
      first.labels.lookup key = second.labels.lookup key
  annotations :
    ∀ key,
      key ∉ annotationKeys →
      first.annotations.lookup key = second.annotations.lookup key

section Secondary

variable (primary secondary : Service)
variable (ip primaryLabel : String)

/-- The annotations of an updated secondary, key by key. -/
theorem updateSecondaryServiceObject_lookup (key : String) :
    (updateSecondaryServiceObject primary secondary ip primaryLabel).annotations.lookup
        key =
      if key = keyIPAM ∨ key = keyKubevipServiceInterface then
        none
      else if key = keyNetwork ∧ hasNetworkAnnotation primary = true then
        some primary.network
      else if key = keyKubevipLoadBalancerIP then
        some ip
      else
        secondary.annotations.lookup key := by
  unfold updateSecondaryServiceObject Service.network
  dsimp only
  rw [NilableMap.lookup_remove, NilableMap.lookup_remove]
  by_cases ipam : key = keyIPAM
  · simp [ipam]
  by_cases iface : key = keyKubevipServiceInterface
  · simp [iface]
  by_cases networked : hasNetworkAnnotation primary = true
  · simp only [ipam, iface, networked, NilableMap.lookup_write, ↓reduceIte, or_self, and_true]
  · simp only [ipam, iface, networked, NilableMap.lookup_write, ↓reduceIte, or_self,
      and_false, Bool.false_eq_true]

/-- An updated secondary has both maps. -/
theorem updateSecondaryServiceObject_isSome :
    (updateSecondaryServiceObject primary secondary ip primaryLabel).annotations.isSome =
        true ∧
      (updateSecondaryServiceObject primary secondary ip primaryLabel).labels.isSome =
        true := by
  refine ⟨?_, rfl⟩
  unfold updateSecondaryServiceObject
  dsimp only
  split <;> rfl

/-- The labels of an updated secondary, key by key. -/
theorem updateSecondaryServiceObject_labels_lookup (key : String) :
    (updateSecondaryServiceObject primary secondary ip primaryLabel).labels.lookup key =
      if key = keyPrimaryService then some primaryLabel else secondary.labels.lookup key :=
  NilableMap.lookup_write _ _ _ _

/-- What the check of a secondary looks at. -/
structure SecondaryRecognised
    (primary secondary : Service)
    (ip labelValue : String) :
    Prop where
  network :
    hasNetworkAnnotation primary = true →
    secondary.network = primary.network
  annotated : secondary.annotations.isSome = true
  address : secondary.annotations.read keyKubevipLoadBalancerIP = ip
  iface : secondary.annotations.read keyKubevipServiceInterface = ""
  ipam : secondary.annotations.read keyIPAM = ""
  labelled : secondary.labels.isSome = true
  label : secondary.labels.read keyPrimaryService = labelValue

theorem isSecondaryServiceUpdatedWithPrimary_iff :
    isSecondaryServiceUpdatedWithPrimary primary secondary ip primaryLabel = true ↔
      SecondaryRecognised primary secondary ip primaryLabel := by
  unfold isSecondaryServiceUpdatedWithPrimary
  constructor
  · intro recognised
    split at recognised
    · cases recognised
    · rename_i sameNetwork
      simp only [Bool.and_eq_true, decide_eq_true_eq] at recognised
      obtain ⟨⟨⟨⟨⟨annotated, address⟩, iface⟩, ipam⟩, labelled⟩, label⟩ := recognised
      refine ⟨fun networked => ?_, annotated, address, iface, ipam, labelled, label⟩
      by_contra different
      exact sameNetwork ⟨networked, different⟩
  · intro recognised
    rw [if_neg fun changed => changed.2 (recognised.network changed.1)]
    simp only [Bool.and_eq_true, decide_eq_true_eq]
    exact ⟨⟨⟨⟨⟨recognised.annotated, recognised.address⟩, recognised.iface⟩,
      recognised.ipam⟩, recognised.labelled⟩, recognised.label⟩

/-- The check recognises every updated secondary. -/
theorem secondaryRecognised_update :
    SecondaryRecognised primary
      (updateSecondaryServiceObject primary secondary ip primaryLabel) ip primaryLabel := by
  obtain ⟨annotated, labelled⟩ :=
    updateSecondaryServiceObject_isSome primary secondary ip primaryLabel
  have value (key : String) := updateSecondaryServiceObject_lookup primary secondary ip
    primaryLabel key
  have label := updateSecondaryServiceObject_label ip primaryLabel primary secondary
  refine
    { network := ?_
      annotated := annotated
      address := ?_
      iface := ?_
      ipam := ?_
      labelled := labelled
      label := NilableMap.read_of_lookup label }
  · intro networked
    refine NilableMap.read_of_lookup ((value keyNetwork).trans ?_)
    rw [networked]
    rfl
  · exact NilableMap.read_of_lookup (value keyKubevipLoadBalancerIP)
  · rw [NilableMap.read, value]
    rfl
  · rw [NilableMap.read, value]
    rfl

/-- Updating a secondary a second time changes nothing. -/
theorem updateSecondaryServiceObject_twice :
    updateSecondaryServiceObject primary
        (updateSecondaryServiceObject primary secondary ip primaryLabel) ip primaryLabel =
      updateSecondaryServiceObject primary secondary ip primaryLabel := by
  have once := updateSecondaryServiceObject_isSome primary secondary ip primaryLabel
  have again := updateSecondaryServiceObject_isSome primary
    (updateSecondaryServiceObject primary secondary ip primaryLabel) ip primaryLabel
  have sameLabels := NilableMap.eq_of_lookup_of_isSome again.2 once.2 fun key => by
    rw [updateSecondaryServiceObject_labels_lookup, updateSecondaryServiceObject_labels_lookup]
    split <;> rfl
  have sameAnnotations := NilableMap.eq_of_lookup_of_isSome again.1 once.1 fun key => by
    simp only [updateSecondaryServiceObject_lookup]
    repeat' split
    all_goals rfl
  calc
    updateSecondaryServiceObject primary
        (updateSecondaryServiceObject primary secondary ip primaryLabel) ip primaryLabel =
      { secondary with
        labels :=
          (updateSecondaryServiceObject primary
            (updateSecondaryServiceObject primary secondary ip primaryLabel) ip
              primaryLabel).labels
        annotations :=
          (updateSecondaryServiceObject primary
            (updateSecondaryServiceObject primary secondary ip primaryLabel) ip
              primaryLabel).annotations } := rfl
    _ = updateSecondaryServiceObject primary secondary ip primaryLabel := by
      rw [sameLabels, sameAnnotations]
      rfl

/-- Updating a secondary touches one label and four annotations. -/
theorem updateSecondaryServiceObject_agree :
    Service.AgreeExcept [keyPrimaryService]
      [keyKubevipLoadBalancerIP, keyNetwork, keyKubevipServiceInterface, keyIPAM]
      (updateSecondaryServiceObject primary secondary ip primaryLabel) secondary where
  rest := rfl
  labels key outside := by
    rw [updateSecondaryServiceObject_labels_lookup, if_neg (by simpa using outside)]
  annotations key outside := by
    simp only [List.mem_cons, List.not_mem_nil, or_false, not_or] at outside
    obtain ⟨notAddress, notNetwork, notIface, notIPAM⟩ := outside
    simp [updateSecondaryServiceObject_lookup, notAddress, notNetwork, notIface, notIPAM]

/-- What an update would leave as it is, reading an empty value as an absent one. -/
structure Service.KeepsSharing (updated service : Service) : Prop where
  label :
    updated.labels.lookup keyPrimaryService = service.labels.lookup keyPrimaryService
  address :
    updated.annotations.read keyKubevipLoadBalancerIP =
      service.annotations.read keyKubevipLoadBalancerIP
  network : updated.annotations.lookup keyNetwork = service.annotations.lookup keyNetwork
  iface :
    updated.annotations.read keyKubevipServiceInterface =
      service.annotations.read keyKubevipServiceInterface
  ipam : updated.annotations.read keyIPAM = service.annotations.read keyIPAM

variable {primary secondary ip primaryLabel}

/-- A recognised secondary has nothing to update. -/
theorem SecondaryRecognised.keeps
    (recognised : SecondaryRecognised primary secondary ip primaryLabel)
    (nonempty : primaryLabel ≠ "") :
    (updateSecondaryServiceObject primary secondary ip primaryLabel).KeepsSharing
      secondary := by
  have updated := secondaryRecognised_update primary secondary ip primaryLabel
  refine
    { label := ?_
      address := updated.address.trans recognised.address.symm
      network := ?_
      iface := updated.iface.trans recognised.iface.symm
      ipam := updated.ipam.trans recognised.ipam.symm }
  · rw [updateSecondaryServiceObject_label]
    exact (NilableMap.lookup_of_read recognised.label nonempty).symm
  · rw [updateSecondaryServiceObject_lookup]
    by_cases networked : hasNetworkAnnotation primary = true
    · have present : primary.network ≠ "" := of_decide_eq_true networked
      rw [networked]
      exact (NilableMap.lookup_of_read (recognised.network networked) present).symm
    · simp only [networked, and_false, Bool.false_eq_true, if_false]
      rfl

end Secondary

/--
The update of a secondary reaches the fixed point that its check recognises: an
updated secondary is recognised and does not change any more, nothing else of
the object is touched, and a recognised secondary has nothing to update.
-/
theorem secondaryUpdate_fixpoint (primary secondary : Service) (ip : String) :
    isSecondaryServiceUpdatedWithPrimary primary
        (updateSecondaryServiceObject primary secondary ip
          (primaryServiceLabelValue primary))
        ip (primaryServiceLabelValue primary) = true ∧
      updateSecondaryServiceObject primary
          (updateSecondaryServiceObject primary secondary ip
            (primaryServiceLabelValue primary))
          ip (primaryServiceLabelValue primary) =
        updateSecondaryServiceObject primary secondary ip
          (primaryServiceLabelValue primary) ∧
      Service.AgreeExcept [keyPrimaryService]
        [keyKubevipLoadBalancerIP, keyNetwork, keyKubevipServiceInterface, keyIPAM]
        (updateSecondaryServiceObject primary secondary ip
          (primaryServiceLabelValue primary))
        secondary ∧
      (isSecondaryServiceUpdatedWithPrimary primary secondary ip
          (primaryServiceLabelValue primary) = true →
        (updateSecondaryServiceObject primary secondary ip
          (primaryServiceLabelValue primary)).KeepsSharing secondary) := by
  refine ⟨?_, updateSecondaryServiceObject_twice _ _ _ _,
    updateSecondaryServiceObject_agree _ _ _ _, fun check => ?_⟩
  · exact (isSecondaryServiceUpdatedWithPrimary_iff _ _ _ _).mpr
      (secondaryRecognised_update _ _ _ _)
  · exact ((isSecondaryServiceUpdatedWithPrimary_iff _ _ _ _).mp check).keeps
      (primaryServiceLabelValue_ne_empty primary)

section Primary

variable (iface : String)
variable (service : Service)
variable (ip primaryLabel : String)

/-- The annotations of an updated primary, key by key. -/
theorem updatePrimaryServiceObject_lookup (key : String) :
    (updatePrimaryServiceObject iface service ip primaryLabel).annotations.lookup key =
      if key = keyKubevipServiceInterface ∧ iface ≠ "" then
        some iface
      else if key = keyKubevipLoadBalancerIP then
        some ip
      else
        service.annotations.lookup key := by
  unfold updatePrimaryServiceObject
  dsimp only
  by_cases resolved : iface = ""
  · simp only [resolved, ne_eq, not_true_eq_false, ↓reduceIte, and_false,
      NilableMap.lookup_write]
  · simp only [resolved, ne_eq, not_false_eq_true, ↓reduceIte, and_true,
      NilableMap.lookup_write]

/-- An updated primary has annotations, and labels exactly if it had some. -/
theorem updatePrimaryServiceObject_isSome :
    (updatePrimaryServiceObject iface service ip primaryLabel).annotations.isSome = true ∧
      (updatePrimaryServiceObject iface service ip primaryLabel).labels.isSome =
        service.labels.isSome := by
  unfold updatePrimaryServiceObject
  constructor
  · dsimp only
    split <;> rfl
  · dsimp only
    split
    · rename_i shared
      -- A nil map reads as the empty label, so a cleared label was in a map.
      cases labels : service.labels with
      | none =>
          rw [labels] at shared
          exact (shared rfl).elim
      | some entries =>
          rfl
    · rfl

/-- Updating a primary touches one label and two annotations. -/
theorem updatePrimaryServiceObject_agree :
    Service.AgreeExcept [keyPrimaryService]
      [keyKubevipLoadBalancerIP, keyKubevipServiceInterface]
      (updatePrimaryServiceObject iface service ip primaryLabel) service where
  rest := rfl
  labels key outside := by
    unfold updatePrimaryServiceObject
    dsimp only
    split
    · exact NilableMap.lookup_write_of_ne _ (by simpa using outside) _
    · rfl
  annotations key outside := by
    simp only [List.mem_cons, List.not_mem_nil, or_false, not_or] at outside
    obtain ⟨notAddress, notIface⟩ := outside
    simp [updatePrimaryServiceObject_lookup, notAddress, notIface]

/-- The check recognises an updated primary exactly if it has a label map. -/
theorem isPrimaryServiceUpdatedWithIP_update
    {lb : LoadBalancer}
    (address : lb.status.address = ip) :
    isPrimaryServiceUpdatedWithIP (updatePrimaryServiceObject iface service ip primaryLabel)
      lb ip iface = service.labels.isSome := by
  obtain ⟨annotated, labelled⟩ := updatePrimaryServiceObject_isSome iface service ip
    primaryLabel
  have cleared := updatePrimaryServiceObject_label iface ip primaryLabel service
  have written (key : String) := updatePrimaryServiceObject_lookup iface service ip
    primaryLabel key
  generalize updatePrimaryServiceObject iface service ip primaryLabel = updated
    at annotated labelled cleared written ⊢
  have published : updated.annotations.read keyKubevipLoadBalancerIP = ip :=
    NilableMap.read_of_lookup (written keyKubevipLoadBalancerIP)
  have bound : ¬ (iface ≠ "" ∧
      updated.annotations.read keyKubevipServiceInterface ≠ iface) := by
    rintro ⟨resolved, different⟩
    refine different (NilableMap.read_of_lookup ((written _).trans ?_))
    rw [if_pos ⟨rfl, resolved⟩]
  unfold isPrimaryServiceUpdatedWithIP
  rw [if_neg bound, annotated, published, address, labelled, cleared]
  simp

end Primary

section Calm

/-- An event is no update of a service. -/
def Event.LeavesServices (event : Event) : Prop :=
  ∀ service, event.request ≠ .updateService service

theorem Event.Reads.leavesServices
    {event : Event}
    (reads : event.Reads) :
    event.LeavesServices := by
  intro service requested
  rw [Event.Reads, requested] at reads
  exact Bool.noConfusion reads

/-- A reading program sends no update of a service. -/
theorem leavesServices_of_observes
    {Value : Type}
    {program : Program Session Err Value}
    (observes : Respects Observes program) :
    Respects (Extends Event.LeavesServices) program :=
  fun session => (observes session).mono fun _ reads => reads.leavesServices

/-- As long as nobody else acts and no request fails, the cluster stays. -/
def StaysCalm (session final : Session) : Prop :=
  session.ticks = [] →
    final.ticks = [] ∧ final.cluster = session.cluster

instance : Std.Refl StaysCalm where
  refl _ := fun calm => ⟨calm, rfl⟩

instance : IsTrans Session StaysCalm where
  trans first middle final := by
    intro firstCalm secondCalm calm
    obtain ⟨middleCalm, middleSame⟩ := firstCalm calm
    obtain ⟨finalCalm, finalSame⟩ := secondCalm middleCalm
    exact ⟨finalCalm, finalSame.trans middleSame⟩

/-- A request in a calm session is answered from the cluster as it is. -/
theorem call_calm
    {Answer : Type}
    {request : Request}
    {serve : Cluster → Except Err Answer × Cluster}
    {session : Session}
    (calm : session.ticks = []) :
    call request serve session =
      ((serve session.cluster).1,
        { cluster := (serve session.cluster).2
          ticks := []
          events :=
            session.events ++
              [{ request := request
                 before := session.cluster
                 error := errorOf (serve session.cluster).1 }] }) := by
  unfold call
  rw [calm]
  rfl

theorem configMapGet_staysCalm : Respects StaysCalm configMapGet := by
  intro session calm
  rw [configMapGet, call_calm calm]
  refine ⟨rfl, ?_⟩
  dsimp only
  split <;> rfl

theorem lbClientGet_staysCalm (name : LBName) : Respects StaysCalm (lbClientGet name) := by
  intro session calm
  rw [lbClientGet, call_calm calm]
  refine ⟨rfl, ?_⟩
  dsimp only
  split <;> rfl

/-- A stored load balancer is found in a calm session. -/
theorem lbClientGet_calm
    {name : LBName}
    {session : Session}
    {lb : LoadBalancer}
    (calm : session.ticks = [])
    (stored : session.cluster.loadBalancers.get? name = some lb) :
    ∃ final,
      lbClientGet name session = (.ok lb, final) ∧
        final.ticks = [] ∧
        final.cluster = session.cluster := by
  refine ⟨_, ?_, lbClientGet_staysCalm name session calm⟩
  refine Prod.ext ?_ rfl
  rw [lbClientGet, call_calm calm]
  simp only [stored]

/-- Resolving depends on the stored ConfigMap only. -/
theorem resolveNetworkInterface_calm
    {service : Service}
    {first second : Session}
    (firstCalm : first.ticks = [])
    (secondCalm : second.ticks = [])
    (sameMapping : second.cluster.configMap = first.cluster.configMap)
    {iface : String}
    (resolved : (resolveNetworkInterface service first).1 = .ok iface) :
    (resolveNetworkInterface service second).1 = .ok iface := by
  have sameCache : second.cachedMapping = first.cachedMapping := by
    unfold Session.cachedMapping
    rw [firstCalm, secondCalm]
    exact congrArg Except.ok sameMapping
  rw [resolveNetworkInterface_ok_iff] at resolved ⊢
  simpa only [getNADInterfaceMapping_ok_iff, sameCache] using resolved

/-- A primary that is up to date is left alone in a calm session. -/
theorem updatePrimaryServiceLoadBalancerIP_calm
    {name : LBName}
    {service : Service}
    {session : Session}
    {lb : LoadBalancer}
    {iface : String}
    (calm : session.ticks = [])
    (resolved : (resolveNetworkInterface service session).1 = .ok iface)
    (stored : session.cluster.loadBalancers.get? name = some lb)
    (allocated : lb.status.allocatedAddress.ip ≠ "")
    (upToDate :
      isPrimaryServiceUpdatedWithIP service lb lb.status.allocatedAddress.ip iface =
        true) :
    ∃ final,
      updatePrimaryServiceLoadBalancerIP name service session = (.ok (), final) ∧
        Extends Event.LeavesServices session final := by
  obtain ⟨afterResolve, resolving⟩ :
      ∃ reached, resolveNetworkInterface service session = (.ok iface, reached) :=
    ⟨_, Prod.ext resolved rfl⟩
  obtain ⟨resolvedCalm, sameCluster⟩ :=
    (resolveNetworkInterface_respects configMapGet_staysCalm service).of_run resolving calm
  rw [← sameCluster] at stored
  obtain ⟨final, polled, -, -⟩ := lbClientGet_calm resolvedCalm stored
  have waited : waitForIP
      (do
        let lb ← mapError (.wrap "fail to get lb ") (lbClientGet name)
        if lb.status.allocatedAddress.ip = "" then
          fail (.errorf
            (s!"ip is not allocated, mode: {lb.spec.ipam}, " ++
              s!"message: {lb.readyMessage}"))
        else
          pure (lb, lb.status.allocatedAddress.ip)) afterResolve =
      (.ok (lb, lb.status.allocatedAddress.ip), final) := by
    refine mapError_ok.mpr (poll_of_ok ?_ 9 _)
    rw [bind_run_of_ok (mapError_ok.mpr polled), if_neg allocated]
    rfl
  refine ⟨final, ?_, ?_⟩
  · unfold updatePrimaryServiceLoadBalancerIP
    rw [bind_run_of_ok (mapError_ok.mpr resolving), bind_run_of_ok waited]
    dsimp only
    rw [if_pos upToDate]
    rfl
  · refine trans_of (Extends Event.LeavesServices)
      ((leavesServices_of_observes (resolveNetworkInterface_observes service)).of_run
        resolving) ?_
    exact (leavesServices_of_observes (lbClientGet_observes name)).of_run polled

/-- An update of a current load balancer is accepted in a calm session. -/
theorem lbClientUpdate_calm
    {session : Session}
    {stored lb : LoadBalancer}
    (calm : session.ticks = [])
    (found : session.cluster.loadBalancers.get? lb.name = some stored)
    (current : stored.resourceVersion = lb.resourceVersion) :
    ∃ final,
      lbClientUpdate lb session = (.ok (), final) ∧
        final.ticks = [] ∧
        final.cluster =
          { session.cluster with
            loadBalancers :=
              session.cluster.loadBalancers.put
                { lb with resourceVersion := session.cluster.version + 1 }
            version := session.cluster.version + 1 } := by
  refine ⟨(lbClientUpdate lb session).2, Prod.ext ?_ rfl, ?_, ?_⟩ <;>
    rw [lbClientUpdate, call_calm calm] <;>
    simp only [found, current, ↓reduceIte]

theorem lbClientUpdate_leavesServices (lb : LoadBalancer) :
    Respects (Extends Event.LeavesServices) (lbClientUpdate lb) :=
  call_respects (lbClientUpdate_serves lb) fun _ requested _ sent =>
    Request.noConfusion (requested.symm.trans sent)

/-- Storing the wanted object back succeeds in a calm session. -/
theorem createOrUpdateLoadBalancer_calm
    {l : LoadBalancerManager}
    {clusterName : String}
    {service : Service}
    {session : Session}
    {lb : LoadBalancer}
    (calm : session.ticks = [])
    (stored :
      session.cluster.loadBalancers.get? (service.loadBalancerName clusterName) =
        some lb) :
    ∃ final,
      l.createOrUpdateLoadBalancer (service.loadBalancerName clusterName) clusterName
          service session = (.ok (), final) ∧
        Extends Event.LeavesServices session final ∧
        final.ticks = [] ∧
        final.cluster.configMap = session.cluster.configMap ∧
        ∃ result,
          final.cluster.loadBalancers.get? (service.loadBalancerName clusterName) =
              some result ∧
            result.status =
              (l.constructLB (some lb) service (service.loadBalancerName clusterName)
                clusterName).status := by
  obtain ⟨afterGet, got, getCalm, sameCluster⟩ := lbClientGet_calm calm stored
  have sameName : lb.name = service.loadBalancerName clusterName :=
    session.cluster.loadBalancers.named stored
  have present : lb.name ≠ [] := LoadBalancer.name_ne_nil sameName
  have keeps := @constructLB_keepsUnmanaged l service (service.loadBalancerName clusterName)
    clusterName lb present
  generalize built : l.constructLB (some lb) service (service.loadBalancerName clusterName)
    clusterName = wanted at keeps ⊢
  have wantedName : wanted.name = service.loadBalancerName clusterName :=
    keeps.name.trans sameName
  have found : afterGet.cluster.loadBalancers.get? wanted.name = some lb := by
    rw [wantedName, sameCluster]
    exact stored
  obtain ⟨final, updated, finalCalm, finalCluster⟩ :=
    lbClientUpdate_calm getCalm found keeps.resourceVersion.symm
  refine ⟨final, ?_, ?_, finalCalm, ?_,
    { wanted with resourceVersion := afterGet.cluster.version + 1 }, ?_, rfl⟩
  · unfold LoadBalancerManager.createOrUpdateLoadBalancer
    rw [attempt_bind_run, got, ← updated, ← built]
  · exact trans_of (Extends Event.LeavesServices)
      ((leavesServices_of_observes (lbClientGet_observes _)).of_run got)
      ((lbClientUpdate_leavesServices wanted).of_run updated)
  · rw [finalCluster, sameCluster]
  · rw [finalCluster, ← wantedName]
    exact LoadBalancerStore.get?_put_self _
      { wanted with resourceVersion := afterGet.cluster.version + 1 }

/-- The cluster holds what a reconcile of a primary has allocated and published. -/
structure Cluster.Provides
    (cluster : Cluster)
    (clusterName : String)
    (service : Service)
    (ip iface : String)
    (lb : LoadBalancer) :
    Prop where
  primary : service.annotations.lookup keyPrimaryService = none
  resolved :
    (resolveNetworkInterface service { cluster := cluster, ticks := [] }).1 = .ok iface
  stored :
    cluster.loadBalancers.get? (service.loadBalancerName clusterName) = some lb
  isAllocated : ip ≠ ""
  allocated : lb.status.allocatedAddress.ip = ip
  address : lb.status.address = ip
  ingress : ∀ first ∈ service.loadBalancer.ingress.head?, first.ip = ip

variable {l : LoadBalancerManager}
variable {clusterName : String}
variable {service : Service}
variable {cluster : Cluster}
variable {ip iface : String}
variable {lb : LoadBalancer}

/-- Reconciling a load balancer keeps the addresses that a cluster provides. -/
theorem Cluster.Provides.constructLB_status
    (provides : cluster.Provides clusterName service ip iface lb) :
    (l.constructLB (some lb) service (service.loadBalancerName clusterName)
        clusterName).status.allocatedAddress.ip = ip ∧
      (l.constructLB (some lb) service (service.loadBalancerName clusterName)
        clusterName).status.address = ip := by
  have present : lb.name ≠ [] :=
    LoadBalancer.name_ne_nil (cluster.loadBalancers.named provides.stored)
  have keeps := @constructLB_keepsUnmanaged l service (service.loadBalancerName clusterName)
    clusterName lb present
  have allocated :=
    congrArg (fun status : LoadBalancerObserved => status.allocatedAddress.ip) keeps.status
  refine ⟨allocated.trans provides.allocated, ?_⟩
  have published := provides.ingress
  rw [keeps.address]
  cases ingress : service.loadBalancer.ingress with
  | nil =>
      exact provides.address
  | cons first rest =>
      rw [ingress] at published
      exact published first rfl

/-- The primary path of a reconcile sends no update of a service that is up to date. -/
theorem ensurePrimaryLoadBalancer_leavesServices
    {session : Session}
    (calm : session.ticks = [])
    (provides : session.cluster.Provides clusterName service ip iface lb)
    (upToDate :
      ∀ current : LoadBalancer,
        current.status.address = ip →
        isPrimaryServiceUpdatedWithIP service current ip iface = true) :
    Extends Event.LeavesServices session
      (l.ensurePrimaryLoadBalancer clusterName service session).2 := by
  rcases ran : l.ensurePrimaryLoadBalancer clusterName service session with ⟨answer, final⟩
  unfold LoadBalancerManager.ensurePrimaryLoadBalancer at ran
  have checkQuiet := leavesServices_of_observes (checkNetworkChanged_observes service
    (service.loadBalancerName clusterName) false)
  rcases bind_cases ran with ⟨error, refused, rfl⟩ | ⟨_, afterCheck, passed, ran⟩
  · exact checkQuiet.of_run refused
  · obtain ⟨checkCalm, sameCluster⟩ :=
      (checkNetworkChanged_respects (lbClientGet_staysCalm _) service false).of_run
        passed calm
    have stored := provides.stored
    rw [← sameCluster] at stored
    obtain ⟨afterWrite, written, writeQuiet, writeCalm, sameMapping, result, found,
      sameStatus⟩ := @createOrUpdateLoadBalancer_calm l _ _ _ _ checkCalm stored
    rw [bind_run_of_ok (mapError_ok.mpr written)] at ran
    obtain ⟨allocated, address⟩ := @provides.constructLB_status l
    rw [← sameStatus] at allocated address
    have resolved : (resolveNetworkInterface service afterWrite).1 = .ok iface :=
      resolveNetworkInterface_calm rfl writeCalm
        (by rw [sameMapping, sameCluster]) provides.resolved
    obtain ⟨last, updated, updateQuiet⟩ :=
      updatePrimaryServiceLoadBalancerIP_calm writeCalm resolved found
        (by rw [allocated]; exact provides.isAllocated)
        (by rw [allocated]; exact upToDate result address)
    rw [attempt_bind_run, updated] at ran
    cases ran
    exact trans_of (Extends Event.LeavesServices) (checkQuiet.of_run passed)
      (trans_of (Extends Event.LeavesServices) writeQuiet updateQuiet)

/-- A reconcile of a primary that is up to date sends no update of a service. -/
theorem ensureLoadBalancer_leavesServices
    (provides : cluster.Provides clusterName service ip iface lb)
    (upToDate :
      ∀ current : LoadBalancer,
        current.status.address = ip →
        isPrimaryServiceUpdatedWithIP service current ip iface = true) :
    Extends Event.LeavesServices { cluster := cluster, ticks := [] }
      (l.ensureLoadBalancer clusterName service { cluster := cluster, ticks := [] }).2 := by
  obtain ⟨afterResolve, resolving⟩ :
      ∃ reached,
        resolveNetworkInterface service { cluster := cluster, ticks := [] } =
          (.ok iface, reached) :=
    ⟨_, Prod.ext provides.resolved rfl⟩
  obtain ⟨resolveCalm, sameCluster⟩ :=
    (resolveNetworkInterface_respects configMapGet_staysCalm service).of_run resolving rfl
  replace provides : afterResolve.cluster.Provides clusterName service ip iface lb := by
    rw [sameCluster]
    exact provides
  unfold LoadBalancerManager.ensureLoadBalancer
  rw [bind_run_of_ok resolving,
    bind_run_of_ok (getPrimaryService_run_of_unset provides.primary afterResolve)]
  exact trans_of (Extends Event.LeavesServices)
    ((leavesServices_of_observes (resolveNetworkInterface_observes service)).of_run
      resolving)
    (ensurePrimaryLoadBalancer_leavesServices resolveCalm provides upToDate)

end Calm

/--
The update of a primary reaches the fixed point that its check recognises: it
touches one label and two annotations, the updated object is recognised with
every load balancer that has taken the address over, and the next reconcile of
the updated object, with nothing else changed, sends no update of a service.
-/
structure Service.PrimaryUpdateSettles (service : Service) : Prop where
  agree :
    ∀ ip iface,
      Service.AgreeExcept [keyPrimaryService]
        [keyKubevipLoadBalancerIP, keyKubevipServiceInterface]
        (updatePrimaryServiceObject iface service ip "") service
  recognised :
    ∀ ip iface,
    ∀ lb : LoadBalancer,
      lb.status.address = ip →
      isPrimaryServiceUpdatedWithIP (updatePrimaryServiceObject iface service ip "") lb
        ip iface = true
  quiet :
    ∀ (l : LoadBalancerManager) (clusterName ip iface : String),
    ∀ (lb : LoadBalancer) (cluster : Cluster),
      cluster.Provides clusterName (updatePrimaryServiceObject iface service ip "")
        ip iface lb →
      ∀ event ∈
        (l.ensureLoadBalancer clusterName (updatePrimaryServiceObject iface service ip "")
          { cluster := cluster, ticks := [] }).2.events,
        event.LeavesServices

/-- The update of a primary settles exactly for the services with a label map. -/
theorem primaryUpdate_settles_iff (service : Service) :
    service.PrimaryUpdateSettles ↔ service.labels.isSome = true := by
  constructor
  · intro settles
    rw [← isPrimaryServiceUpdatedWithIP_update "" service "" ""
      (rfl : ({ ns := "", name := [] } : LoadBalancer).status.address = "")]
    exact settles.recognised "" "" _ rfl
  · intro labelled
    have recognised :
        ∀ ip iface,
        ∀ lb : LoadBalancer,
          lb.status.address = ip →
          isPrimaryServiceUpdatedWithIP (updatePrimaryServiceObject iface service ip "") lb
            ip iface = true := by
      intro ip iface lb address
      rw [isPrimaryServiceUpdatedWithIP_update iface service ip "" address]
      exact labelled
    refine
      { agree := fun ip iface => updatePrimaryServiceObject_agree iface service ip ""
        recognised := recognised
        quiet := ?_ }
    intro l clusterName ip iface lb cluster provides event member
    obtain ⟨events, ran, leaves⟩ :=
      @ensureLoadBalancer_leavesServices l _ _ _ _ _ _ provides (recognised ip iface)
    rw [ran.recorded, List.nil_append] at member
    exact leaves event member

/-- A service without labels, as a user creates it. -/
def unlabelledService : Service where
  ns := "default"
  name := "web"
  uid := "u1"

/-- The load balancer of this service, with its address allocated and published. -/
def publishedLB : LoadBalancer where
  ns := "default"
  name := unlabelledService.loadBalancerName "prod"
  annotations := NilableMap.write none annotationKeyNetworkOnLB ""
  status := { allocatedAddress := { ip := "10.0.0.9" }, address := "10.0.0.9" }

/-- The cluster after a first reconcile of this service. -/
def publishedCluster : Cluster where
  services :=
    ServiceStore.empty.insert
      (updatePrimaryServiceObject "" unlabelledService "10.0.0.9" "")
  loadBalancers := LoadBalancerStore.empty.put publishedLB

/-- A service without labels is never recognised, and each reconcile writes it again. -/
theorem primaryUpdate_rewrites_unlabelled :
    ¬ (∀ service : Service, service.PrimaryUpdateSettles) ∧
      publishedCluster.Provides "prod"
        (updatePrimaryServiceObject "" unlabelledService "10.0.0.9" "") "10.0.0.9" ""
        publishedLB ∧
      ((LoadBalancerManager.ensureLoadBalancer { ns := "default" } "prod"
          (updatePrimaryServiceObject "" unlabelledService "10.0.0.9" "")
          { cluster := publishedCluster, ticks := [] }).2.events.any fun event =>
        match event.request with
        | .updateService _ => true
        | _ => false) = true := by
  refine ⟨fun settles => ?_, ?_, by decide +kernel⟩
  · have recognised := (settles unlabelledService).recognised "10.0.0.9" "" publishedLB rfl
    have refused :
        isPrimaryServiceUpdatedWithIP
          (updatePrimaryServiceObject "" unlabelledService "10.0.0.9" "") publishedLB
            "10.0.0.9" "" = false := by
      decide +kernel
    rw [refused] at recognised
    cases recognised
  · exact
      { primary := by decide +kernel
        resolved := rfl
        stored := LoadBalancerStore.get?_put_self _ publishedLB
        isAllocated := by decide
        allocated := rfl
        address := rfl
        ingress := by simp [updatePrimaryServiceObject, unlabelledService] }

end HarvesterCloudProvider
