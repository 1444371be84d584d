import HarvesterCloudProvider.LoadBalancerObject

namespace HarvesterCloudProvider

open LoadBalancerManager

/-!
# What `constructLB` manages

`constructLB` and `patchLB` write some annotations and labels, two fields of the
spec and the address.  Everything else on an existing load balancer belongs to
the Harvester controller or to a user and stays.  Building the object from its
own result changes nothing, so a reconcile with nothing new to say sends back
what is stored.
-/

/-- The annotations that every reconcile writes or drops. -/
def managedAnnotationKeys : List String :=
  [annotationKeyProject, annotationKeyNamespace, annotationKeyCluster,
    annotationKeyGuestClusterManagementNetworkOnLB]

/-- The labels that every reconcile writes. -/
def managedLabelKeys : List String :=
  [lbClusterNameKey, lbServiceNamespaceKey, lbServiceNameKey]

/-- What an existing load balancer keeps, and the address it gets. -/
structure LoadBalancer.KeepsUnmanaged (service : Service) (result lb : LoadBalancer) :
    Prop where
  apiVersion : result.apiVersion = lb.apiVersion
  ns : result.ns = lb.ns
  name : result.name = lb.name
  resourceVersion : result.resourceVersion = lb.resourceVersion
  requestedNetwork :
    result.annotations.lookup annotationKeyNetwork =
      lb.annotations.lookup annotationKeyNetwork
  recordedNetwork :
    result.annotations.lookup annotationKeyNetworkOnLB =
      lb.annotations.lookup annotationKeyNetworkOnLB
  annotations :
    ∀ key,
      key ∉ managedAnnotationKeys →
      result.annotations.lookup key = lb.annotations.lookup key
  labels :
    ∀ key,
      key ∉ managedLabelKeys →
      result.labels.lookup key = lb.labels.lookup key
  spec :
    { result.spec with
      ipam := lb.spec.ipam
      workloadType := lb.spec.workloadType } = lb.spec
  status : { result.status with address := lb.status.address } = lb.status
  address :
    result.status.address =
      match service.loadBalancer.ingress with
      | [] => lb.status.address
      | first :: _ => first.ip

section Patching

/-- The management network annotation that a configuration asks for. -/
def Config.managementAnnotated (cfg : Config) : Option String :=
  cfg.getManagementNetwork.bind fun mgmt =>
    (normalizeNetworkName networkTypeManagement mgmt).toOption

variable (cfg : Config)
variable (lb : LoadBalancer)

theorem patchLB_isSome : (patchLB cfg lb).annotations.isSome = true := by
  unfold patchLB
  dsimp only
  repeat' split
  all_goals rfl

/-- Patching sets the management network annotation or drops it. -/
theorem patchLB_lookup_self :
    (patchLB cfg lb).annotations.lookup annotationKeyGuestClusterManagementNetworkOnLB =
      cfg.managementAnnotated := by
  unfold patchLB Config.managementAnnotated
  dsimp only
  split
  · rename_i mgmt configured
    rw [configured, Option.bind_some]
    split
    · rename_i target normalized
      rw [normalized, NilableMap.lookup_write_self]
      rfl
    · rename_i error refused
      rw [refused, NilableMap.lookup_remove_self]
      rfl
  · rename_i unset
    rw [unset, NilableMap.lookup_remove_self]
    rfl

/-- Patching changes the annotations only. -/
theorem patchLB_eq :
    patchLB cfg lb = { lb with annotations := (patchLB cfg lb).annotations } := by
  unfold patchLB
  dsimp only
  repeat' split
  all_goals rfl

end Patching

section Constructing

variable (l : LoadBalancerManager)
variable (oldLB : Option LoadBalancer)
variable (service : Service)
variable (name : LBName)
variable (clusterName : String)

/-- The constructed object, field by field. -/
theorem constructLB_eq :
    l.constructLB oldLB service name clusterName =
      { l.startingLB oldLB name with
        annotations := (l.constructLB oldLB service name clusterName).annotations
        labels :=
          (((l.startingLB oldLB name).labels.write lbClusterNameKey clusterName).write
            lbServiceNamespaceKey service.ns).write lbServiceNameKey service.name
        spec :=
          { (l.startingLB oldLB name).spec with
            ipam := (service.annotations.lookup keyIPAM).getD "pool"
            workloadType := "cluster" }
        status :=
          { (l.startingLB oldLB name).status with
            address :=
              match service.loadBalancer.ingress with
              | [] => (l.startingLB oldLB name).status.address
              | first :: _ => first.ip } } := by
  unfold constructLB
  dsimp only
  rw [patchLB_eq]
  cases service.loadBalancer.ingress with
  | nil =>
      rfl
  | cons first rest =>
      rfl

theorem constructLB_annotations_isSome :
    (l.constructLB oldLB service name clusterName).annotations.isSome = true := by
  unfold constructLB
  dsimp only
  split <;> exact patchLB_isSome _ _

/-- The annotations of a constructed object, key by key. -/
theorem constructLB_annotations_lookup (key : String) :
    (l.constructLB oldLB service name clusterName).annotations.lookup key =
      if key = annotationKeyGuestClusterManagementNetworkOnLB then
        l.config.managementAnnotated
      else if key = annotationKeyCluster then
        some clusterName
      else if key = annotationKeyNamespace then
        some (service.annotations.read keyNamespace)
      else if key = annotationKeyProject then
        some (service.annotations.read keyProject)
      else if isMissing oldLB = true ∧
          (key = annotationKeyNetworkOnLB ∨ key = annotationKeyNetwork) then
        some service.network
      else
        (l.startingLB oldLB name).annotations.lookup key := by
  split
  · rename_i managed
    subst managed
    unfold constructLB
    dsimp only
    split <;> exact patchLB_lookup_self _ _
  · rename_i unpatched
    rw [constructLB_lookup l service name clusterName oldLB unpatched]
    unfold constructAnnotations Service.network
    by_cases missing : isMissing oldLB = true
    · simp only [missing, NilableMap.lookup_write, ↓reduceIte, true_and]
      by_cases onLB : key = annotationKeyNetworkOnLB
      · simp only [onLB, ↓reduceIte, true_or]
      · simp only [onLB, ↓reduceIte, false_or]
    · simp only [missing, NilableMap.lookup_write, Bool.false_eq_true, ↓reduceIte, false_and]

/-- The labels of a constructed object, key by key. -/
theorem constructLB_labels_lookup (key : String) :
    (l.constructLB oldLB service name clusterName).labels.lookup key =
      if key = lbServiceNameKey then
        some service.name
      else if key = lbServiceNamespaceKey then
        some service.ns
      else if key = lbClusterNameKey then
        some clusterName
      else
        (l.startingLB oldLB name).labels.lookup key := by
  rw [constructLB_eq]
  simp only [NilableMap.lookup_write]

variable {l oldLB service name clusterName}

/-- An object under construction always has a name. -/
theorem constructLB_name_ne_nil (named : name ≠ []) :
    (l.constructLB oldLB service name clusterName).name ≠ [] := by
  rw [constructLB_name]
  unfold startingLB
  split
  · split
    · exact named
    · rename_i present
      exact present
  · exact named

/-- Constructing from a constructed object gives the same object. -/
theorem constructLB_constructLB (named : name ≠ []) :
    l.constructLB (some (l.constructLB oldLB service name clusterName)) service name
        clusterName =
      l.constructLB oldLB service name clusterName := by
  have present := @constructLB_name_ne_nil l oldLB service name clusterName named
  have starting : l.startingLB (some (l.constructLB oldLB service name clusterName)) name =
      l.constructLB oldLB service name clusterName :=
    startingLB_of_named present
  have found : isMissing (some (l.constructLB oldLB service name clusterName)) = false := by
    simp [isMissing, present]
  have sameAnnotations :=
    NilableMap.eq_of_lookup_of_isSome
      (constructLB_annotations_isSome l
        (some (l.constructLB oldLB service name clusterName)) service name clusterName)
      (constructLB_annotations_isSome l oldLB service name clusterName) fun key => by
        rw [constructLB_annotations_lookup, starting, found]
        simp only [Bool.false_eq_true, false_and, if_false]
        rw [constructLB_annotations_lookup]
        repeat' split
        all_goals rfl
  have sameLabels :
      (((l.constructLB oldLB service name clusterName).labels.write lbClusterNameKey
        clusterName).write lbServiceNamespaceKey service.ns).write lbServiceNameKey
          service.name =
        (l.constructLB oldLB service name clusterName).labels := by
    refine NilableMap.eq_of_lookup_of_isSome rfl ?_ fun key => ?_
    · rw [constructLB_eq]
      rfl
    · simp only [NilableMap.lookup_write, constructLB_labels_lookup]
      repeat' split
      all_goals rfl
  have sameSpec :
      { (l.constructLB oldLB service name clusterName).spec with
        ipam := (service.annotations.lookup keyIPAM).getD "pool"
        workloadType := "cluster" } =
        (l.constructLB oldLB service name clusterName).spec := by
    rw [constructLB_eq]
  have sameStatus :
      { (l.constructLB oldLB service name clusterName).status with
        address :=
          match service.loadBalancer.ingress with
          | [] => (l.constructLB oldLB service name clusterName).status.address
          | first :: _ => first.ip } =
        (l.constructLB oldLB service name clusterName).status := by
    rw [constructLB_eq]
    cases service.loadBalancer.ingress <;> rfl
  rw [constructLB_eq l (some (l.constructLB oldLB service name clusterName)), starting,
    sameAnnotations, sameLabels, sameSpec, sameStatus]

/-- An existing object keeps everything that is not managed. -/
theorem constructLB_keepsUnmanaged
    {lb : LoadBalancer}
    (present : lb.name ≠ []) :
    (l.constructLB (some lb) service name clusterName).KeepsUnmanaged service lb := by
  have starting : l.startingLB (some lb) name = lb := startingLB_of_named present
  have found : isMissing (some lb) = false := by
    simp [isMissing, present]
  have annotations :
      ∀ key,
        key ∉ managedAnnotationKeys →
        (l.constructLB (some lb) service name clusterName).annotations.lookup key =
          lb.annotations.lookup key := by
    intro key outside
    simp only [managedAnnotationKeys, List.mem_cons, List.not_mem_nil, or_false,
      not_or] at outside
    obtain ⟨notProject, notNamespace, notCluster, notManagement⟩ := outside
    simp [constructLB_annotations_lookup, starting, found, notProject, notNamespace,
      notCluster, notManagement]
  have shape := constructLB_eq l (some lb) service name clusterName
  rw [starting] at shape
  refine
    { apiVersion := by rw [shape]
      ns := by rw [shape]
      name := by rw [shape]
      resourceVersion := by rw [shape]
      requestedNetwork := annotations _ (by decide +kernel)
      recordedNetwork := annotations _ (by decide +kernel)
      annotations := annotations
      labels := ?_
      spec := by rw [shape]
      status := by rw [shape]
      address := by rw [shape] }
  intro key outside
  simp only [managedLabelKeys, List.mem_cons, List.not_mem_nil, or_false, not_or] at outside
  obtain ⟨notCluster, notNamespace, notName⟩ := outside
  simp [constructLB_labels_lookup, starting, notCluster, notNamespace, notName]

/--
`constructLB` applied to its own result returns that result, and on an existing
load balancer it touches only what it manages.
-/
theorem constructLB_idempotent
    (l : LoadBalancerManager)
    (oldLB : Option LoadBalancer)
    (service : Service)
    (name : LBName)
    (named : name ≠ [])
    (clusterName : String) :
    l.constructLB (some (l.constructLB oldLB service name clusterName)) service name
          clusterName =
        l.constructLB oldLB service name clusterName ∧
      ∀ lb,
        oldLB = some lb →
        lb.name ≠ [] →
          (l.constructLB oldLB service name clusterName).KeepsUnmanaged service lb := by
  refine ⟨constructLB_constructLB named, ?_⟩
  rintro lb rfl present
  exact constructLB_keepsUnmanaged present

/-- A stored load balancer with annotations, labels and a status of others. -/
def ownedLB : LoadBalancer where
  ns := "default"
  name := [97]
  annotations := NilableMap.write none "example.com/owner" "team-a"
  status := { allocatedAddress := { ip := "10.0.0.9" } }

theorem ownedLB_keeps_owner :
    (constructLB { ns := "default" } (some ownedLB)
        { ns := "default", name := "web", uid := "u1" } [97] "prod").annotations.lookup
        "example.com/owner" = some "team-a" ∧
      (constructLB { ns := "default" } (some ownedLB)
        { ns := "default", name := "web", uid := "u1" } [97]
          "prod").status.allocatedAddress.ip = "10.0.0.9" := by
  have keeps := (constructLB_idempotent { ns := "default" } (some ownedLB)
    { ns := "default", name := "web", uid := "u1" } [97] (by decide) "prod").2 ownedLB rfl
      (by decide)
  constructor
  · rw [keeps.annotations _ (by decide +kernel)]
    decide +kernel
  · exact congrArg (fun status : LoadBalancerObserved => status.allocatedAddress.ip)
      keeps.status

end Constructing

end HarvesterCloudProvider
