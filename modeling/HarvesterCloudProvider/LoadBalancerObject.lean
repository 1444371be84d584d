import HarvesterCloudProvider.LoadBalancerManager

namespace HarvesterCloudProvider

/-!
# The objects that a reconcile writes

What `constructLB` keeps of an existing object and what it takes from the
service: the name never changes, the two network annotations are taken from
the service for a new object only, and the address is the first ingress
address of the service once it has one.  What the two service updates keep:
identity, ports and the primary-service annotation.
-/

open LoadBalancerManager

/-- The network a service asks for. -/
def Service.network (service : Service) : String :=
  service.annotations.read keyNetwork

/-- The network recorded on a load balancer when it was created. -/
def LoadBalancer.recordedNetwork (lb : LoadBalancer) : String :=
  lb.annotations.read annotationKeyNetworkOnLB

/-- The network a load balancer asks the Harvester cluster for. -/
def LoadBalancer.requestedNetwork (lb : LoadBalancer) : String :=
  lb.annotations.read annotationKeyNetwork

@[simp] theorem Service.network_content (service : Service) :
    service.content.network = service.network :=
  rfl

@[simp] theorem LoadBalancer.recordedNetwork_content (lb : LoadBalancer) :
    lb.content.recordedNetwork = lb.recordedNetwork :=
  rfl

@[simp] theorem LoadBalancer.requestedNetwork_content (lb : LoadBalancer) :
    lb.content.requestedNetwork = lb.requestedNetwork :=
  rfl

@[simp] theorem LoadBalancer.name_content (lb : LoadBalancer) :
    lb.content.name = lb.name :=
  rfl

/-- No service has an empty load balancer name. -/
theorem Service.loadBalancerName_ne_nil
    (service : Service)
    (clusterName : String) :
    service.loadBalancerName clusterName ≠ [] :=
  HarvesterCloudProvider.loadBalancerName_ne_nil _ _ _ _

/-- The load balancer of a service is named. -/
theorem LoadBalancer.name_ne_nil
    {lb : LoadBalancer}
    {service : Service}
    {clusterName : String}
    (sameName : lb.name = service.loadBalancerName clusterName) :
    lb.name ≠ [] := by
  rw [sameName]
  exact service.loadBalancerName_ne_nil clusterName

/-- The global patch touches the management network annotation only. -/
theorem patchLB_lookup
    (cfg : Config)
    (lb : LoadBalancer)
    {key : String}
    (different : key ≠ annotationKeyGuestClusterManagementNetworkOnLB) :
    (patchLB cfg lb).annotations.lookup key = lb.annotations.lookup key := by
  have unchanged : NilableMap.lookup (some (lb.annotations.getD ∅)) key =
      lb.annotations.lookup key := by
    cases lb.annotations with
    | none =>
        simp
    | some entries =>
        rfl
  unfold patchLB
  dsimp only
  split
  · split
    · rw [NilableMap.lookup_write_of_ne _ different, unchanged]
    · rw [NilableMap.lookup_remove_of_ne _ different, unchanged]
  · rw [NilableMap.lookup_remove_of_ne _ different, unchanged]

theorem patchLB_name (cfg : Config) (lb : LoadBalancer) :
    (patchLB cfg lb).name = lb.name := by
  unfold patchLB
  dsimp only
  repeat' split
  all_goals rfl

theorem patchLB_labels (cfg : Config) (lb : LoadBalancer) :
    (patchLB cfg lb).labels = lb.labels := by
  unfold patchLB
  dsimp only
  repeat' split
  all_goals rfl

theorem patchLB_status (cfg : Config) (lb : LoadBalancer) :
    (patchLB cfg lb).status = lb.status := by
  unfold patchLB
  dsimp only
  repeat' split
  all_goals rfl

section Construction

variable (l : LoadBalancerManager)
variable (service : Service)
variable (name : LBName)
variable (clusterName : String)

/-- The written object has the name that reconciling started from. -/
theorem constructLB_name (oldLB : Option LoadBalancer) :
    (l.constructLB oldLB service name clusterName).name =
      (l.startingLB oldLB name).name := by
  unfold constructLB
  dsimp only
  split <;> exact patchLB_name _ _

/-- The address is copied from the first ingress entry, if there is one. -/
theorem constructLB_address (oldLB : Option LoadBalancer) :
    (l.constructLB oldLB service name clusterName).status.address =
      match service.loadBalancer.ingress with
      | [] => (l.startingLB oldLB name).status.address
      | first :: _ => first.ip := by
  unfold constructLB
  cases service.loadBalancer.ingress with
  | nil =>
      dsimp only
      rw [patchLB_status]
  | cons first rest =>
      rfl

/-- Annotations other than the patched one come from the construction. -/
theorem constructLB_lookup
    (oldLB : Option LoadBalancer)
    {key : String}
    (different : key ≠ annotationKeyGuestClusterManagementNetworkOnLB) :
    (l.constructLB oldLB service name clusterName).annotations.lookup key =
      (constructAnnotations oldLB (l.startingLB oldLB name).annotations service
        clusterName).lookup key := by
  unfold constructLB
  dsimp only
  split <;> exact patchLB_lookup _ _ different

theorem constructLB_read
    (oldLB : Option LoadBalancer)
    {key : String}
    (different : key ≠ annotationKeyGuestClusterManagementNetworkOnLB) :
    (l.constructLB oldLB service name clusterName).annotations.read key =
      (constructAnnotations oldLB (l.startingLB oldLB name).annotations service
        clusterName).read key := by
  rw [NilableMap.read, constructLB_lookup l service name clusterName oldLB different,
    NilableMap.read]

/-- Every written object is annotated with the cluster name of the call. -/
theorem constructLB_clusterAnnotated (oldLB : Option LoadBalancer) :
    (l.constructLB oldLB service name clusterName).annotations.lookup
      annotationKeyCluster = some clusterName := by
  rw [constructLB_lookup _ _ _ _ _ (by decide)]
  exact NilableMap.lookup_write_self _ _ _

/-- Every written object is labelled with the cluster name of the call. -/
theorem constructLB_clusterLabelled (oldLB : Option LoadBalancer) :
    (l.constructLB oldLB service name clusterName).labels.lookup
      lbClusterNameKey = some clusterName := by
  unfold constructLB
  dsimp only
  split <;>
    · dsimp only
      rw [patchLB_labels, NilableMap.lookup_write_of_ne _ (by decide),
        NilableMap.lookup_write_of_ne _ (by decide), NilableMap.lookup_write_self]

/-- The other annotations of a construction leave the network ones alone. -/
theorem constructAnnotations_read
    (oldLB : Option LoadBalancer)
    (starting : StringMap)
    {key : String}
    (notProject : key ≠ annotationKeyProject)
    (notNamespace : key ≠ annotationKeyNamespace)
    (notCluster : key ≠ annotationKeyCluster) :
    (constructAnnotations oldLB starting service clusterName).read key =
      (if isMissing oldLB then
        (starting.write annotationKeyNetwork service.network).write
          annotationKeyNetworkOnLB service.network
      else
        starting).read key := by
  unfold constructAnnotations
  rw [NilableMap.read_write_of_ne _ notCluster,
    NilableMap.read_write_of_ne _ notNamespace,
    NilableMap.read_write_of_ne _ notProject]
  rfl

/-- A new object takes both networks from the service. -/
theorem constructLB_network_of_none :
    (l.constructLB none service name clusterName).recordedNetwork =
        service.network ∧
      (l.constructLB none service name clusterName).requestedNetwork =
        service.network := by
  constructor
  · rw [LoadBalancer.recordedNetwork, constructLB_read _ _ _ _ _ (by decide),
      constructAnnotations_read _ _ _ _ (by decide) (by decide) (by decide)]
    exact NilableMap.read_write_self _ _ _
  · rw [LoadBalancer.requestedNetwork, constructLB_read _ _ _ _ _ (by decide),
      constructAnnotations_read _ _ _ _ (by decide) (by decide) (by decide)]
    refine (NilableMap.read_write_of_ne _ (by decide) _).trans ?_
    exact NilableMap.read_write_self _ _ _

variable {l service name clusterName}

theorem startingLB_of_named
    {lb : LoadBalancer}
    (named : lb.name ≠ []) :
    l.startingLB (some lb) name = lb := by
  simp [startingLB, named]

theorem constructLB_name_of_none :
    (l.constructLB none service name clusterName).name = name :=
  constructLB_name l service name clusterName none

theorem constructLB_name_of_some
    {lb : LoadBalancer}
    (named : lb.name ≠ []) :
    (l.constructLB (some lb) service name clusterName).name = lb.name := by
  rw [constructLB_name, startingLB_of_named named]

/-- An existing object keeps both networks. -/
theorem constructLB_network_of_some
    {lb : LoadBalancer}
    (named : lb.name ≠ []) :
    (l.constructLB (some lb) service name clusterName).recordedNetwork =
        lb.recordedNetwork ∧
      (l.constructLB (some lb) service name clusterName).requestedNetwork =
        lb.requestedNetwork := by
  have present : isMissing (some lb) = false := by
    simp [isMissing, named]
  constructor
  · rw [LoadBalancer.recordedNetwork, constructLB_read _ _ _ _ _ (by decide),
      constructAnnotations_read _ _ _ _ (by decide) (by decide) (by decide),
      present, startingLB_of_named named]
    rfl
  · rw [LoadBalancer.requestedNetwork, constructLB_read _ _ _ _ _ (by decide),
      constructAnnotations_read _ _ _ _ (by decide) (by decide) (by decide),
      present, startingLB_of_named named]
    rfl

end Construction

section ServiceUpdates

variable (iface ip label : String)
variable (primary current : Service)

/-- A written primary does not carry the label of another primary any more. -/
theorem updatePrimaryServiceObject_label :
    (updatePrimaryServiceObject iface current ip label).labels.read
      keyPrimaryService = "" := by
  unfold updatePrimaryServiceObject
  dsimp only
  split
  · exact NilableMap.read_write_self _ _ _
  · rename_i cleared
    exact not_not.mp cleared

/-- Writing a primary leaves its primary-service annotation alone. -/
theorem updatePrimaryServiceObject_annotated :
    (updatePrimaryServiceObject iface current ip label).annotations.lookup
      keyPrimaryService = current.annotations.lookup keyPrimaryService := by
  unfold updatePrimaryServiceObject
  dsimp only
  split
  · rw [NilableMap.lookup_write_of_ne _ (by decide),
      NilableMap.lookup_write_of_ne _ (by decide)]
  · rw [NilableMap.lookup_write_of_ne _ (by decide)]

/-- A written secondary carries the label. -/
theorem updateSecondaryServiceObject_label :
    (updateSecondaryServiceObject primary current ip label).labels.lookup
      keyPrimaryService = some label :=
  NilableMap.lookup_write_self _ _ _

/-- Writing a secondary leaves its primary-service annotation alone. -/
theorem updateSecondaryServiceObject_annotated :
    (updateSecondaryServiceObject primary current ip label).annotations.lookup
      keyPrimaryService = current.annotations.lookup keyPrimaryService := by
  unfold updateSecondaryServiceObject
  dsimp only
  rw [NilableMap.lookup_remove_of_ne _ (by decide),
    NilableMap.lookup_remove_of_ne _ (by decide)]
  split
  · rw [NilableMap.lookup_write_of_ne _ (by decide),
      NilableMap.lookup_write_of_ne _ (by decide)]
  · rw [NilableMap.lookup_write_of_ne _ (by decide)]

/-- A written secondary has the network of the primary, if that has one. -/
theorem updateSecondaryServiceObject_network :
    (updateSecondaryServiceObject primary current ip label).network =
      if primary.network = "" then current.network else primary.network := by
  unfold updateSecondaryServiceObject Service.network
  dsimp only
  rw [NilableMap.read_remove_of_ne _ (by decide),
    NilableMap.read_remove_of_ne _ (by decide)]
  by_cases unset : primary.annotations.read keyNetwork = ""
  · rw [if_neg (by simp [unset, hasNetworkAnnotation]), if_pos unset,
      NilableMap.read_write_of_ne _ (by decide)]
  · rw [if_pos (by simp [unset, hasNetworkAnnotation]), if_neg unset,
      NilableMap.read_write_self]

end ServiceUpdates

end HarvesterCloudProvider
