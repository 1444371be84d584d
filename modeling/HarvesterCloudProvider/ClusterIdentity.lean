import HarvesterCloudProvider.LoadBalancerRun
import HarvesterCloudProvider.MappingSync
import HarvesterCloudProvider.TextFields

namespace HarvesterCloudProvider

open LoadBalancerManager

/-!
# One cluster name on two paths

The value of `--cluster-name` reaches the program twice.  The configuration
keeps it without surrounding quotes and blanks, and the instance controller
selects the instances of the guest cluster by that name.  The framework keeps
the value as it was given and passes it to every load balancer call, where it
becomes part of the load balancer name, a label and an annotation.  The two
names are the same exactly when there was nothing to trim.
-/

section Names

/-- Quotes, backticks and white space around a cluster name are a slip. -/
def clusterNameCutset : String :=
  " \t\n\r\"'`"

/--
Clean the raw cluster name.  The warnings about a trimmed, empty, default or
malformed name are left out: none of them changes the returned name.
-/
def normalizeAndWarnClusterName (rawName : String) : String :=
  trim rawName clusterNameCutset

/-- The part of `SyncAndValidateHarvesterConfig` that sets the cluster name. -/
def Config.syncClusterName (cfg : Config) (rawClusterName : String) : Config :=
  { cfg with clusterName := normalizeAndWarnClusterName rawClusterName }

/-- A load balancer carries a cluster name in its name, label and annotation. -/
structure LoadBalancer.Carries
    (lb : LoadBalancer)
    (clusterName : String)
    (service : Service) :
    Prop where
  named : lb.name = service.loadBalancerName clusterName
  labelled : lb.labels.lookup lbClusterNameKey = some clusterName
  annotated : lb.annotations.lookup annotationKeyCluster = some clusterName

/-- The load balancer that a request writes. -/
def Request.writtenLB : Request → Option LoadBalancer
  | .createLoadBalancer lb => some lb
  | .updateLoadBalancer lb => some lb
  | _ => none

/-- The object of a write carries the cluster name of the call. -/
theorem View.Written.carries
    {view : View}
    {l : LoadBalancerManager}
    {clusterName : String}
    {service : Service}
    {request : Request}
    (written : view.Written l clusterName service request) :
    ∃ lb, request.writtenLB = some lb ∧ lb.Carries clusterName service := by
  cases written with
  | created missing =>
      refine ⟨_, rfl, ?_, ?_, ?_⟩
      · exact constructLB_name_of_none
      · exact constructLB_clusterLabelled _ _ _ _ _
      · exact constructLB_clusterAnnotated _ _ _ _ _
  | @updated lb stored sameName =>
      have named : lb.name ≠ [] := LoadBalancer.name_ne_nil sameName
      refine ⟨_, rfl, ?_, ?_, ?_⟩
      · exact (constructLB_name_of_some named).trans sameName
      · exact constructLB_clusterLabelled _ _ _ _ _
      · exact constructLB_clusterAnnotated _ _ _ _ _

/-- A removal writes no load balancer. -/
theorem View.Removed.writtenLB
    {view : View}
    {clusterName : String}
    {service : Service}
    {requests : List Request}
    (removed : view.Removed clusterName service requests)
    {request : Request}
    (member : request ∈ requests) :
    request.writtenLB = none := by
  cases removed with
  | absent missing =>
      cases member
  | deleted present =>
      obtain rfl := List.mem_singleton.mp member
      rfl

/-- Whatever load balancer a call writes carries the cluster name of the call. -/
theorem CallWrites.carries
    {l : LoadBalancerManager}
    {clusterName : String}
    {service : Service}
    {view : View}
    {requests : List Request}
    (call : CallWrites l clusterName service view requests)
    {request : Request}
    (member : request ∈ requests)
    {lb : LoadBalancer}
    (writesLB : request.writtenLB = some lb) :
    lb.Carries clusterName service := by
  have fromPut
      {put : Request}
      (written : view.Written l clusterName service put)
      (same : request = put) :
      lb.Carries clusterName service := by
    obtain ⟨found, foundLB, carries⟩ := written.carries
    rw [same, foundLB, Option.some.injEq] at writesLB
    exact writesLB ▸ carries
  cases call with
  | nothing =>
      cases member
  | put unset written =>
      exact fromPut written (List.mem_singleton.mp member)
  | withdrawn unset written unshared =>
      rcases List.mem_pair.mp member with same | rfl
      · exact fromPut written same
      · cases writesLB
  | putPublished unset written =>
      rcases List.mem_pair.mp member with same | rfl
      · exact fromPut written same
      · cases writesLB
  | removed unshared removed =>
      rw [removed.writtenLB member] at writesLB
      cases writesLB
  | removedPublished unshared removed =>
      rcases List.mem_append.mp member with deletion | publication
      · rw [removed.writtenLB deletion] at writesLB
        cases writesLB
      · obtain rfl := List.mem_singleton.mp publication
        cases writesLB

/-- Whatever load balancer a reconcile writes carries the name it was called with. -/
theorem ensureLoadBalancer_carries
    {l : LoadBalancerManager}
    {clusterName : String}
    {service : Service}
    {session final : Session}
    {answer : Except Err LoadBalancerStatus}
    (ran : l.ensureLoadBalancer clusterName service session = (answer, final))
    {events : List Event}
    (recorded : Ran session events final)
    {request : Request}
    (committed : request ∈ writes events)
    {lb : LoadBalancer}
    (writesLB : request.writtenLB = some lb) :
    lb.Carries clusterName service := by
  obtain ⟨outcomeEvents, outcomeRan, outcome⟩ := ensureLoadBalancer_outcome ran
  obtain rfl := recorded.unique outcomeRan
  exact outcome.callWrites.carries committed writesLB

end Names

section Identity

/--
Every load balancer carries the cluster name by which the instances of the
guest cluster are selected, and is admissible whenever that name is.

The framework calls `ensureLoadBalancer` with the raw name; the configuration
`cfg` was synchronised from the same raw name.
-/
structure OneClusterIdentity (rawClusterName : String) (cfg : Config) : Prop where
  selected :
    ∀ (h : Handler) (vmiCache : List VirtualMachineInstance),
      cfg.unidentified = false →
      h.syncNADMappingConfigMap cfg vmiCache =
        retryOnConflict
          (storeMappingValue
            (nadMappingValue (h.vmiCacheList rawClusterName vmiCache)))
  constructed :
    ∀ (ns : String) (service : Service),
      LoadBalancer.Carries
        (constructLB { ns := ns, config := cfg } none service
          (service.loadBalancerName rawClusterName) rawClusterName)
        cfg.clusterName service
  written :
    ∀ (ns : String) (service : Service) (session final : Session)
      (answer : Except Err LoadBalancerStatus) (events : List Event),
      ensureLoadBalancer { ns := ns, config := cfg } rawClusterName service session =
        (answer, final) →
      Ran session events final →
      ∀ request ∈ writes events,
        ∀ lb, request.writtenLB = some lb → lb.Carries cfg.clusterName service
  admissible :
    ∀ (ns : String) (service : Service) (oldLB : Option LoadBalancer),
      isDNS1123Label (bytesOf cfg.clusterName) = true →
      isDNS1123Label (bytesOf service.ns) = true →
      isDNS1123Label (bytesOf service.name) = true →
      isDNS1035Label (service.loadBalancerName rawClusterName) = true ∧
        ∃ value,
          NilableMap.lookup
            (constructLB { ns := ns, config := cfg } oldLB service
              (service.loadBalancerName rawClusterName) rawClusterName).labels
            lbClusterNameKey = some value ∧
          isValidLabelValue (bytesOf value) = true

/-- A DNS-1123 label is over the label alphabet. -/
theorem all_isLabelByte_of_isDNS1123Label
    {value : Bytes}
    (isLabel : isDNS1123Label value = true) :
    value.all isLabelByte = true := by
  simp only [isDNS1123Label, Bool.and_eq_true] at isLabel
  exact isLabel.1.2

/-- The two paths agree when the raw name is the configured one. -/
theorem oneClusterIdentity_of_eq
    {rawClusterName : String}
    {cfg : Config}
    (same : cfg.clusterName = rawClusterName) :
    OneClusterIdentity rawClusterName cfg where
  selected h vmiCache identified := by
    rw [Handler.syncNADMappingConfigMap, identified, same]
    rfl
  constructed ns service := by
    rw [same]
    refine ⟨constructLB_name_of_none, ?_, ?_⟩
    · exact constructLB_clusterLabelled _ _ _ _ _
    · exact constructLB_clusterAnnotated _ _ _ _ _
  written ns service session final answer events ran recorded request committed lb
      writesLB := by
    rw [same]
    exact ensureLoadBalancer_carries ran recorded committed writesLB
  admissible ns service oldLB clusterValid namespaceValid nameValid := by
    rw [same] at clusterValid
    refine ⟨?_, rawClusterName, constructLB_clusterLabelled _ _ _ _ _, ?_⟩
    · exact isDNS1035Label_loadBalancerName
        (all_isLabelByte_of_isDNS1123Label clusterValid)
        (all_isLabelByte_of_isDNS1123Label namespaceValid)
        (all_isLabelByte_of_isDNS1123Label nameValid) _
    · exact isValidLabelValue_of_isDNS1123Label clusterValid

/--
The load balancers carry the cluster name of the instance selection exactly
when the raw cluster name has no quote, backtick or blank at its ends.
-/
theorem oneClusterIdentity_iff (rawClusterName : String) (cfg : Config) :
    OneClusterIdentity rawClusterName (cfg.syncClusterName rawClusterName) ↔
      EndsOutside clusterNameCutset rawClusterName := by
  rw [← trim_eq_self_iff]
  constructor
  · intro identity
    have carried := (identity.constructed "" { ns := "", name := "", uid := "" }).annotated
    rw [constructLB_clusterAnnotated, Option.some.injEq] at carried
    exact carried.symm
  · intro untouched
    exact oneClusterIdentity_of_eq untouched

/-- A quoted name is trimmed for the selection and kept for the load balancers. -/
theorem quotedName_has_two_identities :
    ¬ OneClusterIdentity "\"prod\"" (Config.syncClusterName {} "\"prod\"") := by
  intro identity
  have valid := identity.admissible "default"
    { ns := "default", name := "web", uid := "1" } none
    (by decide +kernel) (by decide +kernel) (by decide +kernel)
  have malformed :
      isDNS1035Label
        (Service.loadBalancerName { ns := "default", name := "web", uid := "1" }
          "\"prod\"") = false := by
    decide +kernel
  rw [malformed] at valid
  exact Bool.noConfusion valid.1

end Identity

end HarvesterCloudProvider
