import HarvesterCloudProvider.NodeTopology

namespace HarvesterCloudProvider

open Program

/-!
# When the topology of a node comes to rest

The instance controller and the cloud node controller at work on one guest
cluster.  Their steps on a node are those of the abstract model, so that its
answer carries over: two rounds without failing node requests are enough where
it says so, and no number of rounds is enough elsewhere.  A node at rest stays
so, whatever fails and whatever happens to other instances and nodes.
-/

section System

/-- What the instance controller does not look at in a node. -/
structure NodeStatus where
  providerID : String := ""
  addresses : List StatusAddress := []

/-- The guest cluster, the memory of the instance controller and the node status. -/
structure NodeSystem where
  controller : Controller
  status : String → NodeStatus := fun _ => {}

namespace NodeSystem

/-- A node of the cluster with its status. -/
def cloudNode (system : NodeSystem) (node : GuestNode) : CloudNode :=
  { node with
    providerID := (system.status node.name).providerID
    addresses := (system.status node.name).addresses }

/-- Replace the guest cluster. -/
def withGuest (system : NodeSystem) (guest : GuestCluster) : NodeSystem :=
  { system with controller := { system.controller with guest := guest } }

/-- Replace a node and its status. -/
def store (system : NodeSystem) (node : CloudNode) : NodeSystem where
  controller :=
    { system.controller with
      guest :=
        { system.controller.guest with
          nodes := system.controller.guest.nodes.put node.toGuestNode } }
  status :=
    Function.update system.status node.name
      { providerID := node.providerID, addresses := node.addresses }

/-- One request about a node that has to be there. -/
def nodeRequest
    {Answer : Type}
    (name : String)
    (serve : CloudNode → NodeSystem → Except Err Answer × NodeSystem) :
    Program NodeSystem Err Answer :=
  fun system =>
    let later := system.withGuest system.controller.guest.answered
    match system.controller.guest.nodeFailures.headD none with
    | some failure => (.error failure.toErr, later)
    | none =>
        match later.controller.guest.nodes.get? name with
        | none => (.error (notFound "nodes" name), later)
        | some node => serve (later.cloudNode node) later

def getNode (name : String) : Program NodeSystem Err CloudNode :=
  nodeRequest name fun node system => (.ok node, system)

/-- Change a stored node. -/
def changeNode
    (name : String)
    (change : CloudNode → CloudNode) :
    Program NodeSystem Err Unit :=
  nodeRequest name fun node system => (.ok (), system.store (change node))

/-- `PatchNodeStatus` from a copy, unless the server refuses what it makes of the patch. -/
def patchAddresses
    (admits : List StatusAddress → Bool)
    (copy : CloudNode)
    (addresses : List StatusAddress) :
    Program NodeSystem Err Unit :=
  nodeRequest copy.name fun node system =>
    let patched := patchedAddresses copy.addresses addresses node.addresses
    if admits patched then
      (.ok (), system.store { node with addresses := patched })
    else
      (.error (invalidNode copy.name), system)

/--
One call at a time: an update conflicts only where a request fails with a conflict,
and reads show the stored nodes.  Which addresses the server takes is given.
-/
def clusterApi (admits : List StatusAddress → Bool) : NodeApi NodeSystem where
  listerGet := getNode
  get := getNode
  update node := changeNode node.name fun _ => node
  patchStatus := patchAddresses admits
  patchLabels name updates :=
    changeNode name fun node => { node with labels := patchedLabels node.labels updates }

end NodeSystem

/-- The two controllers, the clients of the instance manager and the server. -/
structure Deployment where
  h : Handler
  cfg : Config
  vmClient : VMClient
  vmiClient : VMIClient
  /-- Whether the server takes addresses as those of a node. -/
  admitsAddresses : List StatusAddress → Bool := fun addresses => addresses.Nodup

/-- What happens to the nodes. -/
inductive NodeStep where
  /-- The instance controller handles an event. -/
  | vmiChanged (event : VmiEvent)
  /-- The cloud node controller looks at a node. -/
  | nodeSynced (name : String) (nodeFailures : List (Option Failure))

/-- The instance manager with what the instance controller has recorded. -/
def Deployment.instances (deployment : Deployment) (system : NodeSystem) : InstanceManager where
  vmClient := deployment.vmClient
  vmiClient := deployment.vmiClient
  nodeToVMName := system.controller.nodeToVMName

/-- The effect of one step. -/
def NodeSystem.advance
    (deployment : Deployment)
    (system : NodeSystem) :
    NodeStep → NodeSystem
  | .vmiChanged event =>
      { system with
        controller := system.controller.advance deployment.h deployment.cfg (.vmiChanged event) }
  | .nodeSynced name nodeFailures =>
      (syncNode (clusterApi deployment.admitsAddresses)
        ((deployment.instances system).instanceMetadata deployment.cfg) name
        (system.withGuest
          { system.controller.guest with nodeFailures := nodeFailures })).2

end System

section Quiet

/-- The coming node requests do not fail on their own. -/
def NodeSystem.Quiet (system : NodeSystem) : Prop :=
  system.controller.guest.nodeFailures = []

/-- No request fails on its own, and a node is stored under a name. -/
structure NodeSystem.Holds
    (system : NodeSystem)
    (name : String)
    (node : GuestNode) :
    Prop where
  quiet : system.Quiet
  stored : system.controller.guest.nodes.get? name = some node

namespace NodeSystem

variable {admits : List StatusAddress → Bool}
variable {system : NodeSystem}
variable {name : String}
variable {node : GuestNode}

theorem Holds.nodeRequest
    {Answer : Type}
    (holds : system.Holds name node)
    (serve : CloudNode → NodeSystem → Except Err Answer × NodeSystem) :
    nodeRequest name serve system = serve (system.cloudNode node) system := by
  have noFailures : system.controller.guest.nodeFailures = [] := holds.quiet
  have answered : system.controller.guest.answered = system.controller.guest := by
    unfold GuestCluster.answered
    rw [noFailures, List.tail_nil, ← noFailures]
  have same : system.withGuest system.controller.guest = system := rfl
  unfold NodeSystem.nodeRequest
  simp only [answered, same, noFailures, holds.stored, List.headD_nil]

theorem Holds.getNode (holds : system.Holds name node) :
    getNode name system = (.ok (system.cloudNode node), system) :=
  holds.nodeRequest _

theorem Holds.changeNode
    (holds : system.Holds name node)
    {change : CloudNode → CloudNode}
    (keepsName : (change (system.cloudNode node)).name = name) :
    ∃ reached,
      changeNode name change system = (.ok (), reached) ∧
        reached.Holds name (change (system.cloudNode node)).toGuestNode := by
  refine ⟨_, holds.nodeRequest _, holds.quiet, ?_⟩
  dsimp only [store]
  rw [NodeStore.get?_put, if_pos keepsName.symm]

/-- A patch of the addresses is taken or refused. -/
theorem Holds.patchAddresses
    (holds : system.Holds name node)
    {copy : CloudNode}
    (named : copy.name = name)
    (addresses : List StatusAddress) :
    (NodeSystem.patchAddresses admits copy addresses system).2 =
      if admits
          (patchedAddresses copy.addresses addresses (system.status name).addresses) then
        system.store
          { system.cloudNode node with
            addresses :=
              patchedAddresses copy.addresses addresses (system.status name).addresses }
      else
        system := by
  have sameName : node.name = name := system.controller.guest.nodes.named holds.stored
  unfold NodeSystem.patchAddresses
  rw [named, holds.nodeRequest]
  dsimp only [cloudNode]
  rw [sameName]
  split <;> rfl

/-- Publishing addresses changes nothing that the controllers compare. -/
theorem Holds.updateNodeAddress
    (holds : system.Holds name node)
    {published : CloudNode}
    (named : published.name = name)
    (metadata : InstanceMetadata) :
    ∃ reached,
      updateNodeAddress (clusterApi admits) published metadata system = (.ok (), reached) ∧
        reached.Holds name node := by
  unfold HarvesterCloudProvider.updateNodeAddress
  cases addressesToPublish published metadata with
  | none =>
      exact ⟨system, rfl, holds⟩
  | some addresses =>
      have keepsName : node.name = name := system.controller.guest.nodes.named holds.stored
      refine ⟨(NodeSystem.patchAddresses admits published addresses system).2, ?_, ?_⟩
      · dsimp only
        rw [attempt_bind_run]
        rfl
      · rw [holds.patchAddresses named]
        split
        · refine ⟨holds.quiet, ?_⟩
          dsimp only [store]
          exact (NodeStore.get?_put _ _ _).trans (if_pos keepsName.symm)
        · exact holds

/-- Initialising a node. -/
theorem Holds.initialize
    (holds : system.Holds name node)
    {first : CloudNode}
    {metadata : InstanceMetadata}
    {nodeModifiers : List (CloudNode → CloudNode)}
    (made : getNodeModifiersFromCloudProvider first metadata = .ok nodeModifiers)
    (retries : Nat) :
    ∃ reached,
      retryWhile Err.isConflict
          (initializeOnce (clusterApi admits) name (nodeModifiers ++ [CloudNode.untainted])
            metadata)
          retries system = (.ok (), reached) ∧
        reached.Holds name (node.initialized metadata) := by
  have named : node.name = name := system.controller.guest.nodes.named holds.stored
  let initialized :=
    metadata.initialized (first.takesProviderID metadata) (system.cloudNode node)
  obtain ⟨updated, sent, after⟩ :=
    @Holds.changeNode _ _ _ holds (fun _ => initialized) named
  obtain ⟨reached, published, final⟩ :=
    @Holds.updateNodeAddress admits _ _ _ after initialized named metadata
  refine ⟨reached, retryWhile_of_ok ?_ _, final⟩
  unfold initializeOnce
  rw [bind_run]
  have looked : (clusterApi admits).listerGet name system = _ := holds.getNode
  rw [looked]
  dsimp only
  rw [modified_eq_initialized made, bind_run]
  have updates : (clusterApi admits).update initialized system = (.ok (), updated) := by
    rw [← sent, ← named]
    rfl
  rw [updates]
  exact published

/-- Copying the beta labels of an initialised node. -/
theorem Holds.reconcileNodeLabels
    (holds : system.Holds name node) :
    ∃ reached,
      reconcileNodeLabels (clusterApi admits) name system = (.ok (), reached) ∧
        reached.Holds name node.relabelled := by
  have named : node.name = name := system.controller.guest.nodes.named holds.stored
  have looked : (clusterApi admits).listerGet name system = _ := holds.getNode
  unfold HarvesterCloudProvider.reconcileNodeLabels
  rw [attempt_bind_run, looked]
  dsimp only
  by_cases nothing : labelsToUpdate node.labels = []
  · have same : node.relabelled = node := by
      unfold GuestNode.relabelled
      rw [nothing]
      rfl
    rw [same]
    refine ⟨system, ?_, holds⟩
    have nothingToo : labelsToUpdate (system.cloudNode node).labels = [] := nothing
    rw [if_pos nothingToo]
    split <;> rfl
  · have made : node.labels.isNone = false := by
      cases labels : node.labels with
      | none =>
          rw [labels] at nothing
          exact (nothing (by decide)).elim
      | some entries =>
          rfl
    obtain ⟨reached, patched, after⟩ :=
      @Holds.changeNode _ _ _ holds
        (fun other =>
          { other with labels := patchedLabels other.labels (labelsToUpdate node.labels) }) named
    refine ⟨reached, ?_, after⟩
    have madeToo : ¬ (system.cloudNode node).labels.isNone = true := by
      rw [Bool.not_eq_true]
      exact made
    have someUpdates : ¬ labelsToUpdate (system.cloudNode node).labels = [] := nothing
    rw [if_neg madeToo, if_neg someUpdates]
    refine mapError_ok.mpr (retryWhile_of_ok ?_ _)
    rw [bind_run]
    have gotAgain :
        (clusterApi admits).get (system.cloudNode node).name system =
          (.ok (system.cloudNode node), system) := by
      rw [← holds.getNode, ← named]
      rfl
    rw [gotAgain]
    refine mapError_ok.mpr ?_
    rw [← patched, ← named]
    rfl

/-- The metadata of a node whose instance is known. -/
theorem instanceMetadata_eq
    {i : InstanceManager}
    {cfg : Config}
    {node : Node}
    {vmi : VirtualMachineInstance}
    {vm : VirtualMachine}
    (resolves : i.nodeToVMName[node.name]?.getD node.name = vmi.name)
    (machine : i.vmClient.get vmi.name = .ok vm)
    (running : i.vmiClient.get vmi.name = .ok vmi) :
    i.instanceMetadata cfg node =
      (getNodeAddresses node (some vmi) cfg).map fun nodeAddresses =>
        { providerID := providerName ++ "://" ++ vm.uid
          region := vmi.annotations.read labelTopologyRegion
          zone := vmi.annotations.read labelTopologyZone
          nodeAddresses := nodeAddresses.map NodeAddress.status } := by
  have sameName : vm.name = vmi.name := i.vmClient.named machine
  unfold InstanceManager.instanceMetadata getVM
  rw [resolves, machine]
  dsimp only [bind, Except.bind]
  rw [sameName, running]
  dsimp only
  cases getNodeAddresses node (some vmi) cfg <;> rfl

/-- A provider ID is the scheme of the provider in front of the machine's identity. -/
theorem providerID_of_instanceMetadata
    {i : InstanceManager}
    {cfg : Config}
    {node : Node}
    {vmi : VirtualMachineInstance}
    {vm : VirtualMachine}
    (resolves : i.nodeToVMName[node.name]?.getD node.name = vmi.name)
    (machine : i.vmClient.get vmi.name = .ok vm)
    (running : i.vmiClient.get vmi.name = .ok vmi)
    (metadata : InstanceMetadata)
    (found : i.instanceMetadata cfg node = .ok metadata) :
    ∃ uid, metadata.providerID = providerName ++ "://" ++ uid := by
  have mapped := (instanceMetadata_eq resolves machine running).symm.trans found
  cases addresses : getNodeAddresses node (some vmi) cfg with
  | error error =>
      rw [addresses] at mapped
      cases mapped
  | ok nodeAddresses =>
      rw [addresses] at mapped
      cases mapped
      exact ⟨vm.uid, rfl⟩

/-- The provider always has a provider ID. -/
theorem getInstanceMetadata_of_scheme
    {instanceMetadata : Node → Except Err InstanceMetadata}
    {node : CloudNode}
    (schemes :
      ∀ metadata,
        instanceMetadata node.toNode = .ok metadata →
        ∃ uid, metadata.providerID = providerName ++ "://" ++ uid) :
    getInstanceMetadata instanceMetadata node = instanceMetadata node.toNode := by
  unfold getInstanceMetadata
  cases known : instanceMetadata node.toNode with
  | error error =>
      rfl
  | ok metadata =>
      obtain ⟨uid, scheme⟩ := schemes metadata known
      have nonempty : metadata.providerID ≠ "" := by
        intro isEmpty
        rw [scheme] at isEmpty
        have texts := congrArg (fun text => text.toList.head?) isEmpty
        simp [providerName] at texts
      dsimp only [bind, Except.bind]
      rw [if_neg nonempty]
      rfl

/-- A node is initialised exactly when a provided address applies. -/
theorem Holds.initializeFrom
    (holds : system.Holds name node)
    {metadata : InstanceMetadata}
    {placement : Placement}
    (noType : metadata.instanceType = "")
    (zone : metadata.zone = placement.zone)
    (region : metadata.region = placement.region) :
    ∃ after : GuestNode,
      ((match getNodeModifiersFromCloudProvider (system.cloudNode node) metadata with
        | .error error =>
            fail (.errorf
              ("failed to get node modifiers from cloud provider: " ++ error.message))
        | .ok nodeModifiers =>
            retryWhile Err.isConflict
              (initializeOnce (clusterApi admits) name (nodeModifiers ++ [CloudNode.untainted])
                metadata)
              (updateNodeSpecBackoffSteps - 1) :
          Program NodeSystem Err Unit) system).2.Holds name after ∧
        after.toNode = node.toNode ∧
        after.topology =
          if (updateNodeAddressesFromNodeIP node.annotations metadata.nodeAddresses).isOk then
            node.topology.written placement
          else
            node.topology := by
  cases made : getNodeModifiersFromCloudProvider (system.cloudNode node) metadata with
  | error error =>
      have refused :
          (updateNodeAddressesFromNodeIP node.annotations metadata.nodeAddresses).isOk = false := by
        unfold getNodeModifiersFromCloudProvider at made
        split at made
        · rename_i cause failed
          exact congrArg Except.isOk failed
        · cases made
      rw [if_neg (by rw [refused]; exact Bool.false_ne_true)]
      exact ⟨node, holds, rfl, rfl⟩
  | ok nodeModifiers =>
      have accepted :
          (updateNodeAddressesFromNodeIP node.annotations metadata.nodeAddresses).isOk = true := by
        unfold getNodeModifiersFromCloudProvider at made
        split at made
        · cases made
        · rename_i published applied
          exact congrArg Except.isOk applied
      obtain ⟨reached, ran, after⟩ := holds.initialize made (updateNodeSpecBackoffSteps - 1)
      rw [if_pos accepted]
      dsimp only
      rw [ran]
      exact ⟨_, after, rfl, topology_initialized noType zone region⟩

variable {i : InstanceManager}
variable {cfg : Config}
variable {vmi : VirtualMachineInstance}
variable {vm : VirtualMachine}

/-- One look of the cloud node controller is that of the abstract model. -/
theorem Holds.syncNode
    (holds : system.Holds name node)
    (resolves : i.nodeToVMName[name]?.getD name = vmi.name)
    (machine : i.vmClient.get vmi.name = .ok vm)
    (running : i.vmiClient.get vmi.name = .ok vmi) :
    ∃ after : GuestNode,
      (syncNode (clusterApi admits) (i.instanceMetadata cfg) name system).2.Holds name after ∧
        after.toNode = node.toNode ∧
        after.topology = node.topology.synced (placementOf cfg vmi node.toNode) := by
  have named : node.name = name := system.controller.guest.nodes.named holds.stored
  have looked : (clusterApi admits).listerGet name system = _ := holds.getNode
  unfold HarvesterCloudProvider.syncNode
  rw [attempt_bind_run, looked]
  dsimp only
  unfold Topology.synced
  by_cases tainted : node.topology.tainted = true
  · have isTainted : ¬ (getCloudTaint (system.cloudNode node).taints).isNone = true := by
      rw [Option.isNone_iff_eq_none, ← ne_eq, ← Option.isSome_iff_ne_none]
      exact tainted
    rw [if_neg isTainted, if_pos tainted]
    have ownName : i.nodeToVMName[node.name]?.getD node.name = vmi.name := by
      rwa [named]
    have metadataEq := @instanceMetadata_eq i cfg node.toNode vmi vm ownName machine running
    have known :
        getInstanceMetadata (i.instanceMetadata cfg) (system.cloudNode node) =
          i.instanceMetadata cfg node.toNode :=
      getInstanceMetadata_of_scheme (providerID_of_instanceMetadata ownName machine running)
    rw [known, metadataEq]
    cases addresses : getNodeAddresses node.toNode (some vmi) cfg with
    | error error =>
        have stuck : (placementOf cfg vmi node.toNode).applies = false := by
          unfold placementOf
          rw [addresses]
        rw [if_neg (by rw [stuck]; exact Bool.false_ne_true)]
        exact ⟨node, holds, rfl, rfl⟩
    | ok nodeAddresses =>
        have applies :
            (placementOf cfg vmi node.toNode).applies =
              (updateNodeAddressesFromNodeIP node.annotations
                (nodeAddresses.map NodeAddress.status)).isOk := by
          unfold placementOf
          rw [addresses]
        rw [applies]
        refine holds.initializeFrom ?_ ?_ ?_
        · rfl
        · rfl
        · rfl
  · have untainted : (getCloudTaint (system.cloudNode node).taints).isNone = true := by
      rw [Option.isNone_iff_eq_none, ← Option.not_isSome_iff_eq_none]
      exact tainted
    rw [if_pos untainted, if_neg tainted]
    obtain ⟨reached, ran, after⟩ := holds.reconcileNodeLabels
    rw [ran]
    exact ⟨node.relabelled, after, rfl, topology_relabelled node⟩

end NodeSystem

end Quiet

section Rounds

/-- A node with the topology of its instance is not tainted. -/
theorem handleNode_matching
    {h : Handler}
    {cfg : Config}
    {vmiCache : List VirtualMachineInstance}
    {vmi : VirtualMachineInstance}
    {nodeName : String}
    {guest : GuestCluster}
    (matching :
      ∀ node,
        guest.nodes.get? nodeName = some node →
        compareTopology vmi.annotations node.labels = true) :
    (h.handleNode cfg vmiCache vmi nodeName guest).2.nodes = guest.nodes := by
  unfold Handler.handleNode
  rw [attempt_bind_run, nodeGet_state]
  cases answer : (nodeGet nodeName guest).1 with
  | error error =>
      dsimp only
      split <;> rfl
  | ok node =>
      dsimp only
      rw [matching node (nodeGet_ok answer)]
      rfl

/-- An event of the instance is that of the abstract model. -/
theorem handleNode_compared
    {h : Handler}
    {cfg : Config}
    {vmiCache : List VirtualMachineInstance}
    {vmi : VirtualMachineInstance}
    {guest : GuestCluster}
    {node : GuestNode}
    (calm : guest.Calm)
    (stored : guest.nodes.get? vmi.name = some node) :
    ∃ after : GuestNode,
      (h.handleNode cfg vmiCache vmi vmi.name guest).2.nodes.get? vmi.name = some after ∧
        after.toNode = node.toNode ∧
        after.topology = node.topology.compared (placementOf cfg vmi node.toNode) := by
  unfold Topology.compared
  by_cases matching : compareTopology vmi.annotations node.labels = true
  · rw [if_pos ((compareTopology_iff cfg vmi node).mp matching), handleNode_matching]
    · exact ⟨node, stored, rfl, rfl⟩
    · intro other found
      rw [stored, Option.some.injEq] at found
      rw [← found]
      exact matching
  · rw [if_neg (mt (compareTopology_iff cfg vmi node).mpr matching)]
    rw [handleNode_mismatch calm stored (Bool.eq_false_iff.mpr matching)]
    obtain ⟨reached, tainted, -, nodes⟩ := reSync_found calm.answered stored
    rw [tainted]
    refine ⟨node.withResyncTaint, ?_, rfl, topology_withResyncTaint node⟩
    have here := nodes vmi.name
    rw [if_pos rfl] at here
    exact here

/-- What surrounds one round: the mapping may be stored or not. -/
structure RoundInput where
  vmiCache : List VirtualMachineInstance := []
  ticks : List Tick := []

/-- The guest reports the name of its instance, then the node is looked at. -/
def roundSteps (vmi : VirtualMachineInstance) (input : RoundInput) : List NodeStep :=
  [.vmiChanged
      { vmi := some vmi
        guestOsInfo := .ok vmi.name
        vmiCache := input.vmiCache
        ticks := input.ticks },
    .nodeSynced vmi.name []]

/-- A whole run. -/
def NodeSystem.run
    (deployment : Deployment)
    (system : NodeSystem)
    (steps : List NodeStep) :
    NodeSystem :=
  steps.foldl (NodeSystem.advance deployment) system

/-- Some rounds. -/
def NodeSystem.rounds
    (deployment : Deployment)
    (vmi : VirtualMachineInstance)
    (system : NodeSystem)
    (inputs : List RoundInput) :
    NodeSystem :=
  system.run deployment (inputs.flatMap (roundSteps vmi))

/-- The instance is handled, and the instance manager finds it. -/
structure Deployment.Runs (deployment : Deployment) (vmi : VirtualMachineInstance) : Prop where
  handled : deployment.h.skips vmi = false
  machine : ∃ vm, deployment.vmClient.get vmi.name = .ok vm
  running : deployment.vmiClient.get vmi.name = .ok vmi

/-- Neither controller has anything to do with the node of an instance. -/
def NodeSystem.Settled (system : NodeSystem) (vmi : VirtualMachineInstance) : Prop :=
  ∃ node,
    system.controller.guest.nodes.get? vmi.name = some node ∧
      getCloudTaint node.taints = none ∧
      compareTopology vmi.annotations node.labels = true ∧
      labelsToUpdate node.labels = []

variable {deployment : Deployment}
variable {vmi : VirtualMachineInstance}
variable {system : NodeSystem}
variable {node : GuestNode}

/-- A node is at rest exactly when the abstract model says so. -/
theorem settled_iff
    (cfg : Config)
    (stored : system.controller.guest.nodes.get? vmi.name = some node) :
    system.Settled vmi ↔ node.topology.Settled (placementOf cfg vmi node.toNode) := by
  have follows : node.topology.followed = node.topology ↔ labelsToUpdate node.labels = [] := by
    rw [labelsToUpdate_eq_nil_iff]
    simp only [labelReconcileInfo, List.forall_mem_cons, List.not_mem_nil, false_implies,
      implies_true, and_true, Topology.ext_iff]
    constructor
    · rintro ⟨zone, region, instanceType, -⟩
      exact ⟨zone, region, instanceType⟩
    · rintro ⟨zone, region, instanceType⟩
      exact ⟨zone, region, instanceType, rfl⟩
  have untainted : node.topology.tainted = false ↔ getCloudTaint node.taints = none :=
    Option.isSome_eq_false_iff.trans Option.isNone_iff_eq_none
  constructor
  · rintro ⟨other, found, noTaint, matching, nothing⟩
    rw [stored, Option.some.injEq] at found
    subst found
    exact ⟨untainted.mpr noTaint, (compareTopology_iff cfg vmi node).mp matching,
      follows.mpr nothing⟩
  · intro settled
    exact ⟨node, stored, untainted.mp settled.untainted,
      (compareTopology_iff cfg vmi node).mpr settled.showsPlacement, follows.mp settled.follows⟩

/-- One round is that of the abstract model. -/
theorem advance_round
    (runs : deployment.Runs vmi)
    (stored : system.controller.guest.nodes.get? vmi.name = some node)
    (input : RoundInput) :
    ∃ after : GuestNode,
      (system.run deployment (roundSteps vmi input)).controller.guest.nodes.get? vmi.name =
          some after ∧
        after.toNode = node.toNode ∧
        after.topology = node.topology.round (placementOf deployment.cfg vmi node.toNode) := by
  unfold roundSteps NodeSystem.run
  rw [List.foldl_cons, List.foldl_cons, List.foldl_nil]
  generalize eventEq :
    ({ vmi := some vmi, guestOsInfo := .ok vmi.name, vmiCache := input.vmiCache,
       ticks := input.ticks } : VmiEvent) = event
  have handles : event.Handles deployment.h vmi := by
    rw [← eventEq]
    exact ⟨rfl, runs.handled⟩
  have calm : (system.controller.guest.begin event).Calm := by
    intro failure member
    rw [← eventEq] at member
    cases member
  obtain ⟨compared, found, sameNode, comparedTopology⟩ :=
    @handleNode_compared deployment.h deployment.cfg event.vmiCache vmi _ node calm stored
  obtain ⟨vm, machine⟩ := runs.machine
  have afterEvent :
      (system.advance deployment (.vmiChanged event)).controller =
        { nodeToVMName := system.controller.nodeToVMName.insert vmi.name vmi.name
          guest :=
            (deployment.h.handleNode deployment.cfg event.vmiCache vmi vmi.name
              (system.controller.guest.begin event)).2 } := by
    unfold NodeSystem.advance
    dsimp only
    rw [advance_of_handled handles, ← eventEq]
    rfl
  generalize system.advance deployment (.vmiChanged event) = tainted at afterEvent ⊢
  have resolves :
      (deployment.instances tainted).nodeToVMName[vmi.name]?.getD vmi.name = vmi.name := by
    unfold Deployment.instances
    rw [afterEvent]
    simp
  have holds :
      (tainted.withGuest { tainted.controller.guest with nodeFailures := [] }).Holds
        vmi.name compared := by
    refine ⟨rfl, ?_⟩
    unfold NodeSystem.withGuest
    rw [afterEvent]
    exact found
  obtain ⟨after, synced, sameAgain, syncedTopology⟩ :=
    @NodeSystem.Holds.syncNode deployment.admitsAddresses _ _ _ (deployment.instances tainted)
      deployment.cfg vmi vm holds resolves machine runs.running
  refine ⟨after, synced.stored, sameAgain.trans sameNode, ?_⟩
  rw [syncedTopology, comparedTopology, sameNode]
  rfl

/-- All rounds together are those of the abstract model. -/
theorem rounds_topology
    (runs : deployment.Runs vmi)
    (stored : system.controller.guest.nodes.get? vmi.name = some node)
    (inputs : List RoundInput) :
    ∃ after : GuestNode,
      (system.rounds deployment vmi inputs).controller.guest.nodes.get? vmi.name =
          some after ∧
        after.toNode = node.toNode ∧
        after.topology =
          (Topology.round (placementOf deployment.cfg vmi node.toNode))^[inputs.length]
            node.topology := by
  induction inputs generalizing system node with
  | nil =>
      exact ⟨node, stored, rfl, rfl⟩
  | cons input rest inductionHypothesis =>
      obtain ⟨middle, found, sameNode, middleTopology⟩ := advance_round runs stored input
      obtain ⟨after, last, sameAgain, lastTopology⟩ := inductionHypothesis found
      refine ⟨after, ?_, sameAgain.trans sameNode, ?_⟩
      · unfold NodeSystem.rounds NodeSystem.run at last ⊢
        rw [List.flatMap_cons, List.foldl_append]
        exact last
      · rw [lastTopology, middleTopology, sameNode]
        rfl

/--
The controllers come to rest exactly where the abstract model says so: no
annotation is missing that a label still has, and the node can be initialised or
needs no initialisation.  Then two rounds are enough and the rest lasts.
-/
theorem topology_converges_iff
    (runs : deployment.Runs vmi)
    (stored : system.controller.guest.nodes.get? vmi.name = some node) :
    ((∃ inputs, (system.rounds deployment vmi inputs).Settled vmi) ↔
        node.topology.Converges (placementOf deployment.cfg vmi node.toNode)) ∧
      (node.topology.Converges (placementOf deployment.cfg vmi node.toNode) →
        ∀ inputs : List RoundInput,
          2 ≤ inputs.length →
          (system.rounds deployment vmi inputs).Settled vmi) := by
  have settles :
      node.topology.Converges (placementOf deployment.cfg vmi node.toNode) →
        ∀ inputs : List RoundInput,
          2 ≤ inputs.length →
          (system.rounds deployment vmi inputs).Settled vmi := by
    intro converges inputs enough
    obtain ⟨after, found, sameNode, afterTopology⟩ := rounds_topology runs stored inputs
    rw [settled_iff deployment.cfg found, sameNode, afterTopology]
    exact converges.settled_iterate enough
  refine ⟨⟨?_, fun converges => ⟨[{}, {}], settles converges _ le_rfl⟩⟩, settles⟩
  rintro ⟨inputs, settled⟩
  obtain ⟨after, found, sameNode, afterTopology⟩ := rounds_topology runs stored inputs
  rw [settled_iff deployment.cfg found, sameNode, afterTopology] at settled
  exact Topology.converges_of_settled_iterate settled

/-- One virtual machine and its running instance. -/
def sampleDeployment : Deployment where
  h := sampleHandler
  cfg := sampleConfig
  vmClient :=
    { get := fun name => .ok { name := name, uid := "1" }
      named := by
        intro name vm found
        cases found
        rfl }
  vmiClient :=
    { get := fun name => .ok (poolMember name "prod")
      named := by
        intro name vmi found
        cases found
        rfl }

/-- An unlabelled node gets the zone of its instance and keeps it. -/
theorem unlabelled_node_settles :
    ({ controller := controllerWith [{ name := "vm1" }] } : NodeSystem).rounds sampleDeployment
      (poolMember "vm1" "prod") [{}, {}] |>.Settled (poolMember "vm1" "prod") := by
  have runs : sampleDeployment.Runs (poolMember "vm1" "prod") :=
    ⟨by decide +kernel, ⟨_, rfl⟩, rfl⟩
  have applies :
      (placementOf sampleConfig (poolMember "vm1" "prod") { name := "vm1" }).applies := by
    decide +kernel
  exact
    (@topology_converges_iff _ _ { controller := controllerWith [{ name := "vm1" }] } _
      runs rfl).2
      ⟨⟨fun _ => ⟨rfl, rfl⟩, fun _ => ⟨rfl, rfl⟩⟩, .inl applies⟩ [{}, {}] le_rfl

end Rounds

section Resting

/-- A node and its status are as they were. -/
def NodeSystem.SameAt (name : String) (before after : NodeSystem) : Prop :=
  after.controller.guest.nodes.get? name = before.controller.guest.nodes.get? name ∧
    after.status name = before.status name

instance (name : String) : Std.Refl (NodeSystem.SameAt name) where
  refl _ := ⟨rfl, rfl⟩

instance (name : String) : IsTrans NodeSystem (NodeSystem.SameAt name) where
  trans _ _ _ earlier later :=
    ⟨later.1.trans earlier.1, later.2.trans earlier.2⟩

namespace NodeSystem

variable {admits : List StatusAddress → Bool}
variable {name other : String}

theorem getNode_state (name : String) (system : NodeSystem) :
    (getNode name system).2 = system.withGuest system.controller.guest.answered := by
  unfold getNode nodeRequest
  dsimp only
  split
  · rfl
  · split <;> rfl

/-- Only a stored node is returned. -/
theorem getNode_ok
    {system : NodeSystem}
    {found : CloudNode}
    (returned : (getNode name system).1 = .ok found) :
    ∃ node,
      system.controller.guest.nodes.get? name = some node ∧
        found.toGuestNode = node := by
  unfold getNode nodeRequest at returned
  dsimp only at returned
  split at returned
  · cases returned
  · split at returned
    · cases returned
    · rename_i node stored
      cases returned
      exact ⟨node, stored, rfl⟩

theorem getNode_named
    {system : NodeSystem}
    {found : CloudNode}
    (returned : (getNode name system).1 = .ok found) :
    found.name = name := by
  obtain ⟨node, stored, rfl⟩ := getNode_ok returned
  exact system.controller.guest.nodes.named stored

theorem getNode_sameAt (name other : String) :
    Respects (SameAt name) (getNode other) := by
  intro system
  rw [getNode_state]
  exact ⟨rfl, rfl⟩

/-- Storing a node leaves the others alone. -/
theorem store_sameAt
    {system : NodeSystem}
    {node : CloudNode}
    (different : name ≠ node.name) :
    SameAt name system (system.store node) := by
  refine ⟨?_, Function.update_of_ne different _ _⟩
  exact (NodeStore.get?_put _ _ _).trans (if_neg different)

/-- A request about one node leaves the others alone, if what it serves does. -/
theorem nodeRequest_sameAt
    {Answer : Type}
    {serve : CloudNode → NodeSystem → Except Err Answer × NodeSystem}
    (serves :
      ∀ node system,
        node.name = other →
        SameAt name system (serve node system).2) :
    Respects (SameAt name) (nodeRequest other serve) := by
  intro system
  unfold nodeRequest
  dsimp only
  split
  · exact ⟨rfl, rfl⟩
  · split
    · exact ⟨rfl, rfl⟩
    · rename_i node stored
      have named : node.name = other := system.controller.guest.nodes.named stored
      have answered :
          SameAt name system (system.withGuest system.controller.guest.answered) :=
        ⟨rfl, rfl⟩
      exact trans_of (SameAt name) answered (serves _ _ named)

theorem changeNode_sameAt
    (different : name ≠ other)
    {change : CloudNode → CloudNode}
    (keepsName : ∀ node, node.name = other → (change node).name = other) :
    Respects (SameAt name) (changeNode other change) := by
  refine nodeRequest_sameAt fun node system named => store_sameAt ?_
  rw [keepsName node named]
  exact different

theorem patchAddresses_sameAt
    {copy : CloudNode}
    (different : name ≠ copy.name)
    (addresses : List StatusAddress) :
    Respects (SameAt name) (patchAddresses admits copy addresses) := by
  refine nodeRequest_sameAt fun node system named => ?_
  dsimp only
  split
  · refine store_sameAt ?_
    rw [named]
    exact different
  · exact ⟨rfl, rfl⟩

theorem updateNodeAddress_sameAt
    (different : name ≠ other)
    {node : CloudNode}
    (named : node.name = other)
    (metadata : InstanceMetadata) :
    Respects (SameAt name) (updateNodeAddress (clusterApi admits) node metadata) := by
  unfold updateNodeAddress
  cases addressesToPublish node metadata with
  | none =>
      exact .pure ()
  | some addresses =>
      subst named
      exact .bind (patchAddresses_sameAt different addresses).attempt fun _ => .pure ()

/-- Initialising one node leaves the others alone. -/
theorem initializeOnce_sameAt
    (different : name ≠ other)
    {first : CloudNode}
    {metadata : InstanceMetadata}
    {nodeModifiers : List (CloudNode → CloudNode)}
    (made : getNodeModifiersFromCloudProvider first metadata = .ok nodeModifiers) :
    Respects (SameAt name)
      (initializeOnce (clusterApi admits) other (nodeModifiers ++ [CloudNode.untainted])
        metadata) := by
  refine .bind_of_returned (getNode_sameAt name other) fun system found returned => ?_
  have named := getNode_named returned
  dsimp only
  rw [modified_eq_initialized made]
  have namedAfter :
      (metadata.initialized (first.takesProviderID metadata) found).name = other :=
    named
  refine .bind ?_ fun _ => updateNodeAddress_sameAt different namedAfter metadata
  subst named
  exact changeNode_sameAt different fun _ _ => rfl

theorem reconcileNodeLabels_sameAt (different : name ≠ other) :
    Respects (SameAt name) (reconcileNodeLabels (clusterApi admits) other) := by
  refine .bind_of_returned (getNode_sameAt name other).attempt fun system answer returned => ?_
  cases answer with
  | error error =>
      exact .pure_or_fail () error
  | ok found =>
      have named : found.name = other := getNode_named (Except.ok.inj returned)
      dsimp only
      split
      · exact .pure ()
      · split
        · exact .pure ()
        · refine .mapError (.retryWhile (.bind_of_returned ?_ fun _ again gotAgain => ?_) _)
          · exact getNode_sameAt name found.name
          · refine .mapError ?_
            have sameName : again.name = found.name := getNode_named gotAgain
            refine changeNode_sameAt ?_ fun _ kept => kept
            rw [sameName, named]
            exact different

/-- Looking at one node leaves the others alone. -/
theorem syncNode_sameAt
    (different : name ≠ other)
    (instanceMetadata : Node → Except Err InstanceMetadata) :
    Respects (SameAt name) (syncNode (clusterApi admits) instanceMetadata other) := by
  refine .bind (getNode_sameAt name other).attempt fun answer => ?_
  cases answer with
  | error error =>
      exact .pure_or_fail () error
  | ok curNode =>
      dsimp only
      split
      · exact reconcileNodeLabels_sameAt different
      · split
        · exact .fail _
        · split
          · exact .fail _
          · rename_i made
            exact .retryWhile (initializeOnce_sameAt different made) _

variable {system : NodeSystem}
variable {node : GuestNode}

/-- A node at rest is not touched, whatever fails. -/
theorem syncNode_resting
    (stored : system.controller.guest.nodes.get? name = some node)
    (untainted : getCloudTaint node.taints = none)
    (nothing : labelsToUpdate node.labels = [])
    (instanceMetadata : Node → Except Err InstanceMetadata) :
    SameAt name system (syncNode (clusterApi admits) instanceMetadata name system).2 := by
  have looked := getNode_sameAt name name system
  unfold syncNode
  rw [attempt_bind_run]
  have firstState : ((clusterApi admits).listerGet name system).2 = _ :=
    getNode_state name system
  cases answer : ((clusterApi admits).listerGet name system).1 with
  | error error =>
      dsimp only
      split <;> exact looked
  | ok curNode =>
      obtain ⟨current, found, sameNode⟩ := getNode_ok answer
      rw [stored, Option.some.injEq] at found
      subst found
      dsimp only
      rw [if_pos (by rw [sameNode, untainted]; rfl)]
      unfold reconcileNodeLabels
      rw [attempt_bind_run]
      have lookedAgain := getNode_sameAt name name ((clusterApi admits).listerGet name system).2
      refine trans_of (SameAt name) looked (trans_of (SameAt name) lookedAgain ?_)
      cases again :
        ((clusterApi admits).listerGet name ((clusterApi admits).listerGet name system).2).1 with
      | error error =>
          dsimp only
          split <;> exact ⟨rfl, rfl⟩
      | ok reread =>
          obtain ⟨stillStored, foundAgain, sameAgain⟩ := getNode_ok again
          rw [firstState] at foundAgain
          have same := stored.symm.trans foundAgain
          rw [Option.some.injEq] at same
          subst same
          dsimp only
          split
          · exact ⟨rfl, rfl⟩
          · rw [if_pos (by rw [sameAgain]; exact nothing)]
            exact ⟨rfl, rfl⟩

end NodeSystem

/-- A node keeps its place in the store. -/
def GuestCluster.SameNodeAt (name : String) (before after : GuestCluster) : Prop :=
  after.nodes.get? name = before.nodes.get? name

instance (name : String) : Std.Refl (GuestCluster.SameNodeAt name) where
  refl _ := rfl

instance (name : String) : IsTrans GuestCluster (GuestCluster.SameNodeAt name) where
  trans _ _ _ earlier later := later.trans earlier

/-- Tainting one node leaves the others alone. -/
theorem reSync_sameNodeAt
    {vmi : VirtualMachineInstance}
    {name : String}
    (different : name ≠ vmi.name) :
    Respects (GuestCluster.SameNodeAt name) (reSync vmi) := by
  refine .retryWhile (.bind (fun guest => ?_) fun oldNode => ?_) _
  · rw [nodeGet_state]
    rfl
  · dsimp only
    split
    · intro guest
      unfold patchNodeTaints nodeCall
      dsimp only
      split
      · rfl
      · split
        · rename_i node stored
          have named : node.name = vmi.name := guest.nodes.named stored
          exact (NodeStore.get?_put _ _ _).trans
            (if_neg fun same => different (same.trans named))
        · rfl
    · exact .pure ()

/-- An event taints at most the node with the name of its instance. -/
theorem handleNode_sameNodeAt
    {h : Handler}
    {cfg : Config}
    {vmiCache : List VirtualMachineInstance}
    {vmi : VirtualMachineInstance}
    {nodeName name : String}
    (different : name ≠ vmi.name) :
    Respects (GuestCluster.SameNodeAt name) (h.handleNode cfg vmiCache vmi nodeName) := by
  refine .bind (Respects.attempt fun guest => ?_) fun answer => ?_
  · rw [nodeGet_state]
    rfl
  · cases answer with
    | error error =>
        exact .pure_or_fail () error
    | ok node =>
        have synced :
            Respects (GuestCluster.SameNodeAt name)
              (zoom GuestCluster.session (fun session guest => { guest with session := session })
                (h.syncAfter cfg vmiCache)) :=
          fun _ => rfl
        dsimp only
        split
        · exact .bind (reSync_sameNodeAt different) fun _ => synced
        · exact synced

/--
The instance of the node keeps its topology and its guest the name; other
instances, other nodes and failures are not restricted.
-/
def NodeStep.Keeps (vmi : VirtualMachineInstance) : NodeStep → Prop
  | .vmiChanged event =>
      ∀ other,
        event.vmi = some other →
        other.name = vmi.name →
        other.annotations = vmi.annotations ∧
          nodeNameOf other event.guestOsInfo = vmi.name
  | .nodeSynced _ _ => True

variable {deployment : Deployment}
variable {vmi : VirtualMachineInstance}

/-- No step moves a node at rest. -/
theorem advance_resting
    {system : NodeSystem}
    {step : NodeStep}
    (settled : system.Settled vmi)
    (keeps : step.Keeps vmi) :
    NodeSystem.SameAt vmi.name system (system.advance deployment step) := by
  obtain ⟨node, stored, untainted, matching, nothing⟩ := settled
  cases step with
  | nodeSynced name nodeFailures =>
      by_cases same : name = vmi.name
      · subst same
        exact
          @NodeSystem.syncNode_resting _ _
            (system.withGuest { system.controller.guest with nodeFailures := nodeFailures })
            node stored untainted nothing _
      · exact NodeSystem.syncNode_sameAt (Ne.symm same) _ _
  | vmiChanged event =>
      refine ⟨?_, rfl⟩
      unfold NodeSystem.advance
      dsimp only
      by_cases handles : ∃ other, event.Handles deployment.h other
      · obtain ⟨other, handled⟩ := handles
        rw [advance_of_handled handled]
        by_cases same : other.name = vmi.name
        · obtain ⟨annotations, nodeName⟩ := keeps other handled.1 same
          refine congrArg (fun nodes => NodeStore.get? nodes vmi.name) (handleNode_matching ?_)
          intro found isFound
          rw [nodeName] at isFound
          have sameNode := stored.symm.trans isFound
          rw [Option.some.injEq] at sameNode
          rw [← sameNode, annotations]
          exact matching
        · exact handleNode_sameNodeAt (Ne.symm same) _
      · rw [advance_of_unhandled handles]
        rfl

/-- A node at rest stays as it is in every run. -/
theorem settled_stays
    {system final : NodeSystem}
    {steps : List NodeStep}
    (settled : system.Settled vmi)
    (execution :
      Execution
        (StepsOf (NodeSystem.advance deployment) fun _ step => step.Keeps vmi)
        system steps final) :
    final.Settled vmi ∧ NodeSystem.SameAt vmi.name system final := by
  refine execution.invariant
    (fun reached => reached.Settled vmi ∧ NodeSystem.SameAt vmi.name system reached)
    ⟨settled, refl_of (NodeSystem.SameAt vmi.name) system⟩ ?_
  rintro reached next step ⟨stillSettled, sameSoFar⟩ ⟨keeps, rfl⟩
  have same := @advance_resting deployment _ _ _ stillSettled keeps
  refine ⟨?_, trans_of (NodeSystem.SameAt vmi.name) sameSoFar same⟩
  obtain ⟨node, stored, rest⟩ := stillSettled
  exact ⟨node, same.1.trans stored, rest⟩

/-- A node with the zone of its instance. -/
def labelledSystem : NodeSystem where
  controller :=
    controllerWith
      [{ name := "vm1", labels := NilableMap.write none labelTopologyZone "zone-1" }]

/-- Events of the instance and of another one, between syncs that may fail. -/
def restingSteps : List NodeStep :=
  [.vmiChanged { vmi := some (poolMember "vm1" "prod"), guestOsInfo := .ok "vm1" },
    .nodeSynced "vm1" [none, some { conflict := true }],
    .vmiChanged { vmi := some (poolMember "vm2" "prod"), guestOsInfo := .ok "vm1" },
    .nodeSynced "vm2" []]

/-- A labelled node stays as it is through events and failing requests. -/
theorem labelled_node_stays :
    (labelledSystem.run sampleDeployment restingSteps).Settled (poolMember "vm1" "prod") := by
  have settled : labelledSystem.Settled (poolMember "vm1" "prod") :=
    ⟨_, rfl, rfl, by decide +kernel, by decide +kernel⟩
  have ownEvent :
      NodeStep.Keeps (poolMember "vm1" "prod")
        (.vmiChanged { vmi := some (poolMember "vm1" "prod"), guestOsInfo := .ok "vm1" }) := by
    intro other changed _
    cases changed
    exact ⟨rfl, rfl⟩
  have otherEvent :
      NodeStep.Keeps (poolMember "vm1" "prod")
        (.vmiChanged { vmi := some (poolMember "vm2" "prod"), guestOsInfo := .ok "vm1" }) := by
    intro other changed sameName
    cases changed
    exact absurd sameName (by decide)
  have execution :
      Execution
        (StepsOf (NodeSystem.advance sampleDeployment) fun _ step =>
          step.Keeps (poolMember "vm1" "prod"))
        labelledSystem restingSteps _ :=
    .snoc (.snoc (.snoc (.snoc .nil ⟨ownEvent, rfl⟩) ⟨trivial, rfl⟩) ⟨otherEvent, rfl⟩)
      ⟨trivial, rfl⟩
  exact (settled_stays settled execution).1

end Resting

end HarvesterCloudProvider
