import HarvesterCloudProvider.NodeIdentity
import HarvesterCloudProvider.ProvidedNodeIP
import HarvesterCloudProvider.StrategicMerge
import HarvesterCloudProvider.VersionContest

namespace HarvesterCloudProvider

open Program

/-!
# Initialising a node from its virtual machine

The cloud node controller of the framework looks at every node that carries the
taint of an uninitialised node.  It asks the instance manager for the metadata
of the virtual machine, writes provider ID and topology labels, takes the taint
away and publishes the addresses.  For the other nodes it only copies the beta
labels over the stable ones.

The requests are parameters, so that the same controller can be run against a
quiet cluster and against clients that write the same node.
-/

section Metadata

/-- An address in the status of a node, of whatever type. -/
structure StatusAddress where
  type : String
  address : String
  deriving Repr, DecidableEq

/-- The name of an address type in the API. -/
def NodeAddressType.text : NodeAddressType → String
  | .internalIP => "InternalIP"
  | .externalIP => "ExternalIP"
  | .hostName => "Hostname"

/-- An address of the provider in the status of a node. -/
def NodeAddress.status (address : NodeAddress) : StatusAddress where
  type := address.type.text
  address := address.address

/-- A node with what the cloud node controller reads and writes. -/
structure CloudNode extends GuestNode where
  resourceVersion : Nat := 0
  providerID : String := ""
  addresses : List StatusAddress := []

/-- What a cloud provider knows about the instance of a node. -/
structure InstanceMetadata where
  providerID : String
  instanceType : String := ""
  nodeAddresses : List StatusAddress := []
  zone : String := ""
  region : String := ""

def providerName : String :=
  "harvester"

/-- `vmiClient.Get` in the namespace of the provider. -/
structure VMIClient where
  get : String → Except Err VirtualMachineInstance
  named :
    ∀ {name : String} {vmi : VirtualMachineInstance},
      get name = .ok vmi →
      vmi.name = name

/-- What the instance manager reads. -/
structure InstanceManager where
  vmClient : VMClient
  vmiClient : VMIClient
  nodeToVMName : Std.ExtTreeMap String String

/-- `InstanceMetadata`. -/
def InstanceManager.instanceMetadata
    (i : InstanceManager)
    (cfg : Config)
    (node : Node) :
    Except Err InstanceMetadata := do
  let vm ← getVM i.vmClient i.nodeToVMName node
  let metadata : InstanceMetadata := { providerID := providerName ++ "://" ++ vm.uid }
  match i.vmiClient.get vm.name with
  | .error error => if error.isNotFound then return metadata else .error error
  | .ok vmi =>
      let nodeAddresses ← getNodeAddresses node (some vmi) cfg
      return { metadata with
        region := (vmi.annotations.lookup labelTopologyRegion).getD metadata.region
        zone := (vmi.annotations.lookup labelTopologyZone).getD metadata.zone
        nodeAddresses := nodeAddresses.map NodeAddress.status }

end Metadata

section ProvidedIP

/-- The printed form of an address in sixteen bytes. -/
def ipText (ip : BitVec 128) : String :=
  String.ofList (if isIPv6 ip then string6 ip else string4 (ip.setWidth 32))

/-- Whether an address of the status is the given one. -/
def StatusAddress.isIP (nodeAddress : StatusAddress) (nodeIP : BitVec 128) : Bool :=
  parseIPSloppy nodeAddress.address.toList = some nodeIP

/-- The loop over the provided addresses: each has to be among the known ones. -/
def enforcedNodeAddresses
    (cloudNodeAddresses : List StatusAddress) :
    List (BitVec 128) → Except Err (List StatusAddress)
  | [] => .ok []
  | nodeIP :: rest =>
      let matched := cloudNodeAddresses.filter fun nodeAddress => nodeAddress.isIP nodeIP
      if matched = [] then
        .error (.errorf
          ("failed to get node address from cloud provider that matches ip: " ++
            ipText nodeIP))
      else do
        let later ← enforcedNodeAddresses cloudNodeAddresses rest
        return matched ++ later

/-- `GetNodeAddressesFromNodeIP`. -/
def getNodeAddressesFromNodeIP
    (providedNodeIP : String)
    (cloudNodeAddresses : List StatusAddress) :
    Except Err (List StatusAddress) :=
  match parseNodeIPAnnotation providedNodeIP with
  | .error error =>
      .error (.errorf
        s!"failed to parse node IP {quote providedNodeIP}: {error.message}")
  | .ok nodeIPs => do
      let enforced ← enforcedNodeAddresses cloudNodeAddresses nodeIPs
      return enforced ++
        cloudNodeAddresses.filter fun nodeAddress =>
          !enforced.any fun other => other.type = nodeAddress.type

/-- `updateNodeAddressesFromNodeIP`. -/
def updateNodeAddressesFromNodeIP
    (annotations : StringMap)
    (nodeAddresses : List StatusAddress) :
    Except Err (List StatusAddress) :=
  match annotations.lookup annotationAlphaProvidedIPAddr with
  | none => .ok nodeAddresses
  | some providedNodeIP => getNodeAddressesFromNodeIP providedNodeIP nodeAddresses

end ProvidedIP

section Modifiers

def labelFailureDomainBetaZone : String :=
  "failure-domain.beta.kubernetes.io/zone"

def labelFailureDomainBetaRegion : String :=
  "failure-domain.beta.kubernetes.io/region"

def labelInstanceType : String :=
  "beta.kubernetes.io/instance-type"

def labelInstanceTypeStable : String :=
  "node.kubernetes.io/instance-type"

/-- `getCloudTaint`. -/
def getCloudTaint (taints : List Taint) : Option Taint :=
  taints.find? fun taint => taint.key = taintExternalCloudProvider

/-- `excludeCloudTaint`. -/
def excludeCloudTaint (taints : List Taint) : List Taint :=
  taints.filter fun taint => taint.key ≠ taintExternalCloudProvider

/-- Write a value under the beta and under the stable key. -/
def CloudNode.withLabels
    (node : CloudNode)
    (betaKey stableKey value : String) :
    CloudNode :=
  { node with labels := (node.labels.write betaKey value).write stableKey value }

/-- The modifier for one kind of label, when the metadata has a value. -/
def labelModifier (betaKey stableKey value : String) : List (CloudNode → CloudNode) :=
  if value ≠ "" then [fun node => node.withLabels betaKey stableKey value] else []

/-- The modifier for the provider ID, when the node has none. -/
def providerIDModifier
    (node : CloudNode)
    (instanceMeta : InstanceMetadata) :
    List (CloudNode → CloudNode) :=
  if node.providerID = "" ∧ instanceMeta.providerID ≠ "" then
    [fun other => { other with providerID := instanceMeta.providerID }]
  else
    []

/-- `getNodeModifiersFromCloudProvider`. -/
def getNodeModifiersFromCloudProvider
    (node : CloudNode)
    (instanceMeta : InstanceMetadata) :
    Except Err (List (CloudNode → CloudNode)) :=
  match updateNodeAddressesFromNodeIP node.annotations instanceMeta.nodeAddresses with
  | .error error =>
      .error (.wrap s!"provided node ip for node {quote node.name} is not valid: " error)
  | .ok _ =>
      .ok
        (providerIDModifier node instanceMeta ++
          labelModifier labelInstanceType labelInstanceTypeStable
            instanceMeta.instanceType ++
          labelModifier labelFailureDomainBetaZone labelTopologyZone instanceMeta.zone ++
          labelModifier labelFailureDomainBetaRegion labelTopologyRegion
            instanceMeta.region)

/-- The last modifier of `syncNode`. -/
def CloudNode.untainted (node : CloudNode) : CloudNode :=
  { node with taints := excludeCloudTaint node.taints }

/-- `getInstanceMetadata` for a provider with `InstancesV2`. -/
def getInstanceMetadata
    (instanceMetadata : Node → Except Err InstanceMetadata)
    (node : CloudNode) :
    Except Err InstanceMetadata := do
  let metadata ← instanceMetadata node.toNode
  if metadata.providerID = "" then
    if node.providerID = "" then
      .error (.errorf s!"cloud provider does not set node provider ID for node {node.name}")
    else
      return { metadata with providerID := node.providerID }
  else
    return metadata

end Modifiers

section Addresses

/-- The addresses of a list by type; a later one replaces an earlier one. -/
def lastByType (addresses : List StatusAddress) (type : String) : String :=
  ((addresses.reverse.find? fun other => other.type = type).map StatusAddress.address).getD ""

/-- `nodeAddressesChangeDetected`. -/
def nodeAddressesChangeDetected (addressSet1 addressSet2 : List StatusAddress) : Bool :=
  addressSet1.length ≠ addressSet2.length ||
    addressSet2.any fun other => lastByType addressSet1 other.type ≠ other.address

/-- The reported addresses with a host name: their own, else that of the node. -/
def withHostName (node : CloudNode) (nodeAddresses : List StatusAddress) :
    List StatusAddress :=
  if nodeAddresses.any fun other => other.type = NodeAddressType.hostName.text then
    nodeAddresses
  else
    nodeAddresses ++
      node.addresses.filter fun other => other.type = NodeAddressType.hostName.text

/-- The addresses that `updateNodeAddress` publishes, if it publishes any. -/
def addressesToPublish
    (node : CloudNode)
    (instanceMetadata : InstanceMetadata) :
    Option (List StatusAddress) :=
  if (getCloudTaint node.taints).isSome then
    none
  else if instanceMetadata.nodeAddresses = [] then
    none
  else
    match updateNodeAddressesFromNodeIP node.annotations
        (withHostName node instanceMetadata.nodeAddresses) with
    | .error _ => none
    | .ok nodeAddresses =>
        if nodeAddressesChangeDetected node.addresses nodeAddresses then
          some nodeAddresses
        else
          none

/--
`preparePatchBytesforNodeStatus`, as far as the addresses go.  The patch asks to
replace the addresses only if the copy of the node in hand has some.
-/
def preparePatchForNodeStatus
    (oldAddresses newAddresses : List StatusAddress) :
    Option (StrategicMerge.ListPatch StatusAddress) :=
  if oldAddresses = newAddresses then
    none
  else
    some { items := newAddresses, replaces := oldAddresses ≠ [] }

/-- The addresses that the server makes of a stored node and such a patch. -/
def patchedAddresses (oldAddresses newAddresses stored : List StatusAddress) :
    List StatusAddress :=
  match preparePatchForNodeStatus oldAddresses newAddresses with
  | none => stored
  | some patch => StrategicMerge.applyPatch StatusAddress.type stored patch

end Addresses

section Controller

/-- The requests about nodes. -/
structure NodeApi (State : Type) where
  /-- `nodeInformer.Lister().Get`. -/
  listerGet : String → Program State Err CloudNode
  /-- `Nodes().Get`. -/
  get : String → Program State Err CloudNode
  /-- `Nodes().Update`. -/
  update : CloudNode → Program State Err Unit
  /-- `PatchNodeStatus` from a copy of the node to the given addresses. -/
  patchStatus : CloudNode → List StatusAddress → Program State Err Unit
  /-- `Nodes().Patch` with the given labels. -/
  patchLabels : String → List (String × String) → Program State Err Unit

variable {State : Type}
variable (api : NodeApi State)

/-- `updateNodeAddress`; a failed patch is only logged. -/
def updateNodeAddress
    (node : CloudNode)
    (instanceMetadata : InstanceMetadata) :
    Program State Err Unit :=
  match addressesToPublish node instanceMetadata with
  | none => pure ()
  | some nodeAddresses => do
      let _ ← attempt (api.patchStatus node nodeAddresses)
      pure ()

/-- A beta label and the stable label that follows it. -/
structure LabelReconcileInfo where
  primaryKey : String
  secondaryKey : String
  ensureSecondaryExists : Bool

def labelReconcileInfo : List LabelReconcileInfo :=
  [{ primaryKey := labelFailureDomainBetaZone
     secondaryKey := labelTopologyZone
     ensureSecondaryExists := true },
    { primaryKey := labelFailureDomainBetaRegion
      secondaryKey := labelTopologyRegion
      ensureSecondaryExists := true },
    { primaryKey := labelInstanceType
      secondaryKey := labelInstanceTypeStable
      ensureSecondaryExists := true }]

/-- What one pair of labels asks for. -/
def LabelReconcileInfo.toUpdate
    (info : LabelReconcileInfo)
    (labels : StringMap) :
    Option (String × String) :=
  match labels.lookup info.primaryKey, labels.lookup info.secondaryKey with
  | none, _ => none
  | some primaryValue, some secondaryValue =>
      if primaryValue ≠ secondaryValue then some (info.secondaryKey, primaryValue) else none
  | some primaryValue, none =>
      if info.ensureSecondaryExists then some (info.secondaryKey, primaryValue) else none

/-- The stable labels that do not follow their beta labels. -/
def labelsToUpdate (labels : StringMap) : List (String × String) :=
  labelReconcileInfo.filterMap fun info => info.toUpdate labels

def updateLabelBackoffSteps : Nat :=
  5

/-- `AddOrUpdateLabelsOnNode`; the error of the patch is not wrapped. -/
def addOrUpdateLabelsOnNode
    (nodeName : String)
    (updates : List (String × String)) :
    Program State Err Unit :=
  retryWhile Err.isConflict
    (do
      let node ← api.get nodeName
      mapError (fun error => .errorf ("failed to patch the node: " ++ error.message))
        (api.patchLabels node.name updates))
    (updateLabelBackoffSteps - 1)

/-- `reconcileNodeLabels`. -/
def reconcileNodeLabels (nodeName : String) : Program State Err Unit := do
  match ← attempt (api.listerGet nodeName) with
  | .error error => if error.isNotFound then pure () else fail error
  | .ok node =>
      if node.labels.isNone then
        pure ()
      else if labelsToUpdate node.labels = [] then
        pure ()
      else
        mapError (fun _ => .errorf s!"failed update labels for node {node.name}")
          (addOrUpdateLabelsOnNode api node.name (labelsToUpdate node.labels))

def updateNodeSpecBackoffSteps : Nat :=
  20

/-- Apply the modifiers one after the other. -/
def modified (nodeModifiers : List (CloudNode → CloudNode)) (node : CloudNode) : CloudNode :=
  nodeModifiers.foldl (fun current modify => modify current) node

/-- One attempt to initialise a node. -/
def initializeOnce
    (nodeName : String)
    (nodeModifiers : List (CloudNode → CloudNode))
    (instanceMetadata : InstanceMetadata) :
    Program State Err Unit := do
  let curNode ← api.listerGet nodeName
  let newNode := modified nodeModifiers curNode
  api.update newNode
  updateNodeAddress api newNode instanceMetadata

/-- `syncNode`. -/
def syncNode
    (instanceMetadata : Node → Except Err InstanceMetadata)
    (nodeName : String) :
    Program State Err Unit := do
  match ← attempt (api.listerGet nodeName) with
  | .error error => if error.isNotFound then pure () else fail error
  | .ok curNode =>
      if (getCloudTaint curNode.taints).isNone then
        reconcileNodeLabels api nodeName
      else
        match getInstanceMetadata instanceMetadata curNode with
        | .error error =>
            fail (.errorf
              (s!"failed to get instance metadata for node {nodeName}: " ++
                error.message))
        | .ok metadata =>
            match getNodeModifiersFromCloudProvider curNode metadata with
            | .error error =>
                fail (.errorf
                  ("failed to get node modifiers from cloud provider: " ++ error.message))
            | .ok nodeModifiers =>
                retryWhile Err.isConflict
                  (initializeOnce api nodeName (nodeModifiers ++ [CloudNode.untainted])
                    metadata)
                  (updateNodeSpecBackoffSteps - 1)

end Controller

end HarvesterCloudProvider
