import HarvesterCloudProvider.NodeConvergence

namespace HarvesterCloudProvider

open Program

/-!
# Publishing the addresses of nodes again and again

Besides initialising nodes, the cloud node controller compares the published
addresses of all nodes with those of their instances from time to time.  The
comparison keeps one address of each type.  Where an instance has at most one
address of each type, one pass is enough and the passes go quiet; where it has
two, every pass sends a patch again.

A patch that is made from an old copy without addresses is merged by type into the
stored addresses.  It can leave an address twice there, and only the refusal of the
server keeps the node from losing another one.
-/

section Model

variable {State : Type}
variable (api : NodeApi State)
variable (instanceMetadata : Node → Except Err InstanceMetadata)

/-- `updateNodeFunc`; errors are only logged. -/
def updateNodeFunc (node : CloudNode) : Program State Err Unit :=
  if (getCloudTaint node.taints).isSome then
    pure ()
  else
    match instanceMetadata node.toNode with
    | .error _ => pure ()
    | .ok metadata => updateNodeAddress api node metadata

/-- `UpdateNodeStatus`; the nodes are taken in any order. -/
def updateNodeStatus (nodes : Except Err (List CloudNode)) : Program State Err Unit :=
  match nodes with
  | .error error => fail error
  | .ok nodes => nodes.forM fun node => updateNodeFunc api instanceMetadata node

end Model

section Detection

variable {old new : List StatusAddress}

theorem nodeAddressesChangeDetected_eq_false :
    nodeAddressesChangeDetected old new = false ↔
      old.length = new.length ∧
        ∀ address ∈ new, lastByType old address.type = address.address := by
  simp [nodeAddressesChangeDetected]

/-- The last address of a type is among the addresses, if there is one. -/
theorem mem_of_lastByType
    {type address : String}
    (found : lastByType old type = address)
    (nonempty : address ≠ "") :
    ({ type := type, address := address } : StatusAddress) ∈ old := by
  unfold lastByType at found
  cases last : old.reverse.find? fun other => other.type = type with
  | none =>
      rw [last] at found
      exact (nonempty found.symm).elim
  | some other =>
      rw [last] at found
      have member := List.mem_reverse.mp (List.mem_of_find?_eq_some last)
      have sameType : other.type = type := by simpa using List.find?_some last
      have sameAddress : other.address = address := found
      rw [← sameType, ← sameAddress]
      exact member

/-- No change of distinct addresses goes unnoticed, except for their order. -/
theorem perm_of_undetected
    (distinct : new.Nodup)
    (nonempty : ∀ address ∈ new, address.address ≠ "")
    (undetected : nodeAddressesChangeDetected old new = false) :
    old.Perm new := by
  obtain ⟨sameLength, last⟩ := nodeAddressesChangeDetected_eq_false.mp undetected
  have among : new ⊆ old := fun address member =>
    mem_of_lastByType (last address member) (nonempty address member)
  have subperm := List.subperm_of_subset distinct among
  exact (subperm.perm_of_length_le sameLength.le).symm

/-- No type has two addresses. -/
def OnePerType (addresses : List StatusAddress) : Prop :=
  ∀ first ∈ addresses,
    ∀ second ∈ addresses, first.type = second.type → first.address = second.address

/-- Published addresses are taken for unchanged exactly if no type has two of them. -/
theorem undetected_iff_of_perm (published : old.Perm new) :
    nodeAddressesChangeDetected old new = false ↔ OnePerType new := by
  rw [nodeAddressesChangeDetected_eq_false]
  constructor
  · rintro ⟨-, last⟩ first isFirst second isSecond sameType
    rw [← last first isFirst, ← last second isSecond, sameType]
  · intro onePerType
    refine ⟨published.length_eq, fun address member => ?_⟩
    unfold lastByType
    cases found : old.reverse.find? fun other => other.type = address.type with
    | none =>
        have isOld := List.mem_reverse.mpr (published.symm.subset member)
        have missing := List.find?_eq_none.mp found address isOld
        simp at missing
    | some other =>
        have isOld := List.mem_reverse.mp (List.mem_of_find?_eq_some found)
        have sameType : other.type = address.type := by simpa using List.find?_some found
        exact onePerType other (published.subset isOld) address member sameType

/-- A patch from a copy as it is publishes the new addresses. -/
theorem patchedAddresses_current : (patchedAddresses old new old).Perm new := by
  unfold patchedAddresses preparePatchForNodeStatus
  by_cases same : old = new
  · rw [if_pos same, same]
  · rw [if_neg same]
    refine StrategicMerge.applyPatch_perm ?_
    by_cases empty : old = []
    · exact .inr empty
    · exact .inl (decide_eq_true empty)

/-- A patch from any copy leaves published addresses, unless it leaves one twice. -/
theorem patchedAddresses_published
    {copy : List StatusAddress}
    (published : old.Perm new)
    (distinct : (patchedAddresses copy new old).Nodup) :
    (patchedAddresses copy new old).Perm new := by
  unfold patchedAddresses preparePatchForNodeStatus at distinct ⊢
  by_cases same : copy = new
  · rw [if_pos same]
    exact published
  · rw [if_neg same] at distinct ⊢
    exact StrategicMerge.applyPatch_perm_of_present published distinct

end Detection

section Wanted

variable {i : InstanceManager}
variable {cfg : Config}

/-- The addresses that a node is to have, if its instance has any. -/
def InstanceManager.wantedAddresses
    (i : InstanceManager)
    (cfg : Config)
    (node : Node) :
    Option (List StatusAddress) :=
  match i.instanceMetadata cfg node with
  | .error _ => none
  | .ok metadata =>
      if metadata.nodeAddresses = [] then
        none
      else
        (updateNodeAddressesFromNodeIP node.annotations metadata.nodeAddresses).toOption

/-- Where the provider reports any address, it reports a host name. -/
theorem withHostName_of_instanceMetadata
    {node : CloudNode}
    {metadata : InstanceMetadata}
    (known : i.instanceMetadata cfg node.toNode = .ok metadata)
    (reported : metadata.nodeAddresses ≠ []) :
    withHostName node metadata.nodeAddresses = metadata.nodeAddresses := by
  have hostName :
      (metadata.nodeAddresses.any fun other =>
        other.type = NodeAddressType.hostName.text) = true := by
    unfold InstanceManager.instanceMetadata at known
    cases found : getVM i.vmClient i.nodeToVMName node.toNode with
    | error error =>
        rw [found] at known
        cases known
    | ok vm =>
        rw [found] at known
        dsimp only [bind, Except.bind] at known
        cases running : i.vmiClient.get vm.name with
        | error error =>
            rw [running] at known
            dsimp only at known
            split at known
            · cases known
              exact (reported rfl).elim
            · cases known
        | ok vmi =>
            rw [running] at known
            dsimp only at known
            rw [getNodeAddresses_eq] at known
            cases known
            simp [NodeAddress.status]
  unfold withHostName
  rw [if_pos hostName]

/-- A node publishes the wanted addresses where they are not taken for the published ones. -/
theorem addressesToPublish_eq
    {node : CloudNode}
    {metadata : InstanceMetadata}
    (known : i.instanceMetadata cfg node.toNode = .ok metadata)
    (untainted : (getCloudTaint node.taints).isSome = false) :
    addressesToPublish node metadata =
      (i.wantedAddresses cfg node.toNode).filter fun wanted =>
        nodeAddressesChangeDetected node.addresses wanted := by
  unfold addressesToPublish InstanceManager.wantedAddresses
  rw [untainted, if_neg Bool.false_ne_true, known]
  dsimp only
  by_cases nothing : metadata.nodeAddresses = []
  · rw [if_pos nothing, if_pos nothing]
    rfl
  · rw [if_neg nothing, if_neg nothing, withHostName_of_instanceMetadata known nothing]
    cases updateNodeAddressesFromNodeIP node.annotations metadata.nodeAddresses with
    | error error =>
        rfl
    | ok wanted =>
        rfl

end Wanted

section Passes

/-- One pass over the listed nodes, with the answers of the instance manager. -/
structure StatusPass where
  nodes : Except Err (List CloudNode)
  instanceMetadata : Node → Except Err InstanceMetadata
  nodeFailures : List (Option Failure) := []

/-- One listed node after the other. -/
def NodeSystem.visited
    (admits : List StatusAddress → Bool)
    (instanceMetadata : Node → Except Err InstanceMetadata)
    (nodes : List CloudNode)
    (system : NodeSystem) :
    NodeSystem :=
  nodes.foldl
    (fun reached node =>
      (updateNodeFunc (NodeSystem.clusterApi admits) instanceMetadata node reached).2)
    system

/-- The system after a pass. -/
def NodeSystem.statusUpdated
    (admits : List StatusAddress → Bool)
    (system : NodeSystem)
    (pass : StatusPass) :
    NodeSystem :=
  (updateNodeStatus (NodeSystem.clusterApi admits) pass.instanceMetadata pass.nodes
    (system.withGuest
      { system.controller.guest with nodeFailures := pass.nodeFailures })).2

/-- A node has published these addresses in some order. -/
def NodeSystem.Shows
    (name : String)
    (addresses : List StatusAddress)
    (system : NodeSystem) :
    Prop :=
  (system.status name).addresses.Perm addresses

variable {admits : List StatusAddress → Bool}

/-- One node never keeps the pass from the others. -/
theorem updateNodeStatus_eq
    (instanceMetadata : Node → Except Err InstanceMetadata)
    (nodes : List CloudNode)
    (system : NodeSystem) :
    updateNodeStatus (NodeSystem.clusterApi admits) instanceMetadata (.ok nodes) system =
      (.ok (), system.visited admits instanceMetadata nodes) := by
  have succeeds :
      ∀ (node : CloudNode) (reached : NodeSystem),
        (updateNodeFunc (NodeSystem.clusterApi admits) instanceMetadata node reached).1 =
          .ok () := by
    intro node reached
    unfold updateNodeFunc updateNodeAddress
    split
    · rfl
    · cases instanceMetadata node.toNode with
      | error error =>
          rfl
      | ok metadata =>
          dsimp only
          cases addressesToPublish node metadata <;> rfl
  unfold updateNodeStatus
  dsimp only
  induction nodes generalizing system with
  | nil =>
      rfl
  | cons node rest inductionHypothesis =>
      have ran :
          updateNodeFunc (NodeSystem.clusterApi admits) instanceMetadata node system =
            (.ok (), _) :=
        Prod.ext (succeeds node system) rfl
      exact (bind_run_of_ok ran).trans (inductionHypothesis _)

variable {i : InstanceManager}
variable {cfg : Config}

/-- The instance manager answers as it does now, or fails. -/
def InstanceManager.Answers
    (i : InstanceManager)
    (cfg : Config)
    (instanceMetadata : Node → Except Err InstanceMetadata) :
    Prop :=
  ∀ node,
    instanceMetadata node = i.instanceMetadata cfg node ∨
      ∃ error, instanceMetadata node = .error error

/-- A visit of a listed node does nothing or patches the addresses it is to have. -/
theorem updateNodeFunc_cases
    {State : Type}
    {api : NodeApi State}
    {instanceMetadata : Node → Except Err InstanceMetadata}
    (answers : i.Answers cfg instanceMetadata)
    (node : CloudNode) :
    updateNodeFunc api instanceMetadata node = pure () ∨
      ∃ wanted,
        i.wantedAddresses cfg node.toNode = some wanted ∧
          updateNodeFunc api instanceMetadata node =
            (do
              let _ ← attempt (api.patchStatus node wanted)
              pure ()) := by
  unfold updateNodeFunc
  cases tainted : (getCloudTaint node.taints).isSome with
  | true =>
      exact .inl rfl
  | false =>
      rw [if_neg Bool.false_ne_true]
      cases answered : instanceMetadata node.toNode with
      | error error =>
          exact .inl rfl
      | ok metadata =>
          have known : i.instanceMetadata cfg node.toNode = .ok metadata := by
            rcases answers node.toNode with same | ⟨error, failed⟩
            · rw [← same, answered]
            · rw [failed] at answered
              cases answered
          dsimp only
          unfold updateNodeAddress
          rw [addressesToPublish_eq known tainted]
          cases i.wantedAddresses cfg node.toNode with
          | none =>
              exact .inl rfl
          | some wanted =>
              rw [Option.filter_some]
              cases nodeAddressesChangeDetected node.addresses wanted with
              | true =>
                  exact .inr ⟨wanted, rfl, rfl⟩
              | false =>
                  exact .inl rfl

/-- A visit respects what the patch of the wanted addresses respects. -/
theorem updateNodeFunc_respects
    {instanceMetadata : Node → Except Err InstanceMetadata}
    (answers : i.Answers cfg instanceMetadata)
    {node : CloudNode}
    {relation : NodeSystem → NodeSystem → Prop}
    [Std.Refl relation]
    [IsTrans NodeSystem relation]
    (patches :
      ∀ wanted,
        i.wantedAddresses cfg node.toNode = some wanted →
        Respects relation (NodeSystem.patchAddresses admits node wanted)) :
    Respects relation
      (updateNodeFunc (NodeSystem.clusterApi admits) instanceMetadata node) := by
  rcases updateNodeFunc_cases answers node with nothing | ⟨wanted, isWanted, patching⟩
  · rw [nothing]
    exact .pure ()
  · rw [patching]
    exact .bind (patches wanted isWanted).attempt fun _ => .pure ()

/-- No server that refuses repeated addresses lets a patch lose a published one. -/
theorem patchAddresses_keepsShown
    (refuses : ∀ published, admits published = true → published.Nodup)
    (copy : CloudNode)
    (addresses : List StatusAddress) :
    Respects (Keeps (NodeSystem.Shows copy.name addresses))
      (NodeSystem.patchAddresses admits copy addresses) := by
  intro system shown
  unfold NodeSystem.patchAddresses NodeSystem.nodeRequest
  dsimp only
  split
  · exact shown
  · split
    · exact shown
    · rename_i node stored
      have named : node.name = copy.name := system.controller.guest.nodes.named stored
      split
      · rename_i admitted
        have ownStatus : system.status node.name = system.status copy.name := by
          rw [named]
        have published : (system.status node.name).addresses.Perm addresses := by
          rw [ownStatus]
          exact shown
        unfold NodeSystem.Shows NodeSystem.store
        rw [← named]
        dsimp only [NodeSystem.cloudNode]
        rw [Function.update_self]
        exact patchedAddresses_published published (refuses _ admitted)
      · exact shown

theorem patchAddresses_keepsQuiet (copy : CloudNode) (addresses : List StatusAddress) :
    Respects (Keeps NodeSystem.Quiet) (NodeSystem.patchAddresses admits copy addresses) := by
  intro system quiet
  have stillQuiet : (system.withGuest system.controller.guest.answered).Quiet := by
    unfold NodeSystem.Quiet at quiet ⊢
    simp [NodeSystem.withGuest, GuestCluster.answered, quiet]
  unfold NodeSystem.patchAddresses NodeSystem.nodeRequest
  dsimp only
  split
  · exact stillQuiet
  · split
    · exact stillQuiet
    · split <;> exact stillQuiet

/-- The annotations of the nodes do not change while the passes go on. -/
def Listed (annotations : String → StringMap) (nodes : List CloudNode) : Prop :=
  ∀ node ∈ nodes, node.annotations = annotations node.name

/-- The addresses that the node of a name is to have. -/
def InstanceManager.target
    (i : InstanceManager)
    (cfg : Config)
    (annotations : String → StringMap)
    (name : String) :
    Option (List StatusAddress) :=
  i.wantedAddresses cfg { name := name, annotations := annotations name }

variable {annotations : String → StringMap}
variable {name : String}
variable {addresses : List StatusAddress}

/-- What a node has published stays through the visits of any copies of nodes. -/
theorem visited_keepsShown
    (refuses : ∀ published, admits published = true → published.Nodup)
    (target : i.target cfg annotations name = some addresses)
    {instanceMetadata : Node → Except Err InstanceMetadata}
    (answers : i.Answers cfg instanceMetadata)
    {nodes : List CloudNode}
    (listed : Listed annotations nodes)
    (system : NodeSystem) :
    Keeps (NodeSystem.Shows name addresses) system
      (system.visited admits instanceMetadata nodes) := by
  induction nodes generalizing system with
  | nil =>
      exact id
  | cons node rest inductionHypothesis =>
      have first :
          Respects (Keeps (NodeSystem.Shows name addresses))
            (updateNodeFunc (NodeSystem.clusterApi admits) instanceMetadata node) := by
        refine updateNodeFunc_respects answers fun wanted isWanted => ?_
        by_cases own : node.name = name
        · have isNode : node.toNode = { name := name, annotations := annotations name } := by
            rw [← own, ← listed node List.mem_cons_self]
          have same : wanted = addresses := by
            rw [isNode] at isWanted
            exact Option.some.inj (isWanted.symm.trans target)
          rw [same, ← own]
          exact patchAddresses_keepsShown refuses node addresses
        · intro reached shown
          have apart :=
            @NodeSystem.patchAddresses_sameAt admits name node (Ne.symm own) wanted reached
          unfold NodeSystem.Shows
          rw [apart.2]
          exact shown
      have later :=
        inductionHypothesis (fun other member => listed other (List.mem_cons_of_mem _ member))
          (updateNodeFunc (NodeSystem.clusterApi admits) instanceMetadata node system).2
      exact trans_of (Keeps _) (first system) later

/-- A pass over some nodes, whose requests may fail and whose nodes may be old. -/
structure StatusPass.Fits
    (pass : StatusPass)
    (i : InstanceManager)
    (cfg : Config)
    (annotations : String → StringMap) :
    Prop where
  answers : i.Answers cfg pass.instanceMetadata
  listed : ∀ nodes, pass.nodes = .ok nodes → Listed annotations nodes

theorem StatusPass.Fits.keepsShown
    (refuses : ∀ published, admits published = true → published.Nodup)
    (target : i.target cfg annotations name = some addresses)
    {pass : StatusPass}
    (fits : pass.Fits i cfg annotations)
    (system : NodeSystem) :
    Keeps (NodeSystem.Shows name addresses) system (system.statusUpdated admits pass) := by
  unfold NodeSystem.statusUpdated
  cases isListed : pass.nodes with
  | error error =>
      exact id
  | ok nodes =>
      rw [updateNodeStatus_eq]
      intro shown
      have listed := fits.listed nodes isListed
      have atStart :
          NodeSystem.Shows name addresses
            (system.withGuest
              { system.controller.guest with nodeFailures := pass.nodeFailures }) :=
        shown
      exact visited_keepsShown refuses target fits.answers listed _ atStart

end Passes

section Settling

variable {admits : List StatusAddress → Bool}
variable {i : InstanceManager}
variable {cfg : Config}
variable {annotations : String → StringMap}
variable {name : String}
variable {addresses : List StatusAddress}

/-- A pass that looks at a node as it is, without failures. -/
structure StatusPass.Visits
    (pass : StatusPass)
    (i : InstanceManager)
    (cfg : Config)
    (annotations : String → StringMap)
    (name : String)
    (system : NodeSystem) :
    Prop extends pass.Fits i cfg annotations where
  visited :
    ∃ earlier node later,
      pass.nodes = .ok (earlier ++ node :: later) ∧
        node.name = name ∧
        (∀ other ∈ earlier, other.name ≠ name) ∧
        (getCloudTaint node.taints).isSome = false ∧
        node.addresses = (system.status name).addresses ∧
        pass.instanceMetadata node.toNode = i.instanceMetadata cfg node.toNode
  stored : (system.controller.guest.nodes.get? name).isSome
  calm : pass.nodeFailures = []

/-- A server that takes addresses in any order but no address twice. -/
structure Publishable (admits : List StatusAddress → Bool) (addresses : List StatusAddress) :
    Prop where
  takes : ∀ published, published.Perm addresses → admits published = true
  refuses : ∀ published, admits published = true → published.Nodup
  nonempty : ∀ address ∈ addresses, address.address ≠ ""

theorem Publishable.nodup (publishable : Publishable admits addresses) : addresses.Nodup :=
  publishable.refuses _ (publishable.takes _ (.refl _))

/-- A visit of a node as it is has it show the wanted addresses. -/
theorem updateNodeFunc_shows
    (publishable : Publishable admits addresses)
    {system : NodeSystem}
    {instanceMetadata : Node → Except Err InstanceMetadata}
    {node : CloudNode}
    {stored : GuestNode}
    (holds : system.Holds name stored)
    (named : node.name = name)
    (untainted : (getCloudTaint node.taints).isSome = false)
    (current : node.addresses = (system.status name).addresses)
    (answered : instanceMetadata node.toNode = i.instanceMetadata cfg node.toNode)
    (wanted : i.wantedAddresses cfg node.toNode = some addresses) :
    NodeSystem.Shows name addresses
      (updateNodeFunc (NodeSystem.clusterApi admits) instanceMetadata node system).2 := by
  unfold updateNodeFunc
  rw [untainted, if_neg Bool.false_ne_true, answered]
  cases known : i.instanceMetadata cfg node.toNode with
  | error error =>
      rw [InstanceManager.wantedAddresses, known] at wanted
      cases wanted
  | ok metadata =>
      dsimp only
      unfold updateNodeAddress
      rw [addressesToPublish_eq known untainted, wanted, Option.filter_some]
      cases detected : nodeAddressesChangeDetected node.addresses addresses with
      | false =>
          rw [current] at detected
          exact perm_of_undetected publishable.nodup publishable.nonempty detected
      | true =>
          have sameName : stored.name = name :=
            system.controller.guest.nodes.named holds.stored
          have patched :=
            @NodeSystem.Holds.patchAddresses admits _ _ _ holds node named addresses
          rw [current, if_pos (publishable.takes _ patchedAddresses_current)] at patched
          rw [if_pos rfl]
          dsimp only
          rw [attempt_bind_run]
          have isPatch :
              ((NodeSystem.clusterApi admits).patchStatus node addresses system).2 = _ :=
            patched
          dsimp only [pure_run]
          rw [isPatch]
          unfold NodeSystem.Shows NodeSystem.store NodeSystem.cloudNode
          dsimp only
          rw [sameName, Function.update_self]
          exact patchedAddresses_current

/-- Visits of other nodes leave a node alone. -/
theorem visited_others
    {system : NodeSystem}
    {instanceMetadata : Node → Except Err InstanceMetadata}
    {nodes : List CloudNode}
    (answers : i.Answers cfg instanceMetadata)
    (others : ∀ other ∈ nodes, other.name ≠ name)
    (quiet : system.Quiet) :
    NodeSystem.SameAt name system (system.visited admits instanceMetadata nodes) ∧
      (system.visited admits instanceMetadata nodes).Quiet := by
  induction nodes generalizing system with
  | nil =>
      exact ⟨refl_of (NodeSystem.SameAt name) system, quiet⟩
  | cons node rest inductionHypothesis =>
      have apart := Ne.symm (others node List.mem_cons_self)
      have same :
          Respects (NodeSystem.SameAt name)
            (updateNodeFunc (NodeSystem.clusterApi admits) instanceMetadata node) :=
        updateNodeFunc_respects answers fun wanted _ =>
          NodeSystem.patchAddresses_sameAt apart wanted
      have stillQuiet :
          Respects (Keeps NodeSystem.Quiet)
            (updateNodeFunc (NodeSystem.clusterApi admits) instanceMetadata node) :=
        updateNodeFunc_respects answers fun wanted _ => patchAddresses_keepsQuiet node wanted
      have later :=
        inductionHypothesis
          (fun other member => others other (List.mem_cons_of_mem _ member))
          (stillQuiet system quiet)
      exact ⟨trans_of (NodeSystem.SameAt name) (same system) later.1, later.2⟩

/-- After a visit a node shows the wanted addresses. -/
theorem StatusPass.Visits.shows
    (publishable : Publishable admits addresses)
    {pass : StatusPass}
    {system : NodeSystem}
    (visits : pass.Visits i cfg annotations name system)
    (target : i.target cfg annotations name = some addresses) :
    NodeSystem.Shows name addresses (system.statusUpdated admits pass) := by
  obtain ⟨earlier, node, later, isListed, named, others, untainted, current, answered⟩ :=
    visits.visited
  have listed := visits.listed _ isListed
  have isNode : node.toNode = { name := name, annotations := annotations name } := by
    rw [← named, ← listed node (List.mem_append_right _ List.mem_cons_self)]
  have wanted : i.wantedAddresses cfg node.toNode = some addresses := by
    rw [isNode]
    exact target
  unfold NodeSystem.statusUpdated
  rw [isListed, updateNodeStatus_eq, visits.calm]
  generalize beginning :
    system.withGuest { system.controller.guest with nodeFailures := [] } = start
  have quietStart : start.Quiet := by
    rw [← beginning]
    rfl
  have sameStart : NodeSystem.SameAt name system start := by
    rw [← beginning]
    exact ⟨rfl, rfl⟩
  unfold NodeSystem.visited
  rw [List.foldl_append, List.foldl_cons, ← NodeSystem.visited, ← NodeSystem.visited]
  -- The nodes in front leave this one alone.
  have reached := @visited_others admits _ _ _ _ _ _ visits.answers others quietStart
  obtain ⟨stored, isStored⟩ := Option.isSome_iff_exists.mp visits.stored
  have holds : (start.visited admits pass.instanceMetadata earlier).Holds name stored :=
    ⟨reached.2, (reached.1.1.trans sameStart.1).trans isStored⟩
  have shown :=
    updateNodeFunc_shows publishable holds named untainted
      (current.trans (congrArg NodeStatus.addresses (reached.1.2.trans sameStart.2)).symm)
      answered wanted
  refine visited_keepsShown publishable.refuses target visits.answers ?_ _ shown
  exact fun other member =>
    listed other (List.mem_append_right _ (List.mem_cons_of_mem _ member))

/--
Once a pass has looked at a node as it is and nothing failed, the node shows the
addresses it is to have, whatever fails in later passes and however old the nodes
are that these look at: it has them all and no other.  A pass that looks at the
node again finds no change exactly if no type has two addresses.
-/
theorem addresses_settle
    {start final : NodeSystem}
    {pass : StatusPass}
    {passes : List StatusPass}
    (publishable : Publishable admits addresses)
    (visits : pass.Visits i cfg annotations name start)
    (target : i.target cfg annotations name = some addresses)
    (execution :
      Execution
        (StepsOf (NodeSystem.statusUpdated admits) fun _ later =>
          later.Fits i cfg annotations)
        (start.statusUpdated admits pass) passes final) :
    (final.status name).addresses.Perm addresses ∧
      (nodeAddressesChangeDetected (final.status name).addresses addresses = false ↔
        OnePerType addresses) := by
  have shown : NodeSystem.Shows name addresses final := by
    refine execution.invariant (NodeSystem.Shows name addresses)
      (visits.shows publishable target) ?_
    rintro reached next later earlier ⟨fits, rfl⟩
    exact fits.keepsShown publishable.refuses target reached earlier
  exact ⟨shown, undetected_iff_of_perm shown⟩

/-- An instance with an address of each family. -/
def dualStackMember (name : String) : VirtualMachineInstance :=
  { poolMember name "prod" with
    interfaces := [{ name := "nic-1", ips := ["192.168.100.10", "fd00::10"] }] }

/-- An instance manager that finds such an instance under every name. -/
def dualStackManager : InstanceManager where
  vmClient := sampleDeployment.vmClient
  vmiClient :=
    { get := fun name => .ok (dualStackMember name)
      named := by
        intro name vmi found
        cases found
        rfl }
  nodeToVMName := ∅

/-- The addresses of such an instance. -/
def dualStackAddresses : List StatusAddress :=
  [⟨"InternalIP", "192.168.100.10"⟩, ⟨"InternalIP", "fd00::10"⟩, ⟨"Hostname", "vm1"⟩]

/-- One pass over one node without addresses. -/
def dualStackPass : StatusPass where
  nodes := .ok [{ name := "vm1" }]
  instanceMetadata := dualStackManager.instanceMetadata {}

/--
The node has both addresses, also after the same pass with its old copy, and every
pass finds a change.
-/
theorem dualStack_addresses_settle :
    (((({ controller := controllerWith [{ name := "vm1" }] } : NodeSystem).statusUpdated
        (fun addresses => addresses.Nodup) dualStackPass).statusUpdated
        (fun addresses => addresses.Nodup) dualStackPass).status "vm1").addresses.Perm
        dualStackAddresses ∧
      ¬ OnePerType dualStackAddresses := by
  have fits : dualStackPass.Fits dualStackManager {} fun _ => none :=
    ⟨fun _ => .inl rfl, by
      rintro nodes listed node member
      cases listed
      cases List.mem_singleton.mp member
      rfl⟩
  have visits :
      dualStackPass.Visits dualStackManager {} (fun _ => none) "vm1"
        { controller := controllerWith [{ name := "vm1" }] } :=
    ⟨fits, ⟨[], { name := "vm1" }, [], rfl, rfl, by simp, rfl, rfl, rfl⟩, rfl, rfl⟩
  have distinct : dualStackAddresses.Nodup := by
    decide
  have publishable :
      Publishable (fun addresses => addresses.Nodup) dualStackAddresses :=
    ⟨fun published same => decide_eq_true (same.nodup_iff.mpr distinct),
      fun _ admitted => of_decide_eq_true admitted, by decide⟩
  have settled :=
    @addresses_settle _ dualStackManager {} (fun _ => none) "vm1" dualStackAddresses
      _ _ dualStackPass [dualStackPass] publishable visits (by decide +kernel)
      (.snoc .nil ⟨fits, rfl⟩)
  refine ⟨settled.1, fun onePerType => ?_⟩
  have same := onePerType _ List.mem_cons_self _ (List.mem_cons_of_mem _ List.mem_cons_self) rfl
  revert same
  decide

end Settling

end HarvesterCloudProvider
