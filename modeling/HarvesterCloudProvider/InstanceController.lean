import HarvesterCloudProvider.MappingSync
import HarvesterCloudProvider.NodeAddresses

namespace HarvesterCloudProvider

open Program

/-!
# The controller of the virtual machine instances

The handler of `pkg/controller/virtualmachineinstance/controller.go`.  For every
changed instance it records which node name the guest agent reports, compares
the topology of the instance with the labels of the node, taints a node to have
its labels synchronised again, and stores the common network mapping.

A handled instance has two names: its own and the host name of its guest.  The
node is looked up by the host name and tainted by the name of the instance.
-/

/-- What a taint does to the pods of a node. -/
inductive TaintEffect where
  | noSchedule
  | preferNoSchedule
  | noExecute
  deriving Repr, DecidableEq

/-- A taint of a node. -/
structure Taint where
  key : String
  value : String := ""
  effect : TaintEffect
  timeAdded : Option Nat := none
  deriving Repr, DecidableEq

/-- `MatchTaint`. -/
def Taint.matchTaint (taint other : Taint) : Bool :=
  taint.key = other.key && taint.effect = other.effect

/-- A node with what the instance controller reads and writes. -/
structure GuestNode extends Node where
  labels : StringMap := none
  taints : List Taint := []

/-- The nodes of the guest cluster by their names. -/
structure NodeStore where
  get? : String → Option GuestNode
  named :
    ∀ {name : String} {node : GuestNode},
      get? name = some node →
      node.name = name

namespace NodeStore

/-- A guest cluster without nodes. -/
def empty : NodeStore where
  get? := fun _ => none
  named := by
    intro name node found
    cases found

/-- Register a node or replace it. -/
def put (store : NodeStore) (node : GuestNode) : NodeStore where
  get? := Function.update store.get? node.name (some node)
  named := by
    intro name other found
    by_cases sameName : name = node.name
    · subst sameName
      rw [Function.update_self, Option.some.injEq] at found
      rw [← found]
    · rw [Function.update_of_ne sameName] at found
      exact store.named found

/-- Remove a node. -/
def erase (store : NodeStore) (name : String) : NodeStore where
  get? := Function.update store.get? name none
  named := by
    intro other node found
    by_cases sameName : other = name
    · subst sameName
      simp at found
    · rw [Function.update_of_ne sameName] at found
      exact store.named found

theorem get?_put (store : NodeStore) (node : GuestNode) (name : String) :
    (store.put node).get? name =
      if name = node.name then some node else store.get? name :=
  Function.update_apply store.get? node.name (some node) name

end NodeStore

/-- The guest cluster and the sessions of one call of the handler. -/
structure GuestCluster where
  nodes : NodeStore := .empty
  /-- Whether the coming node requests fail on their own. -/
  nodeFailures : List (Option Failure) := []
  /-- The nodes that received a taint, last first. -/
  tainted : List String := []
  session : Session

/-- What the handler keeps in memory, and the guest cluster. -/
structure Controller where
  nodeToVMName : Std.ExtTreeMap String String := ∅
  guest : GuestCluster

section Taints

/-- One request about nodes. -/
def nodeCall
    {Answer : Type}
    (serve : GuestCluster → Except Err Answer × GuestCluster) :
    Program GuestCluster Err Answer :=
  fun guest =>
    let later := { guest with nodeFailures := guest.nodeFailures.tail }
    match guest.nodeFailures.headD none with
    | some failure => (.error failure.toErr, later)
    | none => serve later

/-- `Get` of a node, from the cache or from the server. -/
def nodeGet (name : String) : Program GuestCluster Err GuestNode :=
  nodeCall fun guest =>
    match guest.nodes.get? name with
    | some node => (.ok node, guest)
    | none => (.error (notFound "nodes" name), guest)

/-- `PatchNodeTaints`. -/
def patchNodeTaints (name : String) (taints : List Taint) : Program GuestCluster Err Unit :=
  nodeCall fun guest =>
    match guest.nodes.get? name with
    | some node =>
        (.ok (),
          { guest with
            nodes := guest.nodes.put { node with taints := taints }
            tainted := name :: guest.tainted })
    | none => (.error (notFound "nodes" name), guest)

/-- The loop over the taints; none when the taint is already there. -/
def replaceMatching (taint : Taint) : List Taint → Option (List Taint × Bool)
  | [] => some ([], false)
  | first :: rest =>
      if taint.matchTaint first then
        if taint = first then
          none
        else
          (replaceMatching taint rest).map fun replaced => (taint :: replaced.1, true)
      else
        (replaceMatching taint rest).map fun replaced => (first :: replaced.1, replaced.2)

/-- `addOrUpdateTaint`: the new taints and whether they differ. -/
def addOrUpdateTaint (taints : List Taint) (taint : Taint) : List Taint × Bool :=
  match replaceMatching taint taints with
  | none => (taints, false)
  | some (newTaints, updated) =>
      (if updated then newTaints else newTaints ++ [taint], true)

/-- Attempts of `updateTaintBackoff`. -/
def updateTaintBackoffSteps : Nat :=
  5

/-- One attempt to taint a node. -/
def addOrUpdateTaintOnce (nodeName : String) (taint : Taint) : Program GuestCluster Err Unit := do
  let oldNode ← nodeGet nodeName
  let updated := addOrUpdateTaint oldNode.taints taint
  if updated.2 then
    patchNodeTaints nodeName updated.1
  else
    pure ()

/-- `AddOrUpdateTaintOnNode` with one taint. -/
def addOrUpdateTaintOnNode (nodeName : String) (taint : Taint) : Program GuestCluster Err Unit :=
  retryWhile Err.isConflict (addOrUpdateTaintOnce nodeName taint)
    (updateTaintBackoffSteps - 1)

end Taints

/-- The taint that has a node synchronised again. -/
def resyncTaint : Taint where
  key := taintExternalCloudProvider
  value := "true"
  effect := .preferNoSchedule

/-- `reSync`: taint the node with the name of the instance. -/
def reSync (vmi : VirtualMachineInstance) : Program GuestCluster Err Unit :=
  addOrUpdateTaintOnNode vmi.name resyncTaint

/-- Whether annotations of an instance and labels of a node agree on the topology. -/
def compareTopology (a b : StringMap) : Bool :=
  a.read labelTopologyRegion = b.read labelTopologyRegion &&
    a.read labelTopologyZone = b.read labelTopologyZone

/-- The instances that the handler does not look at any further. -/
def Handler.skips (h : Handler) (vmi : VirtualMachineInstance) : Bool :=
  vmi.deletionTimestamp.isSome ||
    (vmi.annotations.isNone || vmi.labels.isNone || vmi.ns ≠ h.ns ||
      !isMigrationCompleted vmi) ||
    vmi.labels.read labelKeyVirtualMachineCreator ≠ virtualMachineCreatorNodeDriver

/-- The host name that the guest agent reports, else the name of the instance. -/
def nodeNameOf (vmi : VirtualMachineInstance) (guestOsInfo : Except Err String) : String :=
  match guestOsInfo with
  | .ok hostname => hostname
  | .error _ => vmi.name

/-- Remember which instance a reported host name belongs to. -/
def storeNodeName
    (vmi : VirtualMachineInstance)
    (guestOsInfo : Except Err String)
    (nodeToVMName : Std.ExtTreeMap String String) :
    Std.ExtTreeMap String String :=
  match guestOsInfo with
  | .ok hostname => nodeToVMName.insert hostname vmi.name
  | .error _ => nodeToVMName

/-- The rest of the handler, once the name of the node is known. -/
def Handler.handleNode
    (h : Handler)
    (cfg : Config)
    (vmiCache : List VirtualMachineInstance)
    (vmi : VirtualMachineInstance)
    (nodeName : String) :
    Program GuestCluster Err Unit := do
  match ← attempt (nodeGet nodeName) with
  | .error error =>
      if error.isNotFound then
        -- The instance does not belong to this cluster.
        pure ()
      else
        fail error
  | .ok node =>
      if !compareTopology vmi.annotations node.labels then
        reSync vmi
      zoom GuestCluster.session (fun session guest => { guest with session := session })
        (mapError (.wrap "failed to sync NAD mapping ConfigMap: ")
          (h.syncNADMappingConfigMap cfg vmiCache))

/--
`OnVmiChanged`.  It returns the given instance in all cases, so that only the
error is kept.  The caller supplies the answer of the guest agent.
-/
def Handler.onVmiChanged
    (h : Handler)
    (cfg : Config)
    (vmiCache : List VirtualMachineInstance)
    (guestOsInfo : Except Err String)
    (vmi : Option VirtualMachineInstance) :
    Program Controller Err Unit :=
  match vmi with
  | none => pure ()
  | some vmi =>
      if h.skips vmi then
        pure ()
      else do
        zoom Controller.nodeToVMName
          (fun nodeToVMName controller => { controller with nodeToVMName := nodeToVMName })
          (fun nodeToVMName => (.ok (), storeNodeName vmi guestOsInfo nodeToVMName))
        zoom Controller.guest (fun guest controller => { controller with guest := guest })
          (h.handleNode cfg vmiCache vmi (nodeNameOf vmi guestOsInfo))

section Taints

variable {taint : Taint}

theorem replaceMatching_eq_none {taints : List Taint} :
    replaceMatching taint taints = none ↔ taint ∈ taints := by
  induction taints with
  | nil =>
      simp [replaceMatching]
  | cons first rest inductionHypothesis =>
      rw [replaceMatching, List.mem_cons]
      by_cases same : taint = first
      · simp [same, Taint.matchTaint]
      · rw [if_neg same]
        split <;> simp [same, inductionHypothesis]

/-- A taint that is already there is not added again. -/
theorem addOrUpdateTaint_of_mem
    {taints : List Taint}
    (member : taint ∈ taints) :
    addOrUpdateTaint taints taint = (taints, false) := by
  rw [addOrUpdateTaint, replaceMatching_eq_none.mpr member]

theorem addOrUpdateTaint_of_notMem
    {taints : List Taint}
    (absent : taint ∉ taints) :
    (addOrUpdateTaint taints taint).2 = true := by
  cases replaced : replaceMatching taint taints with
  | none =>
      exact (absent (replaceMatching_eq_none.mp replaced)).elim
  | some new =>
      rw [addOrUpdateTaint, replaced]

/-- A taint is replaced only where its list then holds it. -/
theorem mem_of_replaceMatching
    {taints newTaints : List Taint}
    (replaced : replaceMatching taint taints = some (newTaints, true)) :
    taint ∈ newTaints := by
  induction taints generalizing newTaints with
  | nil =>
      simp [replaceMatching] at replaced
  | cons first rest inductionHypothesis =>
      rw [replaceMatching] at replaced
      split at replaced
      · split at replaced
        · cases replaced
        · obtain ⟨later, -, made⟩ := Option.map_eq_some_iff.mp replaced
          cases made
          exact List.mem_cons_self
      · obtain ⟨later, found, made⟩ := Option.map_eq_some_iff.mp replaced
        obtain ⟨newLater, updated⟩ := later
        cases made
        exact List.mem_cons_of_mem _ (inductionHypothesis found)

/-- Afterwards the taint is there. -/
theorem mem_addOrUpdateTaint (taints : List Taint) (taint : Taint) :
    taint ∈ (addOrUpdateTaint taints taint).1 := by
  cases replaced : replaceMatching taint taints with
  | none =>
      rw [addOrUpdateTaint, replaced]
      exact replaceMatching_eq_none.mp replaced
  | some new =>
      obtain ⟨newTaints, updated⟩ := new
      rw [addOrUpdateTaint, replaced]
      cases updated with
      | true =>
          exact mem_of_replaceMatching replaced
      | false =>
          simp

/-- The node with the taint that has it synchronised again. -/
def GuestNode.withResyncTaint (node : GuestNode) : GuestNode :=
  { node with taints := (addOrUpdateTaint node.taints resyncTaint).1 }

theorem GuestNode.withResyncTaint_eq_self {node : GuestNode} :
    node.withResyncTaint = node ↔ resyncTaint ∈ node.taints := by
  constructor
  · intro same
    rw [← same]
    exact mem_addOrUpdateTaint node.taints resyncTaint
  · intro member
    rw [withResyncTaint, addOrUpdateTaint_of_mem member]

end Taints

section Requests

variable {guest : GuestCluster}

/-- The coming node requests do not fail on their own. -/
def GuestCluster.Calm (guest : GuestCluster) : Prop :=
  ∀ failure ∈ guest.nodeFailures, failure = none

/-- The guest cluster after one more node request. -/
def GuestCluster.answered (guest : GuestCluster) : GuestCluster :=
  { guest with nodeFailures := guest.nodeFailures.tail }

theorem GuestCluster.Calm.answered (calm : guest.Calm) : guest.answered.Calm :=
  fun failure member => calm failure (List.mem_of_mem_tail member)

theorem GuestCluster.Calm.next (calm : guest.Calm) :
    guest.nodeFailures.headD none = none := by
  cases failures : guest.nodeFailures with
  | nil =>
      rfl
  | cons failure rest =>
      exact calm failure (by simp [failures])

theorem nodeGet_calm
    (calm : guest.Calm)
    (name : String) :
    nodeGet name guest =
      match guest.nodes.get? name with
      | some node => (.ok node, guest.answered)
      | none => (.error (notFound "nodes" name), guest.answered) := by
  simp only [nodeGet, nodeCall, calm.next]
  rfl

/-- Whatever the answer is, looking a node up changes nothing. -/
theorem nodeGet_state (name : String) (guest : GuestCluster) :
    (nodeGet name guest).2 = guest.answered := by
  unfold nodeGet nodeCall
  dsimp only
  split
  · rfl
  · split <;> rfl

/-- Only a stored node is returned. -/
theorem nodeGet_ok
    {name : String}
    {node : GuestNode}
    (found : (nodeGet name guest).1 = .ok node) :
    guest.nodes.get? name = some node := by
  unfold nodeGet nodeCall at found
  dsimp only at found
  split at found
  · cases found
  · split at found
    · rename_i stored
      cases found
      exact stored
    · cases found

/-- A missing node is reported for no other reason. -/
theorem nodeGet_notFound
    {name : String}
    {error : Err}
    (failed : (nodeGet name guest).1 = .error error)
    (isNotFound : error.isNotFound = true) :
    guest.nodes.get? name = none := by
  unfold nodeGet nodeCall at failed
  dsimp only at failed
  split at failed
  · cases failed
    rw [Failure.isNotFound_toErr] at isNotFound
    cases isNotFound
  · split at failed
    · cases failed
    · rename_i missing
      exact missing

/-- Node requests keep the session and bring no new node. -/
structure NodesOnly (before after : GuestCluster) : Prop where
  session : after.session = before.session
  names : ∀ name, (after.nodes.get? name).isSome → (before.nodes.get? name).isSome

instance : Std.Refl NodesOnly where
  refl _ := ⟨rfl, fun _ present => present⟩

instance : IsTrans GuestCluster NodesOnly where
  trans _ _ _ earlier later :=
    ⟨later.session.trans earlier.session,
      fun name present => earlier.names name (later.names name present)⟩

theorem nodeCall_nodesOnly
    {Answer : Type}
    {serve : GuestCluster → Except Err Answer × GuestCluster}
    (serves : ∀ guest, NodesOnly guest (serve guest).2) :
    Respects NodesOnly (nodeCall serve) := by
  intro guest
  unfold nodeCall
  dsimp only
  have answered : NodesOnly guest guest.answered := ⟨rfl, fun _ present => present⟩
  split
  · exact answered
  · exact trans_of NodesOnly answered (serves guest.answered)

theorem nodeGet_nodesOnly (name : String) : Respects NodesOnly (nodeGet name) := by
  refine nodeCall_nodesOnly fun guest => ?_
  split <;> exact refl_of NodesOnly guest

theorem patchNodeTaints_nodesOnly (name : String) (taints : List Taint) :
    Respects NodesOnly (patchNodeTaints name taints) := by
  refine nodeCall_nodesOnly fun guest => ?_
  split
  · rename_i node stored
    refine ⟨rfl, fun other present => ?_⟩
    dsimp only at present
    rw [NodeStore.get?_put] at present
    split at present
    · rename_i sameName
      rw [sameName, guest.nodes.named stored, stored]
      rfl
    · exact present
  · exact refl_of NodesOnly guest

/-- Tainting touches no session and brings no new node. -/
theorem reSync_nodesOnly (vmi : VirtualMachineInstance) : Respects NodesOnly (reSync vmi) := by
  refine .retryWhile (.bind (nodeGet_nodesOnly _) fun oldNode => ?_) _
  dsimp only
  split
  · exact patchNodeTaints_nodesOnly _ _
  · exact .pure ()

theorem patchNodeTaints_calm
    {name : String}
    {node : GuestNode}
    (calm : guest.Calm)
    (stored : guest.nodes.get? name = some node)
    (taints : List Taint) :
    patchNodeTaints name taints guest =
      (.ok (),
        { guest.answered with
          nodes := guest.nodes.put { node with taints := taints }
          tainted := name :: guest.tainted }) := by
  simp only [patchNodeTaints, nodeCall, calm.next, stored]
  rfl

/-- Tainting a missing node fails. -/
theorem reSync_missing
    {vmi : VirtualMachineInstance}
    (calm : guest.Calm)
    (missing : guest.nodes.get? vmi.name = none) :
    reSync vmi guest = (.error (notFound "nodes" vmi.name), guest.answered) := by
  have once :
      addOrUpdateTaintOnce vmi.name resyncTaint guest =
        (.error (notFound "nodes" vmi.name), guest.answered) := by
    rw [addOrUpdateTaintOnce, bind_run, nodeGet_calm calm, missing]
  have ran := @retryWhile_of_error _ _ _ Err.isConflict _ _ _ _ once 3
  exact ran

/-- Tainting a stored node gives it the taint and leaves all others alone. -/
theorem reSync_found
    {vmi : VirtualMachineInstance}
    {node : GuestNode}
    (calm : guest.Calm)
    (stored : guest.nodes.get? vmi.name = some node) :
    ∃ reached : GuestCluster,
      reSync vmi guest = (.ok (), reached) ∧
        reached.session = guest.session ∧
        ∀ name,
          reached.nodes.get? name =
            if name = vmi.name then
              some node.withResyncTaint
            else
              guest.nodes.get? name := by
  have looked := nodeGet_calm calm vmi.name
  rw [stored] at looked
  by_cases present : resyncTaint ∈ node.taints
  · have once :
        addOrUpdateTaintOnce vmi.name resyncTaint guest = (.ok (), guest.answered) := by
      rw [addOrUpdateTaintOnce, bind_run, looked]
      dsimp only
      rw [addOrUpdateTaint_of_mem present]
      rfl
    refine ⟨_, retryWhile_of_ok once _, rfl, fun name => ?_⟩
    rw [GuestNode.withResyncTaint_eq_self.mpr present]
    split
    · rename_i same
      rw [same]
      exact stored
    · rfl
  · have once :
        addOrUpdateTaintOnce vmi.name resyncTaint guest =
          patchNodeTaints vmi.name (addOrUpdateTaint node.taints resyncTaint).1
            guest.answered := by
      rw [addOrUpdateTaintOnce, bind_run, looked]
      dsimp only
      rw [if_pos (addOrUpdateTaint_of_notMem present)]
    rw [patchNodeTaints_calm calm.answered stored] at once
    refine ⟨_, retryWhile_of_ok once _, rfl, fun name => ?_⟩
    have sameName : node.name = vmi.name := guest.nodes.named stored
    rw [← sameName]
    exact NodeStore.get?_put guest.nodes node.withResyncTaint name

end Requests

section Handling

variable {h : Handler}
variable {cfg : Config}
variable {vmiCache : List VirtualMachineInstance}
variable {vmi : VirtualMachineInstance}
variable {guestOsInfo : Except Err String}

/-- An instance that is skipped changes nothing. -/
theorem onVmiChanged_of_skips
    (skipped : h.skips vmi = true)
    (controller : Controller) :
    h.onVmiChanged cfg vmiCache guestOsInfo (some vmi) controller = (.ok (), controller) := by
  unfold Handler.onVmiChanged
  dsimp only
  rw [if_pos skipped]
  rfl

/-- Storing the host name does not interfere with the rest of the handler. -/
theorem onVmiChanged_of_handled
    (handled : h.skips vmi = false)
    (controller : Controller) :
    h.onVmiChanged cfg vmiCache guestOsInfo (some vmi) controller =
      ((h.handleNode cfg vmiCache vmi (nodeNameOf vmi guestOsInfo) controller.guest).1,
        { nodeToVMName := storeNodeName vmi guestOsInfo controller.nodeToVMName
          guest :=
            (h.handleNode cfg vmiCache vmi (nodeNameOf vmi guestOsInfo)
              controller.guest).2 }) := by
  unfold Handler.onVmiChanged
  dsimp only
  rw [if_neg (by rw [handled]; exact Bool.false_ne_true)]
  rfl

variable {guest : GuestCluster}
variable {nodeName : String}

/-- The synchronisation at the end of the handler. -/
def Handler.syncAfter
    (h : Handler)
    (cfg : Config)
    (vmiCache : List VirtualMachineInstance) :
    Program Session Err Unit :=
  mapError (.wrap "failed to sync NAD mapping ConfigMap: ")
    (h.syncNADMappingConfigMap cfg vmiCache)

/-- Without a node of the name nothing but the request counter changes. -/
theorem handleNode_missing
    (missing : guest.nodes.get? nodeName = none) :
    (h.handleNode cfg vmiCache vmi nodeName guest).2 = guest.answered := by
  unfold Handler.handleNode
  rw [attempt_bind_run, nodeGet_state]
  cases answer : (nodeGet nodeName guest).1 with
  | ok node =>
      rw [nodeGet_ok answer] at missing
      cases missing
  | error error =>
      dsimp only
      split <;> rfl

/--
The handler ends before the synchronisation, with an error unless the node is
missing, or its answer is that of the synchronisation.
-/
theorem handleNode_cases
    {answer : Except Err Unit}
    {final : GuestCluster}
    (ran : h.handleNode cfg vmiCache vmi nodeName guest = (answer, final)) :
    (NodesOnly guest final ∧ (answer = .ok () → guest.nodes.get? nodeName = none)) ∨
      ∃ reached,
        NodesOnly guest reached ∧
          answer = (h.syncAfter cfg vmiCache reached.session).1 ∧
          final =
            { reached with session := (h.syncAfter cfg vmiCache reached.session).2 } := by
  unfold Handler.handleNode at ran
  rw [attempt_bind_run] at ran
  have looked := nodeGet_nodesOnly nodeName guest
  generalize reachedEq : (nodeGet nodeName guest).2 = reached at ran looked
  cases got : (nodeGet nodeName guest).1 with
  | error error =>
      rw [got] at ran
      dsimp only at ran
      split at ran
      · rename_i isNotFound
        simp only [pure_run, Prod.mk.injEq] at ran
        obtain ⟨rfl, rfl⟩ := ran
        exact .inl ⟨looked, fun _ => nodeGet_notFound got isNotFound⟩
      · simp only [fail_run, Prod.mk.injEq] at ran
        obtain ⟨rfl, rfl⟩ := ran
        exact .inl ⟨looked, fun same => by cases same⟩
  | ok node =>
      rw [got] at ran
      dsimp only at ran
      split at ran
      · rcases bind_cases ran with ⟨error, failed, rfl⟩ | ⟨_, tainted, taints, synced⟩
        · have moved := (reSync_nodesOnly vmi).of_run failed
          exact .inl ⟨trans_of NodesOnly looked moved, fun same => by cases same⟩
        · have moved := (reSync_nodesOnly vmi).of_run taints
          refine .inr ⟨tainted, trans_of NodesOnly looked moved, ?_⟩
          rw [zoom_run, Prod.mk.injEq] at synced
          exact ⟨synced.1.symm, synced.2.symm⟩
      · refine .inr ⟨reached, looked, ?_⟩
        rw [zoom_run, Prod.mk.injEq] at ran
        exact ⟨ran.1.symm, ran.2.symm⟩

/-- A node with another topology: the taint comes before the synchronisation. -/
theorem handleNode_mismatch
    {node : GuestNode}
    (calm : guest.Calm)
    (found : guest.nodes.get? nodeName = some node)
    (mismatch : compareTopology vmi.annotations node.labels = false) :
    h.handleNode cfg vmiCache vmi nodeName guest =
      match reSync vmi guest.answered with
      | (.error error, reached) => (.error error, reached)
      | (.ok _, reached) =>
          ((h.syncAfter cfg vmiCache reached.session).1,
            { reached with session := (h.syncAfter cfg vmiCache reached.session).2 }) := by
  have looked := nodeGet_calm calm nodeName
  rw [found] at looked
  unfold Handler.handleNode
  rw [attempt_bind_run, looked]
  dsimp only
  rw [mismatch]
  cases tainted : reSync vmi guest.answered with
  | mk answer reached =>
      simp only [Bool.not_false, ↓reduceIte, bind_run, tainted]
      cases answer with
      | error error =>
          rfl
      | ok done =>
          rfl

/-- The synchronisation never fails with a missing node. -/
theorem syncAfter_ne_notFound
    (session : Session)
    (name : String) :
    (h.syncAfter cfg vmiCache session).1 ≠ .error (notFound "nodes" name) := by
  intro failed
  have ran :
      h.syncAfter cfg vmiCache session =
        (.error (notFound "nodes" name), (h.syncAfter cfg vmiCache session).2) :=
    Prod.ext failed rfl
  obtain ⟨cause, -, same⟩ := mapError_error ran
  have messages := congrArg (fun error => error.message.toList.head?) same
  simp [notFound, Err.wrap] at messages

/--
Changing one stored value is changing another one exactly when they are the
same value or neither change does anything.
-/
theorem changedAt_eq_iff
    {Value : Type}
    {stored : String → Option Value}
    {change : Value → Value}
    {first second : String}
    {firstValue secondValue : Value}
    (firstStored : stored first = some firstValue)
    (secondStored : stored second = some secondValue) :
    (∀ name,
      (if name = first then some (change firstValue) else stored name) =
        if name = second then some (change secondValue) else stored name) ↔
      first = second ∨ (change firstValue = firstValue ∧ change secondValue = secondValue) := by
  constructor
  · intro agree
    by_cases same : first = second
    · exact .inl same
    · have atFirst := agree first
      have atSecond := agree second
      rw [if_pos rfl, if_neg same, firstStored, Option.some.injEq] at atFirst
      rw [if_neg (Ne.symm same), if_pos rfl, secondStored, Option.some.injEq] at atSecond
      exact .inr ⟨atFirst, atSecond.symm⟩
  · rintro (rfl | ⟨firstKept, secondKept⟩) name
    · rw [Option.some.inj (firstStored.symm.trans secondStored)]
    · have unchanged
          {key : String}
          {value : Value}
          (found : stored key = some value) :
          (if name = key then some value else stored name) = stored name := by
        split
        · rename_i here
          rw [here, found]
        · rfl
      rw [firstKept, secondKept, unchanged firstStored, unchanged secondStored]

/-- The looked-up node and no other gets the taint, and the mapping is synchronised. -/
structure ResyncsLookedUp
    (h : Handler)
    (cfg : Config)
    (vmiCache : List VirtualMachineInstance)
    (nodeName : String)
    (node : GuestNode)
    (guest : GuestCluster)
    (answer : Except Err Unit)
    (final : GuestCluster) :
    Prop where
  nodes :
    ∀ name,
      final.nodes.get? name =
        if name = nodeName then some node.withResyncTaint else guest.nodes.get? name
  synced : h.syncAfter cfg vmiCache guest.session = (answer, final.session)

/--
A node with another topology is the one that gets the taint, and the mapping is
synchronised afterwards, exactly when the node has the name of the instance or
when neither of the two nodes needs the taint any more.
-/
theorem resync_hits_looked_up_iff
    {controller final : Controller}
    {node : GuestNode}
    {answer : Except Err Unit}
    (handled : h.skips vmi = false)
    (calm : controller.guest.Calm)
    (found : controller.guest.nodes.get? (nodeNameOf vmi guestOsInfo) = some node)
    (mismatch : compareTopology vmi.annotations node.labels = false)
    (ran :
      h.onVmiChanged cfg vmiCache guestOsInfo (some vmi) controller = (answer, final)) :
    ResyncsLookedUp h cfg vmiCache (nodeNameOf vmi guestOsInfo) node controller.guest
        answer final.guest ↔
      nodeNameOf vmi guestOsInfo = vmi.name ∨
        ∃ other,
          controller.guest.nodes.get? vmi.name = some other ∧
            resyncTaint ∈ other.taints ∧
            resyncTaint ∈ node.taints := by
  rw [onVmiChanged_of_handled handled, handleNode_mismatch calm found mismatch] at ran
  cases stored : controller.guest.nodes.get? vmi.name with
  | none =>
      rw [reSync_missing calm.answered stored] at ran
      simp only [Prod.mk.injEq] at ran
      obtain ⟨rfl, rfl⟩ := ran
      constructor
      · intro resyncs
        exact (syncAfter_ne_notFound _ _ (congrArg Prod.fst resyncs.synced)).elim
      · rintro (sameName | ⟨other, ⟨⟩, -⟩)
        rw [sameName, stored] at found
        cases found
  | some other =>
      obtain ⟨reached, tainted, session, nodes⟩ := reSync_found calm.answered stored
      rw [tainted] at ran
      simp only [Prod.mk.injEq] at ran
      obtain ⟨rfl, rfl⟩ := ran
      have sameNodes :
          (∀ name,
            reached.nodes.get? name =
              if name = nodeNameOf vmi guestOsInfo then
                some node.withResyncTaint
              else
                controller.guest.nodes.get? name) ↔
            vmi.name = nodeNameOf vmi guestOsInfo ∨
              (other.withResyncTaint = other ∧ node.withResyncTaint = node) := by
        simp only [nodes]
        exact changedAt_eq_iff stored found
      constructor
      · intro resyncs
        rcases sameNodes.mp resyncs.nodes with sameName | ⟨otherHas, nodeHas⟩
        · exact .inl sameName.symm
        · exact .inr ⟨other, rfl, GuestNode.withResyncTaint_eq_self.mp otherHas,
            GuestNode.withResyncTaint_eq_self.mp nodeHas⟩
      · intro condition
        refine ⟨sameNodes.mpr ?_, by rw [session]; rfl⟩
        rcases condition with sameName | ⟨same, ⟨⟩, otherHas, nodeHas⟩
        · exact .inl sameName.symm
        · exact .inr ⟨GuestNode.withResyncTaint_eq_self.mpr otherHas,
            GuestNode.withResyncTaint_eq_self.mpr nodeHas⟩

/-- A running instance of a guest cluster, made by the node driver. -/
def poolMember (name cluster : String) : VirtualMachineInstance where
  ns := "default"
  name := name
  labels :=
    (NilableMap.write none labelKeyVirtualMachineCreator
      virtualMachineCreatorNodeDriver).write labelKeyGuestClusterNameOnVM cluster
  annotations := NilableMap.write none labelTopologyZone "zone-1"
  networks := [{ name := "nic-1", multus := some ⟨"default/mgmt"⟩ }]
  phase := .running
  interfaces := [{ name := "nic-1", interfaceName := "enp1s0" }]

/-- A controller of a guest cluster with the given nodes. -/
def controllerWith (nodes : List GuestNode) : Controller where
  guest :=
    { nodes := nodes.foldl NodeStore.put .empty
      session := { cluster := {}, ticks := [] } }

/-- The handler at work on one instance with the given host name. -/
def sampleHandling (hostname : String) (nodes : List GuestNode) : Except Err Unit × Controller :=
  sampleHandler.onVmiChanged sampleConfig [poolMember "vm1" "prod"] (.ok hostname)
    (some (poolMember "vm1" "prod")) (controllerWith nodes)

/-- A node with the name of its instance gets the taint. -/
theorem resync_hits_vm1 :
    ResyncsLookedUp sampleHandler sampleConfig [poolMember "vm1" "prod"] "vm1"
      { name := "vm1" } (controllerWith [{ name := "vm1" }, { name := "vm2" }]).guest
      (sampleHandling "vm1" [{ name := "vm1" }, { name := "vm2" }]).1
      (sampleHandling "vm1" [{ name := "vm1" }, { name := "vm2" }]).2.guest := by
  have handled :
      sampleHandler.skips (poolMember "vm1" "prod") = false ∧
        compareTopology (poolMember "vm1" "prod").annotations none = false := by
    decide +kernel
  have calm : (controllerWith [{ name := "vm1" }, { name := "vm2" }]).guest.Calm := by
    intro failure member
    cases member
  exact
    (@resync_hits_looked_up_iff sampleHandler sampleConfig _ _ (.ok "vm1") _ _ _ _
      handled.1 calm rfl handled.2 rfl).mpr (.inl rfl)

/-- A node with another name than its instance is not the one that gets the taint. -/
theorem resync_not_always_looked_up :
    ¬ ∀ (h : Handler) (cfg : Config) (vmiCache : List VirtualMachineInstance)
        (vmi : VirtualMachineInstance) (guestOsInfo : Except Err String)
        (controller final : Controller) (node : GuestNode) (answer : Except Err Unit),
        h.skips vmi = false →
        controller.guest.Calm →
        controller.guest.nodes.get? (nodeNameOf vmi guestOsInfo) = some node →
        compareTopology vmi.annotations node.labels = false →
        h.onVmiChanged cfg vmiCache guestOsInfo (some vmi) controller = (answer, final) →
        ResyncsLookedUp h cfg vmiCache (nodeNameOf vmi guestOsInfo) node controller.guest
          answer final.guest := by
  intro always
  have evaluated :
      sampleHandler.skips (poolMember "vm1" "prod") = false ∧
        compareTopology (poolMember "vm1" "prod").annotations none = false ∧
        ((sampleHandling "host-1" [{ name := "host-1" }]).2.guest.nodes.get? "host-1").map
          GuestNode.taints = some [] := by
    decide +kernel
  have calm : (controllerWith [{ name := "host-1" }]).guest.Calm := by
    intro failure member
    cases member
  have resyncs :=
    always sampleHandler sampleConfig [poolMember "vm1" "prod"] (poolMember "vm1" "prod")
      (.ok "host-1") (controllerWith [{ name := "host-1" }])
      (sampleHandling "host-1" [{ name := "host-1" }]).2 { name := "host-1" }
      (sampleHandling "host-1" [{ name := "host-1" }]).1 evaluated.1 calm rfl evaluated.2.1
      rfl
  have sameName : "host-1" = nodeNameOf (poolMember "vm1" "prod") (.ok "host-1") := rfl
  have tainted := resyncs.nodes "host-1"
  rw [if_pos sameName] at tainted
  have taints := evaluated.2.2
  rw [tainted] at taints
  revert taints
  decide +kernel

end Handling

end HarvesterCloudProvider
