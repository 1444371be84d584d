import HarvesterCloudProvider.NodeUpdateRace

namespace HarvesterCloudProvider

open Program

/-!
# Nodes whose virtual machine is gone or stopped

The node lifecycle controller of the framework passes over all nodes again and
again.  A node that is ready loses the shutdown taint.  Any other node is deleted
when its virtual machine is missing, and gets the shutdown taint when its virtual
machine is not ready.

The nodes come from a cache and every request may fail.  Whatever happens to one
node, the pass goes on with the next one.
-/

section Taints

/-- `taintExists`. -/
def taintExists (taints : List Taint) (taintToFind : Taint) : Bool :=
  taints.any fun taint => taint.matchTaint taintToFind

/-- `deleteTaint`: the taints that are left and whether there was one to delete. -/
def deleteTaint (taints : List Taint) (taintToDelete : Taint) : List Taint × Bool :=
  (taints.filter fun taint => !taintToDelete.matchTaint taint,
    taints.any fun taint => taintToDelete.matchTaint taint)

/-- `removeTaint`: the new taints and whether they differ. -/
def removeTaint (taints : List Taint) (taint : Taint) : List Taint × Bool :=
  if taints = [] then
    (taints, false)
  else if !taintExists taints taint then
    (taints, false)
  else
    ((deleteTaint taints taint).1, true)

/-- `ShutdownTaint`. -/
def shutdownTaint : Taint where
  key := "node.cloudprovider.kubernetes.io/shutdown"
  effect := .noSchedule

variable {taint : Taint}

theorem matchTaint_comm (first second : Taint) :
    first.matchTaint second = second.matchTaint first := by
  simp only [Taint.matchTaint, eq_comm]

/-- A taint is removed where it is found. -/
theorem removeTaint_eq (taints : List Taint) :
    removeTaint taints taint =
      (taints.filter fun other => !taint.matchTaint other, taintExists taints taint) := by
  cases found : taintExists taints taint with
  | true =>
      have someTaints : taints ≠ [] := by
        rintro rfl
        cases found
      rw [removeTaint, if_neg someTaints, found]
      rfl
  | false =>
      have kept : (taints.filter fun other => !taint.matchTaint other) = taints := by
        refine List.filter_eq_self.mpr fun other member => ?_
        rw [taintExists, List.any_eq_false] at found
        rw [Bool.not_eq_true', matchTaint_comm]
        exact Bool.eq_false_iff.mpr (found other member)
      rw [removeTaint, found, kept]
      split <;> rfl

/-- A report of no difference is right. -/
theorem removeTaint_eq_self {taints : List Taint} :
    (removeTaint taints taint).1 = taints ↔ (removeTaint taints taint).2 = false := by
  rw [removeTaint_eq, List.filter_eq_self, taintExists, List.any_eq_false]
  simp only [Bool.not_eq_true', Bool.not_eq_true, matchTaint_comm]

/-- Removing a taint again changes nothing. -/
theorem removeTaint_again (taints : List Taint) :
    (removeTaint (removeTaint taints taint).1 taint).1 = (removeTaint taints taint).1 := by
  rw [removeTaint_eq, removeTaint_eq, List.filter_filter]
  simp only [Bool.and_self]

theorem addOrUpdateTaint_eq_self {taints : List Taint} :
    (addOrUpdateTaint taints taint).1 = taints ↔ (addOrUpdateTaint taints taint).2 = false := by
  by_cases member : taint ∈ taints
  · rw [addOrUpdateTaint_of_mem member]
    exact iff_of_true rfl rfl
  · rw [addOrUpdateTaint_of_notMem member]
    refine iff_of_false (fun same => member ?_) Bool.true_eq_false_eq_False
    rw [← same]
    exact mem_addOrUpdateTaint taints taint

/-- Adding a taint again changes nothing. -/
theorem addOrUpdateTaint_again (taints : List Taint) :
    (addOrUpdateTaint (addOrUpdateTaint taints taint).1 taint).1 =
      (addOrUpdateTaint taints taint).1 := by
  rw [addOrUpdateTaint_of_mem (mem_addOrUpdateTaint taints taint)]

end Taints

section Controller

/-- The requests of the lifecycle controller about nodes. -/
structure TaintApi (State Stored : Type) where
  /-- `Nodes().Get`, from a cache or from the server. -/
  get : String → Program State Err Stored
  taints : Stored → List Taint
  /-- `PatchNodeTaints`; the patch carries the version of the node that was read. -/
  patchNodeTaints : String → Stored → List Taint → Program State Err Unit
  /-- `Nodes().Delete`. -/
  delete : String → Program State Err Unit

variable {State Stored : Type}
variable (api : TaintApi State Stored)

/-- One attempt to change the taints of a node. -/
def changeTaintsOnce
    (nodeName : String)
    (change : List Taint → List Taint × Bool) :
    Program State Err Unit := do
  let oldNode ← api.get nodeName
  let updated := change (api.taints oldNode)
  if updated.2 then
    api.patchNodeTaints nodeName oldNode updated.1
  else
    pure ()

/-- What `AddOrUpdateTaintOnNode` and `RemoveTaintOffNode` have in common. -/
def changeTaintsOnNode
    (nodeName : String)
    (change : List Taint → List Taint × Bool) :
    Program State Err Unit :=
  retryWhile Err.isConflict (changeTaintsOnce api nodeName change)
    (updateTaintBackoffSteps - 1)

/-- `RemoveTaintOffNode` with a cached node and one taint. -/
def removeTaintOffNode
    (nodeName : String)
    (node : GuestNode)
    (taint : Taint) :
    Program State Err Unit :=
  if !taintExists node.taints taint then
    pure ()
  else
    changeTaintsOnNode api nodeName fun taints => removeTaint taints taint

inductive ConditionStatus where
  | isTrue
  | isFalse
  | unknown
  deriving Repr, DecidableEq

/-- A condition in the status of a node. -/
structure NodeCondition where
  type : String
  status : ConditionStatus
  deriving Repr, DecidableEq

def nodeReady : String :=
  "Ready"

/-- `GetNodeCondition`. -/
def getNodeCondition
    (conditions : List NodeCondition)
    (conditionType : String) :
    Option NodeCondition :=
  conditions.find? fun condition => condition.type = conditionType

/-- Whether the conditions report a ready node; unknown where they do not say. -/
def readyStatus (conditions : List NodeCondition) : ConditionStatus :=
  ((getNodeCondition conditions nodeReady).map NodeCondition.status).getD .unknown

/-- A node as the lister returns it. -/
structure ListedNode extends GuestNode where
  conditions : List NodeCondition := []

/-- What the instance manager finds at one moment. -/
structure MachineView where
  client : VMClient
  nodeToVMName : Std.ExtTreeMap String String := ∅

/-- What it finds while one node is looked at: things may change between two calls. -/
structure Lookups where
  existence : MachineView
  shutdown : MachineView

/-- `ensureNodeExistsByProviderID` for a provider with `InstancesV2`. -/
def ensureNodeExistsByProviderID (view : MachineView) (node : Node) : Except Err Bool :=
  instanceExists view.client view.nodeToVMName node

/-- `shutdownInCloudProvider` for a provider with `InstancesV2`. -/
def shutdownInCloudProvider (view : MachineView) (node : Node) : Except Err Bool :=
  instanceShutdown view.client view.nodeToVMName node

/-- The loop body of `MonitorNodes`; errors are only logged. -/
def monitorNode (lookups : Lookups) (node : ListedNode) : Program State Err Unit :=
  if readyStatus node.conditions = .isTrue then do
    let _ ← attempt (removeTaintOffNode api node.name node.toGuestNode shutdownTaint)
    pure ()
  else
    match ensureNodeExistsByProviderID lookups.existence node.toNode with
    | .error _ => pure ()
    | .ok false => do
        let _ ← attempt (api.delete node.name)
        pure ()
    | .ok true =>
        match shutdownInCloudProvider lookups.shutdown node.toNode with
        | .ok true => do
            let _ ← attempt
              (changeTaintsOnNode api node.name fun taints =>
                addOrUpdateTaint taints shutdownTaint)
            pure ()
        | _ => pure ()

/-- `MonitorNodes`; without a list of nodes there is nothing to do. -/
def monitorNodes
    (lookups : String → Lookups)
    (nodes : Except Err (List ListedNode)) :
    Program State Err Unit :=
  match nodes with
  | .error _ => pure ()
  | .ok nodes => nodes.forM fun node => monitorNode api (lookups node.name) node

end Controller

section Verdicts

/-- What is to happen to a node. -/
inductive Verdict where
  | leave
  | untaint
  | taint
  | delete
  deriving Repr, DecidableEq

/-- What becomes of a node. -/
def Verdict.apply (verdict : Verdict) (node : GuestNode) : Option GuestNode :=
  match verdict with
  | .leave => some node
  | .untaint => some { node with taints := (removeTaint node.taints shutdownTaint).1 }
  | .taint => some { node with taints := (addOrUpdateTaint node.taints shutdownTaint).1 }
  | .delete => none

/-- The verdict on a node by its conditions and its virtual machine. -/
def verdictOf
    (conditions : List NodeCondition)
    (existence shutdown : Except Err VirtualMachine) :
    Verdict :=
  if readyStatus conditions = .isTrue then
    .untaint
  else
    match existence, shutdown with
    | .error error, _ => if error.isNotFound then .delete else .leave
    | .ok _, .ok machine => if machine.ready then .leave else .taint
    | .ok _, .error _ => .leave

/-- The virtual machine of a node. -/
def MachineView.find (view : MachineView) (name : String) : Except Err VirtualMachine :=
  view.client.get (view.nodeToVMName[name]?.getD name)

/-- The verdict on a listed node. -/
def ListedNode.verdict (node : ListedNode) (lookups : Lookups) : Verdict :=
  verdictOf node.conditions (lookups.existence.find node.name)
    (lookups.shutdown.find node.name)

/-- What a verdict has done, it does not do again. -/
theorem Verdict.apply_again (verdict : Verdict) (node : GuestNode) :
    (verdict.apply node).bind verdict.apply = verdict.apply node := by
  cases verdict with
  | leave =>
      rfl
  | untaint =>
      simp only [Verdict.apply, Option.bind_some, removeTaint_again]
  | taint =>
      simp only [Verdict.apply, Option.bind_some, addOrUpdateTaint_again]
  | delete =>
      rfl

/-- The request that carries out a verdict. -/
def Verdict.request
    {State Stored : Type}
    (api : TaintApi State Stored)
    (node : ListedNode) :
    Verdict → Program State Err Unit
  | .leave => pure ()
  | .untaint => removeTaintOffNode api node.name node.toGuestNode shutdownTaint
  | .taint => changeTaintsOnNode api node.name fun taints => addOrUpdateTaint taints shutdownTaint
  | .delete => api.delete node.name

theorem ensureNodeExistsByProviderID_eq (view : MachineView) (node : Node) :
    ensureNodeExistsByProviderID view node =
      match view.find node.name with
      | .ok _ => .ok true
      | .error error => if error.isNotFound then .ok false else .error error :=
  rfl

theorem shutdownInCloudProvider_eq (view : MachineView) (node : Node) :
    shutdownInCloudProvider view node =
      (view.find node.name).map fun machine => !machine.ready := by
  unfold shutdownInCloudProvider instanceShutdown getVM MachineView.find
  cases view.client.get (view.nodeToVMName[node.name]?.getD node.name) <;> rfl

/-- The loop body makes the request of its verdict and forgets how that ended. -/
theorem monitorNode_eq
    {State Stored : Type}
    (api : TaintApi State Stored)
    (lookups : Lookups)
    (node : ListedNode)
    (state : State) :
    monitorNode api lookups node state =
      (.ok (), ((node.verdict lookups).request api node state).2) := by
  unfold monitorNode ListedNode.verdict verdictOf
  by_cases ready : readyStatus node.conditions = .isTrue
  · rw [if_pos ready, if_pos ready]
    rfl
  · rw [if_neg ready, if_neg ready, ensureNodeExistsByProviderID_eq,
      shutdownInCloudProvider_eq]
    cases lookups.existence.find node.name with
    | error error =>
        cases missing : error.isNotFound <;> simp only [missing] <;> rfl
    | ok found =>
        cases lookups.shutdown.find node.name with
        | error error =>
            rfl
        | ok machine =>
            cases running : machine.ready <;> simp only [Except.map, running] <;> rfl

end Verdicts

section Guest

variable {guest : GuestCluster}

/-- The requests to a quiet guest cluster. -/
def guestTaints : TaintApi GuestCluster GuestNode where
  get := nodeGet
  taints := GuestNode.taints
  patchNodeTaints name _ taints := patchNodeTaints name taints
  delete name :=
    nodeCall fun guest =>
      match guest.nodes.get? name with
      | some _ => (.ok (), { guest with nodes := guest.nodes.erase name })
      | none => (.error (notFound "nodes" name), guest)

/-- The instance controller and the lifecycle controller taint a node in the same way. -/
theorem changeTaintsOnNode_guestTaints (nodeName : String) (taint : Taint) :
    changeTaintsOnNode guestTaints nodeName (fun taints => addOrUpdateTaint taints taint) =
      addOrUpdateTaintOnNode nodeName taint :=
  rfl

/-- The nodes are the same as before. -/
def SameNodes (before after : GuestCluster) : Prop :=
  ∀ name, after.nodes.get? name = before.nodes.get? name

/-- One node has become what the change makes of it, the others are as before. -/
def Became
    (name : String)
    (change : GuestNode → Option GuestNode)
    (before after : GuestCluster) :
    Prop :=
  ∀ other,
    after.nodes.get? other =
      if other = name then (before.nodes.get? other).bind change else before.nodes.get? other

theorem SameNodes.trans
    {first second third : GuestCluster}
    (earlier : SameNodes first second)
    (later : SameNodes second third) :
    SameNodes first third :=
  fun name => (later name).trans (earlier name)

/-- What happens after nothing has happened. -/
theorem SameNodes.became
    {name : String}
    {change : GuestNode → Option GuestNode}
    {first second third : GuestCluster}
    (same : SameNodes first second)
    (later : Became name change second third) :
    Became name change first third := by
  intro other
  rw [later other, same other]

theorem SameNodes.answered (guest : GuestCluster) : SameNodes guest guest.answered :=
  fun _ => rfl

/-- A patch changes the taints of its node, or fails and changes nothing. -/
theorem patchNodeTaints_ended
    {name : String}
    {taints : List Taint}
    {answer : Except Err Unit}
    {final : GuestCluster}
    (ran : patchNodeTaints name taints guest = (answer, final)) :
    Ended SameNodes
      (fun before _ after =>
        Became name (fun node => some { node with taints := taints }) before after)
      guest answer final := by
  unfold patchNodeTaints nodeCall at ran
  dsimp only at ran
  split at ran
  · cases ran
    exact fun _ => rfl
  · split at ran
    · rename_i node stored
      cases ran
      intro other
      have named : node.name = name := guest.nodes.named stored
      dsimp only
      rw [NodeStore.get?_put, named]
      split
      · rename_i same
        rw [same, stored]
        rfl
      · rfl
    · cases ran
      exact fun _ => rfl

/-- A deletion removes its node, or fails and changes nothing. -/
theorem delete_ended
    {name : String}
    {answer : Except Err Unit}
    {final : GuestCluster}
    (ran : guestTaints.delete name guest = (answer, final)) :
    Ended SameNodes (fun before _ after => Became name (fun _ => none) before after)
      guest answer final := by
  unfold guestTaints nodeCall at ran
  dsimp only at ran
  split at ran
  · cases ran
    exact fun _ => rfl
  · split at ran
    · cases ran
      intro other
      rw [Option.bind_fun_none]
      exact Function.update_apply guest.nodes.get? name none other
    · cases ran
      exact fun _ => rfl

variable {change : List Taint → List Taint × Bool}

/-- The node with changed taints. -/
def retainted (change : List Taint → List Taint × Bool) (node : GuestNode) : Option GuestNode :=
  some { node with taints := (change node.taints).1 }

/-- Changing taints changes those of one node, or fails and changes nothing. -/
theorem changeTaintsOnNode_ended
    (honest : ∀ taints, (change taints).2 = false → (change taints).1 = taints)
    {name : String}
    {answer : Except Err Unit}
    {final : GuestCluster}
    (ran : changeTaintsOnNode guestTaints name change guest = (answer, final)) :
    Ended SameNodes (fun before _ after => Became name (retainted change) before after)
      guest answer final := by
  refine retryWhile_ended ?_ ?_ ?_ _ ran
  · intro first second third earlier later
    exact earlier.trans later
  · intro first second third _ earlier later
    exact earlier.became later
  · intro state ended result once
    have looked := nodeGet_state name state
    rcases bind_cases once with ⟨error, failed, rfl⟩ | ⟨node, reached, got, rest⟩
    · rw [show nodeGet name state = _ from failed] at looked
      cases looked
      exact SameNodes.answered state
    · have stored := nodeGet_ok (congrArg Prod.fst got)
      rw [show nodeGet name state = _ from got] at looked
      cases looked
      dsimp only at rest
      cases differs : (change (guestTaints.taints node)).2 with
      | true =>
          rw [differs, if_pos rfl] at rest
          have patched := patchNodeTaints_ended rest
          cases result with
          | error error =>
              exact patched
          | ok done =>
              intro other
              rw [patched other]
              split
              · rename_i same
                rw [same, stored]
                rfl
              · rfl
      | false =>
          rw [differs, if_neg Bool.false_ne_true] at rest
          cases rest
          intro other
          split
          · rename_i same
            have kept : (change node.taints).1 = node.taints := honest _ differs
            rw [same, stored, Option.bind_some, retainted, kept]
          · rfl

/-- A change that is carried out is the verdict; one that fails changes nothing. -/
theorem request_ended
    (verdict : Verdict)
    (node : ListedNode)
    (guest : GuestCluster) :
    SameNodes guest (verdict.request guestTaints node guest).2 ∨
      Became node.name verdict.apply guest (verdict.request guestTaints node guest).2 := by
  cases ran : verdict.request guestTaints node guest with
  | mk answer final =>
      cases verdict with
      | leave =>
          cases ran
          exact .inl fun _ => rfl
      | untaint =>
          unfold Verdict.request removeTaintOffNode at ran
          dsimp only at ran
          split at ran
          · cases ran
            exact .inl fun _ => rfl
          · have ended := changeTaintsOnNode_ended (fun _ => removeTaint_eq_self.mpr) ran
            cases answer with
            | error error =>
                exact .inl ended
            | ok done =>
                exact .inr ended
      | taint =>
          have ended := changeTaintsOnNode_ended (fun _ => addOrUpdateTaint_eq_self.mpr) ran
          cases answer with
          | error error =>
              exact .inl ended
          | ok done =>
              exact .inr ended
      | delete =>
          have ended := delete_ended ran
          cases answer with
          | error error =>
              exact .inl ended
          | ok done =>
              exact .inr ended

/-- Without failures a stored node gets its new taints. -/
theorem changeTaintsOnNode_calm
    (honest : ∀ taints, (change taints).2 = false → (change taints).1 = taints)
    (calm : guest.Calm)
    {name : String}
    {node : GuestNode}
    (stored : guest.nodes.get? name = some node) :
    Became name (retainted change) guest
      (changeTaintsOnNode guestTaints name change guest).2 := by
  have looked := nodeGet_calm calm name
  rw [stored] at looked
  have once : ∃ reached, changeTaintsOnce guestTaints name change guest = (.ok (), reached) := by
    unfold changeTaintsOnce
    rw [bind_run_of_ok (show guestTaints.get name guest = _ from looked)]
    cases (change (guestTaints.taints node)).2 with
    | true =>
        exact ⟨_, patchNodeTaints_calm calm.answered stored _⟩
    | false =>
        exact ⟨_, rfl⟩
  obtain ⟨reached, once⟩ := once
  have ran := @retryWhile_of_ok _ _ _ Err.isConflict _ _ _ _ once (updateTaintBackoffSteps - 1)
  rw [show changeTaintsOnNode guestTaints name change guest = _ from ran]
  exact changeTaintsOnNode_ended honest ran

/-- Without failures the verdict on a node that is listed as it is stored is carried out. -/
theorem request_calm
    (verdict : Verdict)
    {node : ListedNode}
    (calm : guest.Calm)
    (stored : guest.nodes.get? node.name = some node.toGuestNode) :
    Became node.name verdict.apply guest (verdict.request guestTaints node guest).2 := by
  cases verdict with
  | leave =>
      intro other
      split
      · exact (Option.bind_fun_some _).symm
      · rfl
  | untaint =>
      unfold Verdict.request removeTaintOffNode
      dsimp only
      split
      · rename_i missing
        intro other
        split
        · rename_i same
          rw [Bool.not_eq_true'] at missing
          have kept : (removeTaint node.taints shutdownTaint).1 = node.taints := by
            rw [removeTaint_eq_self, removeTaint_eq]
            exact missing
          rw [same, stored, Option.bind_some, Verdict.apply, kept]
          exact stored
        · rfl
      · exact changeTaintsOnNode_calm (fun _ => removeTaint_eq_self.mpr) calm stored
  | taint =>
      exact changeTaintsOnNode_calm (fun _ => addOrUpdateTaint_eq_self.mpr) calm stored
  | delete =>
      have ran : ∃ reached, guestTaints.delete node.name guest = (.ok (), reached) := by
        simp only [guestTaints, nodeCall, calm.next, stored]
        exact ⟨_, rfl⟩
      obtain ⟨reached, ran⟩ := ran
      rw [show Verdict.request guestTaints node .delete guest = _ from ran]
      exact delete_ended ran

theorem nodeCall_keepsCalm
    {Answer : Type}
    {serve : GuestCluster → Except Err Answer × GuestCluster}
    (serves : ∀ guest, (serve guest).2.nodeFailures = guest.nodeFailures) :
    Respects (Keeps GuestCluster.Calm) (nodeCall serve) := by
  intro guest calm
  unfold nodeCall
  dsimp only
  split
  · exact calm.answered
  · intro failure member
    rw [serves] at member
    exact calm.answered failure member

theorem changeTaintsOnNode_keepsCalm (name : String) :
    Respects (Keeps GuestCluster.Calm) (changeTaintsOnNode guestTaints name change) := by
  have looksUp : Respects (Keeps GuestCluster.Calm) (guestTaints.get name) := by
    refine nodeCall_keepsCalm fun guest => ?_
    split <;> rfl
  refine .retryWhile (.bind looksUp fun node => ?_) _
  dsimp only
  split
  · refine nodeCall_keepsCalm fun guest => ?_
    split <;> rfl
  · exact .pure ()

theorem request_keepsCalm (verdict : Verdict) (node : ListedNode) :
    Respects (Keeps GuestCluster.Calm) (verdict.request guestTaints node) := by
  cases verdict with
  | leave =>
      exact .pure ()
  | untaint =>
      unfold Verdict.request removeTaintOffNode
      dsimp only
      split
      · exact .pure ()
      · exact changeTaintsOnNode_keepsCalm node.name
  | taint =>
      exact changeTaintsOnNode_keepsCalm node.name
  | delete =>
      refine nodeCall_keepsCalm fun guest => ?_
      split <;> rfl

end Guest

end HarvesterCloudProvider
