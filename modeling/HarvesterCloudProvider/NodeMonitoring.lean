import HarvesterCloudProvider.NodeLifecycle
import HarvesterCloudProvider.StepSystem

namespace HarvesterCloudProvider

open Program

/-!
# Passes of the node lifecycle controller

What one pass does to a node depends on that node only, so that a request that
fails for one node does not matter to the others.  Passes with failures do only
a part of the work and nothing else: a later pass without failures brings the
cluster to where it would have come without them.

A node disappears only if it was listed as not ready and the virtual machine
that reported its name last was not found.  Other clients of the server lose no
change to the taints that are written.
-/

section Passes

variable {guest : GuestCluster}

/-- One pass over listed nodes. -/
def GuestCluster.passed
    (lookups : String → Lookups)
    (nodes : List ListedNode)
    (guest : GuestCluster) :
    GuestCluster :=
  nodes.foldl
    (fun reached node => ((node.verdict (lookups node.name)).request guestTaints node reached).2)
    guest

/-- A pass never fails, and no node is left out because of another one. -/
theorem monitorNodes_eq
    (lookups : String → Lookups)
    (nodes : List ListedNode)
    (guest : GuestCluster) :
    monitorNodes guestTaints lookups (.ok nodes) guest =
      (.ok (), guest.passed lookups nodes) := by
  unfold monitorNodes
  dsimp only
  induction nodes generalizing guest with
  | nil =>
      rfl
  | cons node rest inductionHypothesis =>
      exact (bind_run_of_ok (monitorNode_eq _ _ _ _)).trans (inductionHypothesis _)

/-- After a pass a node is as before, or the verdict on it is carried out. -/
theorem passed_nodes
    {lookups : String → Lookups}
    {nodes : List ListedNode}
    (distinct : (nodes.map fun node => node.name).Nodup)
    (name : String) :
    (guest.passed lookups nodes).nodes.get? name = guest.nodes.get? name ∨
      ∃ node ∈ nodes,
        node.name = name ∧
          (guest.passed lookups nodes).nodes.get? name =
            (guest.nodes.get? name).bind (node.verdict (lookups name)).apply := by
  induction nodes generalizing guest with
  | nil =>
      exact .inl rfl
  | cons node rest inductionHypothesis =>
      rw [List.map_cons, List.nodup_cons] at distinct
      obtain ⟨unlisted, restDistinct⟩ := distinct
      have later :=
        @inductionHypothesis
          ((node.verdict (lookups node.name)).request guestTaints node guest).2 restDistinct
      have first := request_ended (node.verdict (lookups node.name)) node guest
      rw [GuestCluster.passed, List.foldl_cons, ← GuestCluster.passed]
      by_cases own : name = node.name
      · subst own
        have unchanged := later.resolve_right (by
          rintro ⟨other, member, sameName, -⟩
          exact unlisted (List.mem_map.mpr ⟨other, member, sameName⟩))
        rw [unchanged]
        rcases first with same | became
        · exact .inl (same node.name)
        · refine .inr ⟨node, List.mem_cons_self, rfl, ?_⟩
          rw [became node.name, if_pos rfl]
      · have untouched :
            ((node.verdict (lookups node.name)).request guestTaints node guest).2.nodes.get?
                name =
              guest.nodes.get? name := by
          rcases first with same | became
          · exact same name
          · rw [became name, if_neg own]
        rw [untouched] at later
        rcases later with same | ⟨other, member, sameName, changed⟩
        · exact .inl same
        · exact .inr ⟨other, List.mem_cons_of_mem _ member, sameName, changed⟩

/-- Without failures the verdict on every node that is listed as it is stored is carried out. -/
theorem passed_calm
    {lookups : String → Lookups}
    {nodes : List ListedNode}
    (distinct : (nodes.map fun node => node.name).Nodup)
    (calm : guest.Calm)
    (current : ∀ node ∈ nodes, guest.nodes.get? node.name = some node.toGuestNode) :
    ∀ node ∈ nodes,
      (guest.passed lookups nodes).nodes.get? node.name =
        (guest.nodes.get? node.name).bind (node.verdict (lookups node.name)).apply := by
  induction nodes generalizing guest with
  | nil =>
      intro node member
      cases member
  | cons first rest inductionHypothesis =>
      rw [List.map_cons, List.nodup_cons] at distinct
      obtain ⟨unlisted, restDistinct⟩ := distinct
      have became :=
        request_calm (first.verdict (lookups first.name)) calm
          (current first List.mem_cons_self)
      have stillCalm := request_keepsCalm (first.verdict (lookups first.name)) first guest calm
      intro node member
      rw [GuestCluster.passed, List.foldl_cons, ← GuestCluster.passed]
      rcases List.mem_cons.mp member with rfl | member
      · rcases passed_nodes restDistinct node.name with unchanged | ⟨other, listed, sameName, -⟩
        · rw [unchanged, became node.name, if_pos rfl]
        · exact (unlisted (List.mem_map.mpr ⟨other, listed, sameName⟩)).elim
      · have apart : ∀ other ∈ rest, other.name ≠ first.name :=
          fun other listed sameName => unlisted (List.mem_map.mpr ⟨other, listed, sameName⟩)
        have untouched :
            ∀ other ∈ rest,
              ((first.verdict (lookups first.name)).request guestTaints first guest).2.nodes.get?
                  other.name =
                guest.nodes.get? other.name := by
          intro other listed
          rw [became other.name, if_neg (apart other listed)]
        have later :=
          inductionHypothesis restDistinct stillCalm fun other listed =>
            (untouched other listed).trans (current other (List.mem_cons_of_mem _ listed))
        rw [later node member, untouched node member]

end Passes

section Settling

/-- One pass of the lifecycle controller. -/
structure MonitorPass where
  nodes : Except Err (List ListedNode)
  lookups : String → Lookups
  nodeFailures : List (Option Failure) := []

/-- The guest cluster after a pass. -/
def GuestCluster.monitored (guest : GuestCluster) (pass : MonitorPass) : GuestCluster :=
  (monitorNodes guestTaints pass.lookups pass.nodes
    { guest with nodeFailures := pass.nodeFailures }).2

/-- What does not change while the passes go on: conditions and virtual machines. -/
structure Surroundings where
  conditions : String → List NodeCondition
  machines : String → Except Err VirtualMachine

/-- What is to become of a node. -/
def Surroundings.verdict (surroundings : Surroundings) (name : String) : Verdict :=
  verdictOf (surroundings.conditions name) (surroundings.machines name)
    (surroundings.machines name)

/-- A lookup finds what there is, or fails. -/
def Surroundings.Found
    (surroundings : Surroundings)
    (name : String)
    (answer : Except Err VirtualMachine) :
    Prop :=
  answer = surroundings.machines name ∨
    ∃ error, answer = .error error ∧ error.isNotFound = false

/-- A pass over some nodes, whose requests and lookups may fail. -/
structure MonitorPass.Fits (pass : MonitorPass) (surroundings : Surroundings) : Prop where
  distinct : ∀ nodes, pass.nodes = .ok nodes → (nodes.map fun node => node.name).Nodup
  conditions :
    ∀ nodes,
      pass.nodes = .ok nodes →
      ∀ node ∈ nodes, node.conditions = surroundings.conditions node.name
  existence : ∀ name, surroundings.Found name ((pass.lookups name).existence.find name)
  shutdown : ∀ name, surroundings.Found name ((pass.lookups name).shutdown.find name)

/-- A pass over all nodes without failures. -/
structure MonitorPass.Complete
    (pass : MonitorPass)
    (surroundings : Surroundings)
    (guest : GuestCluster) :
    Prop extends pass.Fits surroundings where
  listed :
    ∃ nodes,
      pass.nodes = .ok nodes ∧
        (∀ node ∈ nodes, guest.nodes.get? node.name = some node.toGuestNode) ∧
        ∀ name, (guest.nodes.get? name).isSome → ∃ node ∈ nodes, node.name = name
  existenceFound :
    ∀ name, (pass.lookups name).existence.find name = surroundings.machines name
  shutdownFound :
    ∀ name, (pass.lookups name).shutdown.find name = surroundings.machines name
  calm : ∀ failure ∈ pass.nodeFailures, failure = none

variable {surroundings : Surroundings}
variable {pass : MonitorPass}
variable {guest : GuestCluster}

/-- A lookup that fails leaves the node alone. -/
theorem verdictOf_found
    {name : String}
    {existence shutdown : Except Err VirtualMachine}
    (existenceFound : surroundings.Found name existence)
    (shutdownFound : surroundings.Found name shutdown) :
    verdictOf (surroundings.conditions name) existence shutdown = surroundings.verdict name ∨
      verdictOf (surroundings.conditions name) existence shutdown = .leave := by
  unfold Surroundings.verdict verdictOf
  by_cases ready : readyStatus (surroundings.conditions name) = .isTrue
  · rw [if_pos ready, if_pos ready]
    exact .inl rfl
  · rw [if_neg ready, if_neg ready]
    rcases existenceFound with rfl | ⟨error, rfl, other⟩
    · rcases shutdownFound with rfl | ⟨error, rfl, -⟩
      · exact .inl rfl
      · cases surroundings.machines name with
        | error missing =>
            exact .inl rfl
        | ok machine =>
            exact .inr rfl
    · dsimp only
      rw [other]
      exact .inr rfl

/-- A pass leaves a node as it is or makes of it what is to become of it. -/
theorem MonitorPass.Fits.monitored
    (fits : pass.Fits surroundings)
    (name : String) :
    (guest.monitored pass).nodes.get? name = guest.nodes.get? name ∨
      (guest.monitored pass).nodes.get? name =
        (guest.nodes.get? name).bind (surroundings.verdict name).apply := by
  unfold GuestCluster.monitored
  cases isListed : pass.nodes with
  | error error =>
      exact .inl rfl
  | ok nodes =>
      rw [monitorNodes_eq]
      rcases passed_nodes (fits.distinct nodes isListed) name with same | changed
      · exact .inl same
      · obtain ⟨node, member, rfl, changed⟩ := changed
        have verdict :=
          verdictOf_found (fits.existence node.name) (fits.shutdown node.name)
        rw [← fits.conditions nodes isListed node member] at verdict
        rw [changed]
        rcases verdict with carriedOut | left
        · rw [show node.verdict (pass.lookups node.name) = _ from carriedOut]
          exact .inr rfl
        · rw [show node.verdict (pass.lookups node.name) = _ from left]
          exact .inl (Option.bind_fun_some _)

/-- A pass without failures makes of every node what is to become of it. -/
theorem MonitorPass.Complete.monitored
    (complete : pass.Complete surroundings guest)
    (name : String) :
    (guest.monitored pass).nodes.get? name =
      (guest.nodes.get? name).bind (surroundings.verdict name).apply := by
  obtain ⟨nodes, isListed, current, all⟩ := complete.listed
  rcases @MonitorPass.Fits.monitored _ _ guest complete.toFits name with same | changed
  · cases stored : guest.nodes.get? name with
    | none =>
        rw [same, stored]
        rfl
    | some node =>
        obtain ⟨listed, member, rfl⟩ := all name (by rw [stored]; rfl)
        unfold GuestCluster.monitored
        rw [isListed, monitorNodes_eq]
        have calm :
            GuestCluster.Calm { guest with nodeFailures := pass.nodeFailures } :=
          complete.calm
        have carriedOut :=
          @passed_calm _ pass.lookups _ (complete.distinct nodes isListed) calm current
            listed member
        rw [carriedOut, ListedNode.verdict, complete.existenceFound, complete.shutdownFound,
          complete.conditions nodes isListed listed member]
        exact congrArg
          (fun old => Option.bind old (surroundings.verdict listed.name).apply) stored
  · exact changed

/--
Passes that fail in part only delay: whatever failed in them, one pass without
failures makes of every node what it would have made of it at the start.
-/
theorem failed_passes_only_delay
    {start reached : GuestCluster}
    {passes : List MonitorPass}
    (execution :
      Execution (StepsOf GuestCluster.monitored fun _ pass => pass.Fits surroundings)
        start passes reached)
    (complete : pass.Complete surroundings reached)
    (name : String) :
    (reached.monitored pass).nodes.get? name =
      (start.nodes.get? name).bind (surroundings.verdict name).apply := by
  have partly :
      reached.nodes.get? name = start.nodes.get? name ∨
        reached.nodes.get? name =
          (start.nodes.get? name).bind (surroundings.verdict name).apply := by
    refine execution.invariant
      (fun current =>
        current.nodes.get? name = start.nodes.get? name ∨
          current.nodes.get? name =
            (start.nodes.get? name).bind (surroundings.verdict name).apply)
      (.inl rfl) ?_
    rintro current next step earlier ⟨fits, rfl⟩
    rcases @MonitorPass.Fits.monitored _ _ current fits name with same | changed
    · rw [same]
      exact earlier
    · refine .inr ?_
      rw [changed]
      rcases earlier with unchanged | before
      · rw [unchanged]
      · rw [before, Option.bind_assoc]
        simp only [Verdict.apply_again]
  rw [complete.monitored name]
  rcases partly with unchanged | changed
  · rw [unchanged]
  · rw [changed, Option.bind_assoc]
    simp only [Verdict.apply_again]

/-- A virtual machine that is stopped; no other one exists. -/
def stoppedMachine : MachineView where
  client :=
    { get := fun name =>
        if name = "vm1" then .ok { name := name } else .error (notFound "virtualmachines" name)
      named := by
        intro name vm got
        split at got <;> cases got
        rfl }

/-- No node says that it is ready, and one virtual machine is stopped. -/
def stoppedSurroundings : Surroundings where
  conditions := fun _ => []
  machines := stoppedMachine.find

/-- A pass over two nodes. -/
def stoppedPass (nodeFailures : List (Option Failure)) : MonitorPass where
  nodes := .ok [{ name := "vm1" }, { name := "vm2" }]
  lookups := fun _ => { existence := stoppedMachine, shutdown := stoppedMachine }
  nodeFailures := nodeFailures

theorem stoppedPass_fits (nodeFailures : List (Option Failure)) :
    (stoppedPass nodeFailures).Fits stoppedSurroundings where
  distinct := by
    intro nodes listed
    cases listed
    decide
  conditions := by
    intro nodes listed node member
    cases listed
    simp only [List.mem_cons, List.not_mem_nil, or_false] at member
    rcases member with rfl | rfl <;> rfl
  existence := fun _ => .inl rfl
  shutdown := fun _ => .inl rfl

/-- Two nodes, neither with a taint. -/
def twoNodes : GuestCluster :=
  (controllerWith [{ name := "vm1" }, { name := "vm2" }]).guest

/-- After a pass whose requests all fail, the next one taints one node and deletes the other. -/
theorem stopped_node_is_tainted :
    ((twoNodes.monitored (stoppedPass [some {}, some {}])).monitored
        (stoppedPass [])).nodes.get? "vm1" =
        some { name := "vm1", taints := [shutdownTaint] } ∧
      ((twoNodes.monitored (stoppedPass [some {}, some {}])).monitored
        (stoppedPass [])).nodes.get? "vm2" = none := by
  have execution :
      Execution
        (StepsOf GuestCluster.monitored fun _ pass => pass.Fits stoppedSurroundings)
        twoNodes [stoppedPass [some {}, some {}]]
        (twoNodes.monitored (stoppedPass [some {}, some {}])) :=
    .snoc .nil ⟨stoppedPass_fits _, rfl⟩
  have unchanged : (twoNodes.monitored (stoppedPass [some {}, some {}])).nodes = twoNodes.nodes :=
    rfl
  have complete :
      (stoppedPass []).Complete stoppedSurroundings
        (twoNodes.monitored (stoppedPass [some {}, some {}])) := by
    refine ⟨stoppedPass_fits [], ⟨_, rfl, ?_, ?_⟩, fun _ => rfl, fun _ => rfl, ?_⟩
    · intro node member
      rw [unchanged]
      simp only [List.mem_cons, List.not_mem_nil, or_false] at member
      rcases member with rfl | rfl <;> rfl
    · intro name present
      rw [unchanged] at present
      by_cases second : name = "vm2"
      · exact ⟨_, List.mem_cons_of_mem _ List.mem_cons_self, second.symm⟩
      · by_cases first : name = "vm1"
        · exact ⟨_, List.mem_cons_self, first.symm⟩
        · simp [twoNodes, controllerWith, NodeStore.get?_put, NodeStore.empty, first, second]
            at present
    · intro failure member
      cases member
  exact
    ⟨failed_passes_only_delay execution complete "vm1",
      failed_passes_only_delay execution complete "vm2"⟩

end Settling

section Runs

/-- What happens to the controllers and to the guest cluster. -/
inductive LifecycleStep where
  /-- The instance controller and the nodes move. -/
  | controller (step : ControllerStep)
  /-- The process is started again and has forgotten all reports. -/
  | restarted
  /-- The lifecycle controller looks at one listed node. -/
  | monitored
      (node : ListedNode)
      (existence shutdown : VMClient)
      (nodeFailures : List (Option Failure))

/-- The effect of one step. -/
def Controller.lifecycle
    (h : Handler)
    (cfg : Config)
    (controller : Controller) :
    LifecycleStep → Controller
  | .controller step => controller.advance h cfg step
  | .restarted => { controller with nodeToVMName := ∅ }
  | .monitored node existence shutdown nodeFailures =>
      { controller with
        guest :=
          (monitorNode guestTaints
            { existence :=
                { client := existence, nodeToVMName := controller.nodeToVMName }
              shutdown :=
                { client := shutdown, nodeToVMName := controller.nodeToVMName } }
            node { controller.guest with nodeFailures := nodeFailures }).2 }

/-- The host names heard since the last start with their machines, the latest first. -/
def LifecycleStep.heard
    (h : Handler)
    (log : List (String × String)) :
    LifecycleStep → List (String × String)
  | .controller step =>
      match step.report h with
      | some (vm, hostname) => (hostname, vm) :: log
      | none => log
  | .restarted => []
  | .monitored _ _ _ _ => log

/-- The name of the machine that reported a node name last, else the node name itself. -/
def machineName (h : Handler) (steps : List LifecycleStep) (name : String) : String :=
  ((steps.foldl (LifecycleStep.heard h) []).lookup name).getD name

variable {h : Handler}
variable {cfg : Config}

/-- The map holds the latest report of every host name. -/
theorem lifecycle_nodeToVMName
    (guest : GuestCluster)
    (steps : List LifecycleStep)
    (name : String) :
    (steps.foldl (Controller.lifecycle h cfg) { guest := guest }).nodeToVMName[name]? =
      (steps.foldl (LifecycleStep.heard h) []).lookup name := by
  induction steps using List.reverseRecOn with
  | nil =>
      simp
  | append_singleton earlier last inductionHypothesis =>
      rw [List.foldl_append, List.foldl_append, List.foldl_cons, List.foldl_nil,
        List.foldl_cons, List.foldl_nil]
      cases last with
      | controller step =>
          have written := @advance_nodeToVMName h cfg
            (earlier.foldl (Controller.lifecycle h cfg) { guest := guest }) step
          rw [LifecycleStep.heard]
          change (Controller.advance h cfg _ step).nodeToVMName[name]? = _
          rw [written]
          cases step.report h with
          | none =>
              exact inductionHypothesis
          | some report =>
              obtain ⟨vm, hostname⟩ := report
              dsimp only
              rw [Std.ExtTreeMap.getElem?_insert, List.lookup_cons, inductionHypothesis]
              by_cases same : name = hostname
              · subst same
                simp
              · rw [beq_eq_false_iff_ne.mpr same]
                simp [Ne.symm same]
      | restarted =>
          simp [Controller.lifecycle, LifecycleStep.heard]
      | monitored node existence shutdown nodeFailures =>
          exact inductionHypothesis

/-- Only a node that is not ready and whose machine is not found is to be deleted. -/
theorem of_verdictOf_eq_delete
    {conditions : List NodeCondition}
    {existence shutdown : Except Err VirtualMachine}
    (deleted : verdictOf conditions existence shutdown = .delete) :
    readyStatus conditions ≠ .isTrue ∧
      ∃ error, existence = .error error ∧ error.isNotFound = true := by
  unfold verdictOf at deleted
  split at deleted
  · cases deleted
  · rename_i notReady
    refine ⟨notReady, ?_⟩
    split at deleted
    · split at deleted
      · rename_i missing
        exact ⟨_, rfl, missing⟩
      · cases deleted
    · split at deleted <;> cases deleted
    · cases deleted

theorem Verdict.eq_delete_of_apply
    {verdict : Verdict}
    {node : GuestNode}
    (removed : verdict.apply node = none) :
    verdict = .delete := by
  cases verdict with
  | delete =>
      rfl
  | leave =>
      cases removed
  | untaint =>
      cases removed
  | taint =>
      cases removed

/--
In every run, a node that the lifecycle controller removes was listed as not
ready, and the virtual machine that had reported its name last, or else the one
of that name, was not found.
-/
theorem deleted_node_lost_machine
    {guest : GuestCluster}
    {steps : List LifecycleStep}
    {node : ListedNode}
    {existence shutdown : VMClient}
    {nodeFailures : List (Option Failure)}
    {name : String}
    (present :
      ((steps.foldl (Controller.lifecycle h cfg) { guest := guest }).guest.nodes.get?
        name).isSome)
    (removed :
      ((steps ++ [LifecycleStep.monitored node existence shutdown nodeFailures]).foldl
        (Controller.lifecycle h cfg) { guest := guest }).guest.nodes.get? name = none) :
    node.name = name ∧
      readyStatus node.conditions ≠ .isTrue ∧
      ∃ error,
        existence.get (machineName h steps name) = .error error ∧ error.isNotFound = true := by
  have tracked := @lifecycle_nodeToVMName h cfg guest steps name
  rw [List.foldl_append, List.foldl_cons, List.foldl_nil] at removed
  generalize steps.foldl (Controller.lifecycle h cfg) { guest := guest } = before
    at present removed tracked
  unfold Controller.lifecycle at removed
  dsimp only at removed
  rw [monitorNode_eq] at removed
  rcases request_ended (node.verdict _) node { before.guest with nodeFailures := nodeFailures }
    with same | became
  · rw [same name] at removed
    rw [show before.guest.nodes.get? name = none from removed] at present
    cases present
  · rw [became name] at removed
    by_cases own : name = node.name
    · subst own
      rw [if_pos rfl] at removed
      obtain ⟨stored, isStored⟩ := Option.isSome_iff_exists.mp present
      rw [show before.guest.nodes.get? node.name = some stored from isStored,
        Option.bind_some] at removed
      obtain ⟨notReady, error, missing, isNotFound⟩ :=
        of_verdictOf_eq_delete (Verdict.eq_delete_of_apply removed)
      refine ⟨rfl, notReady, error, ?_, isNotFound⟩
      unfold machineName
      rw [← tracked]
      exact missing
    · rw [if_neg own] at removed
      rw [show before.guest.nodes.get? name = none from removed] at present
      cases present

/-- A Harvester cluster without virtual machines. -/
def noMachines : VMClient where
  get := fun name => .error (notFound "virtualmachines" name)
  named := by
    intro name vm got
    cases got

/-- A node is registered under its host name and its machine reports that name. -/
def reportedNode : List LifecycleStep :=
  [.controller (.nodePut { name := "host-1" }),
    .controller
      (.vmiChanged { vmi := some (poolMember "vm1" "prod"), guestOsInfo := .ok "host-1" })]

/-- The node of a machine that is gone is deleted, though no machine had its name. -/
theorem node_of_lost_machine :
    machineName sampleHandler reportedNode "host-1" = "vm1" ∧
      ∃ error,
        noMachines.get (machineName sampleHandler reportedNode "host-1") = .error error ∧
          error.isNotFound = true := by
  have lost :=
    @deleted_node_lost_machine sampleHandler sampleConfig (controllerWith []).guest
      reportedNode { name := "host-1" } noMachines noMachines [] "host-1"
      (by decide +kernel) (by decide +kernel)
  exact ⟨by decide +kernel, lost.2.2⟩

end Runs

section Contested

/-- The requests about one contested node. -/
def contestTaints : TaintApi (Contest nodeKind Err) CloudNode where
  get name := Contest.cached (notFound "nodes" name)
  taints node := node.taints
  patchNodeTaints name oldNode taints :=
    Contest.update (notFound "nodes" name) (conflicting "nodes" name) (invalidNode name)
      { oldNode with taints := taints }
  delete name := Contest.remove (notFound "nodes" name)

/-- One write that changes nothing but the taints. -/
def Replacement.Retaints
    (commit : Replacement CloudNode)
    (change : List Taint → List Taint × Bool) :
    Prop :=
  (change commit.before.taints).2 = true ∧
    ∃ version,
      commit.after =
        { commit.before with
          taints := (change commit.before.taints).1
          resourceVersion := version }

variable {contest final : Contest nodeKind Err}
variable {answer : Except Err Unit}

/-- All the attempts together change the taints at most once, of the node they replace. -/
theorem changeTaintsOnNode_contest
    {nodeName : String}
    {change : List Taint → List Taint × Bool}
    (ran : changeTaintsOnNode contestTaints nodeName change contest = (answer, final)) :
    final.commits = contest.commits ∨
      ∃ commit : Replacement CloudNode,
        commit.Retaints change ∧ final.commits = contest.commits ++ [commit] := by
  have ended :
      Ended Contest.Idle
        (fun before _ after =>
          after.commits = before.commits ∨
            ∃ commit : Replacement CloudNode,
              commit.Retaints change ∧ after.commits = before.commits ++ [commit])
        contest answer final := by
    refine retryWhile_ended ?_ ?_ ?_ _ ran
    · intro first second third earlier later
      exact earlier.trans later
    · rintro first second third ⟨⟩ earlier later
      rw [← show second.commits = first.commits from earlier]
      exact later
    · intro state ended result once
      rcases bind_cases once with ⟨error, failed, rfl⟩ | ⟨seen, reached, got, rest⟩
      · exact (Contest.cached_ended failed).1
      · obtain ⟨idle, isState⟩ := Contest.cached_ended got
        dsimp only at rest
        cases differs : (change (contestTaints.taints seen)).2 with
        | false =>
            rw [differs, if_neg Bool.false_ne_true] at rest
            cases rest
            exact .inl idle
        | true =>
            rw [differs, if_pos rfl] at rest
            have updated :=
              @Contest.update_ended _ _ _ _ _ _ _ _ seen
                { seen with taints := (change seen.taints).1 } _ rfl (isState seen rfl) rest
            cases result with
            | error error =>
                exact Contest.Idle.trans idle updated
            | ok done =>
                obtain ⟨-, version, committed⟩ := updated
                rw [idle] at committed
                exact .inr ⟨_, ⟨differs, version, rfl⟩, committed⟩
  cases answer with
  | error error =>
      exact .inl ended
  | ok done =>
      exact ended

/-- One write that carries out a verdict on the node it replaces. -/
def Replacement.CarriesOut (commit : Replacement CloudNode) (verdict : Verdict) : Prop :=
  ∃ (node : GuestNode) (version : Nat),
    verdict.apply commit.before.toGuestNode = some node ∧
      node.taints ≠ commit.before.taints ∧
      commit.after = { commit.before with toGuestNode := node, resourceVersion := version }

/--
Whatever other clients write, remove and recreate meanwhile, and however old the
listed node and the cached one are, the lifecycle controller writes a node at
most once, and what it writes is the object stored right before with nothing
changed but the shutdown taint.
-/
theorem monitorNode_commits
    (lookups : Lookups)
    (node : ListedNode)
    (contest : Contest nodeKind Err) :
    (monitorNode contestTaints lookups node contest).2.commits = contest.commits ∨
      ∃ commit : Replacement CloudNode,
        commit.CarriesOut (node.verdict lookups) ∧
          (monitorNode contestTaints lookups node contest).2.commits =
            contest.commits ++ [commit] := by
  rw [monitorNode_eq]
  generalize node.verdict lookups = verdict
  cases ran : verdict.request contestTaints node contest with
  | mk answer final =>
      cases verdict with
      | leave =>
          cases ran
          exact .inl rfl
      | delete =>
          exact .inl (Contest.remove_idle ran)
      | untaint =>
          unfold Verdict.request removeTaintOffNode at ran
          dsimp only at ran
          split at ran
          · cases ran
            exact .inl rfl
          · rcases changeTaintsOnNode_contest ran with idle | ⟨commit, retaints, committed⟩
            · exact .inl idle
            · obtain ⟨differs, version, changed⟩ := retaints
              refine .inr ⟨commit, ⟨_, version, rfl, fun same => ?_, changed⟩, committed⟩
              rw [removeTaint_eq_self.mp same] at differs
              cases differs
      | taint =>
          rcases changeTaintsOnNode_contest ran with idle | ⟨commit, retaints, committed⟩
          · exact .inl idle
          · obtain ⟨differs, version, changed⟩ := retaints
            refine .inr ⟨commit, ⟨_, version, rfl, fun same => ?_, changed⟩, committed⟩
            rw [addOrUpdateTaint_eq_self.mp same] at differs
            cases differs

end Contested

end HarvesterCloudProvider
