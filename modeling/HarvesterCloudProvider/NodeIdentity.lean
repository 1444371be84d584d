import HarvesterCloudProvider.InstanceController
import HarvesterCloudProvider.StepSystem

namespace HarvesterCloudProvider

/-!
# Which virtual machine a node is

The instance controller fills a map from node names to virtual machine names,
and the instance manager of `pkg/cloud-controller-manager/instance.go` resolves
nodes through it.  Entries are only ever added, under host names that the guests
choose, and before the controller knows whether the instance belongs to this
guest cluster.

A run is a list of handled instances and of changes of the nodes, in any order.
-/

section InstanceManager

/-- A virtual machine of the Harvester cluster. -/
structure VirtualMachine where
  name : String
  uid : String := ""
  ready : Bool := false
  deriving Repr, DecidableEq

/-- `vmClient.Get` in the namespace of the provider. -/
structure VMClient where
  get : String → Except Err VirtualMachine
  named :
    ∀ {name : String} {vm : VirtualMachine},
      get name = .ok vm →
      vm.name = name

/-- `getVM`: the recorded name of the virtual machine, else the name of the node. -/
def getVM
    (client : VMClient)
    (nodeToVMName : Std.ExtTreeMap String String)
    (node : Node) :
    Except Err VirtualMachine :=
  client.get (nodeToVMName[node.name]?.getD node.name)

/-- `InstanceExists`. -/
def instanceExists
    (client : VMClient)
    (nodeToVMName : Std.ExtTreeMap String String)
    (node : Node) :
    Except Err Bool :=
  match getVM client nodeToVMName node with
  | .ok _ => .ok true
  | .error error => if error.isNotFound then .ok false else .error error

/-- `InstanceShutdown`. -/
def instanceShutdown
    (client : VMClient)
    (nodeToVMName : Std.ExtTreeMap String String)
    (node : Node) :
    Except Err Bool := do
  let vm ← getVM client nodeToVMName node
  return !vm.ready

end InstanceManager

section Steps

/-- One instance as the handler gets it, with what surrounds the call. -/
structure VmiEvent where
  vmi : Option VirtualMachineInstance
  guestOsInfo : Except Err String
  vmiCache : List VirtualMachineInstance := []
  nodeFailures : List (Option Failure) := []
  ticks : List Tick := []

/-- What happens to the controller and to the guest cluster. -/
inductive ControllerStep where
  /-- The handler is called. -/
  | vmiChanged (event : VmiEvent)
  /-- A node is registered, relabelled or loses a taint. -/
  | nodePut (node : GuestNode)
  /-- A node leaves the cluster. -/
  | nodeErased (name : String)

/-- Start the requests of a call. -/
def GuestCluster.begin (guest : GuestCluster) (event : VmiEvent) : GuestCluster :=
  { guest with
    nodeFailures := event.nodeFailures
    session := { guest.session with ticks := event.ticks } }

/-- The effect of one step. -/
def Controller.advance
    (h : Handler)
    (cfg : Config)
    (controller : Controller) :
    ControllerStep → Controller
  | .vmiChanged event =>
      (h.onVmiChanged cfg event.vmiCache event.guestOsInfo event.vmi
        { controller with guest := controller.guest.begin event }).2
  | .nodePut node =>
      { controller with
        guest := { controller.guest with nodes := controller.guest.nodes.put node } }
  | .nodeErased name =>
      { controller with
        guest := { controller.guest with nodes := controller.guest.nodes.erase name } }

/-- A whole run. -/
def Controller.run
    (h : Handler)
    (cfg : Config)
    (controller : Controller)
    (steps : List ControllerStep) :
    Controller :=
  steps.foldl (Controller.advance h cfg) controller

/-- The virtual machine and the host name of a successful guest agent report. -/
def ControllerStep.report (h : Handler) : ControllerStep → Option (String × String)
  | .vmiChanged { vmi := some vmi, guestOsInfo := .ok hostname, .. } =>
      if h.skips vmi then none else some (vmi.name, hostname)
  | _ => none

/-- The reports of a run, the latest first. -/
def reports (h : Handler) (steps : List ControllerStep) : List (String × String) :=
  steps.reverse.filterMap (ControllerStep.report h)

end Steps

section Handling

variable {h : Handler}
variable {cfg : Config}
variable {event : VmiEvent}

/-- The handler looks at the instance of the event. -/
def VmiEvent.Handles (h : Handler) (event : VmiEvent) (vmi : VirtualMachineInstance) : Prop :=
  event.vmi = some vmi ∧ h.skips vmi = false

/-- An event that is not handled leaves only its requests behind. -/
theorem advance_of_unhandled
    (unhandled : ¬ ∃ vmi, event.Handles h vmi)
    (controller : Controller) :
    controller.advance h cfg (.vmiChanged event) =
      { controller with guest := controller.guest.begin event } := by
  unfold Controller.advance
  dsimp only
  cases changed : event.vmi with
  | none =>
      rfl
  | some vmi =>
      cases skipped : h.skips vmi with
      | false =>
          exact (unhandled ⟨vmi, changed, skipped⟩).elim
      | true =>
          rw [onVmiChanged_of_skips skipped]

/-- A handled event stores its report and looks at the node. -/
theorem advance_of_handled
    {vmi : VirtualMachineInstance}
    (handled : event.Handles h vmi)
    (controller : Controller) :
    controller.advance h cfg (.vmiChanged event) =
      { nodeToVMName := storeNodeName vmi event.guestOsInfo controller.nodeToVMName
        guest :=
          (h.handleNode cfg event.vmiCache vmi (nodeNameOf vmi event.guestOsInfo)
            (controller.guest.begin event)).2 } := by
  unfold Controller.advance
  dsimp only
  rw [handled.1, onVmiChanged_of_handled handled.2]

/-- What a handled event reports. -/
theorem report_of_handled
    {vmi : VirtualMachineInstance}
    (handled : event.Handles h vmi) :
    (ControllerStep.vmiChanged event).report h =
      event.guestOsInfo.toOption.map fun hostname => (vmi.name, hostname) := by
  obtain ⟨changed, guestOsInfo, vmiCache, nodeFailures, ticks⟩ := event
  obtain ⟨same, handled⟩ := handled
  dsimp only at same
  subst same
  cases guestOsInfo with
  | error error =>
      rfl
  | ok hostname =>
      simp [ControllerStep.report, handled, Except.toOption]

theorem report_of_unhandled
    (unhandled : ¬ ∃ vmi, event.Handles h vmi) :
    (ControllerStep.vmiChanged event).report h = none := by
  obtain ⟨changed, guestOsInfo, vmiCache, nodeFailures, ticks⟩ := event
  cases changed with
  | none =>
      rfl
  | some vmi =>
      cases guestOsInfo with
      | error error =>
          rfl
      | ok hostname =>
          cases skipped : h.skips vmi with
          | true =>
              simp [ControllerStep.report, skipped]
          | false =>
              exact (unhandled ⟨vmi, rfl, skipped⟩).elim

end Handling

section Hostnames

variable {h : Handler}
variable {cfg : Config}

/-- A step enters its report into the map and changes nothing else there. -/
theorem advance_nodeToVMName (controller : Controller) (step : ControllerStep) :
    (controller.advance h cfg step).nodeToVMName =
      match step.report h with
      | some (vm, hostname) => controller.nodeToVMName.insert hostname vm
      | none => controller.nodeToVMName := by
  cases step with
  | nodePut node =>
      rfl
  | nodeErased name =>
      rfl
  | vmiChanged event =>
      by_cases handles : ∃ vmi, event.Handles h vmi
      · obtain ⟨vmi, handled⟩ := handles
        rw [advance_of_handled handled, report_of_handled handled]
        cases event.guestOsInfo <;> rfl
      · rw [advance_of_unhandled handles, report_of_unhandled handles]

theorem run_append
    (controller : Controller)
    (earlier : List ControllerStep)
    (last : ControllerStep) :
    controller.run h cfg (earlier ++ [last]) =
      (controller.run h cfg earlier).advance h cfg last := by
  simp [Controller.run]

theorem reports_append
    (earlier : List ControllerStep)
    (last : ControllerStep) :
    reports h (earlier ++ [last]) = (last.report h).toList ++ reports h earlier := by
  unfold reports
  rw [List.reverse_append, List.reverse_singleton, List.singleton_append,
    List.filterMap_cons]
  cases last.report h <;> rfl

/-- Every reported host name has an entry, whoever has it now. -/
theorem isSome_of_mem_reports
    (controller : Controller)
    {steps : List ControllerStep}
    {vm hostname : String}
    (reported : (vm, hostname) ∈ reports h steps) :
    ((controller.run h cfg steps).nodeToVMName[hostname]?).isSome := by
  induction steps using List.reverseRecOn with
  | nil =>
      simp [reports] at reported
  | append_singleton earlier last inductionHypothesis =>
      rw [reports_append] at reported
      rw [run_append, advance_nodeToVMName]
      cases isReport : last.report h with
      | none =>
          rw [isReport] at reported
          exact inductionHypothesis reported
      | some report =>
          obtain ⟨latestVM, latestName⟩ := report
          rw [isReport] at reported
          dsimp only
          rw [Std.ExtTreeMap.getElem?_insert]
          split
          · rfl
          · rename_i other
            rcases List.mem_append.mp reported with latest | before
            · simp only [Option.toList_some, List.mem_singleton, Prod.mk.injEq] at latest
              exact (other (by rw [latest.2]; exact Std.ReflCmp.compare_self)).elim
            · exact inductionHypothesis before

/-- The virtual machine reported the name once, and another name since. -/
def GivenUp (log : List (String × String)) (vm hostname : String) : Prop :=
  (vm, hostname) ∈ log ∧ log.lookup vm ≠ some hostname

/-- The map is current: only latest reports are in it, and nodes resolve by them. -/
structure TracksHostnames
    (log : List (String × String))
    (nodeToVMName : Std.ExtTreeMap String String) :
    Prop where
  /-- A virtual machine has at most one node name. -/
  injective :
    ∀ first second vm : String,
      nodeToVMName[first]? = some vm →
      nodeToVMName[second]? = some vm →
      first = second
  /-- That name is the one its latest successful report gave. -/
  current :
    ∀ name vm : String,
      nodeToVMName[name]? = some vm →
      log.lookup vm = some name
  /-- A node whose name was given up is not resolved to the former machine. -/
  resolves :
    ∀ (client : VMClient) (node : Node) (vm : String) (machine : VirtualMachine),
      GivenUp log vm node.name →
      getVM client nodeToVMName node = .ok machine →
      machine.name ≠ vm
  /-- Where its instance exists, it is the one of another machine. -/
  existsAsOther :
    ∀ (client : VMClient) (node : Node) (vm : String),
      GivenUp log vm node.name →
      instanceExists client nodeToVMName node = .ok true →
      ∃ machine, getVM client nodeToVMName node = .ok machine ∧ machine.name ≠ vm

/-- The step renames no machine: an entry it still has is the one it reports. -/
def ControllerStep.KeepsName
    (h : Handler)
    (nodeToVMName : Std.ExtTreeMap String String)
    (step : ControllerStep) :
    Prop :=
  ∀ vm hostname : String,
    step.report h = some (vm, hostname) →
    ∀ other : String, nodeToVMName[other]? = some vm → other = hostname

/-- A map with latest reports only keeps so under a step that renames nothing. -/
theorem current_of_keepsName
    {controller : Controller}
    {earlier : List ControllerStep}
    {last : ControllerStep}
    (current :
      ∀ name vm : String,
        controller.nodeToVMName[name]? = some vm →
        (reports h earlier).lookup vm = some name)
    (keeps : last.KeepsName h controller.nodeToVMName)
    (name vm : String)
    (entry : (controller.advance h cfg last).nodeToVMName[name]? = some vm) :
    (reports h (earlier ++ [last])).lookup vm = some name := by
  rw [advance_nodeToVMName] at entry
  rw [reports_append]
  cases isReport : last.report h with
  | none =>
      rw [isReport] at entry
      exact current name vm entry
  | some report =>
      obtain ⟨latestVM, latestName⟩ := report
      rw [isReport] at entry
      dsimp only at entry
      rw [Option.toList_some, List.singleton_append, List.lookup_cons]
      rw [Std.ExtTreeMap.getElem?_insert] at entry
      split at entry
      · rename_i sameName
        rw [Option.some.injEq] at entry
        rw [entry, beq_self_eq_true, Std.LawfulEqOrd.eq_of_compare sameName]
      · rename_i otherName
        have otherVM : vm ≠ latestVM := by
          rintro rfl
          have same := keeps vm latestName isReport name entry
          rw [same] at otherName
          exact otherName Std.ReflCmp.compare_self
        rw [beq_false_of_ne otherVM]
        exact current name vm entry

/-- The consequences of a map with latest reports only. -/
theorem tracksHostnames_of_current
    {controller : Controller}
    {steps : List ControllerStep}
    (current :
      ∀ name vm : String,
        (controller.run h cfg steps).nodeToVMName[name]? = some vm →
        (reports h steps).lookup vm = some name) :
    TracksHostnames (reports h steps) (controller.run h cfg steps).nodeToVMName := by
  have resolvesTo
      {client : VMClient}
      {node : Node}
      {vm : String}
      {machine : VirtualMachine}
      (givenUp : GivenUp (reports h steps) vm node.name)
      (got : getVM client (controller.run h cfg steps).nodeToVMName node = .ok machine) :
      machine.name ≠ vm := by
    obtain ⟨holder, entry⟩ :=
      Option.isSome_iff_exists.mp (@isSome_of_mem_reports h cfg controller _ _ _ givenUp.1)
    rw [getVM, entry, Option.getD_some] at got
    rw [client.named got]
    rintro rfl
    exact givenUp.2 (current _ _ entry)
  constructor
  · intro first second vm firstEntry secondEntry
    have same := current first vm firstEntry
    rw [current second vm secondEntry, Option.some.injEq] at same
    exact same.symm
  · exact current
  · intro client node vm machine givenUp got
    exact resolvesTo givenUp got
  · intro client node vm givenUp instanceThere
    unfold instanceExists at instanceThere
    cases got : getVM client (controller.run h cfg steps).nodeToVMName node with
    | error error =>
        rw [got] at instanceThere
        dsimp only at instanceThere
        split at instanceThere
        · cases instanceThere
        · cases instanceThere
    | ok machine =>
        exact ⟨machine, rfl, resolvesTo givenUp got⟩

/--
The map of a controller that starts without entries is current after every step
of a run exactly when no step renames a machine that still has an entry.
-/
theorem nodeNames_tracked_iff
    (h : Handler)
    (cfg : Config)
    (guest : GuestCluster)
    (steps : List ControllerStep) :
    (∀ before after,
      steps = before ++ after →
      TracksHostnames (reports h before)
        (Controller.run h cfg { guest := guest } before).nodeToVMName) ↔
      ∀ before step after,
        steps = before ++ step :: after →
        step.KeepsName h (Controller.run h cfg { guest := guest } before).nodeToVMName := by
  constructor
  · intro tracks before step after split vm hostname isReport other entry
    by_contra otherName
    have next := tracks (before ++ [step]) after (by simp [split])
    have latest :
        (reports h (before ++ [step])).lookup vm = some hostname := by
      rw [reports_append, isReport]
      simp
    have stale :
        (Controller.run h cfg { guest := guest }
          (before ++ [step])).nodeToVMName[other]? = some vm := by
      rw [run_append, advance_nodeToVMName, isReport]
      dsimp only
      rw [Std.ExtTreeMap.getElem?_insert, if_neg]
      · exact entry
      · exact fun same => otherName (Std.LawfulEqOrd.eq_of_compare same).symm
    rw [next.current other vm stale, Option.some.injEq] at latest
    exact otherName latest
  · intro keeps before after split
    refine tracksHostnames_of_current ?_
    -- The prefix grows by one step at a time, whatever follows it.
    induction before using List.reverseRecOn generalizing after with
    | nil =>
        intro name vm entry
        simp [Controller.run] at entry
    | append_singleton earlier last inductionHypothesis =>
        have splitHere : steps = earlier ++ last :: after := by simp [split]
        rw [run_append]
        exact current_of_keepsName (inductionHypothesis (last :: after) splitHere)
          (keeps earlier last after splitHere)

/-- A machine is renamed by its guest after its first report. -/
def renamedGuest : List ControllerStep :=
  [.vmiChanged { vmi := some (poolMember "vm1" "prod"), guestOsInfo := .ok "host-1" },
    .vmiChanged { vmi := some (poolMember "vm1" "prod"), guestOsInfo := .ok "host-2" }]

/-- After a rename the old name still resolves to the machine. -/
theorem nodeNames_not_always_tracked :
    ¬ ∀ (h : Handler) (cfg : Config) (guest : GuestCluster)
        (steps before after : List ControllerStep),
        steps = before ++ after →
        TracksHostnames (reports h before)
          (Controller.run h cfg { guest := guest } before).nodeToVMName := by
  intro always
  have tracks :=
    always sampleHandler sampleConfig (controllerWith []).guest renamedGuest renamedGuest []
      (by simp)
  have evaluated :
      (Controller.run sampleHandler sampleConfig { guest := (controllerWith []).guest }
          renamedGuest).nodeToVMName["host-1"]? = some "vm1" ∧
        (Controller.run sampleHandler sampleConfig { guest := (controllerWith []).guest }
          renamedGuest).nodeToVMName["host-2"]? = some "vm1" := by
    decide +kernel
  have same := tracks.injective "host-1" "host-2" "vm1" evaluated.1 evaluated.2
  revert same
  decide

end Hostnames

section Isolation

variable {h : Handler}
variable {cfg : Config}

/-- The instance carries the label of another guest cluster or none. -/
def isForeign (cfg : Config) (vmi : VirtualMachineInstance) : Bool :=
  vmi.labels.lookup labelKeyGuestClusterNameOnVM ≠ some cfg.clusterName

/-- The step handles an instance of another guest cluster. -/
def ControllerStep.isForeign (cfg : Config) : ControllerStep → Bool
  | .vmiChanged { vmi := some vmi, .. } => HarvesterCloudProvider.isForeign cfg vmi
  | _ => false

/-- A node of the cluster has the name at the start or at some time of the run. -/
def EverNode (start : Controller) (steps : List ControllerStep) (name : String) : Prop :=
  (∃ node, start.guest.nodes.get? name = some node) ∨
    ∃ node, ControllerStep.nodePut node ∈ steps ∧ node.name = name

/-- No handled foreign instance goes by the name of a node of this cluster. -/
def ForeignApart
    (h : Handler)
    (cfg : Config)
    (start : Controller)
    (steps : List ControllerStep) :
    Prop :=
  ∀ (event : VmiEvent) (vmi : VirtualMachineInstance),
    .vmiChanged event ∈ steps →
    event.Handles h vmi →
    isForeign cfg vmi = true →
    ¬ EverNode start steps (nodeNameOf vmi event.guestOsInfo)

/-- The guest cluster between two calls. -/
def GuestCluster.quiet (guest : GuestCluster) : GuestCluster :=
  guest.begin { vmi := none, guestOsInfo := .ok "" }

/-- The runs agree on the guest cluster and on the entries of its nodes. -/
structure AgreeOn (isNode : String → Prop) (first second : Controller) : Prop where
  guest : first.guest.quiet = second.guest.quiet
  entries :
    ∀ name, isNode name → first.nodeToVMName[name]? = second.nodeToVMName[name]?
  /-- All nodes have one of the names. -/
  names : ∀ name node, first.guest.nodes.get? name = some node → isNode name

theorem begin_eq_of_quiet
    {first second : GuestCluster}
    (same : first.quiet = second.quiet)
    (event : VmiEvent) :
    first.begin event = second.begin event :=
  congrArg (fun guest => guest.begin event) same

/-- The handler brings no new node. -/
theorem handleNode_names
    {vmiCache : List VirtualMachineInstance}
    {vmi : VirtualMachineInstance}
    {nodeName name : String}
    {guest : GuestCluster}
    (present :
      ((h.handleNode cfg vmiCache vmi nodeName guest).2.nodes.get? name).isSome) :
    (guest.nodes.get? name).isSome := by
  rcases handleNode_cases (Prod.eta (h.handleNode cfg vmiCache vmi nodeName guest)).symm with
    ⟨moved, -⟩ | ⟨reached, moved, -, final⟩
  · exact moved.names name present
  · rw [final] at present
    exact moved.names name present

/-- A step brings no node but the registered one. -/
theorem advance_names
    {controller : Controller}
    {step : ControllerStep}
    {name : String}
    {node : GuestNode}
    (after : (controller.advance h cfg step).guest.nodes.get? name = some node) :
    (∃ before, controller.guest.nodes.get? name = some before) ∨
      ∃ registered, step = .nodePut registered ∧ registered.name = name := by
  cases step with
  | nodePut registered =>
      unfold Controller.advance at after
      dsimp only at after
      rw [NodeStore.get?_put] at after
      split at after
      · rename_i sameName
        exact .inr ⟨registered, rfl, sameName.symm⟩
      · exact .inl ⟨node, after⟩
  | nodeErased erased =>
      by_cases sameName : name = erased
      · subst sameName
        simp [Controller.advance, NodeStore.erase] at after
      · simp only [Controller.advance, NodeStore.erase, Function.update_of_ne sameName]
          at after
        exact .inl ⟨node, after⟩
  | vmiChanged event =>
      refine .inl (Option.isSome_iff_exists.mp ?_)
      have present := Option.isSome_iff_exists.mpr ⟨node, after⟩
      by_cases handles : ∃ vmi, event.Handles h vmi
      · obtain ⟨vmi, handled⟩ := handles
        rw [advance_of_handled handled] at present
        have earlier : ((controller.guest.begin event).nodes.get? name).isSome :=
          handleNode_names present
        exact earlier
      · rw [advance_of_unhandled handles] at present
        exact present

/-- One instance handled in both runs moves both in the same way. -/
theorem AgreeOn.advance
    {isNode : String → Prop}
    {first second : Controller}
    (agree : AgreeOn isNode first second)
    {step : ControllerStep}
    (registers : ∀ node, step = .nodePut node → isNode node.name) :
    AgreeOn isNode (first.advance h cfg step) (second.advance h cfg step) := by
  have entries :
      ∀ name,
        isNode name →
        (first.advance h cfg step).nodeToVMName[name]? =
          (second.advance h cfg step).nodeToVMName[name]? := by
    intro name listed
    rw [advance_nodeToVMName, advance_nodeToVMName]
    cases step.report h with
    | none =>
        exact agree.entries name listed
    | some report =>
        dsimp only
        rw [Std.ExtTreeMap.getElem?_insert, Std.ExtTreeMap.getElem?_insert,
          agree.entries name listed]
  have names :
      ∀ name node,
        (first.advance h cfg step).guest.nodes.get? name = some node →
        isNode name := by
    intro name node after
    rcases advance_names after with ⟨before, found⟩ | ⟨registered, isPut, rfl⟩
    · exact agree.names name before found
    · exact registers registered isPut
  refine ⟨?_, entries, names⟩
  cases step with
  | nodePut node =>
      exact congrArg (fun guest : GuestCluster =>
        { guest with nodes := guest.nodes.put node }) agree.guest
  | nodeErased name =>
      exact congrArg (fun guest : GuestCluster =>
        { guest with nodes := guest.nodes.erase name }) agree.guest
  | vmiChanged event =>
      have sameBegin := begin_eq_of_quiet agree.guest event
      by_cases handles : ∃ vmi, event.Handles h vmi
      · obtain ⟨vmi, handled⟩ := handles
        rw [advance_of_handled handled, advance_of_handled handled, sameBegin]
      · rw [advance_of_unhandled handles, advance_of_unhandled handles, sameBegin]

/-- A foreign instance that goes by no node name leaves the agreement alone. -/
theorem AgreeOn.advance_foreign
    {isNode : String → Prop}
    {first second : Controller}
    (agree : AgreeOn isNode first second)
    {event : VmiEvent}
    (apart :
      ∀ vmi, event.Handles h vmi → ¬ isNode (nodeNameOf vmi event.guestOsInfo)) :
    AgreeOn isNode (first.advance h cfg (.vmiChanged event)) second := by
  by_cases handles : ∃ vmi, event.Handles h vmi
  · obtain ⟨vmi, handled⟩ := handles
    have elsewhere := apart vmi handled
    have missing :
        (first.guest.begin event).nodes.get? (nodeNameOf vmi event.guestOsInfo) = none := by
      cases found : first.guest.nodes.get? (nodeNameOf vmi event.guestOsInfo) with
      | none =>
          exact found
      | some node =>
          exact (elsewhere (agree.names _ node found)).elim
    rw [advance_of_handled handled, handleNode_missing missing]
    refine ⟨agree.guest, fun name listed => ?_, agree.names⟩
    rw [← agree.entries name listed]
    cases answer : event.guestOsInfo with
    | error error =>
        rfl
    | ok hostname =>
        dsimp only [storeNodeName]
        rw [Std.ExtTreeMap.getElem?_insert, if_neg]
        intro same
        rw [answer] at elsewhere
        have sameName : hostname = name := Std.LawfulEqOrd.eq_of_compare same
        exact elsewhere (sameName ▸ listed)
  · rw [advance_of_unhandled handles]
    exact ⟨agree.guest, agree.entries, agree.names⟩

/-- A run and the same run without the foreign instances agree. -/
theorem agreeOn_without_foreign
    {start : Controller}
    {steps before after : List ControllerStep}
    (split : steps = before ++ after)
    (apart : ForeignApart h cfg start steps) :
    AgreeOn (EverNode start steps) (start.run h cfg before)
      (start.run h cfg (before.filter fun step => !step.isForeign cfg)) := by
  have inSteps : ∀ step ∈ before, step ∈ steps := by
    intro step member
    rw [split]
    exact List.mem_append_left _ member
  refine related_of_dropped ?_ ?_ ⟨rfl, fun _ _ => rfl, ?_⟩
  · intro step member first second _ agree
    refine agree.advance fun node isPut => .inr ⟨node, ?_, rfl⟩
    rw [← isPut]
    exact inSteps step member
  · intro step member first second foreign agree
    cases step with
    | nodePut node =>
        cases foreign
    | nodeErased name =>
        cases foreign
    | vmiChanged event =>
        refine agree.advance_foreign fun vmi handled => ?_
        refine apart event vmi (inSteps _ member) handled ?_
        obtain ⟨listed, guestOsInfo, vmiCache, nodeFailures, ticks⟩ := event
        have changed : listed = some vmi := handled.1
        subst changed
        simpa [ControllerStep.isForeign] using foreign
  · intro name node found
    exact .inl ⟨node, found⟩

/--
Where no handled foreign instance goes by the name of a node of this cluster,
leaving the foreign instances out changes in no state of the run which nodes
received a taint or which virtual machine a node of this cluster is.
-/
theorem foreign_instances_do_not_interfere
    {start : Controller}
    {steps : List ControllerStep}
    (apart : ForeignApart h cfg start steps)
    (before after : List ControllerStep)
    (split : steps = before ++ after) :
    (∀ name,
      name ∈ (start.run h cfg before).guest.tainted ↔
        name ∈ (start.run h cfg
          (before.filter fun step => !step.isForeign cfg)).guest.tainted) ∧
    ∀ (client : VMClient) (node : Node),
      EverNode start steps node.name →
      getVM client (start.run h cfg before).nodeToVMName node =
        getVM client
          (start.run h cfg (before.filter fun step => !step.isForeign cfg)).nodeToVMName
          node := by
  have agree := agreeOn_without_foreign split apart
  constructor
  · intro name
    have same := congrArg GuestCluster.tainted agree.guest
    exact iff_of_eq (congrArg (name ∈ ·) same)
  · intro client node listed
    rw [getVM, getVM, agree.entries node.name listed]

/-- A Harvester cluster in which every asked virtual machine exists. -/
def sampleClient : VMClient where
  get := fun name => .ok { name := name }
  named := by
    intro name vm got
    cases got
    rfl

/-- A guest cluster with one node. -/
def oneNode : Controller :=
  controllerWith [{ name := "host-1" }]

/-- An instance of this cluster and one of another with the given host name. -/
def mixedClusters (hostname : String) : List ControllerStep :=
  [.vmiChanged { vmi := some (poolMember "vm1" "prod"), guestOsInfo := .ok "host-1" },
    .vmiChanged { vmi := some (poolMember "vm9" "dev"), guestOsInfo := .ok hostname }]

/-- An instance of another cluster with a host name of its own. -/
theorem foreign_instance_apart :
    getVM sampleClient
        (oneNode.run sampleHandler sampleConfig (mixedClusters "host-9")).nodeToVMName
        { name := "host-1" } =
      getVM sampleClient
        (oneNode.run sampleHandler sampleConfig
          ((mixedClusters "host-9").filter fun step =>
            !step.isForeign sampleConfig)).nodeToVMName
        { name := "host-1" } := by
  have own : isForeign sampleConfig (poolMember "vm1" "prod") = false := by
    decide +kernel
  have apart :
      ForeignApart sampleHandler sampleConfig oneNode (mixedClusters "host-9") := by
    rintro event vmi member ⟨changed, -⟩ foreign isNode
    simp only [mixedClusters, List.mem_cons, List.not_mem_nil, or_false,
      ControllerStep.vmiChanged.injEq] at member
    rcases member with rfl | rfl
    · cases changed
      rw [own] at foreign
      cases foreign
    · cases changed
      rcases isNode with ⟨node, found⟩ | ⟨node, member, -⟩
      · have absent : oneNode.guest.nodes.get? "host-9" = none := rfl
        have present : oneNode.guest.nodes.get? "host-9" = some node := found
        rw [absent] at present
        cases present
      · simp [mixedClusters] at member
  exact (foreign_instances_do_not_interfere apart (mixedClusters "host-9") []
    (List.append_nil _).symm).2 sampleClient { name := "host-1" } (.inl ⟨_, rfl⟩)

/-- An instance of another cluster with the host name of a node takes it over. -/
theorem foreign_instances_do_interfere :
    ¬ ∀ (h : Handler) (cfg : Config) (start : Controller) (steps : List ControllerStep)
        (client : VMClient) (node : Node),
        EverNode start steps node.name →
        getVM client (start.run h cfg steps).nodeToVMName node =
          getVM client
            (start.run h cfg (steps.filter fun step => !step.isForeign cfg)).nodeToVMName
            node := by
  intro isolated
  have same :=
    isolated sampleHandler sampleConfig oneNode (mixedClusters "host-1") sampleClient
      { name := "host-1" } (.inl ⟨_, rfl⟩)
  revert same
  decide +kernel

end Isolation

end HarvesterCloudProvider
