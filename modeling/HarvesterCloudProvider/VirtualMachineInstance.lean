import HarvesterCloudProvider.Objects

namespace HarvesterCloudProvider

/-!
# Virtual machine instances and their networks

The nodes of a guest cluster are KubeVirt virtual machine instances.  The
specification of an instance names its networks, the guest agent reports the
interfaces in its status, and joining both gives a map from network attachment
definitions to Linux interfaces.  The common map of several instances keeps the
entries on which all of them agree.
-/

/-- The network attachment definition behind a Multus network. -/
structure MultusNetwork where
  networkName : String
  deriving Repr, DecidableEq

/-- A network in the specification of an instance. -/
structure Network where
  name : String
  multus : Option MultusNetwork := none
  deriving Repr, DecidableEq

/-- An interface in the status of an instance. -/
structure NetworkInterface where
  name : String := ""
  interfaceName : String := ""
  ip : String := ""
  ips : List String := []
  deriving Repr, DecidableEq

/-- The phases of an instance. -/
inductive InstancePhase where
  | unset
  | pending
  | scheduling
  | scheduled
  | running
  | succeeded
  | failed
  | waitingForSync
  | unknown
  deriving Repr, DecidableEq

/-- The migration an instance is in or has been through. -/
structure MigrationState where
  completed : Bool
  deriving Repr, DecidableEq

/-- A virtual machine instance. -/
structure VirtualMachineInstance where
  ns : String
  name : String
  labels : StringMap := none
  annotations : StringMap := none
  deletionTimestamp : Option Nat := none
  networks : List Network := []
  phase : InstancePhase := .unset
  migrationState : Option MigrationState := none
  interfaces : List NetworkInterface := []

/-- `IsMigrationCompleted`. -/
def isMigrationCompleted (vmi : VirtualMachineInstance) : Bool :=
  match vmi.migrationState with
  | none => true
  | some migration => migration.completed

/-- `IsRunning`. -/
def isRunning (vmi : VirtualMachineInstance) : Bool :=
  vmi.phase = .running

/-- The network attachment definitions by the names of their networks. -/
def nameToNAD (networks : List Network) : Std.ExtTreeMap String String :=
  networks.foldl
    (fun nads network =>
      match network.multus with
      | some multus => nads.insert network.name multus.networkName
      | none => nads)
    ∅

/-- The interfaces of an instance by their network attachment definitions. -/
def getNADToInterfaceMapping
    (vmi : VirtualMachineInstance) :
    Std.ExtTreeMap String String :=
  let nads := nameToNAD vmi.networks
  vmi.interfaces.foldl
    (fun result iface =>
      if iface.interfaceName = "" ∨ iface.name = "" then
        result
      else
        match nads[iface.name]? with
        | some nad => result.insert nad iface.interfaceName
        | none => result)
    ∅

/-- Whether an instance takes part in the common mapping. -/
def isActive (vmi : VirtualMachineInstance) : Bool :=
  isRunning vmi && isMigrationCompleted vmi && !vmi.interfaces.isEmpty

/-- The instances that take part, without the nil entries of the list. -/
def activeVMIs
    (vmis : List (Option VirtualMachineInstance)) :
    List VirtualMachineInstance :=
  (vmis.filterMap id).filter isActive

/--
The entries on which all active instances agree; nil when none is active.
-/
def getCommonVMINADs (vmis : List (Option VirtualMachineInstance)) : StringMap :=
  match activeVMIs vmis with
  | [] => none
  | first :: rest =>
      some
        (rest.foldl
          (fun result vmi =>
            let curr := getNADToInterfaceMapping vmi
            result.filter fun nad iface => NilableMap.read (some curr) nad = iface)
          (getNADToInterfaceMapping first))

section Mapping

variable {vmi : VirtualMachineInstance}
variable {nad iface : String}

/-- Interfaces without a name never enter the mapping. -/
theorem getNADToInterfaceMapping_ne_empty
    (mapped : (getNADToInterfaceMapping vmi)[nad]? = some iface) :
    iface ≠ "" := by
  unfold getNADToInterfaceMapping at mapped
  dsimp only at mapped
  generalize vmi.interfaces = interfaces at mapped
  induction interfaces using List.reverseRecOn with
  | nil =>
      simp at mapped
  | append_singleton earlier last inductionHypothesis =>
      rw [List.foldl_append, List.foldl_cons, List.foldl_nil] at mapped
      split at mapped
      · exact inductionHypothesis mapped
      · rename_i named
        split at mapped
        · rw [Std.ExtTreeMap.getElem?_insert] at mapped
          split at mapped
          · rw [Option.some.injEq] at mapped
            exact mapped ▸ fun empty => named (.inl empty)
          · exact inductionHypothesis mapped
        · exact inductionHypothesis mapped

/-- One more instance keeps the entries it agrees with. -/
theorem filter_agreeing
    {result : Std.ExtTreeMap String String}
    (named : ∀ {nad iface : String}, result[nad]? = some iface → iface ≠ "") :
    (result.filter fun nad iface =>
        NilableMap.read (some (getNADToInterfaceMapping vmi)) nad = iface)[nad]? =
          some iface ↔
      result[nad]? = some iface ∧
        (getNADToInterfaceMapping vmi)[nad]? = some iface := by
  rw [Std.ExtTreeMap.getElem?_filter']
  constructor
  · intro kept
    obtain ⟨found, agrees⟩ := Option.filter_eq_some_iff.mp kept
    refine ⟨found, ?_⟩
    exact NilableMap.lookup_of_read (of_decide_eq_true agrees) (named found)
  · rintro ⟨found, agrees⟩
    refine Option.filter_eq_some_iff.mpr ⟨found, decide_eq_true ?_⟩
    have looked : NilableMap.lookup (some (getNADToInterfaceMapping vmi)) nad = some iface :=
      agrees
    exact NilableMap.read_of_lookup looked

/-- Every further instance has to agree. -/
theorem foldl_agreeing
    {result : Std.ExtTreeMap String String}
    (named : ∀ {nad iface : String}, result[nad]? = some iface → iface ≠ "")
    (rest : List VirtualMachineInstance) :
    (rest.foldl
        (fun result vmi =>
          result.filter fun nad iface =>
            NilableMap.read (some (getNADToInterfaceMapping vmi)) nad = iface)
        result)[nad]? = some iface ↔
      result[nad]? = some iface ∧
        ∀ vmi ∈ rest, (getNADToInterfaceMapping vmi)[nad]? = some iface := by
  induction rest generalizing result with
  | nil =>
      simp
  | cons first rest inductionHypothesis =>
      rw [List.foldl_cons,
        inductionHypothesis fun kept => named ((filter_agreeing named).mp kept).1,
        filter_agreeing named, List.forall_mem_cons, and_assoc]

/-- The active instances are the active members of the list. -/
theorem mem_activeVMIs
    {vmis : List (Option VirtualMachineInstance)}
    {vmi : VirtualMachineInstance} :
    vmi ∈ activeVMIs vmis ↔ some vmi ∈ vmis ∧ isActive vmi = true := by
  simp [activeVMIs]

/-- The common mapping has the entries that every active instance has. -/
theorem getCommonVMINADs_lookup
    {vmis : List (Option VirtualMachineInstance)} :
    (getCommonVMINADs vmis).lookup nad = some iface ↔
      activeVMIs vmis ≠ [] ∧
        ∀ vmi ∈ activeVMIs vmis,
          (getNADToInterfaceMapping vmi)[nad]? = some iface := by
  unfold getCommonVMINADs
  cases activeVMIs vmis with
  | nil =>
      simp
  | cons first rest =>
      dsimp only
      rw [NilableMap.lookup_some, foldl_agreeing getNADToInterfaceMapping_ne_empty,
        List.forall_mem_cons]
      simp

/-- Every interface of the common mapping has a name. -/
theorem getCommonVMINADs_ne_empty
    {vmis : List (Option VirtualMachineInstance)}
    (mapped : (getCommonVMINADs vmis).lookup nad = some iface) :
    iface ≠ "" := by
  obtain ⟨someActive, agree⟩ := getCommonVMINADs_lookup.mp mapped
  obtain ⟨vmi, member⟩ := List.exists_mem_of_ne_nil _ someActive
  exact getNADToInterfaceMapping_ne_empty (agree vmi member)

theorem getCommonVMINADs_eq_none
    {vmis : List (Option VirtualMachineInstance)} :
    getCommonVMINADs vmis = none ↔ activeVMIs vmis = [] := by
  unfold getCommonVMINADs
  cases activeVMIs vmis with
  | nil =>
      simp
  | cons first rest =>
      simp

/-- Lists with the same active instances have the same common mapping. -/
theorem getCommonVMINADs_of_active
    {first second : List (Option VirtualMachineInstance)}
    (active : ∀ vmi, vmi ∈ activeVMIs first ↔ vmi ∈ activeVMIs second) :
    getCommonVMINADs first = getCommonVMINADs second := by
  have sameEmpty : activeVMIs first = [] ↔ activeVMIs second = [] := by
    simp only [List.eq_nil_iff_forall_not_mem, active]
  have sameEntries :
      ∀ nad,
        (getCommonVMINADs first).lookup nad = (getCommonVMINADs second).lookup nad := by
    intro nad
    ext iface
    rw [getCommonVMINADs_lookup, getCommonVMINADs_lookup]
    refine and_congr (not_congr sameEmpty) (forall_congr' fun vmi => ?_)
    rw [active]
  have bothNone :
      getCommonVMINADs first = none ↔ getCommonVMINADs second = none := by
    rw [getCommonVMINADs_eq_none, getCommonVMINADs_eq_none]
    exact sameEmpty
  exact NilableMap.eq_of_lookup bothNone sameEntries

/-- The order of the instances does not matter. -/
theorem getCommonVMINADs_perm
    {first second : List (Option VirtualMachineInstance)}
    (permuted : first.Perm second) :
    getCommonVMINADs first = getCommonVMINADs second :=
  getCommonVMINADs_of_active fun _ =>
    ((permuted.filterMap id).filter isActive).mem_iff

end Mapping

end HarvesterCloudProvider
