import HarvesterCloudProvider.NodeUpdateRace

namespace HarvesterCloudProvider

open Program

/-!
# Two controllers and the topology of a node

The instance controller compares the topology annotations of an instance with
the labels of its node and taints a node that differs.  The cloud node controller
initialises a tainted node from the annotations and has the stable labels of the
other nodes follow their beta labels.  A round is one event of the instance
followed by one look at the node.

The abstract model keeps three pairs of labels and the taint.  The controllers
come to rest exactly when no label has to be taken away, which neither of them
can do, and either the node can be initialised or it needs no initialisation.
-/

section Abstract

/-- The beta label and the stable label for one value. -/
structure LabelPair where
  beta : Option String
  stable : Option String
  deriving Repr, DecidableEq

namespace LabelPair

/-- Both labels are written, unless there is no value. -/
def written (value : String) (pair : LabelPair) : LabelPair :=
  if value ≠ "" then { beta := some value, stable := some value } else pair

/-- The stable label follows the beta label, if there is one. -/
def followed (pair : LabelPair) : LabelPair :=
  match pair.beta with
  | none => pair
  | some value => { beta := some value, stable := some value }

/-- The stable label shows a value; a missing one shows the empty text. -/
def Shows (value : String) (pair : LabelPair) : Prop :=
  pair.stable.getD "" = value

/-- Where there is no value, both labels are missing or empty. -/
def Clear (value : String) (pair : LabelPair) : Prop :=
  value = "" → pair.stable.getD "" = "" ∧ pair.beta.getD "" = ""

/-- A beta label that is there has the given value. -/
def BetaAgrees (value : String) (pair : LabelPair) : Prop :=
  ∀ beta, pair.beta = some beta → beta = value

instance (value : String) (pair : LabelPair) : Decidable (pair.Shows value) :=
  inferInstanceAs (Decidable (_ = _))

variable {value : String}
variable {pair : LabelPair}

@[simp] theorem clear_written : (pair.written value).Clear value ↔ pair.Clear value := by
  unfold written
  split
  · rename_i nonempty
    simp [Clear, nonempty]
  · rfl

theorem shows_written (clear : pair.Clear value) : (pair.written value).Shows value := by
  unfold written
  split
  · rfl
  · rename_i isEmpty
    have noValue : value = "" := not_not.mp isEmpty
    exact (clear noValue).1.trans noValue.symm

theorem clear_of_clear_followed
    (showsValue : pair.Shows value)
    (clear : pair.followed.Clear value) :
    pair.Clear value := by
  intro noValue
  refine ⟨showsValue.trans noValue, ?_⟩
  have beta := (clear noValue).2
  unfold followed at beta
  split at beta
  · exact beta
  · rename_i text present
    rw [present]
    exact beta

theorem followed_followed (pair : LabelPair) : pair.followed.followed = pair.followed := by
  cases pair with
  | mk beta stable =>
      cases beta <;> rfl

/-- Once written or followed, the next look leaves what is shown as it is. -/
theorem shows_followed_written (clear : pair.Clear value) :
    (pair.written value).followed.Shows value := by
  unfold written
  split
  · rfl
  · rename_i isEmpty
    have noValue : value = "" := not_not.mp isEmpty
    obtain ⟨stable, beta⟩ := clear noValue
    unfold followed
    split
    · exact stable.trans noValue.symm
    · rename_i text present
      rw [present] at beta
      exact Eq.trans beta noValue.symm

theorem followed_written_followed (value : String) (pair : LabelPair) :
    (pair.followed.written value).followed = pair.followed.written value := by
  unfold written
  split
  · rfl
  · exact followed_followed pair

theorem clear_followed (clear : pair.Clear value) : pair.followed.Clear value := by
  intro noValue
  obtain ⟨stable, beta⟩ := clear noValue
  unfold followed
  split
  · exact ⟨stable, beta⟩
  · rename_i text present
    rw [present] at beta
    exact ⟨beta, beta⟩

/-- A pair at rest that shows the value has nothing else. -/
theorem betaAgrees_of_shows
    (showsValue : pair.followed.Shows value) :
    pair.BetaAgrees value := by
  intro beta present
  unfold followed at showsValue
  rw [present] at showsValue
  exact showsValue

theorem shows_followed
    (showsValue : pair.Shows value)
    (agrees : pair.BetaAgrees value) :
    pair.followed.Shows value := by
  unfold followed
  split
  · exact showsValue
  · rename_i text present
    exact agrees text present

theorem clear_of_betaAgrees
    (showsValue : pair.Shows value)
    (agrees : pair.BetaAgrees value) :
    pair.Clear value := by
  intro noValue
  refine ⟨showsValue.trans noValue, ?_⟩
  cases present : pair.beta with
  | none =>
      rfl
  | some beta =>
      exact (agrees beta present).trans noValue

end LabelPair

/-- What the two controllers see of a node. -/
@[ext]
structure Topology where
  zone : LabelPair
  region : LabelPair
  instanceType : LabelPair
  tainted : Bool
  deriving Repr, DecidableEq

/-- What the two controllers know about the instance of a node. -/
structure Placement where
  zone : String
  region : String
  /-- Whether the node can be initialised from the instance. -/
  applies : Bool

namespace Topology

/-- The stable labels show zone and region. -/
def Shows (placement : Placement) (topology : Topology) : Prop :=
  topology.zone.Shows placement.zone ∧ topology.region.Shows placement.region

/-- Nothing has to be taken away. -/
def Clear (placement : Placement) (topology : Topology) : Prop :=
  topology.zone.Clear placement.zone ∧ topology.region.Clear placement.region

/-- The beta labels that are there have the values of the instance. -/
def BetaAgrees (placement : Placement) (topology : Topology) : Prop :=
  topology.zone.BetaAgrees placement.zone ∧ topology.region.BetaAgrees placement.region

instance (placement : Placement) (topology : Topology) :
    Decidable (topology.Shows placement) :=
  inferInstanceAs (Decidable (_ ∧ _))

/-- Zone and region are written and the taint is gone. -/
def written (placement : Placement) (topology : Topology) : Topology where
  zone := topology.zone.written placement.zone
  region := topology.region.written placement.region
  instanceType := topology.instanceType
  tainted := false

/-- All stable labels follow their beta labels. -/
def followed (topology : Topology) : Topology where
  zone := topology.zone.followed
  region := topology.region.followed
  instanceType := topology.instanceType.followed
  tainted := topology.tainted

/-- The instance controller taints a node that shows something else. -/
def compared (placement : Placement) (topology : Topology) : Topology :=
  if topology.Shows placement then topology else { topology with tainted := true }

/-- The cloud node controller. -/
def synced
    (placement : Placement)
    (topology : Topology) :
    Topology :=
  if topology.tainted then
    if placement.applies then topology.written placement else topology
  else
    topology.followed

/-- One event of the instance and one look at the node. -/
def round
    (placement : Placement)
    (topology : Topology) :
    Topology :=
  (topology.compared placement).synced placement

/-- Neither controller has anything to do. -/
structure Settled (placement : Placement) (topology : Topology) : Prop where
  untainted : topology.tainted = false
  showsPlacement : topology.Shows placement
  follows : topology.followed = topology

/-- Where the controllers come to rest. -/
def Converges (placement : Placement) (topology : Topology) : Prop :=
  topology.Clear placement ∧
    (placement.applies = true ∨
      (topology.tainted = false ∧
        topology.Shows placement ∧
        topology.BetaAgrees placement))

variable {placement : Placement}
variable {topology : Topology}

theorem followed_followed (topology : Topology) :
    topology.followed.followed = topology.followed := by
  simp only [followed, LabelPair.followed_followed]

theorem clear_written :
    (topology.written placement).Clear placement ↔ topology.Clear placement := by
  simp only [Clear, written, LabelPair.clear_written]

/-- A node that has to be initialised, or cannot be. -/
theorem round_of_tainted
    (needed : topology.tainted = true ∨ ¬ topology.Shows placement) :
    topology.round placement =
      if placement.applies then
        topology.written placement
      else
        { topology with tainted := true } := by
  unfold round compared
  by_cases showsPlacement : topology.Shows placement
  · have tainted : topology.tainted = true := needed.resolve_right (not_not.mpr showsPlacement)
    have same : { topology with tainted := true } = topology := by
      rw [← tainted]
    rw [if_pos showsPlacement, synced, if_pos tainted, same]
  · rw [if_neg showsPlacement, synced, if_pos rfl]
    rfl

/-- A node that only has its labels looked at. -/
theorem round_of_untainted
    (untainted : topology.tainted = false)
    (showsPlacement : topology.Shows placement) :
    topology.round placement = topology.followed := by
  unfold round compared
  rw [if_pos showsPlacement, synced, if_neg (by rw [untainted]; exact Bool.false_ne_true)]

/-- A settled node stays as it is. -/
theorem Settled.round (settled : topology.Settled placement) :
    topology.round placement = topology :=
  (round_of_untainted settled.untainted settled.showsPlacement).trans settled.follows

theorem Settled.converges (settled : topology.Settled placement) :
    topology.Converges placement := by
  have follows := settled.follows
  have agrees : topology.BetaAgrees placement := by
    have showsFollowed : topology.followed.Shows placement := by
      rw [follows]
      exact settled.showsPlacement
    exact
      ⟨LabelPair.betaAgrees_of_shows showsFollowed.1,
        LabelPair.betaAgrees_of_shows showsFollowed.2⟩
  exact
    ⟨⟨LabelPair.clear_of_betaAgrees settled.showsPlacement.1 agrees.1,
        LabelPair.clear_of_betaAgrees settled.showsPlacement.2 agrees.2⟩,
      .inr ⟨settled.untainted, settled.showsPlacement, agrees⟩⟩

/-- A round does not open a way to rest. -/
theorem converges_of_round
    (converges : (topology.round placement).Converges placement) :
    topology.Converges placement := by
  by_cases needed : topology.tainted = true ∨ ¬ topology.Shows placement
  · rw [round_of_tainted needed] at converges
    split at converges
    · rename_i applies
      exact ⟨clear_written.mp converges.1, .inl applies⟩
    · rename_i stuck
      obtain ⟨-, applies | ⟨untainted, -⟩⟩ := converges
      · exact (stuck applies).elim
      · cases untainted
  · obtain ⟨isUntainted, showsPlacement⟩ := not_or.mp needed
    have untainted : topology.tainted = false := Bool.eq_false_iff.mpr isUntainted
    rw [not_not] at showsPlacement
    rw [round_of_untainted untainted showsPlacement] at converges
    obtain ⟨clear, rest⟩ := converges
    refine
      ⟨⟨LabelPair.clear_of_clear_followed showsPlacement.1 clear.1,
        LabelPair.clear_of_clear_followed showsPlacement.2 clear.2⟩, ?_⟩
    rcases rest with applies | ⟨-, showsFollowed, -⟩
    · exact .inl applies
    · exact .inr ⟨untainted, showsPlacement, LabelPair.betaAgrees_of_shows showsFollowed.1,
        LabelPair.betaAgrees_of_shows showsFollowed.2⟩

/-- What the stable labels show after the beta labels were followed. -/
theorem settled_followed
    (untainted : topology.tainted = false)
    (showsPlacement : topology.followed.Shows placement) :
    topology.followed.Settled placement :=
  ⟨untainted, showsPlacement, followed_followed topology⟩

/-- An initialised node is settled after the next round. -/
theorem settled_round_written
    (clear : topology.Clear placement) :
    ((topology.written placement).round placement).Settled placement := by
  rw [round_of_untainted rfl
    ⟨LabelPair.shows_written clear.1, LabelPair.shows_written clear.2⟩]
  exact settled_followed rfl
    ⟨LabelPair.shows_followed_written clear.1, LabelPair.shows_followed_written clear.2⟩

/-- A node whose labels were followed is settled once it is initialised. -/
theorem settled_written_followed
    (clear : topology.Clear placement) :
    (topology.followed.written placement).Settled placement := by
  refine ⟨rfl, ⟨?_, ?_⟩, ?_⟩
  · exact LabelPair.shows_written (LabelPair.clear_followed clear.1)
  · exact LabelPair.shows_written (LabelPair.clear_followed clear.2)
  · simp only [followed, written, LabelPair.followed_written_followed,
      LabelPair.followed_followed]

/-- Two rounds are enough. -/
theorem Converges.settled_two
    (converges : topology.Converges placement) :
    ((topology.round placement).round placement).Settled placement := by
  obtain ⟨clear, way⟩ := converges
  by_cases needed : topology.tainted = true ∨ ¬ topology.Shows placement
  · rcases way with applies | ⟨untainted, showsPlacement, -⟩
    · rw [round_of_tainted needed, if_pos applies]
      exact settled_round_written clear
    · rcases needed with tainted | other
      · rw [untainted] at tainted
        cases tainted
      · exact (other showsPlacement).elim
  · obtain ⟨isUntainted, showsPlacement⟩ := not_or.mp needed
    have untainted : topology.tainted = false := Bool.eq_false_iff.mpr isUntainted
    rw [not_not] at showsPlacement
    rw [round_of_untainted untainted showsPlacement]
    by_cases showsFollowed : topology.followed.Shows placement
    · have settled := settled_followed untainted showsFollowed
      rw [settled.round]
      exact settled
    · -- The beta labels brought in another value, so the node is initialised next.
      rcases way with applies | ⟨-, -, agrees⟩
      · rw [round_of_tainted (.inr showsFollowed), if_pos applies]
        exact settled_written_followed clear
      · exact (showsFollowed
          ⟨LabelPair.shows_followed showsPlacement.1 agrees.1,
            LabelPair.shows_followed showsPlacement.2 agrees.2⟩).elim

/-- Two rounds are enough, and the controllers rest ever after. -/
theorem Converges.settled_iterate
    (converges : topology.Converges placement)
    {rounds : Nat}
    (enough : 2 ≤ rounds) :
    ((Topology.round placement)^[rounds] topology).Settled placement := by
  obtain ⟨more, rfl⟩ := Nat.exists_eq_add_of_le' enough
  have settled := converges.settled_two
  rw [Function.iterate_add_apply, Function.iterate_fixed]
  · exact settled
  · exact settled.round

/-- Where the controllers come to rest, they could have from the start. -/
theorem converges_of_settled_iterate
    {rounds : Nat}
    (settled : ((Topology.round placement)^[rounds] topology).Settled placement) :
    topology.Converges placement := by
  induction rounds generalizing topology with
  | zero =>
      exact settled.converges
  | succ rounds inductionHypothesis =>
      exact converges_of_round (inductionHypothesis settled)

end Topology

end Abstract

section Labels

/-- Two labels of a node as a pair. -/
def pairOf (labels : StringMap) (betaKey stableKey : String) : LabelPair where
  beta := labels.lookup betaKey
  stable := labels.lookup stableKey

theorem pairOf_writeLabels_self
    (labels : StringMap)
    {betaKey stableKey : String}
    (different : betaKey ≠ stableKey)
    (value : String) :
    pairOf (writeLabels labels betaKey stableKey value) betaKey stableKey =
      (pairOf labels betaKey stableKey).written value := by
  unfold writeLabels LabelPair.written
  split
  · simp [pairOf, NilableMap.lookup_write, different]
  · rfl

theorem pairOf_writeLabels_of_ne
    (labels : StringMap)
    {betaKey stableKey otherBeta otherStable : String}
    (different : ∀ key ∈ [otherBeta, otherStable], key ∉ [betaKey, stableKey])
    (value : String) :
    pairOf (writeLabels labels betaKey stableKey value) otherBeta otherStable =
      pairOf labels otherBeta otherStable := by
  simp only [List.mem_cons, List.not_mem_nil, or_false, not_or] at different
  unfold writeLabels
  split
  · simp [pairOf, NilableMap.lookup_write, different]
  · rfl

/-- A patch leaves the labels it does not name. -/
theorem lookup_patchedLabels_of_notMem
    {labels : StringMap}
    {updates : List (String × String)}
    {key : String}
    (absent : key ∉ updates.map Prod.fst) :
    (patchedLabels labels updates).lookup key = labels.lookup key := by
  induction updates generalizing labels with
  | nil =>
      rfl
  | cons update rest inductionHypothesis =>
      rw [List.map_cons, List.mem_cons, not_or] at absent
      have later := @inductionHypothesis (labels.write update.1 update.2) absent.2
      exact later.trans (NilableMap.lookup_write_of_ne labels absent.1 update.2)

/-- A patch sets the labels it names. -/
theorem lookup_patchedLabels_of_mem
    {labels : StringMap}
    {updates : List (String × String)}
    {update : String × String}
    (once : (updates.map Prod.fst).Nodup)
    (member : update ∈ updates) :
    (patchedLabels labels updates).lookup update.1 = some update.2 := by
  induction updates generalizing labels with
  | nil =>
      cases member
  | cons first rest inductionHypothesis =>
      rw [List.map_cons, List.nodup_cons] at once
      rcases List.mem_cons.mp member with rfl | later
      · exact (lookup_patchedLabels_of_notMem once.1).trans
          (NilableMap.lookup_write_self labels _ _)
      · exact inductionHypothesis once.2 later

theorem secondaryKey_of_toUpdate
    {info : LabelReconcileInfo}
    {labels : StringMap}
    {update : String × String}
    (updates : info.toUpdate labels = some update) :
    update.1 = info.secondaryKey := by
  unfold LabelReconcileInfo.toUpdate at updates
  split at updates
  · cases updates
  · split at updates
    · cases updates
      rfl
    · cases updates
  · split at updates
    · cases updates
      rfl
    · cases updates

/-- Only stable labels are updated, each at most once. -/
theorem map_fst_toUpdate_sublist
    (labels : StringMap)
    (infos : List LabelReconcileInfo) :
    ((infos.filterMap fun info => info.toUpdate labels).map Prod.fst).Sublist
      (infos.map LabelReconcileInfo.secondaryKey) := by
  induction infos with
  | nil =>
      exact .slnil
  | cons info rest inductionHypothesis =>
      rw [List.filterMap_cons]
      split
      · exact inductionHypothesis.cons _
      · rename_i update updates
        rw [List.map_cons, List.map_cons, secondaryKey_of_toUpdate updates]
        exact inductionHypothesis.cons_cons _

/-- The labels that a pair is about. -/
def LabelReconcileInfo.pair (info : LabelReconcileInfo) (labels : StringMap) : LabelPair :=
  pairOf labels info.primaryKey info.secondaryKey

/-- Every pair has its stable label follow, also when it is missing. -/
theorem toUpdate_eq
    {info : LabelReconcileInfo}
    (listed : info ∈ labelReconcileInfo)
    (labels : StringMap) :
    info.toUpdate labels =
      if (info.pair labels).followed = info.pair labels then
        none
      else
        (labels.lookup info.primaryKey).map fun value => (info.secondaryKey, value) := by
  have ensures : info.ensureSecondaryExists = true := by
    revert info
    decide
  unfold LabelReconcileInfo.toUpdate LabelReconcileInfo.pair pairOf LabelPair.followed
  rw [ensures]
  cases labels.lookup info.primaryKey with
  | none =>
      simp
  | some value =>
      cases labels.lookup info.secondaryKey with
      | none =>
          simp
      | some other =>
          simp [ite_not]

/-- After the patch every stable label follows its beta label. -/
theorem pair_patchedLabels
    {info : LabelReconcileInfo}
    (listed : info ∈ labelReconcileInfo)
    (labels : StringMap) :
    info.pair (patchedLabels labels (labelsToUpdate labels)) = (info.pair labels).followed := by
  have keys := map_fst_toUpdate_sublist labels labelReconcileInfo
  have distinct : (labelReconcileInfo.map LabelReconcileInfo.secondaryKey).Nodup := by
    decide
  have betaKept :
      (patchedLabels labels (labelsToUpdate labels)).lookup info.primaryKey =
        labels.lookup info.primaryKey := by
    refine lookup_patchedLabels_of_notMem fun member => ?_
    have stable := keys.subset member
    clear member
    revert info
    decide
  have updates := toUpdate_eq listed labels
  by_cases follows : (info.pair labels).followed = info.pair labels
  · rw [if_pos follows] at updates
    rw [follows]
    have stableKept :
        (patchedLabels labels (labelsToUpdate labels)).lookup info.secondaryKey =
          labels.lookup info.secondaryKey := by
      refine lookup_patchedLabels_of_notMem fun member => ?_
      obtain ⟨update, updated, sameKey⟩ := List.mem_map.mp member
      obtain ⟨other, otherListed, otherUpdates⟩ := List.mem_filterMap.mp updated
      rw [secondaryKey_of_toUpdate otherUpdates] at sameKey
      rw [List.inj_on_of_nodup_map distinct otherListed listed sameKey, updates] at otherUpdates
      cases otherUpdates
    unfold LabelReconcileInfo.pair pairOf
    rw [betaKept, stableKept]
  · rw [if_neg follows] at updates
    cases beta : labels.lookup info.primaryKey with
    | none =>
        exact (follows (by simp [LabelReconcileInfo.pair, pairOf, LabelPair.followed, beta])).elim
    | some value =>
        rw [beta] at updates
        have member : (info.secondaryKey, value) ∈ labelsToUpdate labels :=
          List.mem_filterMap.mpr ⟨info, listed, updates⟩
        have stable :
            (patchedLabels labels (labelsToUpdate labels)).lookup info.secondaryKey =
              some value :=
          lookup_patchedLabels_of_mem (keys.nodup distinct) member
        simp [LabelReconcileInfo.pair, pairOf, LabelPair.followed, betaKept, beta, stable]

theorem labelsToUpdate_eq_nil_iff (labels : StringMap) :
    labelsToUpdate labels = [] ↔
      ∀ info ∈ labelReconcileInfo, (info.pair labels).followed = info.pair labels := by
  unfold labelsToUpdate
  rw [List.filterMap_eq_nil_iff]
  refine forall₂_congr fun info listed => ?_
  rw [toUpdate_eq listed]
  split
  · rename_i follows
    simp only [follows]
  · rename_i other
    refine iff_of_false (fun missing => other ?_) other
    rw [Option.map_eq_none_iff] at missing
    simp [LabelReconcileInfo.pair, pairOf, LabelPair.followed, missing]

/-- What the controllers see of a node. -/
def GuestNode.topology (node : GuestNode) : Topology where
  zone := pairOf node.labels labelFailureDomainBetaZone labelTopologyZone
  region := pairOf node.labels labelFailureDomainBetaRegion labelTopologyRegion
  instanceType := pairOf node.labels labelInstanceType labelInstanceTypeStable
  tainted := (getCloudTaint node.taints).isSome

/-- What an instance says about its node. -/
def placementOf
    (cfg : Config)
    (vmi : VirtualMachineInstance)
    (node : Node) :
    Placement where
  zone := vmi.annotations.read labelTopologyZone
  region := vmi.annotations.read labelTopologyRegion
  applies :=
    match getNodeAddresses node (some vmi) cfg with
    | .error _ => false
    | .ok nodeAddresses =>
        (updateNodeAddressesFromNodeIP node.annotations
          (nodeAddresses.map NodeAddress.status)).isOk

/-- The comparison of the instance controller is that of the abstract model. -/
theorem compareTopology_iff
    (cfg : Config)
    (vmi : VirtualMachineInstance)
    (node : GuestNode) :
    compareTopology vmi.annotations node.labels = true ↔
      node.topology.Shows (placementOf cfg vmi node.toNode) := by
  unfold compareTopology
  rw [Bool.and_eq_true, decide_eq_true_eq, decide_eq_true_eq, and_comm]
  exact and_congr eq_comm eq_comm

theorem topology_withResyncTaint (node : GuestNode) :
    node.withResyncTaint.topology = { node.topology with tainted := true } := by
  have tainted : (getCloudTaint node.withResyncTaint.taints).isSome = true :=
    List.find?_isSome.mpr
      ⟨resyncTaint, mem_addOrUpdateTaint node.taints resyncTaint, by decide⟩
  unfold GuestNode.topology
  rw [tainted]
  rfl

/-- Copying the beta labels on a node. -/
def GuestNode.relabelled (node : GuestNode) : GuestNode :=
  { node with labels := patchedLabels node.labels (labelsToUpdate node.labels) }

theorem topology_relabelled (node : GuestNode) :
    node.relabelled.topology = node.topology.followed := by
  have followed := fun info listed => @pair_patchedLabels info listed node.labels
  simp only [labelReconcileInfo, List.forall_mem_cons] at followed
  obtain ⟨zone, region, instanceType, -⟩ := followed
  exact Topology.mk.injEq .. |>.mpr ⟨zone, region, instanceType, rfl⟩

theorem getCloudTaint_excludeCloudTaint (taints : List Taint) :
    getCloudTaint (excludeCloudTaint taints) = none := by
  refine List.find?_eq_none.mpr fun taint member => ?_
  simpa using (List.mem_filter.mp member).2

/-- The node after its initialisation. -/
def GuestNode.initialized
    (node : GuestNode)
    (instanceMeta : InstanceMetadata) :
    GuestNode :=
  { node with
    labels := instanceMeta.labelled node.labels
    taints := excludeCloudTaint node.taints }

theorem topology_initialized
    {node : GuestNode}
    {instanceMeta : InstanceMetadata}
    {placement : Placement}
    (noType : instanceMeta.instanceType = "")
    (zone : instanceMeta.zone = placement.zone)
    (region : instanceMeta.region = placement.region) :
    (node.initialized instanceMeta).topology = node.topology.written placement := by
  unfold GuestNode.topology GuestNode.initialized InstanceMetadata.labelled Topology.written
  rw [noType, zone, region, getCloudTaint_excludeCloudTaint]
  refine Topology.mk.injEq .. |>.mpr ⟨?_, ?_, ?_, rfl⟩
  · rw [pairOf_writeLabels_of_ne _ (by decide), pairOf_writeLabels_self _ (by decide)]
    rfl
  · rw [pairOf_writeLabels_self _ (by decide), pairOf_writeLabels_of_ne _ (by decide)]
    rfl
  · rw [pairOf_writeLabels_of_ne _ (by decide), pairOf_writeLabels_of_ne _ (by decide)]
    rfl

end Labels

end HarvesterCloudProvider
