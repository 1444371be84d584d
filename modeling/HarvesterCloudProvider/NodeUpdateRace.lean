import HarvesterCloudProvider.NodeInitialization

namespace HarvesterCloudProvider

open Program

/-!
# Initialising a node against other writers

The kubelet, users and other controllers write a node while the cloud node
controller initialises it.  The controller reads from a cache of any age, and
the server refuses updates of outdated objects and changes of a provider ID that
is set.  Whatever happens, one call initialises the node at most once, on top of
the object stored right before, and touches no field that is not its own.
-/

section Fields

/-- A label of both generations, if the metadata has a value for it. -/
def writeLabels (labels : StringMap) (betaKey stableKey value : String) : StringMap :=
  if value ≠ "" then (labels.write betaKey value).write stableKey value else labels

/-- The labels of an initialised node. -/
def InstanceMetadata.labelled
    (instanceMeta : InstanceMetadata)
    (labels : StringMap) :
    StringMap :=
  writeLabels
    (writeLabels
      (writeLabels labels labelInstanceType labelInstanceTypeStable
        instanceMeta.instanceType)
      labelFailureDomainBetaZone labelTopologyZone instanceMeta.zone)
    labelFailureDomainBetaRegion labelTopologyRegion instanceMeta.region

/-- A node with provider ID and labels of its instance and without the taint. -/
def InstanceMetadata.initialized
    (instanceMeta : InstanceMetadata)
    (setsProviderID : Bool)
    (node : CloudNode) :
    CloudNode :=
  { node with
    providerID := if setsProviderID then instanceMeta.providerID else node.providerID
    labels := instanceMeta.labelled node.labels
    taints := excludeCloudTaint node.taints }

theorem modified_append
    (first second : List (CloudNode → CloudNode))
    (node : CloudNode) :
    modified (first ++ second) node = modified second (modified first node) := by
  simp [modified]

theorem modified_labelModifier
    (betaKey stableKey value : String)
    (node : CloudNode) :
    modified (labelModifier betaKey stableKey value) node =
      { node with labels := writeLabels node.labels betaKey stableKey value } := by
  unfold labelModifier writeLabels
  split <;> rfl

/-- Whether the modifiers of a node set the provider ID. -/
def CloudNode.takesProviderID
    (node : CloudNode)
    (instanceMeta : InstanceMetadata) :
    Bool :=
  node.providerID = "" && instanceMeta.providerID ≠ ""

theorem modified_providerIDModifier
    (first node : CloudNode)
    (instanceMeta : InstanceMetadata) :
    modified (providerIDModifier first instanceMeta) node =
      { node with
        providerID :=
          if first.takesProviderID instanceMeta then
            instanceMeta.providerID
          else
            node.providerID } := by
  unfold providerIDModifier CloudNode.takesProviderID
  by_cases takes : first.providerID = "" ∧ instanceMeta.providerID ≠ ""
  · rw [if_pos takes]
    simp [modified, takes.1, takes.2]
  · rw [if_neg takes]
    simp only [modified, List.foldl_nil, Bool.and_eq_true, decide_eq_true_eq]
    rw [if_neg (by simpa using takes)]

/-- What the modifiers of a node make of another one. -/
theorem modified_eq_initialized
    {first node : CloudNode}
    {instanceMeta : InstanceMetadata}
    {nodeModifiers : List (CloudNode → CloudNode)}
    (made : getNodeModifiersFromCloudProvider first instanceMeta = .ok nodeModifiers) :
    modified (nodeModifiers ++ [CloudNode.untainted]) node =
      instanceMeta.initialized (first.takesProviderID instanceMeta) node := by
  unfold getNodeModifiersFromCloudProvider at made
  split at made
  · cases made
  · cases made
    simp only [modified_append, modified_labelModifier, modified_providerIDModifier]
    rfl

/-- The labels of a node after a patch. -/
def patchedLabels (labels : StringMap) (updates : List (String × String)) : StringMap :=
  updates.foldl (fun current update => current.write update.1 update.2) labels

end Fields

section Race

/-- Nodes at the server: a provider ID that is set is never changed. -/
def nodeKind : ObjectKind CloudNode where
  versionOf := CloudNode.resourceVersion
  withVersion node version := { node with resourceVersion := version }
  versionOf_withVersion _ _ := rfl
  admits before after :=
    before.name = after.name &&
      (before.providerID = "" || after.providerID = before.providerID)

/-- The answer to a change that the server does not admit. -/
def invalidNode (name : String) : Err where
  reason := .invalid
  message := "Node " ++ quote name ++ " is invalid"

/-- The requests about one contested node. -/
def contestApi : NodeApi (Contest nodeKind Err) where
  listerGet name := Contest.cached (notFound "nodes" name)
  get name := Contest.cached (notFound "nodes" name)
  update node :=
    Contest.update (notFound "nodes" node.name) (conflicting "nodes" node.name)
      (invalidNode node.name) node
  patchStatus copy addresses :=
    Contest.patch (notFound "nodes" copy.name) (invalidNode copy.name) fun node =>
      { node with addresses := patchedAddresses copy.addresses addresses node.addresses }
  patchLabels name updates :=
    Contest.patch (notFound "nodes" name) (invalidNode name) fun node =>
      { node with labels := patchedLabels node.labels updates }

/-- One write that only brings in new addresses. -/
def Replacement.Addresses (commit : Replacement CloudNode) : Prop :=
  ∃ addresses version,
    commit.after =
      { commit.before with
        addresses := addresses
        resourceVersion := version }

/-- One write that only brings in some labels. -/
def Replacement.Labels (commit : Replacement CloudNode) : Prop :=
  ∃ updates version,
    commit.after =
      { commit.before with
        labels := patchedLabels commit.before.labels updates
        resourceVersion := version }

/--
One write that initialises the node with the metadata of its instance.  They were
asked for by a tainted state that the node had.
-/
def Replacement.Initializes
    (commit : Replacement CloudNode)
    (instanceMetadata : Node → Except Err InstanceMetadata)
    (states : List (Option CloudNode)) :
    Prop :=
  ∃ (first : CloudNode) (metadata : InstanceMetadata) (version : Nat),
    some first ∈ states ∧
      (getCloudTaint first.taints).isSome = true ∧
      getInstanceMetadata instanceMetadata first = .ok metadata ∧
      (commit.before.providerID = "" ∨ commit.after.providerID = commit.before.providerID) ∧
      commit.after =
        { metadata.initialized (first.takesProviderID metadata) commit.before with
          resourceVersion := version }

/-- The writes that one call of `syncNode` can commit. -/
inductive SyncWrites
    (instanceMetadata : Node → Except Err InstanceMetadata)
    (states : List (Option CloudNode)) :
    Bool → List (Replacement CloudNode) → Prop where
  | nothing (succeeded : Bool) :
      SyncWrites instanceMetadata states succeeded []
  | relabelled
      {commit : Replacement CloudNode} :
      commit.Labels →
      SyncWrites instanceMetadata states true [commit]
  | initialized
      {commit : Replacement CloudNode} :
      commit.Initializes instanceMetadata states →
      SyncWrites instanceMetadata states true [commit]
  | addressed
      {commit published : Replacement CloudNode} :
      commit.Initializes instanceMetadata states →
      published.Addresses →
      SyncWrites instanceMetadata states true [commit, published]

variable {contest final : Contest nodeKind Err}
variable {answer : Except Err Unit}
variable {instanceMetadata : Node → Except Err InstanceMetadata}
variable {states : List (Option CloudNode)}

/-- Publishing addresses never fails and writes nothing but addresses. -/
theorem updateNodeAddress_contest
    {node : CloudNode}
    {metadata : InstanceMetadata}
    (ran : updateNodeAddress contestApi node metadata contest = (answer, final)) :
    answer = .ok () ∧
      (final.commits = contest.commits ∨
        ∃ published,
          published.Addresses ∧ final.commits = contest.commits ++ [published]) := by
  unfold updateNodeAddress at ran
  cases chosen : addressesToPublish node metadata with
  | none =>
      rw [chosen] at ran
      cases ran
      exact ⟨rfl, .inl rfl⟩
  | some addresses =>
      rw [chosen] at ran
      dsimp only at ran
      rw [attempt_bind_run] at ran
      cases patched : contestApi.patchStatus node addresses contest with
      | mk result reached =>
          rw [patched] at ran
          cases ran
          have ended := Contest.patch_ended patched
          refine ⟨rfl, ?_⟩
          cases result with
          | error error =>
              exact .inl ended
          | ok done =>
              obtain ⟨current, -, version, committed⟩ := ended
              exact .inr ⟨_, ⟨_, version, rfl⟩, committed⟩

/-- One attempt initialises the node it replaces, or writes nothing. -/
theorem initializeOnce_contest
    {nodeName : String}
    {first : CloudNode}
    {metadata : InstanceMetadata}
    {nodeModifiers : List (CloudNode → CloudNode)}
    (member : some first ∈ states)
    (tainted : (getCloudTaint first.taints).isSome = true)
    (known : getInstanceMetadata instanceMetadata first = .ok metadata)
    (made : getNodeModifiersFromCloudProvider first metadata = .ok nodeModifiers)
    (ran :
      initializeOnce contestApi nodeName (nodeModifiers ++ [CloudNode.untainted]) metadata
        contest = (answer, final)) :
    Ended Contest.Idle
      (fun before _ after =>
        ∃ added,
          SyncWrites instanceMetadata states true added ∧
            after.commits = before.commits ++ added)
      contest answer final := by
  rcases bind_cases ran with ⟨error, failed, rfl⟩ | ⟨seen, reached, got, rest⟩
  · exact (Contest.cached_ended failed).1
  · obtain ⟨idle, isState⟩ := Contest.cached_ended got
    dsimp only at rest
    rw [modified_eq_initialized made] at rest
    have keepsVersion :
        nodeKind.versionOf (metadata.initialized (first.takesProviderID metadata) seen) =
          nodeKind.versionOf seen :=
      rfl
    rcases bind_cases rest with ⟨error, failed, rfl⟩ | ⟨_, updated, sent, publishing⟩
    · have ended := Contest.update_ended keepsVersion (isState seen rfl) failed
      exact Contest.Idle.trans idle ended
    · have ended := Contest.update_ended keepsVersion (isState seen rfl) sent
      obtain ⟨admitted, version, committed⟩ := ended
      obtain ⟨rfl, published⟩ := updateNodeAddress_contest publishing
      have kept := (Bool.and_eq_true_iff.mp admitted).2
      rw [Bool.or_eq_true, decide_eq_true_eq, decide_eq_true_eq] at kept
      have initializes :
          Replacement.Initializes
            { before := seen
              after :=
                nodeKind.withVersion
                  (metadata.initialized (first.takesProviderID metadata) seen) version }
            instanceMetadata states :=
        ⟨first, metadata, version, member, tainted, known, kept, rfl⟩
      rw [idle] at committed
      rcases published with unpublished | ⟨write, addresses, publishedCommits⟩
      · exact ⟨_, .initialized initializes, unpublished.trans committed⟩
      · refine ⟨_, .addressed initializes addresses, ?_⟩
        rw [publishedCommits, committed, List.append_assoc]
        rfl

/-- All the attempts together initialise the node at most once. -/
theorem initialize_contest
    {nodeName : String}
    {first : CloudNode}
    {metadata : InstanceMetadata}
    {nodeModifiers : List (CloudNode → CloudNode)}
    {retries : Nat}
    (member : some first ∈ states)
    (tainted : (getCloudTaint first.taints).isSome = true)
    (known : getInstanceMetadata instanceMetadata first = .ok metadata)
    (made : getNodeModifiersFromCloudProvider first metadata = .ok nodeModifiers)
    (ran :
      retryWhile Err.isConflict
        (initializeOnce contestApi nodeName (nodeModifiers ++ [CloudNode.untainted]) metadata)
        retries contest = (answer, final)) :
    ∃ added,
      SyncWrites instanceMetadata states answer.isOk added ∧
        final.commits = contest.commits ++ added := by
  have ended :
      Ended Contest.Idle
        (fun before _ after =>
          ∃ added,
            SyncWrites instanceMetadata states true added ∧
              after.commits = before.commits ++ added)
        contest answer final := by
    refine retryWhile_ended ?_ ?_ ?_ _ ran
    · intro first second third earlier later
      exact earlier.trans later
    · rintro first second third ⟨⟩ earlier ⟨added, writes, committed⟩
      exact ⟨added, writes, by rw [committed, earlier]⟩
    · intro state ended result once
      exact initializeOnce_contest member tainted known made once
  cases answer with
  | error error =>
      exact ⟨[], .nothing _, by rw [ended, List.append_nil]⟩
  | ok done =>
      exact ended

/-- Copying beta labels writes nothing but labels, once. -/
theorem addOrUpdateLabelsOnNode_contest
    {nodeName : String}
    {updates : List (String × String)}
    (ran : addOrUpdateLabelsOnNode contestApi nodeName updates contest = (answer, final)) :
    Ended Contest.Idle
      (fun before _ after =>
        ∃ commit : Replacement CloudNode,
          commit.Labels ∧ after.commits = before.commits ++ [commit])
      contest answer final := by
  refine retryWhile_ended ?_ ?_ ?_ _ ran
  · intro first second third earlier later
    exact earlier.trans later
  · rintro first second third ⟨⟩ earlier ⟨commit, labels, committed⟩
    exact ⟨commit, labels, by rw [committed, earlier]⟩
  · intro state ended result once
    rcases bind_cases once with ⟨error, failed, rfl⟩ | ⟨node, reached, got, rest⟩
    · exact (Contest.cached_ended failed).1
    · have idle := (Contest.cached_ended got).1
      cases result with
      | error error =>
          obtain ⟨cause, failed, -⟩ := mapError_error rest
          have patched := Contest.patch_ended failed
          exact Contest.Idle.trans idle patched
      | ok done =>
          have patched := Contest.patch_ended (mapError_ok.mp rest)
          obtain ⟨current, -, version, committed⟩ := patched
          exact ⟨_, ⟨updates, version, rfl⟩, by rw [committed, idle]⟩

/-- Nothing is written while looking at the labels. -/
theorem reconcileNodeLabels_contest
    {nodeName : String}
    (ran : reconcileNodeLabels contestApi nodeName contest = (answer, final)) :
    ∃ added,
      SyncWrites instanceMetadata states answer.isOk added ∧
        final.commits = contest.commits ++ added := by
  unfold reconcileNodeLabels at ran
  rw [attempt_bind_run] at ran
  cases got : contestApi.listerGet nodeName contest with
  | mk looked reached =>
      have idle := (Contest.cached_ended got).1
      have nothing : reached.commits = contest.commits ++ [] := by
        rw [idle, List.append_nil]
      rw [got] at ran
      cases looked with
      | error error =>
          dsimp only at ran
          split at ran
          · cases ran
            exact ⟨[], .nothing _, nothing⟩
          · cases ran
            exact ⟨[], .nothing _, nothing⟩
      | ok node =>
          dsimp only at ran
          split at ran
          · cases ran
            exact ⟨[], .nothing _, nothing⟩
          · split at ran
            · cases ran
              exact ⟨[], .nothing _, nothing⟩
            · cases answer with
              | error error =>
                  obtain ⟨cause, failed, -⟩ := mapError_error ran
                  have ended := addOrUpdateLabelsOnNode_contest failed
                  exact ⟨[], .nothing _, by rw [ended, nothing]⟩
              | ok done =>
                  obtain ⟨commit, labels, committed⟩ :=
                    addOrUpdateLabelsOnNode_contest (mapError_ok.mp ran)
                  exact ⟨[commit], .relabelled labels, by rw [committed, idle]⟩

/-- An attempt to initialise a node loses no state of it. -/
theorem initializeOnce_keepsStates
    (nodeName : String)
    (nodeModifiers : List (CloudNode → CloudNode))
    (metadata : InstanceMetadata) :
    Respects Contest.KeepsStates
      (initializeOnce contestApi nodeName nodeModifiers metadata) := by
  refine .bind Contest.cached_keepsStates fun curNode => ?_
  refine .bind (Contest.update_keepsStates _) fun _ => ?_
  unfold updateNodeAddress
  split
  · exact .pure ()
  · exact .bind (Contest.patch_keepsStates _).attempt fun _ => .pure ()

/-- What one call of `syncNode` commits. -/
theorem syncNode_contest
    {nodeName : String}
    (ran : syncNode contestApi instanceMetadata nodeName contest = (answer, final)) :
    ∃ added,
      SyncWrites instanceMetadata final.history.states answer.isOk added ∧
        final.commits = contest.commits ++ added := by
  unfold syncNode at ran
  rw [attempt_bind_run] at ran
  cases got : contestApi.listerGet nodeName contest with
  | mk looked reached =>
      have idle := (Contest.cached_ended got).1
      have nothing : reached.commits = contest.commits ++ [] := by
        rw [idle, List.append_nil]
      rw [got] at ran
      cases looked with
      | error error =>
          dsimp only at ran
          split at ran
          · cases ran
            exact ⟨[], .nothing _, nothing⟩
          · cases ran
            exact ⟨[], .nothing _, nothing⟩
      | ok curNode =>
          dsimp only at ran
          split at ran
          · obtain ⟨added, writes, committed⟩ := reconcileNodeLabels_contest ran
            exact ⟨added, writes, by rw [committed, idle]⟩
          · rename_i isTainted
            have tainted : (getCloudTaint curNode.taints).isSome = true :=
              Option.isSome_iff_ne_none.mpr fun untainted => isTainted (by rw [untainted]; rfl)
            cases known : getInstanceMetadata instanceMetadata curNode with
            | error error =>
                rw [known] at ran
                cases ran
                exact ⟨[], .nothing _, nothing⟩
            | ok metadata =>
                rw [known] at ran
                dsimp only at ran
                cases made : getNodeModifiersFromCloudProvider curNode metadata with
                | error error =>
                    rw [made] at ran
                    cases ran
                    exact ⟨[], .nothing _, nothing⟩
                | ok nodeModifiers =>
                    rw [made] at ran
                    -- The node that was read first is still a state in the end.
                    have keeps : Contest.KeepsStates reached final :=
                      Respects.of_run (.retryWhile (initializeOnce_keepsStates _ _ _) _) ran
                    have isState := keeps ((Contest.cached_ended got).2 curNode rfl)
                    obtain ⟨added, writes, committed⟩ :=
                      initialize_contest isState tainted known made ran
                    exact ⟨added, writes, by rw [committed, idle]⟩

/--
Whatever other clients do to a node, however old the cache is and whichever
requests fail: a call of `syncNode` commits one of the listed writes, each on top
of the object stored right before, and a call that fails commits nothing.
-/
theorem syncNode_commits
    (instanceMetadata : Node → Except Err InstanceMetadata)
    (nodeName : String)
    (contest : Contest nodeKind Err) :
    ∃ added,
      SyncWrites instanceMetadata
          (syncNode contestApi instanceMetadata nodeName contest).2.history.states
          (syncNode contestApi instanceMetadata nodeName contest).1.isOk added ∧
        (syncNode contestApi instanceMetadata nodeName contest).2.commits =
          contest.commits ++ added :=
  syncNode_contest rfl

/-- A node that waits for its initialisation. -/
def waitingNode : CloudNode where
  name := "vm1"
  taints := [{ key := taintExternalCloudProvider, effect := .noSchedule }]

/-- The kubelet sets a label between the second read and the first update. -/
def contestedNode : Contest nodeKind Err where
  history := Contest.stored .empty waitingNode
  turns :=
    [{}, {}, { others := [some { waitingNode with labels := NilableMap.write none "a" "b" }] }]

/-- The first update meets a conflict; the second keeps the label of the kubelet. -/
example :
    ((syncNode contestApi (fun _ => .ok { providerID := "harvester://1", zone := "z" }) "vm1"
      contestedNode).2.commits.map fun commit =>
        (commit.before.labels.lookup "a", commit.after.providerID, commit.after.taints)) =
      [(some "b", "harvester://1", [])] := by
  decide +kernel

end Race

end HarvesterCloudProvider
