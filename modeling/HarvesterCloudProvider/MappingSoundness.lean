import HarvesterCloudProvider.NodeIdentity

namespace HarvesterCloudProvider

open Program

/-!
# Soundness of the stored mapping

The stored mapping is sound when every active instance of the guest cluster has
all of its entries.  The instances that count are chosen by their cluster label;
the instances whose changes lead to a new mapping are chosen by their creator
label, their annotations, their deletion time and a registered node.  A change
of an instance that counts but leads to no new mapping can leave the stored one
unsound.
-/

section Stored

/-- The entries that the ConfigMap holds. -/
def Cluster.storedMapping (cluster : Cluster) : StringMap :=
  (JsonText.unmarshalStringMap
    (cluster.mappingData.read configMapKeyNADMapping)).join

/-- The entries of a stored value are the common entries of its instances. -/
theorem storedMapping_lookup
    {cluster : Cluster}
    {vmis : List VirtualMachineInstance}
    (stored : cluster.mappingData.read configMapKeyNADMapping = nadMappingValue vmis)
    (nad : String) :
    cluster.storedMapping.lookup nad = (getCommonVMINADs (vmis.map some)).lookup nad := by
  rw [Cluster.storedMapping, stored, nadMappingValue]
  cases common : getCommonVMINADs (vmis.map some) with
  | none =>
      dsimp only
      rw [JsonText.unmarshalStringMap_empty]
      rfl
  | some mapping =>
      dsimp only
      split
      · rename_i empty
        rw [JsonText.unmarshalStringMap_empty, Std.ExtTreeMap.isEmpty_iff.mp empty]
        rfl
      · rw [JsonText.unmarshalStringMap_marshalStringMap]
        rfl

end Stored

section System

/-- The instances in the cache, the controller and the guest cluster. -/
structure MappingSystem where
  vmis : Std.ExtTreeMap String VirtualMachineInstance := ∅
  controller : Controller

/-- The cache key of an instance. -/
def VirtualMachineInstance.key (vmi : VirtualMachineInstance) : String :=
  metaNamespaceKey vmi.ns vmi.name

/-- What `vmiCache.List` chooses from. -/
def MappingSystem.cached (system : MappingSystem) : List VirtualMachineInstance :=
  system.vmis.toList.map Prod.snd

/-- What surrounds one call of the handler. -/
structure HandlerCall where
  guestOsInfo : Except Err String
  nodeFailures : List (Option Failure) := []
  ticks : List Tick := []

/-- Nobody but the handler stores the mapping. -/
def HandlerCall.Undisturbed (call : HandlerCall) : Prop :=
  ∀ tick ∈ call.ticks,
    ∀ action ∈ tick.environment,
      ∀ configMap, action ≠ .storeMapping configMap

/-- The steps of a serial run. -/
inductive MappingStep where
  /-- An instance is added or changed, and the handler is called with it. -/
  | vmiPut (vmi : VirtualMachineInstance) (call : HandlerCall)
  /-- An instance is gone, and the handler is called with nil. -/
  | vmiErased (key : String) (call : HandlerCall)
  /-- The handler is called again with what the cache holds under a key. -/
  | requeued (key : String) (call : HandlerCall)
  | nodePut (node : GuestNode)
  | nodeErased (name : String)

/-- The handler meets the instances of the system. -/
def MappingSystem.event
    (system : MappingSystem)
    (vmi : Option VirtualMachineInstance)
    (call : HandlerCall) :
    VmiEvent where
  vmi := vmi
  guestOsInfo := call.guestOsInfo
  vmiCache := system.cached
  nodeFailures := call.nodeFailures
  ticks := call.ticks

/-- Call the handler. -/
def MappingSystem.handle
    (h : Handler)
    (cfg : Config)
    (system : MappingSystem)
    (vmi : Option VirtualMachineInstance)
    (call : HandlerCall) :
    MappingSystem :=
  { system with
    controller := system.controller.advance h cfg (.vmiChanged (system.event vmi call)) }

/-- What the handler returns. -/
def MappingSystem.answer
    (h : Handler)
    (cfg : Config)
    (system : MappingSystem)
    (vmi : Option VirtualMachineInstance)
    (call : HandlerCall) :
    Except Err Unit :=
  (h.onVmiChanged cfg system.cached call.guestOsInfo vmi
    { system.controller with
      guest := system.controller.guest.begin (system.event vmi call) }).1

/-- The cache with a new or changed instance. -/
def MappingSystem.put (system : MappingSystem) (vmi : VirtualMachineInstance) : MappingSystem :=
  { system with vmis := system.vmis.insert vmi.key vmi }

/-- The cache without an instance. -/
def MappingSystem.erase (system : MappingSystem) (key : String) : MappingSystem :=
  { system with vmis := system.vmis.erase key }

/-- The effect of one step. -/
def MappingSystem.advance
    (h : Handler)
    (cfg : Config)
    (system : MappingSystem) :
    MappingStep → MappingSystem
  | .vmiPut vmi call => (system.put vmi).handle h cfg (some vmi) call
  | .vmiErased key call => (system.erase key).handle h cfg none call
  | .requeued key call => system.handle h cfg system.vmis[key]? call
  | .nodePut node =>
      { system with controller := system.controller.advance h cfg (.nodePut node) }
  | .nodeErased name =>
      { system with controller := system.controller.advance h cfg (.nodeErased name) }

/-- The instance takes part in the common mapping of this guest cluster. -/
def Handler.counts (h : Handler) (cfg : Config) (vmi : VirtualMachineInstance) : Bool :=
  vmi.ns = h.ns &&
    vmi.labels.lookup labelKeyGuestClusterNameOnVM = some cfg.clusterName &&
    isActive vmi

/-- The call of the handler belongs to a serial run: it ends without an error. -/
def MappingSystem.Serial
    (h : Handler)
    (cfg : Config)
    (system : MappingSystem) :
    MappingStep → Prop
  | .vmiPut vmi call =>
      call.Undisturbed ∧ (system.put vmi).answer h cfg (some vmi) call = .ok ()
  | .vmiErased key call =>
      call.Undisturbed ∧ (system.erase key).answer h cfg none call = .ok ()
  | .requeued _ call => call.Undisturbed
  | .nodePut _ => True
  | .nodeErased _ => True

/-- A changed instance that counts is handled, and its node is registered. -/
def MappingSystem.Triggers
    (h : Handler)
    (cfg : Config)
    (system : MappingSystem) :
    MappingStep → Prop
  | .vmiPut vmi call =>
      h.counts cfg vmi = true →
      h.skips vmi = false ∧
        (system.controller.guest.nodes.get? (nodeNameOf vmi call.guestOsInfo)).isSome
  | _ => True

/-- Every stored entry is an entry of every instance that counts. -/
def MappingSystem.Sound (h : Handler) (cfg : Config) (system : MappingSystem) : Prop :=
  ∀ nad iface : String,
    system.controller.guest.session.cluster.storedMapping.lookup nad = some iface →
    ∀ (key : String) (vmi : VirtualMachineInstance),
      system.vmis[key]? = some vmi →
      h.counts cfg vmi = true →
      (getNADToInterfaceMapping vmi)[nad]? = some iface

end System

section Soundness

variable {h : Handler}
variable {cfg : Config}

/-- The handler stores the mapping of the cache or leaves the stored one alone. -/
theorem handleNode_mapping
    {vmiCache : List VirtualMachineInstance}
    {vmi : VirtualMachineInstance}
    {nodeName : String}
    {guest final : GuestCluster}
    {answer : Except Err Unit}
    (undisturbed : guest.session.Undisturbed)
    (ran : h.handleNode cfg vmiCache vmi nodeName guest = (answer, final)) :
    (final.session.cluster.configMap = guest.session.cluster.configMap ∧
        (answer = .ok () → guest.nodes.get? nodeName = none)) ∨
      final.session.cluster.mappingData.read configMapKeyNADMapping =
        nadMappingValue (h.vmiCacheList cfg.clusterName vmiCache) := by
  rcases handleNode_cases ran with ⟨moved, missing⟩ | ⟨reached, moved, rfl, rfl⟩
  · exact .inl ⟨by rw [moved.session], missing⟩
  · rw [moved.session]
    cases synced : h.syncNADMappingConfigMap cfg vmiCache guest.session with
    | mk result session =>
        have ended := syncNADMappingConfigMap_ended synced
        have after : (h.syncAfter cfg vmiCache guest.session).2 = session := by
          rw [Handler.syncAfter, mapError_state, synced]
        dsimp only
        rw [after]
        cases result with
        | ok done =>
            exact .inr (ended undisturbed).stored
        | error error =>
            refine .inl ⟨(ended undisturbed).2, fun succeeded => ?_⟩
            rw [Handler.syncAfter, mapError, synced] at succeeded
            cases succeeded

/-- Without a new mapping the handler met no instance with a registered node. -/
theorem handle_mapping
    {call : HandlerCall}
    (undisturbed : call.Undisturbed)
    (system : MappingSystem)
    (changed : Option VirtualMachineInstance) :
    ((system.handle h cfg changed call).controller.guest.session.cluster.configMap =
          system.controller.guest.session.cluster.configMap ∧
        ∀ vmi,
          changed = some vmi →
          h.skips vmi = false →
          system.answer h cfg changed call = .ok () →
          system.controller.guest.nodes.get? (nodeNameOf vmi call.guestOsInfo) = none) ∨
      (system.handle h cfg changed call).controller.guest.session.cluster.mappingData.read
          configMapKeyNADMapping =
        nadMappingValue (h.vmiCacheList cfg.clusterName system.cached) := by
  unfold MappingSystem.handle
  dsimp only
  by_cases handles : ∃ vmi, (system.event changed call).Handles h vmi
  · obtain ⟨vmi, handled⟩ := handles
    rw [advance_of_handled handled]
    have ended :=
      @handleNode_mapping h cfg system.cached vmi (nodeNameOf vmi call.guestOsInfo)
        (system.controller.guest.begin (system.event changed call)) _ _ undisturbed
        (Prod.eta _).symm
    rcases ended with ⟨kept, missing⟩ | stored
    · refine .inl ⟨kept, fun other sameChange _ succeeded => ?_⟩
      have same : vmi = other := Option.some.inj (handled.1.symm.trans sameChange)
      subst same
      refine missing ?_
      rw [← succeeded, MappingSystem.answer, sameChange, onVmiChanged_of_handled handled.2]
    · exact .inr stored
  · rw [advance_of_unhandled handles]
    refine .inl ⟨rfl, fun vmi sameChange handled _ => ?_⟩
    exact (handles ⟨vmi, sameChange, handled⟩).elim

/-- The instances of the cache that count. -/
theorem mem_cached
    {system : MappingSystem}
    {vmi : VirtualMachineInstance} :
    vmi ∈ system.cached ↔ ∃ key : String, system.vmis[key]? = some vmi := by
  simp [MappingSystem.cached, Std.ExtTreeMap.mem_toList_iff_getElem?_eq_some]

/-- The mapping of the cache is sound. -/
theorem sound_of_stored
    {system : MappingSystem}
    (stored :
      system.controller.guest.session.cluster.mappingData.read configMapKeyNADMapping =
        nadMappingValue (h.vmiCacheList cfg.clusterName system.cached)) :
    system.Sound h cfg := by
  intro nad iface entry key vmi found counts
  rw [storedMapping_lookup stored] at entry
  refine (getCommonVMINADs_lookup.mp entry).2 vmi ?_
  rw [Handler.counts, Bool.and_eq_true, Bool.and_eq_true] at counts
  obtain ⟨⟨sameNs, sameCluster⟩, active⟩ := counts
  refine mem_activeVMIs.mpr ⟨List.mem_map_of_mem ?_, active⟩
  refine List.mem_filter.mpr ⟨mem_cached.mpr ⟨key, found⟩, ?_⟩
  rw [Bool.and_eq_true]
  exact ⟨sameNs, sameCluster⟩

/-- Soundness is about the ConfigMap and the instances that count. -/
theorem MappingSystem.Sound.of_kept
    {before after : MappingSystem}
    (sound : before.Sound h cfg)
    (sameMap :
      after.controller.guest.session.cluster.configMap =
        before.controller.guest.session.cluster.configMap)
    (counted :
      ∀ (key : String) (vmi : VirtualMachineInstance),
        after.vmis[key]? = some vmi →
        h.counts cfg vmi = true →
        before.vmis[key]? = some vmi) :
    after.Sound h cfg := by
  intro nad iface entry key vmi found counts
  refine sound nad iface ?_ key vmi (counted key vmi found counts) counts
  rw [← entry, Cluster.storedMapping, Cluster.storedMapping, Cluster.mappingData,
    Cluster.mappingData, sameMap]

/-- A call of the handler keeps the mapping sound for the cache it meets. -/
theorem sound_handle
    {system : MappingSystem}
    {changed : Option VirtualMachineInstance}
    {call : HandlerCall}
    (undisturbed : call.Undisturbed)
    (sound : system.Sound h cfg) :
    (system.handle h cfg changed call).Sound h cfg := by
  rcases handle_mapping undisturbed system changed with ⟨kept, -⟩ | stored
  · exact sound.of_kept kept fun _ _ found _ => found
  · exact sound_of_stored stored

/-- A changed instance keeps the mapping sound if it triggers the handler. -/
theorem sound_vmiPut
    {system : MappingSystem}
    {vmi : VirtualMachineInstance}
    {call : HandlerCall}
    (serial : system.Serial h cfg (.vmiPut vmi call))
    (triggers : system.Triggers h cfg (.vmiPut vmi call))
    (sound : system.Sound h cfg) :
    (system.advance h cfg (.vmiPut vmi call)).Sound h cfg := by
  obtain ⟨undisturbed, succeeded⟩ := serial
  rcases @handle_mapping h cfg _ undisturbed (system.put vmi) (some vmi) with
    ⟨kept, missing⟩ | stored
  · refine sound.of_kept kept fun key other found counts => ?_
    have inserted : (system.vmis.insert vmi.key vmi)[key]? = some other := found
    rw [Std.ExtTreeMap.getElem?_insert] at inserted
    split at inserted
    · rw [Option.some.injEq] at inserted
      subst inserted
      obtain ⟨handled, registered⟩ := triggers counts
      have absent := missing vmi rfl handled succeeded
      rw [MappingSystem.put] at absent
      rw [absent] at registered
      cases registered
    · exact inserted
  · exact sound_of_stored stored

/-- Without a ConfigMap nothing is stored that could be wrong. -/
theorem sound_of_fresh
    {start : MappingSystem}
    (fresh : start.controller.guest.session.cluster.configMap = none) :
    start.Sound h cfg := by
  intro nad iface entry
  have empty :
      start.controller.guest.session.cluster.mappingData.read configMapKeyNADMapping =
        "" := by
    rw [Cluster.mappingData, fresh]
    rfl
  rw [Cluster.storedMapping, empty, JsonText.unmarshalStringMap_empty] at entry
  cases entry

/-- Every step that meets the conditions keeps the stored mapping sound. -/
theorem sound_advance
    {system : MappingSystem}
    {step : MappingStep}
    (serial : system.Serial h cfg step)
    (triggers : system.Triggers h cfg step)
    (sound : system.Sound h cfg) :
    (system.advance h cfg step).Sound h cfg := by
  cases step with
  | vmiPut vmi call =>
      exact sound_vmiPut serial triggers sound
  | vmiErased key call =>
      refine sound_handle serial.1 (sound.of_kept rfl fun other vmi found _ => ?_)
      have erased : (system.vmis.erase key)[other]? = some vmi := found
      rw [Std.ExtTreeMap.getElem?_erase] at erased
      split at erased
      · cases erased
      · exact erased
  | requeued key call =>
      exact sound_handle serial sound
  | nodePut node =>
      exact sound.of_kept rfl fun _ _ found _ => found
  | nodeErased name =>
      exact sound.of_kept rfl fun _ _ found _ => found

/--
In every serial run from a sound state in which each changed instance that
counts is handled and has a registered node, the stored mapping is sound in
every state.
-/
theorem storedMapping_sound
    {start system : MappingSystem}
    {steps : List MappingStep}
    (initially : start.Sound h cfg)
    (execution :
      Execution
        (StepsOf (MappingSystem.advance h cfg) fun reached step =>
          reached.Serial h cfg step ∧ reached.Triggers h cfg step)
        start steps system) :
    system.Sound h cfg := by
  refine execution.invariant (MappingSystem.Sound h cfg) initially ?_
  rintro reached next step sound ⟨⟨serial, triggers⟩, rfl⟩
  exact sound_advance serial triggers sound

/-- An instance of the cluster whose network is on another interface. -/
def swappedMember : VirtualMachineInstance :=
  { poolMember "vm2" "prod" with
    interfaces := [{ name := "nic-1", interfaceName := "enp2s0" }] }

/-- The handler is called without failures and with the given host name. -/
def calmCall (hostname : String) : HandlerCall where
  guestOsInfo := .ok hostname

theorem calmCall_undisturbed (hostname : String) : (calmCall hostname).Undisturbed := by
  intro tick member
  cases member

/-- A guest cluster with nodes in the zone of the instances, which come later. -/
def systemWith (names : List String) : MappingSystem where
  controller :=
    controllerWith
      (names.map fun name =>
        { name := name
          labels := NilableMap.write none labelTopologyZone "zone-1" })

/-- Two instances with the network on different interfaces come up. -/
def twoMembers : List MappingStep :=
  [.vmiPut (poolMember "vm1" "prod") (calmCall "host-1"),
    .vmiPut swappedMember (calmCall "host-2")]

/-- With both nodes registered the entry is withdrawn. -/
theorem twoMembers_sound :
    (twoMembers.foldl (MappingSystem.advance sampleHandler sampleConfig)
      (systemWith ["host-1", "host-2"])).Sound sampleHandler
        sampleConfig := by
  have serial :
      ((systemWith ["host-1", "host-2"]).put
          (poolMember "vm1" "prod")).answer sampleHandler sampleConfig
            (some (poolMember "vm1" "prod")) (calmCall "host-1") = .ok () ∧
        (((systemWith ["host-1", "host-2"]).advance sampleHandler
          sampleConfig (.vmiPut (poolMember "vm1" "prod") (calmCall "host-1"))).put
            swappedMember).answer sampleHandler sampleConfig (some swappedMember)
              (calmCall "host-2") = .ok () := by
    decide +kernel
  have triggers :
      sampleHandler.skips (poolMember "vm1" "prod") = false ∧
        sampleHandler.skips swappedMember = false ∧
        ((systemWith ["host-1", "host-2"]).controller.guest.nodes.get? "host-1").isSome ∧
        (((systemWith ["host-1", "host-2"]).advance sampleHandler
          sampleConfig (.vmiPut (poolMember "vm1" "prod")
            (calmCall "host-1"))).controller.guest.nodes.get? "host-2").isSome := by
    decide +kernel
  have sound :=
    @storedMapping_sound sampleHandler sampleConfig (systemWith ["host-1", "host-2"]) _
      twoMembers (sound_of_fresh rfl)
      (.snoc
        (.snoc .nil
          ⟨⟨⟨calmCall_undisturbed _, serial.1⟩,
            fun _ => ⟨triggers.1, triggers.2.2.1⟩⟩, rfl⟩)
        ⟨⟨⟨calmCall_undisturbed _, serial.2⟩,
          fun _ => ⟨triggers.2.1, triggers.2.2.2⟩⟩, rfl⟩)
  exact sound

/-- An instance that comes up before its node leaves a stale entry behind. -/
theorem storedMapping_not_always_sound :
    ¬ ∀ (h : Handler) (cfg : Config) (start system : MappingSystem)
        (steps : List MappingStep),
        start.controller.guest.session.cluster.configMap = none →
        Execution (StepsOf (MappingSystem.advance h cfg) (MappingSystem.Serial h cfg))
          start steps system →
        system.Sound h cfg := by
  intro always
  have serial :
      ((systemWith ["host-1"]).put (poolMember "vm1" "prod")).answer
            sampleHandler sampleConfig (some (poolMember "vm1" "prod"))
              (calmCall "host-1") = .ok () ∧
        (((systemWith ["host-1"]).advance sampleHandler sampleConfig
          (.vmiPut (poolMember "vm1" "prod") (calmCall "host-1"))).put
            swappedMember).answer sampleHandler sampleConfig (some swappedMember)
              (calmCall "host-2") = .ok () := by
    decide +kernel
  have sound :=
    always sampleHandler sampleConfig (systemWith ["host-1"]) _ twoMembers rfl
      (.snoc (.snoc .nil ⟨⟨calmCall_undisturbed _, serial.1⟩, rfl⟩)
        ⟨⟨calmCall_undisturbed _, serial.2⟩, rfl⟩)
  have evaluated :
      (twoMembers.foldl (MappingSystem.advance sampleHandler sampleConfig)
          (systemWith ["host-1"])).controller.guest.session.cluster.storedMapping.lookup
              "default/mgmt" = some "enp1s0" ∧
        sampleHandler.counts sampleConfig swappedMember = true ∧
        (getNADToInterfaceMapping swappedMember)["default/mgmt"]? = some "enp2s0" := by
    decide +kernel
  have entry :=
    sound "default/mgmt" "enp1s0" evaluated.1 swappedMember.key swappedMember
      Std.ExtTreeMap.getElem?_insert_self evaluated.2.1
  rw [evaluated.2.2] at entry
  revert entry
  decide

end Soundness

end HarvesterCloudProvider
