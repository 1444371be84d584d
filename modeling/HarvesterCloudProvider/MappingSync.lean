import HarvesterCloudProvider.ApiEffects
import HarvesterCloudProvider.LoadBalancerManager
import HarvesterCloudProvider.VirtualMachineInstance

namespace HarvesterCloudProvider

open Program

/-!
# Writing and reading the network mapping

The controller of the virtual machine instances stores the common mapping of
the instances as JSON in one ConfigMap.  The load balancer manager reads it
back to find the interface of the network a service asks for.  No mapping has
four forms on the way: a nil map, an empty map, an empty text, and a missing
ConfigMap or data key.
-/

/-- The part of the instance controller that synchronising needs. -/
structure Handler where
  ns : String

/-- `vmiCache.List` in the namespace of the handler by the cluster label. -/
def Handler.vmiCacheList
    (h : Handler)
    (clusterName : String)
    (vmiCache : List VirtualMachineInstance) :
    List VirtualMachineInstance :=
  vmiCache.filter fun vmi =>
    vmi.ns = h.ns && vmi.labels.lookup labelKeyGuestClusterNameOnVM = some clusterName

/-- The text that is stored for a list of instances. -/
def nadMappingValue (vmis : List VirtualMachineInstance) : String :=
  match getCommonVMINADs (vmis.map some) with
  | none => ""
  | some mapping =>
      if mapping.isEmpty then "" else JsonText.marshalStringMap mapping

/-- What is to be done after the ConfigMap was looked up. -/
inductive MappingDecision where
  | refuse (error : Err)
  | keep
  | create (configMap : ConfigMap)
  | update (configMap : ConfigMap)

/-- Compare the wanted value with the answer about the ConfigMap. -/
def decideMapping (value : String) (answer : Except Err ConfigMap) : MappingDecision :=
  match answer with
  | .error error =>
      if error.isNotFound then
        .create
          { ns := namespaceSystem
            name := configMapNADMapping
            data := NilableMap.write none configMapKeyNADMapping value }
      else
        .refuse error
  | .ok existing =>
      if existing.data.read configMapKeyNADMapping = value then
        .keep
      else
        .update
          { existing with data := existing.data.write configMapKeyNADMapping value }

/-- The ConfigMap that a decision writes. -/
def MappingDecision.written : MappingDecision → Option ConfigMap
  | .create configMap => some configMap
  | .update configMap => some configMap
  | _ => none

/-- Carry out a decision. -/
def MappingDecision.commit : MappingDecision → Program Session Err Unit
  | .refuse error => fail error
  | .keep => pure ()
  | .create configMap => configMapClientCreate configMap
  | .update configMap => configMapClientUpdate configMap

/-- One attempt to store the value. -/
def storeMappingValue (value : String) : Program Session Err Unit := do
  let answer ← attempt configMapGet
  (decideMapping value answer).commit

/-- Without a name of its own a cluster cannot tell which instances it has. -/
def Config.unidentified (cfg : Config) : Bool :=
  cfg.clusterName = "" || cfg.clusterName = defaultGuestClusterName

/-- The answer of the controller to a missing cluster name. -/
def unidentifiedCluster : Err :=
  .errorf
    ("failed to sync NAD mapping ConfigMap: guest cluster name configuration " ++
      "is empty/default, we cannot identify the cluster")

/-- Store the common mapping of the instances of this guest cluster. -/
def Handler.syncNADMappingConfigMap
    (h : Handler)
    (cfg : Config)
    (vmiCache : List VirtualMachineInstance) :
    Program Session Err Unit :=
  if cfg.unidentified then
    fail unidentifiedCluster
  else
    let vmis := h.vmiCacheList cfg.clusterName vmiCache
    -- The value is computed once, every attempt stores the same one.
    let value := nadMappingValue vmis
    retryOnConflict (storeMappingValue value)

section Storing

/-- The data of the stored ConfigMap; nil without one. -/
def Cluster.mappingData (cluster : Cluster) : StringMap :=
  cluster.configMap.bind ConfigMap.data

/-- Nobody else stores the mapping while the session runs. -/
def Session.Undisturbed (session : Session) : Prop :=
  ∀ tick ∈ session.ticks,
    ∀ action ∈ tick.environment,
      ∀ configMap, action ≠ .storeMapping configMap

/-- The other controllers leave the mapping alone. -/
theorem Cluster.configMap_foldl_react
    {actions : List EnvironmentAction}
    (others : ∀ action ∈ actions, ∀ configMap, action ≠ .storeMapping configMap)
    (cluster : Cluster) :
    (actions.foldl Cluster.react cluster).configMap = cluster.configMap := by
  induction actions generalizing cluster with
  | nil =>
      rfl
  | cons action rest inductionHypothesis =>
      rw [List.forall_mem_cons] at others
      rw [List.foldl_cons, inductionHypothesis others.2]
      cases action with
      | allocate name address conditions =>
          simp only [Cluster.react]
          split <;> rfl
      | assignIngress key ingress =>
          simp only [Cluster.react]
          split <;> rfl
      | storeMapping configMap =>
          exact (others.1 configMap rfl).elim

/-- A request of an undisturbed session meets the ConfigMap as it was. -/
theorem call_undisturbed
    {α : Type}
    {request : Request}
    {serve : Cluster → Except Err α × Cluster}
    {session final : Session}
    {answer : Except Err α}
    (undisturbed : session.Undisturbed)
    (ran : call request serve session = (answer, final)) :
    ∃ before : Cluster,
      before.configMap = session.cluster.configMap ∧
        final.Undisturbed ∧
        (serve before = (answer, final.cluster) ∨
          (∃ failure : Failure,
            answer = .error failure.toErr ∧ final.cluster = before)) := by
  simp only [call, Prod.mk.injEq] at ran
  obtain ⟨rfl, rfl⟩ := ran
  refine ⟨(session.ticks.headD {}).environment.foldl Cluster.react session.cluster,
    Cluster.configMap_foldl_react ?_ session.cluster, ?_, ?_⟩
  · cases ticks : session.ticks with
    | nil =>
        simp
    | cons tick rest =>
        exact undisturbed tick (by simp [ticks])
  · exact fun tick later => undisturbed tick (List.mem_of_mem_tail later)
  · cases (session.ticks.headD {}).failure with
    | none =>
        exact .inl rfl
    | some failure =>
        exact .inr ⟨failure, rfl, rfl⟩

/-- Looking the ConfigMap up. -/
theorem configMapGet_undisturbed
    {session final : Session}
    {answer : Except Err ConfigMap}
    (undisturbed : session.Undisturbed)
    (ran : configMapGet session = (answer, final)) :
    final.Undisturbed ∧
      final.cluster.configMap = session.cluster.configMap ∧
      (∀ existing, answer = .ok existing → session.cluster.configMap = some existing) ∧
      (∀ error,
        answer = .error error →
        error.isNotFound = true →
        session.cluster.configMap = none) := by
  obtain ⟨before, same, later, served⟩ := call_undisturbed undisturbed ran
  rw [← same]
  rcases served with served | ⟨failure, rfl, unchanged⟩
  · cases found : before.configMap with
    | none =>
        simp only [found, Prod.mk.injEq] at served
        obtain ⟨rfl, rfl⟩ := served
        exact ⟨later, found, by simp, by simp⟩
    | some existing =>
        simp only [found, Prod.mk.injEq] at served
        obtain ⟨rfl, rfl⟩ := served
        exact ⟨later, found, by simp, by simp⟩
  · refine ⟨later, congrArg Cluster.configMap unchanged, by simp, ?_⟩
    intro error sameError missing
    cases sameError
    rw [Failure.isNotFound_toErr] at missing
    cases missing

/-- A decision that is carried out stores its ConfigMap or changes nothing. -/
def MappingDecision.Effect
    (decision : MappingDecision)
    (before after : Cluster) :
    Except Err Unit → Prop
  | .error _ => after.configMap = before.configMap
  | .ok _ =>
      (decision = .keep ∧ after.configMap = before.configMap) ∨
        ∃ configMap version,
          decision.written = some configMap ∧
            after.configMap = some { configMap with resourceVersion := version }

theorem commit_undisturbed
    {decision : MappingDecision}
    {session final : Session}
    {answer : Except Err Unit}
    (undisturbed : session.Undisturbed)
    (ran : decision.commit session = (answer, final)) :
    final.Undisturbed ∧ decision.Effect session.cluster final.cluster answer := by
  cases decision with
  | refuse error =>
      simp only [MappingDecision.commit, fail_run, Prod.mk.injEq] at ran
      obtain ⟨rfl, rfl⟩ := ran
      exact ⟨undisturbed, rfl⟩
  | keep =>
      simp only [MappingDecision.commit, pure_run, Prod.mk.injEq] at ran
      obtain ⟨rfl, rfl⟩ := ran
      exact ⟨undisturbed, .inl ⟨rfl, rfl⟩⟩
  | create configMap =>
      simp only [MappingDecision.commit, configMapClientCreate] at ran
      obtain ⟨before, same, later, served⟩ := call_undisturbed undisturbed ran
      refine ⟨later, ?_⟩
      rcases served with served | ⟨failure, rfl, unchanged⟩
      · split at served
        · simp only [Prod.mk.injEq] at served
          obtain ⟨rfl, unchanged⟩ := served
          exact (congrArg Cluster.configMap unchanged).symm.trans same
        · simp only [Prod.mk.injEq] at served
          obtain ⟨rfl, changed⟩ := served
          exact .inr ⟨configMap, _, rfl, (congrArg Cluster.configMap changed).symm⟩
      · exact (congrArg Cluster.configMap unchanged).trans same
  | update configMap =>
      simp only [MappingDecision.commit, configMapClientUpdate] at ran
      obtain ⟨before, same, later, served⟩ := call_undisturbed undisturbed ran
      refine ⟨later, ?_⟩
      rcases served with served | ⟨failure, rfl, unchanged⟩
      · split at served
        · simp only [Prod.mk.injEq] at served
          obtain ⟨rfl, unchanged⟩ := served
          exact (congrArg Cluster.configMap unchanged).symm.trans same
        · split at served
          · simp only [Prod.mk.injEq] at served
            obtain ⟨rfl, changed⟩ := served
            exact .inr ⟨configMap, _, rfl, (congrArg Cluster.configMap changed).symm⟩
          · simp only [Prod.mk.injEq] at served
            obtain ⟨rfl, unchanged⟩ := served
            exact (congrArg Cluster.configMap unchanged).symm.trans same
      · exact (congrArg Cluster.configMap unchanged).trans same

/-- The data in the answer about the ConfigMap. -/
def answeredData : Except Err ConfigMap → StringMap
  | .ok existing => existing.data
  | .error _ => none

/-- What a decision writes holds the value and otherwise the answered data. -/
theorem decideMapping_written
    {value : String}
    {answer : Except Err ConfigMap}
    {configMap : ConfigMap}
    (written : (decideMapping value answer).written = some configMap) :
    configMap.data.read configMapKeyNADMapping = value ∧
      ∀ key,
        key ≠ configMapKeyNADMapping →
        configMap.data.lookup key = (answeredData answer).lookup key := by
  cases answer with
  | error error =>
      simp only [decideMapping] at written
      split at written
      · cases written
        exact ⟨NilableMap.read_write_self _ _ _,
          fun key other => NilableMap.lookup_write_of_ne _ other _⟩
      · cases written
  | ok existing =>
      simp only [decideMapping] at written
      split at written
      · cases written
      · cases written
        exact ⟨NilableMap.read_write_self _ _ _,
          fun key other => NilableMap.lookup_write_of_ne _ other _⟩

/-- Keeping means that the answered ConfigMap holds the value. -/
theorem decideMapping_keep
    {value : String}
    {answer : Except Err ConfigMap}
    (keeps : decideMapping value answer = .keep) :
    ∃ existing,
      answer = .ok existing ∧ existing.data.read configMapKeyNADMapping = value := by
  cases answer with
  | error error =>
      simp only [decideMapping] at keeps
      split at keeps <;> cases keeps
  | ok existing =>
      simp only [decideMapping] at keeps
      split at keeps
      · rename_i upToDate
        exact ⟨existing, rfl, upToDate⟩
      · cases keeps

/-- Nothing was stored, and nobody else did. -/
def MappingKept (session final : Session) : Prop :=
  session.Undisturbed →
    final.Undisturbed ∧ final.cluster.configMap = session.cluster.configMap

/-- The value is stored, and all other data is as before. -/
structure Cluster.StoresMapping
    (value : String)
    (before after : Cluster) :
    Prop where
  present : after.configMap.isSome
  stored : after.mappingData.read configMapKeyNADMapping = value
  others :
    ∀ key,
      key ≠ configMapKeyNADMapping →
      after.mappingData.lookup key = before.mappingData.lookup key

/-- The value is stored after an undisturbed session. -/
def MappingStored
    (value : String)
    (session : Session)
    (_ : Unit)
    (final : Session) :
    Prop :=
  session.Undisturbed → session.cluster.StoresMapping value final.cluster

theorem storeMappingValue_ended
    {value : String}
    {session final : Session}
    {answer : Except Err Unit}
    (ran : storeMappingValue value session = (answer, final)) :
    Ended MappingKept (MappingStored value) session answer final := by
  unfold storeMappingValue at ran
  rw [attempt_bind_run] at ran
  cases got : configMapGet session with
  | mk looked middle =>
      rw [got] at ran
      cases answer with
      | error error =>
          intro undisturbed
          obtain ⟨later, same, _⟩ := configMapGet_undisturbed undisturbed got
          obtain ⟨last, unchanged⟩ := commit_undisturbed later ran
          exact ⟨last, unchanged.trans same⟩
      | ok done =>
          intro undisturbed
          obtain ⟨later, same, found, missing⟩ := configMapGet_undisturbed undisturbed got
          obtain ⟨_, ⟨keeps, unchanged⟩ | ⟨configMap, version, written, changed⟩⟩ :=
            commit_undisturbed later ran
          · obtain ⟨existing, rfl, upToDate⟩ := decideMapping_keep keeps
            have stored := found existing rfl
            have after : final.cluster.configMap = some existing :=
              unchanged.trans (same.trans stored)
            exact {
              present := by rw [after]; rfl
              stored := by rw [Cluster.mappingData, after]; exact upToDate
              others := fun key _ => by
                rw [Cluster.mappingData, Cluster.mappingData, after, stored] }
          · obtain ⟨holds, others⟩ := decideMapping_written written
            have before : session.cluster.mappingData = answeredData looked := by
              cases looked with
              | ok existing =>
                  rw [Cluster.mappingData, found existing rfl]
                  rfl
              | error error =>
                  simp only [decideMapping] at written
                  split at written
                  · rename_i notFound
                    rw [Cluster.mappingData, missing error rfl notFound]
                    rfl
                  · cases written
            exact {
              present := by rw [changed]; rfl
              stored := by rw [Cluster.mappingData, changed]; exact holds
              others := fun key other => by
                rw [Cluster.mappingData, changed, before]
                exact others key other }

/-- A synchronisation stores the value of the listed instances or nothing. -/
theorem syncNADMappingConfigMap_ended
    {h : Handler}
    {cfg : Config}
    {vmiCache : List VirtualMachineInstance}
    {session final : Session}
    {answer : Except Err Unit}
    (ran : h.syncNADMappingConfigMap cfg vmiCache session = (answer, final)) :
    Ended MappingKept
      (MappingStored (nadMappingValue (h.vmiCacheList cfg.clusterName vmiCache)))
      session answer final := by
  unfold Handler.syncNADMappingConfigMap at ran
  split at ran
  · simp only [fail_run, Prod.mk.injEq] at ran
    obtain ⟨rfl, rfl⟩ := ran
    exact fun undisturbed => ⟨undisturbed, rfl⟩
  · refine retryWhile_ended ?_ ?_ ?_ _ ran
    · intro first second third earlier later calm
      obtain ⟨stillCalm, same⟩ := earlier calm
      obtain ⟨lastCalm, sameAgain⟩ := later stillCalm
      exact ⟨lastCalm, sameAgain.trans same⟩
    · intro first second third value earlier later calm
      obtain ⟨stillCalm, same⟩ := earlier calm
      have stores := later stillCalm
      have sameData : second.cluster.mappingData = first.cluster.mappingData := by
        rw [Cluster.mappingData, same, Cluster.mappingData]
      exact {
        present := stores.present
        stored := stores.stored
        others := fun key other => by rw [stores.others key other, sameData] }
    · exact fun _ _ _ once => storeMappingValue_ended once

/-- A successful synchronisation stores the value of the listed instances. -/
theorem syncNADMappingConfigMap_stores
    {h : Handler}
    {cfg : Config}
    {vmiCache : List VirtualMachineInstance}
    {session final : Session}
    (undisturbed : session.Undisturbed)
    (ran : h.syncNADMappingConfigMap cfg vmiCache session = (.ok (), final)) :
    session.cluster.StoresMapping
      (nadMappingValue (h.vmiCacheList cfg.clusterName vmiCache)) final.cluster :=
  syncNADMappingConfigMap_ended ran undisturbed

end Storing

section Resting

/-- The ConfigMap exists and holds the value. -/
def Cluster.HoldsMapping (cluster : Cluster) (value : String) : Prop :=
  cluster.configMap.isSome ∧ cluster.mappingData.read configMapKeyNADMapping = value

/-- From a cluster that holds the value on, nothing is written. -/
def Rests (value : String) (session final : Session) : Prop :=
  session.Undisturbed →
    session.cluster.HoldsMapping value →
    final.Undisturbed ∧
      final.cluster.HoldsMapping value ∧
      ∀ event ∈ final.events, event ∈ session.events ∨ event.Reads

instance (value : String) : Std.Refl (Rests value) where
  refl _ undisturbed holds := ⟨undisturbed, holds, fun _ member => .inl member⟩

instance (value : String) : IsTrans Session (Rests value) where
  trans first middle final := by
    intro earlier later undisturbed holds
    obtain ⟨stillUndisturbed, stillHolds, earlierEvents⟩ := earlier undisturbed holds
    obtain ⟨lastUndisturbed, lastHolds, laterEvents⟩ := later stillUndisturbed stillHolds
    refine ⟨lastUndisturbed, lastHolds, fun event member => ?_⟩
    rcases laterEvents event member with old | read
    · exact earlierEvents event old
    · exact .inr read

/-- An attempt to store a value that is already there only looks. -/
theorem storeMappingValue_rests (value : String) :
    Respects (Rests value) (storeMappingValue value) := by
  intro session undisturbed holds
  cases got : configMapGet session with
  | mk looked middle =>
      obtain ⟨later, same, found, missing⟩ := configMapGet_undisturbed undisturbed got
      have events : ∃ event, middle.events = session.events ++ [event] ∧ event.Reads := by
        have reached := congrArg (fun ran => ran.2.events) got
        exact ⟨_, reached.symm, rfl⟩
      have stillHolds : middle.cluster.HoldsMapping value := by
        rw [Cluster.HoldsMapping, Cluster.mappingData, same]
        exact holds
      have final : (storeMappingValue value session).2 = middle := by
        unfold storeMappingValue
        rw [attempt_bind_run, got]
        cases looked with
        | ok existing =>
            have upToDate : existing.data.read configMapKeyNADMapping = value := by
              have held := holds.2
              rw [Cluster.mappingData, found existing rfl] at held
              exact held
            simp [decideMapping, upToDate, MappingDecision.commit]
        | error error =>
            cases notFound : error.isNotFound with
            | true =>
                have present := holds.1
                rw [missing error rfl notFound] at present
                cases present
            | false =>
                simp [decideMapping, notFound, MappingDecision.commit]
      rw [final]
      refine ⟨later, stillHolds, fun event member => ?_⟩
      obtain ⟨last, recorded, reads⟩ := events
      rw [recorded, List.mem_append, List.mem_singleton] at member
      rcases member with old | rfl
      · exact .inl old
      · exact .inr reads

/-- Synchronising a value that is already there writes nothing. -/
theorem syncNADMappingConfigMap_rests
    (h : Handler)
    (cfg : Config)
    (vmiCache : List VirtualMachineInstance) :
    Respects (Rests (nadMappingValue (h.vmiCacheList cfg.clusterName vmiCache)))
      (h.syncNADMappingConfigMap cfg vmiCache) := by
  unfold Handler.syncNADMappingConfigMap
  split
  · exact .fail _
  · exact .retryWhile (storeMappingValue_rests _) _

end Resting

section Agreement

/-- The requests of a session meet the stored objects and do not fail. -/
def Session.Calm (session : Session) : Prop :=
  session.Undisturbed ∧ ∀ tick ∈ session.ticks, tick.failure = none

/-- A calm session is answered from the stored ConfigMap. -/
theorem configMapGet_calm
    {session : Session}
    (calm : session.Calm)
    {configMap : ConfigMap}
    (stored : session.cluster.configMap = some configMap) :
    (configMapGet session).1 = .ok configMap := by
  have noFailure : (session.ticks.headD {}).failure = none := by
    cases ticks : session.ticks with
    | nil =>
        rfl
    | cons tick rest =>
        exact calm.2 tick (by simp [ticks])
  have met :
      ((session.ticks.headD {}).environment.foldl Cluster.react
        session.cluster).configMap = some configMap := by
    rw [← stored]
    refine Cluster.configMap_foldl_react ?_ session.cluster
    cases ticks : session.ticks with
    | nil =>
        simp
    | cons tick rest =>
        exact calm.1 tick (by simp [ticks])
  simp only [configMapGet, call, noFailure, met]

/-- A written map is never the empty text. -/
theorem marshalStringMap_ne_empty (entries : Std.ExtTreeMap String String) :
    JsonText.marshalStringMap entries ≠ "" := by
  intro empty
  have characters := congrArg String.toList empty
  simp [JsonText.marshalStringMap] at characters

/-- The reader gets back what the value was computed from. -/
theorem getNADInterfaceMapping_of_holds
    {reader : Session}
    {vmis : List VirtualMachineInstance}
    (calm : reader.Calm)
    (holds : reader.cluster.HoldsMapping (nadMappingValue vmis)) :
    (getNADInterfaceMapping reader).1 =
      .ok (some ((getCommonVMINADs (vmis.map some)).getD ∅)) := by
  obtain ⟨present, stored⟩ := holds
  obtain ⟨configMap, found⟩ := Option.isSome_iff_exists.mp present
  rw [Cluster.mappingData, found, Option.bind_some] at stored
  have answered := configMapGet_calm calm found
  unfold getNADInterfaceMapping
  rw [attempt_bind_run, answered]
  dsimp only
  rw [stored]
  unfold nadMappingValue
  cases common : getCommonVMINADs (vmis.map some) with
  | none =>
      simp
  | some mapping =>
      by_cases empty : mapping.isEmpty
      · simp [Std.ExtTreeMap.isEmpty_iff.mp empty]
      · simp [empty, marshalStringMap_ne_empty,
          JsonText.unmarshalStringMap_marshalStringMap]

/-- The resolver answers from the common mapping. -/
theorem resolveNetworkInterface_of_holds
    {reader : Session}
    {vmis : List VirtualMachineInstance}
    {service : Service}
    (calm : reader.Calm)
    (holds : reader.cluster.HoldsMapping (nadMappingValue vmis))
    (asks : service.annotations.read keyNetwork ≠ "")
    (iface : String) :
    (resolveNetworkInterface service reader).1 = .ok iface ↔
      (getCommonVMINADs (vmis.map some)).lookup
        (service.annotations.read keyNetwork) = some iface := by
  have mapping := getNADInterfaceMapping_of_holds calm holds
  have looked (network : String) :
      (getCommonVMINADs (vmis.map some)).lookup network =
        ((getCommonVMINADs (vmis.map some)).getD ∅)[network]? := by
    cases getCommonVMINADs (vmis.map some) with
    | none =>
        simp
    | some entries =>
        rfl
  rw [looked]
  generalize (getCommonVMINADs (vmis.map some)).getD ∅ = common at mapping
  unfold resolveNetworkInterface
  rw [if_neg asks, bind_run]
  cases ran : getNADInterfaceMapping reader with
  | mk answer reached =>
      rw [ran] at mapping
      dsimp only at mapping
      subst mapping
      dsimp only
      by_cases empty : common.isEmpty
      · rw [if_pos empty]
        simp [Std.ExtTreeMap.isEmpty_iff.mp empty]
      · rw [if_neg empty]
        cases found : common[service.annotations.read keyNetwork]? with
        | none =>
            simp
        | some stored =>
            simp

/-- Writer, reader and resolver of the mapping agree on some instances. -/
structure MappingAgreement
    (h : Handler)
    (cfg : Config)
    (vmis : List VirtualMachineInstance)
    (before after : Cluster) :
    Prop where
  /-- The reader returns the common entries, and an empty map without any. -/
  reads :
    ∀ reader : Session,
      reader.cluster = after →
      reader.Calm →
      (getNADInterfaceMapping reader).1 =
        .ok (some ((getCommonVMINADs (vmis.map some)).getD ∅))
  /-- All other data is unchanged. -/
  others :
    ∀ key,
      key ≠ configMapKeyNADMapping →
      after.mappingData.lookup key = before.mappingData.lookup key
  /-- Synchronising the instances again, in any order, sends no write. -/
  rests :
    ∀ (vmiCache : List VirtualMachineInstance) (again : Session),
      again.cluster = after →
      again.Undisturbed →
      vmis.Perm (h.vmiCacheList cfg.clusterName vmiCache) →
      ∀ event ∈ (h.syncNADMappingConfigMap cfg vmiCache again).2.events,
        event ∈ again.events ∨ event.Reads
  /-- The resolver finds exactly the common interfaces, all of them named. -/
  resolves :
    ∀ (service : Service) (reader : Session) (iface : String),
      service.annotations.read keyNetwork ≠ "" →
      reader.cluster = after →
      reader.Calm →
      ((resolveNetworkInterface service reader).1 = .ok iface ↔
        iface ≠ "" ∧
          (getCommonVMINADs (vmis.map some)).lookup
            (service.annotations.read keyNetwork) = some iface)
  neverUnnamed :
    ∀ (service : Service) (reader : Session),
      service.annotations.read keyNetwork ≠ "" →
      reader.cluster = after →
      reader.Calm →
      (resolveNetworkInterface service reader).1 ≠ .ok ""

/-- After a successful synchronisation all uses of the mapping agree. -/
theorem mapping_agrees
    {h : Handler}
    {cfg : Config}
    {vmiCache : List VirtualMachineInstance}
    {session final : Session}
    (undisturbed : session.Undisturbed)
    (ran : h.syncNADMappingConfigMap cfg vmiCache session = (.ok (), final)) :
    MappingAgreement h cfg (h.vmiCacheList cfg.clusterName vmiCache)
      session.cluster final.cluster := by
  have stores := syncNADMappingConfigMap_stores undisturbed ran
  have holds :
      final.cluster.HoldsMapping
        (nadMappingValue (h.vmiCacheList cfg.clusterName vmiCache)) :=
    ⟨stores.present, stores.stored⟩
  generalize h.vmiCacheList cfg.clusterName vmiCache = vmis at holds stores
  have resolves
      {service : Service}
      {reader : Session}
      {iface : String}
      (asks : service.annotations.read keyNetwork ≠ "")
      (same : reader.cluster = final.cluster)
      (calm : reader.Calm) :
      (resolveNetworkInterface service reader).1 = .ok iface ↔
        iface ≠ "" ∧
          (getCommonVMINADs (vmis.map some)).lookup
            (service.annotations.read keyNetwork) = some iface := by
    rw [resolveNetworkInterface_of_holds calm (same ▸ holds) asks, iff_and_self]
    exact getCommonVMINADs_ne_empty
  constructor
  · intro reader same calm
    exact getNADInterfaceMapping_of_holds calm (same ▸ holds)
  · exact stores.others
  · intro newCache again same calm permuted
    have sameValue :
        nadMappingValue (h.vmiCacheList cfg.clusterName newCache) =
          nadMappingValue vmis := by
      unfold nadMappingValue
      rw [getCommonVMINADs_perm (permuted.map some)]
    have rests := syncNADMappingConfigMap_rests h cfg newCache again
    rw [sameValue] at rests
    exact (rests calm (same ▸ holds)).2.2
  · intro service reader iface asks same calm
    exact resolves asks same calm
  · intro service reader asks same calm resolved
    exact ((resolves asks same calm).mp resolved).1 rfl

/-- The handler of the concrete runs. -/
def sampleHandler : Handler where
  ns := "default"

/-- The configuration of the concrete runs. -/
def sampleConfig : Config where
  clusterName := "prod"

/-- A running instance with one network on some interface. -/
def sampleInstance (name iface : String) : VirtualMachineInstance where
  ns := "default"
  name := name
  labels := NilableMap.write none labelKeyGuestClusterNameOnVM "prod"
  networks := [{ name := "nic-1", multus := some ⟨"default/mgmt"⟩ }]
  phase := .running
  interfaces := [{ name := "nic-1", interfaceName := iface }]

/-- A ConfigMap with other data and no mapping. -/
def sampleSession : Session where
  cluster :=
    { configMap :=
        some
          { ns := namespaceSystem
            name := configMapNADMapping
            data := NilableMap.write none "other" "data" } }
  ticks := []

/-- A ConfigMap without the mapping is filled and all uses agree. -/
theorem mapping_agrees_for_one_instance :
    (sampleHandler.syncNADMappingConfigMap sampleConfig
        [sampleInstance "vm1" "enp1s0"] sampleSession).2.cluster.mappingData.read
          configMapKeyNADMapping ≠ "" ∧
      MappingAgreement sampleHandler sampleConfig
        (sampleHandler.vmiCacheList sampleConfig.clusterName
          [sampleInstance "vm1" "enp1s0"])
        sampleSession.cluster
        (sampleHandler.syncNADMappingConfigMap sampleConfig
          [sampleInstance "vm1" "enp1s0"] sampleSession).2.cluster := by
  have evaluated :
      (sampleHandler.syncNADMappingConfigMap sampleConfig
          [sampleInstance "vm1" "enp1s0"] sampleSession).1.isOk = true ∧
        (sampleHandler.syncNADMappingConfigMap sampleConfig
          [sampleInstance "vm1" "enp1s0"] sampleSession).2.cluster.mappingData.read
            configMapKeyNADMapping ≠ "" := by
    decide +kernel
  have undisturbed : sampleSession.Undisturbed := by
    intro tick member
    cases member
  refine ⟨evaluated.2, mapping_agrees undisturbed (Prod.ext ?_ rfl)⟩
  cases answer :
    (sampleHandler.syncNADMappingConfigMap sampleConfig
      [sampleInstance "vm1" "enp1s0"] sampleSession).1 with
  | ok value =>
      rfl
  | error error =>
      rw [answer] at evaluated
      cases evaluated.1

end Agreement

end HarvesterCloudProvider
