import HarvesterCloudProvider.ClusterIdentity
import HarvesterCloudProvider.NodeAddresses
import HarvesterCloudProvider.NodeIPCIDR

namespace HarvesterCloudProvider

open Program

/-!
# Synchronising the configuration

`SyncAndValidateHarvesterConfig` fills the global configuration from the flags
once at start-up and brings every value into a normal form: the cluster name is
trimmed, the management network gets a namespace, the node IP CIDRs and the
excluded ranges are trimmed and parsed.  Normal forms are fixed points, so the
effective values can be fed back as flags.  The management network is used
twice at run time, normalised again on load balancers and verbatim on the
networks of an instance.
-/

section Synchronising

/-- The values of the flags as the framework parsed them. -/
structure Flags where
  clusterName : String := ""
  managementNetwork : String := ""
  nodeIPCIDR : String := ""
  nodeExcludeIPRanges : List String := []
  disableAnnotationAlphaProvidedIPAddr : Bool := false
  disableVMIController : Bool := false
  showFullHelpOnError : Bool := false
  cloudProviderControllers : List String := []

/-- A prefix, or an address as a prefix of full length. -/
def parseStringToIPPrefix (s : String) : Except Err Prefix :=
  match Prefix.parse s with
  | some pfx => .ok pfx
  | none =>
      match parseAddr s with
      | some addr => .ok (Prefix.ofAddr addr addr.bitLen)
      | none => .error (.errorf s!"invalid IP or CIDR format: {quote s}")

/-- The loop over the excluded ranges: the clean entries and their prefixes. -/
def scanNodeExcludeIPRanges : List String → Except Err (List String × List Prefix)
  | [] => .ok ([], [])
  | entry :: rest =>
      let trimmed := trimSpace entry
      if trimmed = "" then
        scanNodeExcludeIPRanges rest
      else
        match parseStringToIPPrefix trimmed with
        | .error error =>
            .error (.wrap
              s!"invalid entry in --{flagNodeExcludeIPRanges} ({quote trimmed}): " error)
        | .ok pfx => do
            let (cleanRanges, excludePrefixes) ← scanNodeExcludeIPRanges rest
            return (trimmed :: cleanRanges, pfx :: excludePrefixes)

/-- Validate the excluded ranges and store them clean and parsed. -/
def validateAndParseNodeExcludeIPRanges : Program Config Err Unit :=
  fun cfg =>
    match scanNodeExcludeIPRanges cfg.nodeExcludeIPRanges with
    | .error error => (.error error, cfg)
    | .ok (cleanRanges, excludePrefixes) =>
        (.ok (),
          { cfg with
            nodeExcludeIPRanges := cleanRanges
            internalNodeExcludeIPPrefixes := excludePrefixes })

/-- Copy the values of the flags.  All flags are registered, so no lookup fails. -/
def copyFlags (flags : Flags) : Program Config Err Unit :=
  fun cfg =>
    (.ok (),
      { cfg with
        clusterName := flags.clusterName
        managementNetwork := flags.managementNetwork
        nodeIPCIDR := flags.nodeIPCIDR
        nodeExcludeIPRanges := flags.nodeExcludeIPRanges
        disableAnnotationAlphaProvidedIPAddr :=
          flags.disableAnnotationAlphaProvidedIPAddr
        disableVMIController := flags.disableVMIController
        showFullHelpOnError := flags.showFullHelpOnError
        cloudProviderControllers := ",".intercalate flags.cloudProviderControllers })

/-- Replace the copied cluster name by its trimmed form. -/
def normalizeClusterName (rawClusterName : String) : Program Config Err Unit :=
  fun cfg => (.ok (), cfg.syncClusterName rawClusterName)

/-- Bring a configured management network into its normal form. -/
def normalizeManagementNetwork : Program Config Err Unit :=
  fun cfg =>
    if cfg.managementNetwork = "" then
      (.ok (), cfg)
    else
      match normalizeNetworkName networkTypeManagement cfg.managementNetwork with
      | .error error =>
          (.error (.wrap s!"invalid configuration for --{flagManagementNetwork}: " error),
            cfg)
      | .ok normalized => (.ok (), { cfg with managementNetwork := normalized })

/-- Fill the configuration from the flags.  The final log lines are left out. -/
def syncAndValidateHarvesterConfig (flags : Flags) : Program Config Err Unit := do
  copyFlags flags
  normalizeClusterName flags.clusterName
  normalizeManagementNetwork
  validateAndParseNodeIPCIDR
  validateAndParseNodeExcludeIPRanges

/-- The effective values as flags, with the given controllers. -/
def Config.effectiveFlags (cfg : Config) (cloudProviderControllers : List String) : Flags where
  clusterName := cfg.clusterName
  managementNetwork := cfg.managementNetwork
  nodeIPCIDR := cfg.nodeIPCIDR
  nodeExcludeIPRanges := cfg.nodeExcludeIPRanges
  disableAnnotationAlphaProvidedIPAddr := cfg.disableAnnotationAlphaProvidedIPAddr
  disableVMIController := cfg.disableVMIController
  showFullHelpOnError := cfg.showFullHelpOnError
  cloudProviderControllers := cloudProviderControllers

end Synchronising

section NetworkNames

/-- A network name of the form `namespace/name`. -/
def IsNamespacedName (network : String) : Prop :=
  ∃ ns name,
    network = ns ++ "/" ++ name ∧
      ns ≠ "" ∧
      name ≠ "" ∧
      '/' ∉ ns.toList ∧
      '/' ∉ name.toList

variable {networkType network normalized : String}

/-- Two parts without a slash are the fields of their join. -/
theorem splitOn_slash
    {ns name : String}
    (nsApart : '/' ∉ ns.toList)
    (nameApart : '/' ∉ name.toList) :
    (ns ++ "/" ++ name).toList.splitOn '/' = [ns.toList, name.toList] := by
  have joined : (ns ++ "/" ++ name).toList = ['/'].intercalate [ns.toList, name.toList] := by
    simp [List.intercalate]
  rw [joined]
  refine List.splitOn_intercalate '/' ?_ (by simp)
  simp [nsApart, nameApart]

/-- A namespaced name is already normal. -/
theorem normalizeNetworkName_of_namespaced (namespaced : IsNamespacedName network) :
    normalizeNetworkName networkType network = .ok network := by
  obtain ⟨ns, name, rfl, nsPresent, namePresent, nsApart, nameApart⟩ := namespaced
  have present : ns ++ "/" ++ name ≠ "" := by
    intro empty
    simpa using congrArg String.length empty
  unfold normalizeNetworkName
  rw [if_neg present, splitOn_slash nsApart nameApart]
  simp [nsPresent, namePresent]

/-- Whatever is accepted is given the form `namespace/name`. -/
theorem isNamespacedName_of_normalize
    (accepted : normalizeNetworkName networkType network = .ok normalized) :
    IsNamespacedName normalized := by
  unfold normalizeNetworkName at accepted
  split at accepted
  · cases accepted
  rename_i present
  have joined := @List.intercalate_splitOn _ network.toList _ _ '/'
  have apart : ∀ field ∈ network.toList.splitOn '/', '/' ∉ field :=
    fun field member => separator_notMem_splitOn member
  split at accepted
  · rename_i field fields
    cases accepted
    rw [fields] at joined apart
    refine ⟨defaultNamespace, network, rfl, by decide, present, by decide +kernel, ?_⟩
    simpa [← joined, List.intercalate] using apart
  · rename_i nsField nameField fields
    split at accepted
    · cases accepted
    · rename_i bothPresent
      cases accepted
      rw [fields] at joined apart
      rw [not_or] at bothPresent
      refine ⟨String.ofList nsField, String.ofList nameField, ?_, ?_, ?_, ?_, ?_⟩
      · rw [← String.toList_inj, ← joined]
        simp [List.intercalate]
      · simpa using bothPresent.1
      · simpa using bothPresent.2
      · simpa using apart nsField (by simp)
      · simpa using apart nameField (by simp)
  · cases accepted

end NetworkNames

section FixedPoints

/-- Kept parts are trimmed, so keeping them again changes nothing. -/
theorem keptParts_keptParts (fields : List String) :
    keptParts (keptParts fields) = keptParts fields := by
  have trimmed : ∀ part ∈ keptParts fields, trimSpace part = part := by
    intro part member
    obtain ⟨field, -, rfl⟩ := List.mem_map.mp (List.mem_of_mem_filter member)
    exact trimSpace_trimSpace field
  have present : ∀ part ∈ keptParts fields, decide (part ≠ "") = true := by
    intro part member
    exact (List.mem_filter.mp member).2
  calc
    keptParts (keptParts fields) =
        ((keptParts fields).map trimSpace).filter fun part => part ≠ "" := rfl
    _ = (keptParts fields).filter fun part => part ≠ "" := by
      rw [List.map_congr_left trimmed, List.map_id']
    _ = keptParts fields := List.filter_eq_self.mpr present

/-- Joining parts without commas and splitting again gives the parts back. -/
theorem commaFields_intercalate
    {parts : List String}
    (apart : ∀ part ∈ parts, ',' ∉ part.toList)
    (nonempty : parts ≠ []) :
    commaFields (",".intercalate parts) = parts := by
  have joined : (",".intercalate parts).toList = [','].intercalate (parts.map String.toList) :=
    String.toList_intercalate
  rw [commaFields, joined,
    List.splitOn_intercalate ',' (by simpa using apart) (by simpa using nonempty),
    List.map_map]
  simp [Function.comp_def]

/-- The parts of the stored value are the parts of the given one. -/
theorem cidrParts_intercalate (value : String) :
    cidrParts (",".intercalate (cidrParts value)) = cidrParts value := by
  by_cases empty : cidrParts value = []
  · rw [empty]
    decide +kernel
  · have apart : ∀ part ∈ cidrParts value, ',' ∉ part.toList := by
      intro part member comma
      obtain ⟨field, inFields, rfl⟩ := List.mem_map.mp (List.mem_of_mem_filter member)
      obtain ⟨characters, split, rfl⟩ := List.mem_map.mp inFields
      have inField := toList_trimSpace_subset _ comma
      rw [String.toList_ofList] at inField
      exact separator_notMem_splitOn split inField
    rw [cidrParts, commaFields_intercalate apart empty]
    exact keptParts_keptParts (commaFields value)

/-- The clean ranges are accepted as they are. -/
theorem scanNodeExcludeIPRanges_fixed
    {entries cleanRanges : List String}
    {excludePrefixes : List Prefix}
    (accepted : scanNodeExcludeIPRanges entries = .ok (cleanRanges, excludePrefixes)) :
    scanNodeExcludeIPRanges cleanRanges = .ok (cleanRanges, excludePrefixes) := by
  induction entries generalizing cleanRanges excludePrefixes with
  | nil =>
      cases accepted
      rfl
  | cons entry rest inductionHypothesis =>
      unfold scanNodeExcludeIPRanges at accepted
      dsimp only at accepted
      split at accepted
      · exact inductionHypothesis accepted
      · rename_i present
        split at accepted
        · cases accepted
        · rename_i pfx parsed
          obtain ⟨⟨laterRanges, laterPrefixes⟩, later, same⟩ := except_bind_ok.mp accepted
          cases same
          unfold scanNodeExcludeIPRanges
          simp only [trimSpace_trimSpace, present, ↓reduceIte, parsed,
            inductionHypothesis later]
          rfl

end FixedPoints

section Results

/-- What the management network flag stands for: nothing, or a normalised name. -/
def NetworkAccepted (flagged effective : String) : Prop :=
  flagged = "" ∧ effective = "" ∨
    flagged ≠ "" ∧ normalizeNetworkName networkTypeManagement flagged = .ok effective

/-- An effective management network is accepted as it is. -/
theorem NetworkAccepted.fixed
    {flagged effective : String}
    (accepted : NetworkAccepted flagged effective) :
    NetworkAccepted effective effective := by
  rcases accepted with ⟨-, rfl⟩ | ⟨-, normalized⟩
  · exact .inl ⟨rfl, rfl⟩
  · have namespaced := isNamespacedName_of_normalize normalized
    by_cases empty : effective = ""
    · exact .inl ⟨empty, empty⟩
    · exact .inr ⟨empty, normalizeNetworkName_of_namespaced namespaced⟩

theorem normalizeManagementNetwork_ok_iff {cfg final : Config} :
    normalizeManagementNetwork cfg = (.ok (), final) ↔
      ∃ network,
        NetworkAccepted cfg.managementNetwork network ∧
          final = { cfg with managementNetwork := network } := by
  unfold normalizeManagementNetwork NetworkAccepted
  by_cases unset : cfg.managementNetwork = ""
  · have same : cfg = { cfg with managementNetwork := "" } := by
      rw [← unset]
    simp only [unset, ↓reduceIte, Prod.mk.injEq, true_and, ne_eq, not_true_eq_false,
      false_and, or_false, exists_eq_left]
    rw [← same, eq_comm]
  · cases normalizeNetworkName networkTypeManagement cfg.managementNetwork with
    | error error =>
        simp [unset]
    | ok normalized =>
        simp [unset, eq_comm]

theorem validateAndParseNodeIPCIDR_run_iff {cfg final : Config} :
    validateAndParseNodeIPCIDR cfg = (.ok (), final) ↔
      CIDRFormat (cidrParts cfg.nodeIPCIDR) ∧
        final =
          { cfg with
            internalNodeIPCIDRPrefixes := cidrPrefixes (cidrParts cfg.nodeIPCIDR)
            nodeIPCIDR := ",".intercalate (cidrParts cfg.nodeIPCIDR) } := by
  constructor
  · intro ran
    have format := validateAndParseNodeIPCIDR_ok_iff.mp (congrArg Prod.fst ran)
    rw [validateAndParseNodeIPCIDR_of_format format] at ran
    exact ⟨format, (congrArg Prod.snd ran).symm⟩
  · rintro ⟨format, rfl⟩
    exact validateAndParseNodeIPCIDR_of_format format

theorem validateAndParseNodeExcludeIPRanges_run_iff {cfg final : Config} :
    validateAndParseNodeExcludeIPRanges cfg = (.ok (), final) ↔
      ∃ cleanRanges excludePrefixes,
        scanNodeExcludeIPRanges cfg.nodeExcludeIPRanges =
            .ok (cleanRanges, excludePrefixes) ∧
          final =
            { cfg with
              nodeExcludeIPRanges := cleanRanges
              internalNodeExcludeIPPrefixes := excludePrefixes } := by
  unfold validateAndParseNodeExcludeIPRanges
  cases scanNodeExcludeIPRanges cfg.nodeExcludeIPRanges with
  | error error =>
      simp
  | ok scanned =>
      obtain ⟨cleanRanges, excludePrefixes⟩ := scanned
      simp [eq_comm]

/-- The configuration that accepted flags give. -/
def Flags.config
    (flags : Flags)
    (managementNetwork : String)
    (cleanRanges : List String)
    (excludePrefixes : List Prefix) :
    Config where
  clusterName := normalizeAndWarnClusterName flags.clusterName
  cloudProviderControllers := ",".intercalate flags.cloudProviderControllers
  disableAnnotationAlphaProvidedIPAddr := flags.disableAnnotationAlphaProvidedIPAddr
  managementNetwork := managementNetwork
  nodeIPCIDR := ",".intercalate (cidrParts flags.nodeIPCIDR)
  nodeExcludeIPRanges := cleanRanges
  disableVMIController := flags.disableVMIController
  showFullHelpOnError := flags.showFullHelpOnError
  internalNodeIPCIDRPrefixes := cidrPrefixes (cidrParts flags.nodeIPCIDR)
  internalNodeExcludeIPPrefixes := excludePrefixes

/--
The flags are accepted exactly when each value is, and the resulting
configuration does not depend on the one before.
-/
theorem syncAndValidateHarvesterConfig_ok_iff
    {flags : Flags}
    {start final : Config} :
    syncAndValidateHarvesterConfig flags start = (.ok (), final) ↔
      ∃ network cleanRanges excludePrefixes,
        NetworkAccepted flags.managementNetwork network ∧
          CIDRFormat (cidrParts flags.nodeIPCIDR) ∧
          scanNodeExcludeIPRanges flags.nodeExcludeIPRanges =
            .ok (cleanRanges, excludePrefixes) ∧
          final = flags.config network cleanRanges excludePrefixes := by
  unfold syncAndValidateHarvesterConfig
  rw [bind_run_of_ok (rfl : copyFlags flags start = (.ok (), _)),
    bind_run_of_ok (rfl : normalizeClusterName flags.clusterName _ = (.ok (), _))]
  constructor
  · intro ran
    obtain ⟨_, _, networkRan, afterNetwork⟩ := bind_ok.mp ran
    obtain ⟨network, networkAccepted, rfl⟩ :=
      normalizeManagementNetwork_ok_iff.mp networkRan
    obtain ⟨_, _, cidrRan, excludeRan⟩ := bind_ok.mp afterNetwork
    obtain ⟨format, rfl⟩ := validateAndParseNodeIPCIDR_run_iff.mp cidrRan
    obtain ⟨cleanRanges, excludePrefixes, scanned, rfl⟩ :=
      validateAndParseNodeExcludeIPRanges_run_iff.mp excludeRan
    exact ⟨network, cleanRanges, excludePrefixes, networkAccepted, format, scanned, rfl⟩
  · rintro ⟨network, cleanRanges, excludePrefixes, networkAccepted, format, scanned, rfl⟩
    refine bind_ok.mpr ⟨(), _, normalizeManagementNetwork_ok_iff.mpr
      ⟨network, networkAccepted, rfl⟩, ?_⟩
    refine bind_ok.mpr ⟨(), _, validateAndParseNodeIPCIDR_run_iff.mpr ⟨format, rfl⟩, ?_⟩
    exact validateAndParseNodeExcludeIPRanges_run_iff.mpr
      ⟨cleanRanges, excludePrefixes, scanned, rfl⟩

variable {flags : Flags}
variable {start final : Config}

/-- The effective values are accepted and give the same configuration. -/
theorem syncAndValidateHarvesterConfig_fixed
    (accepted : syncAndValidateHarvesterConfig flags start = (.ok (), final))
    (other : Config) :
    syncAndValidateHarvesterConfig (final.effectiveFlags flags.cloudProviderControllers)
      other = (.ok (), final) := by
  obtain ⟨network, cleanRanges, excludePrefixes, networkAccepted, format, scanned, rfl⟩ :=
    syncAndValidateHarvesterConfig_ok_iff.mp accepted
  have sameParts := cidrParts_intercalate flags.nodeIPCIDR
  refine syncAndValidateHarvesterConfig_ok_iff.mpr
    ⟨network, cleanRanges, excludePrefixes, networkAccepted.fixed, ?_,
      scanNodeExcludeIPRanges_fixed scanned, ?_⟩
  · exact sameParts.symm ▸ format
  · simp only [Flags.config, Config.effectiveFlags, normalizeAndWarnClusterName, trim_trim,
      sameParts]

/-- An effective management network has the form `namespace/name`. -/
theorem isNamespacedName_of_sync
    (accepted : syncAndValidateHarvesterConfig flags start = (.ok (), final))
    {mgmt : String}
    (configured : final.getManagementNetwork = some mgmt) :
    IsNamespacedName mgmt := by
  obtain ⟨network, _, _, networkAccepted, _, _, rfl⟩ :=
    syncAndValidateHarvesterConfig_ok_iff.mp accepted
  unfold Config.getManagementNetwork at configured
  split at configured
  · rename_i present
    cases configured
    rcases networkAccepted with ⟨-, unset⟩ | ⟨-, normalized⟩
    · exact (present unset).elim
    · exact isNamespacedName_of_normalize normalized
  · cases configured

/-- What the two consumers of a management network do with it. -/
structure ConsumersAgree (cfg : Config) (mgmt : String) : Prop where
  namespaced : IsNamespacedName mgmt
  accepted : normalizeNetworkName networkTypeManagement mgmt = .ok mgmt
  written :
    ∀ lb : LoadBalancer,
      (patchLB cfg lb).annotations.lookup
        annotationKeyGuestClusterManagementNetworkOnLB = some mgmt
  compared :
    ∀ vmi : VirtualMachineInstance,
      getManagementNetworks vmi cfg =
        ((vmi.networks.find? fun network =>
            network.multus.any fun multus => multus.networkName = mgmt).map
          Network.name).toList

/--
The effective values of accepted flags are a fixed point of the
synchronisation, and both consumers of the management network use the same
`namespace/name`.
-/
theorem syncAndValidateHarvesterConfig_idempotent
    (flags : Flags)
    (start final : Config)
    (accepted : syncAndValidateHarvesterConfig flags start = (.ok (), final)) :
    (∀ other : Config,
      syncAndValidateHarvesterConfig
        (final.effectiveFlags flags.cloudProviderControllers) other = (.ok (), final)) ∧
      ∀ mgmt, final.getManagementNetwork = some mgmt → ConsumersAgree final mgmt := by
  refine ⟨syncAndValidateHarvesterConfig_fixed accepted, fun mgmt configured => ?_⟩
  have namespaced := isNamespacedName_of_sync accepted configured
  have normal := @normalizeNetworkName_of_namespaced networkTypeManagement mgmt namespaced
  refine { namespaced := namespaced, accepted := normal, written := ?_, compared := ?_ }
  · intro lb
    simp only [patchLB, configured, normal, NilableMap.lookup_write_self]
  · intro vmi
    simp only [getManagementNetworks, configured]

/-- Flags with quotes, blanks, a bare network name and an empty range. -/
def quotedFlags : Flags where
  clusterName := "\"prod\""
  managementNetwork := "vlan1"
  nodeIPCIDR := " 10.0.0.0/24 ,, fd00::/8"
  nodeExcludeIPRanges := [" 10.0.0.5 ", ""]
  cloudProviderControllers := ["*"]

/-- What the quoted flags become. -/
def syncedConfig : Config where
  clusterName := "prod"
  cloudProviderControllers := "*"
  managementNetwork := "default/vlan1"
  nodeIPCIDR := "10.0.0.0/24,fd00::/8"
  nodeExcludeIPRanges := ["10.0.0.5"]
  internalNodeIPCIDRPrefixes :=
    [{ addr := .v4 0x0A000000#32, bits := some 24 },
      { addr := .v6 0xFD000000000000000000000000000000#128 "", bits := some 8 }]
  internalNodeExcludeIPPrefixes := [{ addr := .v4 0x0A000005#32, bits := some 32 }]

theorem quotedFlags_idempotent :
    syncAndValidateHarvesterConfig (syncedConfig.effectiveFlags ["*"]) {} =
        (.ok (), syncedConfig) ∧
      ConsumersAgree syncedConfig "default/vlan1" := by
  have accepted : syncAndValidateHarvesterConfig quotedFlags {} = (.ok (), syncedConfig) := by
    rfl
  have results := syncAndValidateHarvesterConfig_idempotent quotedFlags {} syncedConfig accepted
  exact ⟨results.1 {}, results.2 "default/vlan1" rfl⟩

end Results

end HarvesterCloudProvider
