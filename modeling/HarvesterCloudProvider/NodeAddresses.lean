import HarvesterCloudProvider.Config
import HarvesterCloudProvider.FirstOfClass
import HarvesterCloudProvider.JsonText
import HarvesterCloudProvider.VirtualMachineInstance

namespace HarvesterCloudProvider

/-!
# Addresses of a node

The addresses of a node come from the status of its virtual machine instance.
The provider picks one network, takes the addresses reported for it, drops the
unusable ones, marks at most one address of each family as internal and hides
some of the others.  Three modes decide which address is internal and which of
the others are hidden.
-/

/-- The address types the provider reports. -/
inductive NodeAddressType where
  | internalIP
  | externalIP
  | hostName
  deriving Repr, DecidableEq

/-- An address in the status of a node. -/
structure NodeAddress where
  type : NodeAddressType
  address : String
  deriving Repr, DecidableEq

/-- A node of the guest cluster. -/
structure Node where
  name : String
  annotations : StringMap := none

/-- How addresses are told apart. -/
inductive ProcessingMode where
  | providedIP
  | nodeIPCIDR
  | fallback
  deriving Repr, DecidableEq

/-- Everything that decides about the addresses of one node. -/
structure AddressContext where
  mode : ProcessingMode
  nodeIPCIDRPrefixes : List Prefix := []
  nodeExcludeIPPrefixes : List Prefix := []
  providedIP : String := ""
  legacyExcludes : List String := []
  network : String

/-- An address on its way into the status of a node. -/
structure CandidateAddress where
  addr : Addr
  nodeAddr : NodeAddress
  deriving Repr, DecidableEq

/-- `ToNodeAddresses`. -/
def toNodeAddresses (candidates : List CandidateAddress) : List NodeAddress :=
  candidates.map CandidateAddress.nodeAddr

/-- The names of the networks that can carry node addresses. -/
def getManagementNetworks (vmi : VirtualMachineInstance) (cfg : Config) : List String :=
  match cfg.getManagementNetwork with
  | some mgmt =>
      ((vmi.networks.find? fun network =>
          network.multus.any fun multus => multus.networkName = mgmt).map
        Network.name).toList
  | none =>
      vmi.networks.filterMap fun network =>
        network.multus.map fun _ => network.name

/-- The addresses a user wants to hide, when their annotation is well formed. -/
def getAdditionalInternalIPs (node : Node) : List String :=
  match node.annotations.lookup keyAdditionalInternalIPs with
  | none => []
  | some text =>
      if text = "" ∨ text = "[]" ∨ text = "null" then
        []
      else
        (JsonText.unmarshalStringSlice text).getD []

/-- What the legacy annotations of a node ask for. -/
structure LegacyParams where
  disableProvidedIP : Bool
  useProvidedIP : Bool := false
  providedIP : String := ""
  legacyExcludes : List String := []

/-- Read the legacy annotations, unless they are disabled. -/
def getLegacyModeRelatedParams (node : Node) (cfg : Config) : LegacyParams :=
  if cfg.disableAnnotationAlphaProvidedIPAddr then
    { disableProvidedIP := true }
  else
    let legacyExcludes := getAdditionalInternalIPs node
    match node.annotations.lookup annotationAlphaProvidedIPAddr with
    | some value =>
        { disableProvidedIP := false
          useProvidedIP := true
          providedIP := value
          legacyExcludes := legacyExcludes }
    | none =>
        { disableProvidedIP := false
          legacyExcludes := legacyExcludes }

/-- Choose the mode: the annotation, then the prefixes, then the fallback. -/
def buildIPAddressProcessContext
    (node : Node)
    (network : String)
    (cfg : Config) :
    AddressContext :=
  let legacy := getLegacyModeRelatedParams node cfg
  if legacy.useProvidedIP && !legacy.disableProvidedIP then
    { mode := .providedIP
      providedIP := legacy.providedIP
      legacyExcludes := legacy.legacyExcludes
      network := network }
  else if cfg.getNodeIPCIDRPrefixes ≠ [] then
    { mode := .nodeIPCIDR
      nodeIPCIDRPrefixes := cfg.getNodeIPCIDRPrefixes
      nodeExcludeIPPrefixes := cfg.getNodeExcludeIPPrefixes
      network := network }
  else
    { mode := .fallback
      legacyExcludes := legacy.legacyExcludes
      network := network }

/-- The addresses that the status reports for a network. -/
def getRawIPsFromVMINetwork
    (vmi : VirtualMachineInstance)
    (targetNetwork : String) :
    Except Err (List String) :=
  match vmi.interfaces.find? fun iface => iface.name = targetNetwork with
  | some iface =>
      if iface.ips ≠ [] then
        .ok iface.ips
      else if iface.ip ≠ "" then
        .ok [iface.ip]
      else
        .error (.errorf
          (s!"management network {quote targetNetwork} found but no IPs " ++
            s!"reported yet for VMI {vmi.ns}/{vmi.name}"))
  | none =>
      .error (.errorf
        (s!"management network {quote targetNetwork} status not yet available " ++
          s!"for VMI {vmi.ns}/{vmi.name}"))

/-- Whether an address is of no use to other nodes. -/
def isInternalOnly (addr : Addr) : Bool :=
  !addr.isValid ||
    addr.isLoopback ||
    addr.isMulticast ||
    addr.isUnspecified ||
    addr.isLinkLocalUnicast ||
    addr.isLinkLocalMulticast ||
    (addr.is4 && addr = .v4 0xFFFFFFFF#32)

/-- `ConvertAndFilterIPs`: parse all addresses and keep the useful ones. -/
def convertAndFilterIPs : List String → Except Err (List Addr)
  | [] => .ok []
  | ipStr :: rest =>
      match parseAddr ipStr with
      | none => .error (.errorf s!"failed to parse IP {quote ipStr}")
      | some addr => do
          let valid ← convertAndFilterIPs rest
          return if isInternalOnly addr then valid else addr :: valid

/--
The loop of the three modes: an address becomes internal when it is wanted and
no earlier one of its family was.
-/
def categorize (wanted : Addr → Bool) : Bool → Bool → List Addr → List CandidateAddress
  | _, _, [] => []
  | hasInternalIPv4, hasInternalIPv6, addr :: rest =>
      let isV4 := addr.is4
      let needsInternal := (isV4 && !hasInternalIPv4) || (!isV4 && !hasInternalIPv6)
      let isInternal := needsInternal && wanted addr
      { addr := addr
        nodeAddr :=
          { type := if isInternal then .internalIP else .externalIP
            address := addr.toText } } ::
        categorize wanted
          (hasInternalIPv4 || (isInternal && isV4))
          (hasInternalIPv6 || (isInternal && !isV4))
          rest

/-- Internal is the address with the annotated text. -/
def categorizeByProvidedIP
    (addrs : List Addr)
    (providedIP : String) :
    List CandidateAddress :=
  categorize (fun addr => addr.toText = providedIP) false false addrs

/-- Internal is the first address in one of the prefixes. -/
def categorizeByCIDR (addrs : List Addr) (prefixes : List Prefix) : List CandidateAddress :=
  categorize (fun addr => prefixes.any fun pfx => pfx.contains addr) false false addrs

/-- Internal is the first address. -/
def categorizeByFallback (addrs : List Addr) : List CandidateAddress :=
  categorize (fun _ => true) false false addrs

/-- Drop external addresses in one of the prefixes. -/
def filterByCIDRPolicy
    (addrs : List CandidateAddress)
    (prefixes : List Prefix) :
    List CandidateAddress :=
  addrs.filter fun candidate =>
    if candidate.nodeAddr.type = .internalIP then
      true
    else
      !prefixes.any fun pfx => pfx.contains candidate.addr

/-- Drop external addresses whose text is listed. -/
def filterByExcludeList
    (addrs : List CandidateAddress)
    (excludes : List String) :
    List CandidateAddress :=
  if excludes = [] then
    addrs
  else
    addrs.filter fun candidate =>
      !(candidate.nodeAddr.type = .externalIP &&
        excludes.contains candidate.nodeAddr.address)

/-- Mark and filter the addresses as the mode says. -/
def resolveNodeIPs (ips : List Addr) (ctx : AddressContext) : List CandidateAddress :=
  match ctx.mode with
  | .providedIP =>
      filterByExcludeList (categorizeByProvidedIP ips ctx.providedIP) ctx.legacyExcludes
  | .nodeIPCIDR =>
      filterByCIDRPolicy (categorizeByCIDR ips ctx.nodeIPCIDRPrefixes)
        ctx.nodeExcludeIPPrefixes
  | .fallback =>
      filterByExcludeList (categorizeByFallback ips) ctx.legacyExcludes

/-- The addresses of a node; whatever is missing, its host name is reported. -/
def getNodeAddresses
    (node : Node)
    (vmi : Option VirtualMachineInstance)
    (cfg : Config) :
    Except Err (List NodeAddress) :=
  match vmi with
  | none =>
      .error (.errorf
        s!"unable to fetch IPs from node {node.name} as its VMI is nil")
  | some vmi =>
      let hostName : NodeAddress := { type := .hostName, address := node.name }
      match getManagementNetworks vmi cfg with
      | [] => .ok [hostName]
      | targetNetwork :: _ =>
          let ctx := buildIPAddressProcessContext node targetNetwork cfg
          match getRawIPsFromVMINetwork vmi targetNetwork with
          | .error _ => .ok [hostName]
          | .ok rawIPStrings =>
              match convertAndFilterIPs rawIPStrings with
              | .error _ => .ok [hostName]
              | .ok validIPs =>
                  if validIPs = [] then
                    .ok [hostName]
                  else
                    let candidates := resolveNodeIPs validIPs ctx
                    if candidates = [] then
                      .ok [hostName]
                    else
                      .ok (toNodeAddresses candidates ++ [hostName])

section Specification

/--
The target network: the first Multus network, or the first on the configured
management network.
-/
def targetNetwork (vmi : VirtualMachineInstance) (cfg : Config) : Option String :=
  (vmi.networks.find? fun network =>
      network.multus.any fun multus =>
        cfg.managementNetwork = "" || multus.networkName = cfg.managementNetwork).map
    Network.name

/-- What the first interface of a network reports: its list, else its address. -/
def reportedIPs (vmi : VirtualMachineInstance) (network : String) : Option (List String) :=
  (vmi.interfaces.find? fun iface => iface.name = network).bind fun iface =>
    if iface.ips ≠ [] then some iface.ips
    else if iface.ip ≠ "" then some [iface.ip]
    else none

/-- The usable reported addresses; none when one of them is no address. -/
def usableAddresses (vmi : VirtualMachineInstance) (cfg : Config) : List Addr :=
  (((targetNetwork vmi cfg).bind (reportedIPs vmi)).bind fun texts =>
    (texts.mapM parseAddr).map fun addrs =>
      addrs.filter fun addr => !isInternalOnly addr).getD []

/-- Which address is internal and which others are hidden. -/
structure AddressPolicy where
  preferred : Addr → Bool
  excluded : Addr → Bool

/-- The policy for a node: annotation before prefixes before the first address. -/
def addressPolicy (node : Node) (cfg : Config) : AddressPolicy :=
  let hidden : Addr → Bool := fun addr =>
    !cfg.disableAnnotationAlphaProvidedIPAddr &&
      (getAdditionalInternalIPs node).contains addr.toText
  let provided :=
    if cfg.disableAnnotationAlphaProvidedIPAddr then
      none
    else
      node.annotations.lookup annotationAlphaProvidedIPAddr
  match provided with
  | some text =>
      { preferred := fun addr => addr.toText = text
        excluded := hidden }
  | none =>
      if cfg.internalNodeIPCIDRPrefixes ≠ [] then
        { preferred := fun addr =>
            cfg.internalNodeIPCIDRPrefixes.any fun pfx => pfx.contains addr
          excluded := fun addr =>
            cfg.internalNodeExcludeIPPrefixes.any fun pfx => pfx.contains addr }
      else
        { preferred := fun _ => true
          excluded := hidden }

/-- The reported form of a marked address. -/
def nodeAddressOf (entry : Addr × Bool) : NodeAddress where
  type := if entry.2 then .internalIP else .externalIP
  address := entry.1.toText

/-- A marked address as the provider carries it. -/
def candidateOf (entry : Addr × Bool) : CandidateAddress where
  addr := entry.1
  nodeAddr := nodeAddressOf entry

end Specification

section Selection

/-- The flags of the loop say which families have an internal address. -/
theorem categorize_eq
    (wanted : Addr → Bool)
    (earlier addrs : List Addr) :
    categorize wanted
        (anyWanted Addr.is4 wanted earlier true)
        (anyWanted Addr.is4 wanted earlier false)
        addrs =
      (markFirst Addr.is4 wanted earlier addrs).map candidateOf := by
  induction addrs generalizing earlier with
  | nil =>
      rfl
  | cons addr rest inductionHypothesis =>
      have next := inductionHypothesis (earlier ++ [addr])
      simp only [anyWanted_append, anyWanted_singleton] at next
      simp only [categorize, markFirst, List.map_cons, ← next, candidateOf, nodeAddressOf]
      cases family : addr.is4 with
      | true =>
          cases anyWanted Addr.is4 wanted earlier true <;>
            cases wanted addr <;> simp
      | false =>
          cases anyWanted Addr.is4 wanted earlier false <;>
            cases wanted addr <;> simp

/-- Every mode marks the first preferred address of each family. -/
theorem categorize_start (wanted : Addr → Bool) (addrs : List Addr) :
    categorize wanted false false addrs =
      (markFirst Addr.is4 wanted [] addrs).map candidateOf :=
  categorize_eq wanted [] addrs

/-- Both filters keep internal addresses and drop excluded external ones. -/
theorem filter_candidates
    {keep : CandidateAddress → Bool}
    (excluded : Addr → Bool)
    (keeps : ∀ entry, keep (candidateOf entry) = (entry.2 || !excluded entry.1))
    (entries : List (Addr × Bool)) :
    (entries.map candidateOf).filter keep =
      (entries.filter fun entry => entry.2 || !excluded entry.1).map candidateOf := by
  rw [List.filter_map]
  refine congrArg (List.map candidateOf) (List.filter_congr fun entry _ => ?_)
  exact keeps entry

theorem filterByCIDRPolicy_eq
    (entries : List (Addr × Bool))
    (prefixes : List Prefix) :
    filterByCIDRPolicy (entries.map candidateOf) prefixes =
      (entries.filter fun entry =>
        entry.2 || !prefixes.any fun pfx => pfx.contains entry.1).map candidateOf := by
  refine filter_candidates (fun addr => prefixes.any fun pfx => pfx.contains addr)
    (fun entry => ?_) entries
  cases isInternal : entry.2 <;> simp [candidateOf, nodeAddressOf, isInternal]

theorem filterByExcludeList_eq
    (entries : List (Addr × Bool))
    (excludes : List String) :
    filterByExcludeList (entries.map candidateOf) excludes =
      (entries.filter fun entry =>
        entry.2 || !excludes.contains entry.1.toText).map candidateOf := by
  unfold filterByExcludeList
  split
  · rename_i none
    simp [none]
  · refine filter_candidates (fun addr => excludes.contains addr.toText)
      (fun entry => ?_) entries
    cases isInternal : entry.2 <;> simp [candidateOf, nodeAddressOf, isInternal]

/-- The context of a node carries out its policy. -/
theorem resolveNodeIPs_eq
    (node : Node)
    (network : String)
    (cfg : Config)
    (ips : List Addr) :
    resolveNodeIPs ips (buildIPAddressProcessContext node network cfg) =
      ((markFirst Addr.is4 (addressPolicy node cfg).preferred [] ips).filter fun entry =>
        entry.2 || !(addressPolicy node cfg).excluded entry.1).map candidateOf := by
  cases disabled : cfg.disableAnnotationAlphaProvidedIPAddr with
  | true =>
      by_cases prefixes : cfg.internalNodeIPCIDRPrefixes = []
      · simp [buildIPAddressProcessContext, getLegacyModeRelatedParams, addressPolicy,
          Config.getNodeIPCIDRPrefixes, disabled, prefixes, resolveNodeIPs,
          categorizeByFallback, categorize_start, filterByExcludeList]
      · simp [buildIPAddressProcessContext, getLegacyModeRelatedParams, addressPolicy,
          Config.getNodeIPCIDRPrefixes, Config.getNodeExcludeIPPrefixes, disabled,
          prefixes, resolveNodeIPs, categorizeByCIDR, categorize_start,
          filterByCIDRPolicy_eq]
  | false =>
      cases annotated : node.annotations.lookup annotationAlphaProvidedIPAddr with
      | some text =>
          simp [buildIPAddressProcessContext, getLegacyModeRelatedParams, addressPolicy,
            disabled, annotated, resolveNodeIPs, categorizeByProvidedIP,
            categorize_start, filterByExcludeList_eq]
      | none =>
          by_cases prefixes : cfg.internalNodeIPCIDRPrefixes = []
          · simp [buildIPAddressProcessContext, getLegacyModeRelatedParams,
              addressPolicy, Config.getNodeIPCIDRPrefixes, disabled, annotated, prefixes,
              resolveNodeIPs, categorizeByFallback, categorize_start,
              filterByExcludeList_eq]
          · simp [buildIPAddressProcessContext, getLegacyModeRelatedParams,
              addressPolicy, Config.getNodeIPCIDRPrefixes,
              Config.getNodeExcludeIPPrefixes, disabled, annotated, prefixes,
              resolveNodeIPs, categorizeByCIDR, categorize_start, filterByCIDRPolicy_eq]

/-- The first management network is the target network. -/
theorem getManagementNetworks_head
    (vmi : VirtualMachineInstance)
    (cfg : Config) :
    (getManagementNetworks vmi cfg).head? = targetNetwork vmi cfg := by
  unfold getManagementNetworks targetNetwork Config.getManagementNetwork
  by_cases configured : cfg.managementNetwork = ""
  · simp only [configured, ne_eq, not_true_eq_false, ↓reduceIte, decide_true,
      Bool.true_or]
    induction vmi.networks with
    | nil =>
        rfl
    | cons network rest inductionHypothesis =>
        cases multus : network.multus with
        | none =>
            simpa [multus] using inductionHypothesis
        | some definition =>
            simp [multus]
  · simp only [configured, ne_eq, not_false_eq_true, ↓reduceIte, decide_false,
      Bool.false_or]
    simp

theorem getRawIPsFromVMINetwork_toOption
    (vmi : VirtualMachineInstance)
    (network : String) :
    (getRawIPsFromVMINetwork vmi network).toOption = reportedIPs vmi network := by
  unfold getRawIPsFromVMINetwork reportedIPs
  cases vmi.interfaces.find? fun iface => iface.name = network with
  | none =>
      rfl
  | some iface =>
      dsimp only [Option.bind_some]
      repeat' split
      all_goals rfl

theorem convertAndFilterIPs_toOption (texts : List String) :
    (convertAndFilterIPs texts).toOption =
      (texts.mapM parseAddr).map fun addrs =>
        addrs.filter fun addr => !isInternalOnly addr := by
  induction texts with
  | nil =>
      rfl
  | cons text rest inductionHypothesis =>
      rw [convertAndFilterIPs, List.mapM_cons]
      cases parsed : parseAddr text with
      | none =>
          rfl
      | some addr =>
          cases converted : convertAndFilterIPs rest with
          | error error =>
              rw [converted] at inductionHypothesis
              have unparsed : rest.mapM parseAddr = none :=
                Option.map_eq_none_iff.mp inductionHypothesis.symm
              rw [unparsed]
              rfl
          | ok valid =>
              rw [converted] at inductionHypothesis
              obtain ⟨addrs, all, rfl⟩ :=
                Option.map_eq_some_iff.mp inductionHypothesis.symm
              rw [all]
              cases useless : isInternalOnly addr <;>
                simp [Except.toOption, bind, Except.bind, pure, Except.pure, useless]

/-- The marked usable addresses without the excluded external ones. -/
def selectedAddresses
    (node : Node)
    (vmi : VirtualMachineInstance)
    (cfg : Config) :
    List (Addr × Bool) :=
  (markFirst Addr.is4 (addressPolicy node cfg).preferred []
    (usableAddresses vmi cfg)).filter fun entry =>
      entry.2 || !(addressPolicy node cfg).excluded entry.1

/-- Every exit of the function reports the selected addresses. -/
theorem getNodeAddresses_eq
    (node : Node)
    (vmi : VirtualMachineInstance)
    (cfg : Config) :
    getNodeAddresses node (some vmi) cfg =
      .ok ((selectedAddresses node vmi cfg).map nodeAddressOf ++
        [{ type := .hostName, address := node.name }]) := by
  have networks := getManagementNetworks_head vmi cfg
  have noneSelected
      (nothing : usableAddresses vmi cfg = []) :
      selectedAddresses node vmi cfg = [] := by
    rw [selectedAddresses, nothing]
    rfl
  unfold getNodeAddresses
  dsimp only
  cases found : getManagementNetworks vmi cfg with
  | nil =>
      rw [found] at networks
      rw [noneSelected (by rw [usableAddresses, ← networks]; rfl)]
      rfl
  | cons network rest =>
      rw [found] at networks
      have target : targetNetwork vmi cfg = some network := networks.symm
      have raw := getRawIPsFromVMINetwork_toOption vmi network
      dsimp only
      cases reported : getRawIPsFromVMINetwork vmi network with
      | error error =>
          rw [reported] at raw
          rw [noneSelected (by
            rw [usableAddresses, target, Option.bind_some, ← raw]
            rfl)]
          rfl
      | ok texts =>
          rw [reported] at raw
          have converted := convertAndFilterIPs_toOption texts
          have usable :
              usableAddresses vmi cfg = (convertAndFilterIPs texts).toOption.getD [] := by
            rw [usableAddresses, target, Option.bind_some, ← raw, converted]
            rfl
          dsimp only
          cases valid : convertAndFilterIPs texts with
          | error error =>
              rw [valid] at usable
              rw [noneSelected usable]
              rfl
          | ok addrs =>
              rw [valid] at usable
              have same : usableAddresses vmi cfg = addrs := usable
              dsimp only
              split
              · rename_i empty
                rw [noneSelected (same.trans empty)]
                rfl
              · rw [resolveNodeIPs_eq, ← same, ← selectedAddresses]
                split
                · rename_i empty
                  rw [List.map_eq_nil_iff.mp empty]
                  rfl
                · rw [toNodeAddresses, List.map_map]
                  rfl

/--
The addresses of a node are its usable addresses in the reported order and then
its host name.  An address is internal when it is the first preferred one of its
family; external addresses that are excluded are left out.
-/
theorem getNodeAddresses_selection
    (node : Node)
    (vmi : VirtualMachineInstance)
    (cfg : Config) :
    ∃ marked : List (Addr × Bool),
      getNodeAddresses node (some vmi) cfg =
          .ok
            (((marked.filter fun entry =>
                entry.2 || !(addressPolicy node cfg).excluded entry.1).map
              nodeAddressOf) ++ [{ type := .hostName, address := node.name }]) ∧
        marked.map Prod.fst = usableAddresses vmi cfg ∧
        (∀ before entry after,
          marked = before ++ entry :: after →
          (entry.2 = true ↔
            (addressPolicy node cfg).preferred entry.1 = true ∧
              ∀ earlier ∈ before,
                earlier.1.is4 = entry.1.is4 →
                (addressPolicy node cfg).preferred earlier.1 = false)) ∧
        ∀ family,
          ((marked.filter fun entry =>
              entry.2 || !(addressPolicy node cfg).excluded entry.1).filter fun entry =>
                entry.2 && decide (entry.1.is4 = family)).map Prod.fst =
            ((usableAddresses vmi cfg).find? fun addr =>
              decide (addr.is4 = family) &&
                (addressPolicy node cfg).preferred addr).toList := by
  refine ⟨markFirst Addr.is4 (addressPolicy node cfg).preferred []
    (usableAddresses vmi cfg), ?_, ?_, ?_, ?_⟩
  · exact getNodeAddresses_eq node vmi cfg
  · exact markFirst_items [] (usableAddresses vmi cfg)
  · intro before entry after split
    rw [markFirst_marked split, List.nil_append, anyWanted, List.any_map]
    refine and_congr_right fun _ => ?_
    simp
  · intro family
    rw [List.filter_filter, ← List.head?_filter]
    have marked :=
      @markFirst_class Addr Bool _ Addr.is4 (addressPolicy node cfg).preferred []
        (usableAddresses vmi cfg) family
    rw [anyWanted, List.any_nil, if_neg Bool.false_ne_true] at marked
    rw [← marked]
    refine congrArg (List.map Prod.fst) (List.filter_congr fun entry _ => ?_)
    cases entry.2 <;> simp

/-- The first address of each family is internal, a hidden one is left out. -/
example :
    getNodeAddresses
        { name := "node1"
          annotations :=
            NilableMap.write none keyAdditionalInternalIPs "[\"10.0.0.7\"]" }
        (some
          { ns := "default"
            name := "vm1"
            networks := [{ name := "nic-1", multus := some ⟨"default/mgmt"⟩ }]
            interfaces :=
              [{ name := "nic-1"
                 ips := ["127.0.0.1", "10.0.0.5", "10.0.0.7", "fd00::5", "10.0.0.9"] }] })
        {} =
      .ok
        [⟨.internalIP, "10.0.0.5"⟩, ⟨.internalIP, "fd00::5"⟩, ⟨.externalIP, "10.0.0.9"⟩,
          ⟨.hostName, "node1"⟩] := by
  decide +kernel

end Selection

end HarvesterCloudProvider
