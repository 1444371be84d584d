import HarvesterCloudProvider.ConfigSync
import HarvesterCloudProvider.NetAddressText
import HarvesterCloudProvider.NodeAddresses

namespace HarvesterCloudProvider

/-!
# Excluded node addresses

`--node-exclude-ip-ranges` hides addresses of nodes in CIDR mode.  The ranges are
applied after one address of each family has become internal, and internal
addresses are protected, so the ranges hide external addresses only.
-/

section Flags

/-- The flags exclude an address: it lies in one of the ranges. -/
def Flags.Excludes (flags : Flags) (addr : Addr) : Prop :=
  ∃ entry ∈ flags.nodeExcludeIPRanges,
    ∃ pfx,
      parseStringToIPPrefix (trimSpace entry) = .ok pfx ∧
        pfx.contains addr = true

/-- The flags ask for an address as internal: it lies in a CIDR. -/
def Flags.prefers (flags : Flags) (addr : Addr) : Bool :=
  (cidrPrefixes (cidrParts flags.nodeIPCIDR)).any fun pfx => pfx.contains addr

/-- A node is processed in CIDR mode. -/
def Node.InCIDRMode (node : Node) (cfg : Config) : Prop :=
  ∀ network, (buildIPAddressProcessContext node network cfg).mode = .nodeIPCIDR

/-- An empty text is no range. -/
theorem parseStringToIPPrefix_empty (pfx : Prefix) :
    parseStringToIPPrefix "" ≠ .ok pfx := by
  intro parsed
  cases parsed

/-- The stored prefixes are those of the ranges. -/
theorem mem_of_scanNodeExcludeIPRanges
    {entries cleanRanges : List String}
    {excludePrefixes : List Prefix}
    (accepted : scanNodeExcludeIPRanges entries = .ok (cleanRanges, excludePrefixes))
    (pfx : Prefix) :
    pfx ∈ excludePrefixes ↔
      ∃ entry ∈ entries, parseStringToIPPrefix (trimSpace entry) = .ok pfx := by
  induction entries generalizing cleanRanges excludePrefixes with
  | nil =>
      cases accepted
      simp
  | cons entry rest inductionHypothesis =>
      unfold scanNodeExcludeIPRanges at accepted
      dsimp only at accepted
      rw [List.exists_mem_cons_iff]
      split at accepted
      · rename_i blank
        rw [inductionHypothesis accepted, blank]
        simp [parseStringToIPPrefix_empty]
      · split at accepted
        · cases accepted
        · rename_i own parsed
          obtain ⟨⟨laterRanges, laterPrefixes⟩, later, same⟩ := except_bind_ok.mp accepted
          cases same
          rw [List.mem_cons, inductionHypothesis later, parsed, Except.ok.injEq, eq_comm]

/-- In CIDR mode the policy comes from the prefixes. -/
theorem addressPolicy_of_inCIDRMode
    {node : Node}
    {cfg : Config}
    (cidrMode : node.InCIDRMode cfg) :
    addressPolicy node cfg =
      { preferred := fun addr =>
          cfg.internalNodeIPCIDRPrefixes.any fun pfx => pfx.contains addr
        excluded := fun addr =>
          cfg.internalNodeExcludeIPPrefixes.any fun pfx => pfx.contains addr } := by
  have mode := cidrMode ""
  by_cases prefixes : cfg.internalNodeIPCIDRPrefixes = []
  · -- Without prefixes the mode is one of the two others.
    unfold buildIPAddressProcessContext at mode
    dsimp only at mode
    split at mode
    · cases mode
    · rw [if_neg (not_not.mpr (show cfg.getNodeIPCIDRPrefixes = [] from prefixes))] at mode
      cases mode
  · cases disabled : cfg.disableAnnotationAlphaProvidedIPAddr with
    | true =>
        simp [addressPolicy, disabled, prefixes]
    | false =>
        cases annotated : node.annotations.lookup annotationAlphaProvidedIPAddr with
        | some text =>
            simp [buildIPAddressProcessContext, getLegacyModeRelatedParams, disabled,
              annotated] at mode
        | none =>
            simp [addressPolicy, disabled, annotated, prefixes]

end Flags

section Reported

variable {node : Node}
variable {vmi : VirtualMachineInstance}
variable {cfg : Config}

/-- A usable address is a valid one. -/
theorem isValid_of_usable
    {addr : Addr}
    (usable : addr ∈ usableAddresses vmi cfg) :
    addr.isValid = true := by
  unfold usableAddresses at usable
  cases reported : (targetNetwork vmi cfg).bind (reportedIPs vmi) with
  | none =>
      simp [reported] at usable
  | some texts =>
      cases parsed : texts.mapM parseAddr with
      | none =>
          simp [reported, parsed] at usable
      | some addrs =>
          rw [reported, Option.bind_some, parsed] at usable
          have useful := (List.mem_filter.mp usable).2
          cases addr with
          | invalid =>
              cases useful
          | v4 bits =>
              rfl
          | v6 bits zone =>
              rfl

/-- A selected address is a usable one. -/
theorem usable_of_selected
    {entry : Addr × Bool}
    (selected : entry ∈ selectedAddresses node vmi cfg) :
    entry.1 ∈ usableAddresses vmi cfg := by
  rw [← @markFirst_items Addr Bool _ Addr.is4 (addressPolicy node cfg).preferred []
    (usableAddresses vmi cfg)]
  exact List.mem_map_of_mem (List.mem_of_mem_filter selected)

/-- An address is reported in a role exactly if it is selected with the mark of the role. -/
theorem mem_reported_iff
    {addr : Addr}
    (valid : addr.isValid = true)
    (isInternal : Bool) :
    nodeAddressOf (addr, isInternal) ∈
        (selectedAddresses node vmi cfg).map nodeAddressOf ++
          [{ type := .hostName, address := node.name }] ↔
      (addr, isInternal) ∈ selectedAddresses node vmi cfg := by
  have noHostName : nodeAddressOf (addr, isInternal) ≠
      { type := .hostName, address := node.name } := by
    intro same
    have role := congrArg NodeAddress.type same
    cases isInternal <;> cases role
  rw [List.mem_append, List.mem_singleton, or_iff_left noHostName, List.mem_map]
  constructor
  · rintro ⟨⟨other, mark⟩, selected, same⟩
    have sameText : other.toText = addr.toText := congrArg NodeAddress.address same
    have sameAddr : other = addr :=
      toText_injective (isValid_of_usable (usable_of_selected selected)) valid sameText
    have sameMark : mark = isInternal := by
      have role := congrArg NodeAddress.type same
      cases mark <;> cases isInternal <;> first | rfl | cases role
    rw [← sameAddr, ← sameMark]
    exact selected
  · intro selected
    exact ⟨_, selected, rfl⟩

/-- Only a valid address lies in a prefix. -/
theorem isValid_of_contains
    {pfx : Prefix}
    {addr : Addr}
    (inside : pfx.contains addr = true) :
    addr.isValid = true := by
  cases addr with
  | invalid =>
      simp [Prefix.contains] at inside
  | v4 bits =>
      rfl
  | v6 bits zone =>
      rfl

end Reported

/--
An excluded address of a node in CIDR mode is never reported as external.  It is
reported as internal exactly when it is the first usable address of its family
in one of the node IP CIDRs, since internal addresses are protected.
-/
theorem nodeExcludeIPRanges_hide_external
    {flags : Flags}
    {start cfg : Config}
    (accepted : syncAndValidateHarvesterConfig flags start = (.ok (), cfg))
    {node : Node}
    (cidrMode : node.InCIDRMode cfg)
    (vmi : VirtualMachineInstance)
    {addr : Addr}
    (excluded : flags.Excludes addr) :
    ∃ addresses,
      getNodeAddresses node (some vmi) cfg = .ok addresses ∧
        { type := .externalIP, address := addr.toText } ∉ addresses ∧
        ({ type := .internalIP, address := addr.toText } ∈ addresses ↔
          ((usableAddresses vmi cfg).find? fun other =>
            decide (other.is4 = addr.is4) && flags.prefers other) = some addr) := by
  obtain ⟨network, cleanRanges, excludePrefixes, -, -, scanned, same⟩ :=
    syncAndValidateHarvesterConfig_ok_iff.mp accepted
  obtain ⟨entry, listed, pfx, parsed, inside⟩ := excluded
  have valid := isValid_of_contains inside
  have policy := addressPolicy_of_inCIDRMode cidrMode
  have hidden : (addressPolicy node cfg).excluded addr = true := by
    rw [policy, same]
    exact List.any_eq_true.mpr
      ⟨pfx, (mem_of_scanNodeExcludeIPRanges scanned pfx).mpr ⟨entry, listed, parsed⟩, inside⟩
  have preferred : (addressPolicy node cfg).preferred = flags.prefers := by
    rw [policy, same]
    rfl
  refine ⟨_, getNodeAddresses_eq node vmi cfg, ?_, ?_⟩
  · intro reported
    have selected := (mem_reported_iff valid false).mp reported
    have kept := (List.mem_filter.mp selected).2
    rw [hidden] at kept
    cases kept
  · refine (mem_reported_iff valid true).trans ?_
    rw [← preferred, ← mem_markFirst_iff]
    simp [selectedAddresses]

/-- The whole subnet of the nodes is excluded. -/
def excludedSubnetFlags : Flags where
  nodeIPCIDR := "192.168.0.0/16"
  nodeExcludeIPRanges := ["192.168.0.0/16"]

/-- What these flags become. -/
def excludedSubnetConfig : Config where
  nodeIPCIDR := "192.168.0.0/16"
  nodeExcludeIPRanges := ["192.168.0.0/16"]
  internalNodeIPCIDRPrefixes := [{ addr := .v4 0xC0A80000#32, bits := some 16 }]
  internalNodeExcludeIPPrefixes := [{ addr := .v4 0xC0A80000#32, bits := some 16 }]

/-- An instance with two addresses in this subnet. -/
def subnetInstance : VirtualMachineInstance where
  ns := "default"
  name := "vm1"
  networks := [{ name := "nic-1", multus := some ⟨"default/mgmt"⟩ }]
  interfaces := [{ name := "nic-1", ips := ["192.168.100.10", "192.168.120.10"] }]

/-- The second address of the subnet is excluded. -/
theorem excludedSubnet_excludes : excludedSubnetFlags.Excludes (.v4 0xC0A8780A#32) :=
  ⟨"192.168.0.0/16", List.mem_cons_self, { addr := .v4 0xC0A80000#32, bits := some 16 },
    by rfl, by decide⟩

/-- The second address of the subnet is hidden. -/
theorem excludedSubnet_hides_second :
    ∃ addresses,
      getNodeAddresses { name := "node1" } (some subnetInstance) excludedSubnetConfig =
          .ok addresses ∧
        { type := .externalIP, address := "192.168.120.10" } ∉ addresses ∧
        { type := .internalIP, address := "192.168.120.10" } ∉ addresses := by
  obtain ⟨addresses, reported, noExternal, internal⟩ :=
    @nodeExcludeIPRanges_hide_external excludedSubnetFlags {} excludedSubnetConfig (by rfl)
      { name := "node1" } (fun _ => rfl) subnetInstance _ excludedSubnet_excludes
  refine ⟨addresses, reported, noExternal, fun listed => ?_⟩
  have first := internal.mp listed
  revert first
  decide +kernel

/-- The first address of the subnet is excluded and still reported. -/
theorem excludedSubnet_reports_first :
    ¬ ∀ (flags : Flags) (start cfg : Config),
      syncAndValidateHarvesterConfig flags start = (.ok (), cfg) →
      flags.nodeIPCIDR ≠ "" →
      ∀ node : Node,
        node.InCIDRMode cfg →
        ∀ (vmi : VirtualMachineInstance) (addresses : List NodeAddress),
          getNodeAddresses node (some vmi) cfg = .ok addresses →
          ∀ addr,
            flags.Excludes addr →
            { type := .internalIP, address := addr.toText } ∉ addresses ∧
              { type := .externalIP, address := addr.toText } ∉ addresses := by
  intro filtered
  have reported :
      getNodeAddresses { name := "node1" } (some subnetInstance) excludedSubnetConfig =
        .ok
          [{ type := .internalIP, address := "192.168.100.10" },
            { type := .hostName, address := "node1" }] := by
    decide +kernel
  have excluded : excludedSubnetFlags.Excludes (.v4 0xC0A8640A#32) :=
    ⟨"192.168.0.0/16", List.mem_cons_self, { addr := .v4 0xC0A80000#32, bits := some 16 },
      by rfl, by decide⟩
  have text : (Addr.v4 0xC0A8640A#32).toText = "192.168.100.10" := by
    decide +kernel
  have hidden := (filtered excludedSubnetFlags {} excludedSubnetConfig (by rfl) (by decide)
    { name := "node1" } (fun _ => rfl) subnetInstance _ reported _ excluded).1
  rw [text] at hidden
  exact hidden List.mem_cons_self

end HarvesterCloudProvider
