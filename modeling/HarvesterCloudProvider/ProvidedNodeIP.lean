import HarvesterCloudProvider.NetAddressText
import HarvesterCloudProvider.NodeAddresses

namespace HarvesterCloudProvider

/-!
# The provided node address

The kubelet writes its configured addresses into an annotation of the node.
The framework reads the annotation as one address or a comma-separated pair of
both families, and accepts leading zeros.  The provider compares the whole text
of the annotation with the printed form of each address instead.
-/

section Parsing

/-- A number and the text behind it; too big a number is refused on the way. -/
def numberLoop
    (base : Nat)
    (digitValue : Char → Option Nat) :
    Nat →
    List Char →
    Option (Nat × List Char)
  | n, [] => some (n, [])
  | n, character :: rest =>
      match digitValue character with
      | none => some (n, character :: rest)
      | some digit =>
          if n * base + digit ≥ 0xFFFFFF then
            none
          else
            numberLoop base digitValue (n * base + digit) rest

/-- A number of at least one digit. -/
def leadingNumber
    (base : Nat)
    (digitValue : Char → Option Nat)
    (s : List Char) :
    Option (Nat × List Char) :=
  match s with
  | [] => none
  | character :: _ =>
      match digitValue character with
      | none => none
      | some _ => numberLoop base digitValue 0 s

/-- The value of a decimal digit. -/
def decimalDigitValue (character : Char) : Option Nat :=
  if character.isDigit then some (character.toNat - '0'.toNat) else none

/-- `dtoi`. -/
def dtoi : List Char → Option (Nat × List Char) :=
  leadingNumber 10 decimalDigitValue

/-- `xtoi`. -/
def xtoi : List Char → Option (Nat × List Char) :=
  leadingNumber 16 hexDigitValue

/-- The given number of octets, with a dot before each but the first of four. -/
def octetsSloppy : Nat → List Char → Option (List Nat)
  | 0, s => if s = [] then some [] else none
  | room + 1, s => do
      let s ←
        if room = 3 then
          some s
        else
          match s with
          | '.' :: rest => some rest
          | _ => none
      let (n, rest) ← dtoi s
      if n > 0xFF then
        none
      else
        let octets ← octetsSloppy room rest
        return n :: octets

/-- `parseIPv4` of the framework, which allows leading zeros. -/
def parseIPv4Sloppy (s : List Char) : Option (BitVec 32) :=
  (octetsSloppy 4 s).map fun octets =>
    BitVec.ofNat 32 (octets.foldl (fun value octet => value * 256 + octet) 0)

/-- The groups of an IPv6 address and the position of its ellipsis. -/
def groupsSloppy :
    Nat → List Nat → Option Nat → List Char → Option (List Nat × Option Nat)
  | 0, read, ellipsis, s =>
      if s = [] then some (read, ellipsis) else none
  | room + 1, read, ellipsis, s =>
      match xtoi s with
      | none => none
      | some (n, rest) =>
          if n > 0xFFFF then
            none
          else
            match rest with
            | '.' :: _ =>
                if (ellipsis = none ∧ read.length ≠ 6) ∨ room = 0 then
                  none
                else
                  (parseIPv4Sloppy s).map fun bits =>
                    (bits.toNat % 65536 :: bits.toNat / 65536 :: read, ellipsis)
            | [] => some (n :: read, ellipsis)
            | [':', ':'] =>
                if ellipsis = none then
                  some (n :: read, some (read.length + 1))
                else
                  none
            | ':' :: ':' :: later =>
                if ellipsis = none then
                  groupsSloppy room (n :: read) (some (read.length + 1)) later
                else
                  none
            | ':' :: character :: later =>
                groupsSloppy room (n :: read) ellipsis (character :: later)
            | _ => none

/-- `parseIPv6` of the framework. -/
def parseIPv6Sloppy (s : List Char) : Option (BitVec 128) := do
  let read ←
    match s with
    | [':', ':'] => some ([], some 0)
    | ':' :: ':' :: rest => groupsSloppy 8 [] (some 0) rest
    | _ => groupsSloppy 8 [] none s
  let groups ← expandGroups read
  return bitsOfGroups groups

/-- An IPv4 address in the sixteen bytes of `net.IP`. -/
def to16 (bits : BitVec 32) : BitVec 128 :=
  (0xFFFF#128 <<< 32) ||| bits.setWidth 128

/-- `ParseIPSloppy`: the first separator decides the family. -/
def parseIPSloppy (s : List Char) : Option (BitVec 128) :=
  match s.find? fun character => character = '.' ∨ character = ':' with
  | some '.' => (parseIPv4Sloppy s).map to16
  | some ':' => parseIPv6Sloppy s
  | _ => none

/-- `IsIPv6`: not an IPv4 address in sixteen bytes. -/
def isIPv6 (ip : BitVec 128) : Bool :=
  ip >>> 32 ≠ 0xFFFF#128

/-- `IsUnspecified`: `0.0.0.0` or `::`. -/
def isUnspecifiedIP (ip : BitVec 128) : Bool :=
  ip = to16 0#32 || ip = 0#128

/-- Parse the fields of the annotation one after the other. -/
def parseNodeIPFields : List (List Char) → Except Err (List (BitVec 128))
  | [] => .ok []
  | ip :: rest =>
      match parseIPSloppy ip with
      | none => .error (.errorf s!"could not parse {quote (String.ofList ip)}")
      | some parsed => do
          let later ← parseNodeIPFields rest
          return parsed :: later

/-- `ParseNodeIPAnnotation`: one address, or one of each family. -/
def parseNodeIPAnnotation (nodeIP : String) : Except Err (List (BitVec 128)) := do
  let nodeIPs ← parseNodeIPFields (nodeIP.toList.splitOn ',')
  match nodeIPs with
  | [] => return []
  | [ip] => return [ip]
  | [first, second] =>
      if isIPv6 first = isIPv6 second then
        .error (.errorf "must contain either a single IP or a dual-stack pair of IPs")
      else if isUnspecifiedIP first || isUnspecifiedIP second then
        .error (.errorf "dual-stack node IP cannot include '0.0.0.0' or '::'")
      else
        return [first, second]
  | _ => .error (.errorf "must contain either a single IP or a dual-stack pair of IPs")

/-- The fields of the annotation as the provider's own parser reads them. -/
def annotatedAddrs (nodeIP : String) : Option (List Addr) :=
  (nodeIP.toList.splitOn ',').mapM fun field => parseAddr (String.ofList field)

end Parsing

section Separator

theorem comma_notMem_string4 (bits : BitVec 32) : ',' ∉ string4 bits := by
  intro member
  rcases isDigit_or_dot_of_mem (parseIPv4Fields_string4 bits) member with digit | dot
  · cases digit
  · cases dot

theorem comma_notMem_string6 (bits : BitVec 128) : ',' ∉ string6 bits := by
  intro member
  rcases mem_string6 member with digit | colon
  · cases digit
  · cases colon

/-- A printed address has a comma only in its zone. -/
theorem comma_notMem_toText
    {addr : Addr}
    (zoneless : ',' ∉ addr.zone.toList) :
    ',' ∉ addr.toText.toList := by
  cases addr with
  | invalid =>
      decide
  | v4 bits =>
      simpa [Addr.toText] using comma_notMem_string4 bits
  | v6 bits zone =>
      have inZone : ',' ∉ zoneText zone := by
        unfold zoneText
        split
        · simp
        · simpa [Addr.zone] using zoneless
      unfold Addr.toText
      dsimp only
      split
      · simp [comma_notMem_string4, inZone]
      · simp [comma_notMem_string6, inZone]

/-- The zone of a parsed address is a part of the text. -/
theorem zone_subset_of_parseAddr
    {text : List Char}
    {addr : Addr}
    (parsed : parseAddr (String.ofList text) = some addr) :
    addr.zone.toList ⊆ text := by
  unfold parseAddr at parsed
  rw [String.toList_ofList] at parsed
  split at parsed
  · obtain ⟨bits, -, rfl⟩ := Option.map_eq_some_iff.mp parsed
    simp [Addr.zone]
  · unfold parseIPv6 at parsed
    split at parsed
    · obtain ⟨bits, -, rfl⟩ := Option.map_eq_some_iff.mp parsed
      simp [Addr.zone]
    · cases parsed
    · rename_i separator zone _ rest
      obtain ⟨bits, -, rfl⟩ := Option.map_eq_some_iff.mp parsed
      intro character member
      have inRest : character ∈ List.dropWhile (· ≠ '%') text := by
        rw [rest]
        exact List.mem_cons_of_mem _ (by simpa [Addr.zone] using member)
      exact List.dropWhile_subset _ inRest
  · cases parsed

/-- Every parsed item comes from an item of the list. -/
theorem exists_of_mem_mapM
    {Item Result : Type}
    {parse : Item → Option Result}
    {items : List Item}
    {results : List Result}
    {result : Result}
    (parsed : items.mapM parse = some results)
    (member : result ∈ results) :
    ∃ item ∈ items, parse item = some result := by
  induction items generalizing results with
  | nil =>
      simp only [List.mapM_nil, Option.pure_def, Option.some.injEq] at parsed
      rw [← parsed] at member
      cases member
  | cons first rest inductionHypothesis =>
      rw [List.mapM_cons] at parsed
      obtain ⟨head, here, tailParsed⟩ := Option.bind_eq_some_iff.mp parsed
      obtain ⟨tail, later, made⟩ := Option.bind_eq_some_iff.mp tailParsed
      rw [Option.pure_def, Option.some.injEq] at made
      rw [← made] at member
      rcases List.mem_cons.mp member with rfl | inTail
      · exact ⟨first, List.mem_cons_self, here⟩
      · obtain ⟨item, listed, found⟩ := inductionHypothesis later inTail
        exact ⟨item, List.mem_cons_of_mem _ listed, found⟩

theorem length_of_mapM
    {Item Result : Type}
    {parse : Item → Option Result}
    {items : List Item}
    {results : List Result}
    (parsed : items.mapM parse = some results) :
    results.length = items.length := by
  induction items generalizing results with
  | nil =>
      rw [← Option.some.inj parsed]
      rfl
  | cons first rest inductionHypothesis =>
      rw [List.mapM_cons] at parsed
      obtain ⟨head, here, tailParsed⟩ := Option.bind_eq_some_iff.mp parsed
      obtain ⟨tail, later, made⟩ := Option.bind_eq_some_iff.mp tailParsed
      rw [← Option.some.inj made, List.length_cons, List.length_cons,
        inductionHypothesis later]

theorem length_of_parseNodeIPFields
    {fields : List (List Char)}
    {ips : List (BitVec 128)}
    (parsed : parseNodeIPFields fields = .ok ips) :
    ips.length = fields.length := by
  induction fields generalizing ips with
  | nil =>
      cases parsed
      rfl
  | cons field rest inductionHypothesis =>
      rw [parseNodeIPFields] at parsed
      split at parsed
      · cases parsed
      · cases later : parseNodeIPFields rest with
        | error error =>
            rw [later] at parsed
            cases parsed
        | ok tail =>
            rw [later] at parsed
            cases parsed
            rw [List.length_cons, List.length_cons, inductionHypothesis later]

/-- An accepted annotation has one address for each of its fields. -/
theorem length_of_parseNodeIPAnnotation
    {value : String}
    {ips : List (BitVec 128)}
    {annotated : List Addr}
    (accepted : parseNodeIPAnnotation value = .ok ips)
    (spelled : annotatedAddrs value = some annotated) :
    annotated.length = ips.length := by
  rw [length_of_mapM spelled]
  unfold parseNodeIPAnnotation at accepted
  cases parsed : parseNodeIPFields (value.toList.splitOn ',') with
  | error error =>
      rw [parsed] at accepted
      cases accepted
  | ok nodeIPs =>
      rw [parsed] at accepted
      have same : nodeIPs = ips := by
        simp only [bind, Except.bind, pure, Except.pure] at accepted
        split at accepted
        · exact Except.ok.inj accepted
        · exact Except.ok.inj accepted
        · split at accepted
          · cases accepted
          · split at accepted
            · cases accepted
            · exact Except.ok.inj accepted
        · cases accepted
      rw [← same, length_of_parseNodeIPFields parsed]

/-- An annotation has at least one address. -/
theorem exists_mem_annotatedAddrs
    {value : String}
    {annotated : List Addr}
    (spelled : annotatedAddrs value = some annotated) :
    ∃ addr, addr ∈ annotated := by
  refine List.exists_mem_of_length_pos ?_
  rw [length_of_mapM spelled]
  exact List.length_pos_iff.mpr (List.splitOn_ne_nil ',' value.toList)

/-- An annotation that is the printed form of an address holds no second one. -/
theorem annotatedAddrs_eq_singleton
    {value : String}
    {annotated : List Addr}
    {addr : Addr}
    (spelled : annotatedAddrs value = some annotated)
    (member : addr ∈ annotated)
    (canonical : value = addr.toText) :
    annotated = [addr] := by
  obtain ⟨field, listed, parsed⟩ := exists_of_mem_mapM spelled member
  have zoneless : ',' ∉ addr.zone.toList := fun inZone =>
    separator_notMem_splitOn listed (zone_subset_of_parseAddr parsed inZone)
  have single : value.toList.splitOn ',' = [value.toList] := by
    refine List.splitOn_eq_singleton ?_
    rw [canonical]
    exact comma_notMem_toText zoneless
  rw [annotatedAddrs, single, List.mapM_cons, List.mapM_nil] at spelled
  obtain ⟨only, -, made⟩ := Option.bind_eq_some_iff.mp spelled
  have sameList : [only] = annotated := Option.some.inj made
  rw [← sameList, List.mem_singleton] at member
  rw [← sameList, member]

end Separator

section Selection

variable {node : Node}
variable {vmi : VirtualMachineInstance}
variable {cfg : Config}
variable {value : String}

/-- The provider reports an address as internal. -/
def ReportsInternal
    (node : Node)
    (vmi : VirtualMachineInstance)
    (cfg : Config)
    (text : String) :
    Prop :=
  ∃ addresses,
    getNodeAddresses node (some vmi) cfg = .ok addresses ∧
      { type := .internalIP, address := text } ∈ addresses

/-- With the annotation, internal is the usable address that prints as its text. -/
theorem reportsInternal_iff
    (enabled : cfg.disableAnnotationAlphaProvidedIPAddr = false)
    (carried : node.annotations.lookup annotationAlphaProvidedIPAddr = some value)
    (text : String) :
    ReportsInternal node vmi cfg text ↔
      text = value ∧ ∃ addr ∈ usableAddresses vmi cfg, addr.toText = value := by
  have preferred :
      (addressPolicy node cfg).preferred = fun addr => decide (addr.toText = value) := by
    simp [addressPolicy, enabled, carried]
  unfold ReportsInternal
  rw [getNodeAddresses_eq]
  constructor
  · rintro ⟨addresses, ⟨rfl⟩, member⟩
    simp only [List.mem_append, List.mem_map, List.mem_singleton, NodeAddress.mk.injEq,
      reduceCtorEq, false_and, or_false] at member
    obtain ⟨entry, selected, isInternal⟩ := member
    obtain ⟨listed, -⟩ := List.mem_filter.mp selected
    have marked : entry.2 = true := by
      cases mark : entry.2 with
      | true =>
          rfl
      | false =>
          simp [nodeAddressOf, mark] at isInternal
    have isPreferred := wanted_of_marked listed marked
    rw [preferred, decide_eq_true_eq] at isPreferred
    have inItems : entry.1 ∈ usableAddresses vmi cfg := by
      have mapped := List.mem_map_of_mem (f := Prod.fst) listed
      rwa [markFirst_items] at mapped
    have sameText : entry.1.toText = text := congrArg NodeAddress.address isInternal
    exact ⟨sameText.symm.trans isPreferred, entry.1, inItems, isPreferred⟩
  · rintro ⟨rfl, addr, usable, printed⟩
    obtain ⟨entry, listed, marked, -⟩ :=
      @exists_marked Addr Bool _ Addr.is4 (addressPolicy node cfg).preferred _ addr usable
        (by rw [preferred]; exact decide_eq_true printed)
    have isPreferred := wanted_of_marked listed marked
    rw [preferred, decide_eq_true_eq] at isPreferred
    refine ⟨_, rfl, List.mem_append_left _ (List.mem_map.mpr ⟨entry, ?_, ?_⟩)⟩
    · exact List.mem_filter.mpr ⟨listed, by rw [marked]; rfl⟩
    · rw [nodeAddressOf, marked, isPreferred]
      rfl

/--
For an annotation that the framework accepts and whose addresses are usable, the
internal addresses of the node are the annotated ones exactly when the
annotation is one address in its printed form.
-/
theorem providedNodeIP_honoured_iff
    {ips : List (BitVec 128)}
    {annotated : List Addr}
    (enabled : cfg.disableAnnotationAlphaProvidedIPAddr = false)
    (carried : node.annotations.lookup annotationAlphaProvidedIPAddr = some value)
    (accepted : parseNodeIPAnnotation value = .ok ips)
    (spelled : annotatedAddrs value = some annotated)
    (usable : ∀ addr ∈ annotated, addr ∈ usableAddresses vmi cfg) :
    (∀ text,
      ReportsInternal node vmi cfg text ↔ ∃ addr ∈ annotated, text = addr.toText) ↔
      ips.length = 1 ∧ ∀ addr ∈ annotated, value = addr.toText := by
  have sameLength := length_of_parseNodeIPAnnotation accepted spelled
  constructor
  · intro honoured
    have printed : ∀ addr ∈ annotated, value = addr.toText := by
      intro addr member
      have internal := (honoured addr.toText).mpr ⟨addr, member, rfl⟩
      exact ((reportsInternal_iff enabled carried _).mp internal).1.symm
    refine ⟨?_, printed⟩
    obtain ⟨addr, member⟩ := exists_mem_annotatedAddrs spelled
    rw [← sameLength, annotatedAddrs_eq_singleton spelled member (printed addr member),
      List.length_singleton]
  · rintro ⟨single, printed⟩ text
    obtain ⟨addr, rfl⟩ := List.length_eq_one_iff.mp (sameLength.trans single)
    have canonical := printed addr (List.mem_singleton_self addr)
    rw [reportsInternal_iff enabled carried]
    constructor
    · rintro ⟨rfl, -⟩
      exact ⟨addr, List.mem_singleton_self addr, canonical⟩
    · rintro ⟨other, member, rfl⟩
      rw [List.mem_singleton] at member
      subst member
      exact ⟨canonical.symm, other, usable other (List.mem_singleton_self other),
        canonical.symm⟩

/-- A node of which the guest agent reports an address of each family. -/
def dualStackInstance : VirtualMachineInstance where
  ns := "default"
  name := "vm1"
  networks := [{ name := "nic-1", multus := some ⟨"default/mgmt"⟩ }]
  interfaces := [{ name := "nic-1", ips := ["10.0.0.5", "fd00::5", "10.0.0.9"] }]

/-- A node with the given addresses in its annotation. -/
def annotatedNode (value : String) : Node where
  name := "node1"
  annotations := NilableMap.write none annotationAlphaProvidedIPAddr value

/-- A single address in its printed form is honoured. -/
theorem providedNodeIP_honoured_for_one :
    usableAddresses dualStackInstance {} =
        [.v4 0x0A000005#32, .v6 0xFD000000000000000000000000000005#128 "",
          .v4 0x0A000009#32] ∧
      ∀ text,
        ReportsInternal (annotatedNode "10.0.0.5") dualStackInstance {} text ↔
          ∃ addr ∈ [Addr.v4 0x0A000005#32], text = addr.toText := by
  have usable :
      usableAddresses dualStackInstance {} =
        [.v4 0x0A000005#32, .v6 0xFD000000000000000000000000000005#128 "",
          .v4 0x0A000009#32] := by
    decide +kernel
  have parsed :
      parseNodeIPAnnotation "10.0.0.5" = .ok [to16 0x0A000005#32] ∧
        annotatedAddrs "10.0.0.5" = some [.v4 0x0A000005#32] ∧
        (annotatedNode "10.0.0.5").annotations.lookup annotationAlphaProvidedIPAddr =
          some "10.0.0.5" := by
    decide +kernel
  refine ⟨usable,
    (providedNodeIP_honoured_iff rfl parsed.2.2 parsed.1 parsed.2.1 ?_).mpr ⟨rfl, ?_⟩⟩
  · rw [usable]
    decide
  · decide +kernel

/-- Of a pair that the framework accepts, neither address is honoured. -/
theorem providedNodeIP_not_always_honoured :
    ¬ ∀ (node : Node) (vmi : VirtualMachineInstance) (cfg : Config) (value : String)
        (ips : List (BitVec 128)) (annotated : List Addr),
        cfg.disableAnnotationAlphaProvidedIPAddr = false →
        node.annotations.lookup annotationAlphaProvidedIPAddr = some value →
        parseNodeIPAnnotation value = .ok ips →
        annotatedAddrs value = some annotated →
        (∀ addr ∈ annotated, addr ∈ usableAddresses vmi cfg) →
        ∀ text,
          ReportsInternal node vmi cfg text ↔
            ∃ addr ∈ annotated, text = addr.toText := by
  intro honoured
  have parsed :
      parseNodeIPAnnotation "10.0.0.5,fd00::5" =
          .ok [to16 0x0A000005#32, 0xFD000000000000000000000000000005#128] ∧
        annotatedAddrs "10.0.0.5,fd00::5" =
          some [.v4 0x0A000005#32, .v6 0xFD000000000000000000000000000005#128 ""] ∧
        (annotatedNode "10.0.0.5,fd00::5").annotations.lookup
          annotationAlphaProvidedIPAddr = some "10.0.0.5,fd00::5" ∧
        usableAddresses dualStackInstance {} =
          [.v4 0x0A000005#32, .v6 0xFD000000000000000000000000000005#128 "",
            .v4 0x0A000009#32] ∧
        getNodeAddresses (annotatedNode "10.0.0.5,fd00::5") (some dualStackInstance) {} =
          .ok
            [⟨.externalIP, "10.0.0.5"⟩, ⟨.externalIP, "fd00::5"⟩,
              ⟨.externalIP, "10.0.0.9"⟩, ⟨.hostName, "node1"⟩] := by
    decide +kernel
  obtain ⟨accepted, spelled, carried, usable, reported⟩ := parsed
  obtain ⟨addresses, same, internal⟩ :=
    (honoured (annotatedNode "10.0.0.5,fd00::5") dualStackInstance {} _ _ _ rfl carried
      accepted spelled (by rw [usable]; decide) "10.0.0.5").mpr
      ⟨.v4 0x0A000005#32, by decide, by decide +kernel⟩
  rw [reported] at same
  cases same
  simp at internal

end Selection

end HarvesterCloudProvider
