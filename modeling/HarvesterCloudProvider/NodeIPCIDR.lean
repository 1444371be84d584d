import HarvesterCloudProvider.Config
import HarvesterCloudProvider.StatefulProgram
import HarvesterCloudProvider.TextFields

namespace HarvesterCloudProvider

open Program

/-!
# The node IP CIDR flag

`validateAndParseNodeIPCIDR` scans the comma-separated value of `--node-ip-cidr`
with two family flags and writes the configuration only after the scan.  The
scan is compared with the format it stands for: the kept parts, what each of
them stands for, which addresses are allowed, and one part per family.  Flag
values are texts.
-/

section Scan

/-- One part: a prefix, or an address as a prefix of full length. -/
def parseCIDRPart (trimmed : String) : Option (Addr × Prefix) :=
  match Prefix.parse trimmed with
  | some pfx => some (pfx.addr, pfx)
  | none => (parseAddr trimmed).map fun addr => (addr, Prefix.ofAddr addr addr.bitLen)

/-- The variables of the loop. -/
structure CIDRScan where
  hasIPv4 : Bool := false
  hasIPv6 : Bool := false
  configured : Bool := false
  prefixes : List Prefix := []
  updatedCidr : List String := []
  deriving Repr, DecidableEq

/-- The address `255.255.255.255`. -/
def broadcastIPv4 : Addr :=
  .v4 0xFFFFFFFF#32

/-- Refuse addresses that no node can have. -/
def checkUnicast (trimmed : String) (addr : Addr) : Except Err Unit :=
  if addr.isLoopback then
    .error (.errorf
      (s!"invalid configuration for --{flagNodeIPCIDR} ({quote trimmed}): " ++
        "loopback addresses not allowed"))
  else if addr.isLinkLocalUnicast || addr.isLinkLocalMulticast then
    .error (.errorf
      (s!"invalid configuration for --{flagNodeIPCIDR} ({quote trimmed}): " ++
        "link-local addresses not allowed"))
  else if addr.isMulticast || addr.isUnspecified then
    .error (.errorf
      (s!"invalid configuration for --{flagNodeIPCIDR} ({quote trimmed}): " ++
        "must be a valid unicast address"))
  else if addr = broadcastIPv4 then
    .error (.errorf
      (s!"invalid configuration for --{flagNodeIPCIDR} ({quote trimmed}): " ++
        "broadcast address not allowed"))
  else
    .ok ()

/-- Count one more address of its family; a second one is refused. -/
def CIDRScan.countFamily
    (scan : CIDRScan)
    (cidrFilter trimmed : String)
    (addr : Addr) :
    Except Err CIDRScan :=
  if addr.is4 then
    if scan.hasIPv4 then
      .error (.errorf
        (s!"invalid configuration for --{flagNodeIPCIDR}: " ++
          s!"multiple IPv4 entries in {quote cidrFilter}"))
    else
      .ok { scan with hasIPv4 := true }
  else if addr.is6 then
    if scan.hasIPv6 then
      .error (.errorf
        (s!"invalid configuration for --{flagNodeIPCIDR}: " ++
          s!"multiple IPv6 entries in {quote cidrFilter}"))
    else
      .ok { scan with hasIPv6 := true }
  else
    .error (.errorf
      (s!"invalid configuration for --{flagNodeIPCIDR} ({quote trimmed}): " ++
        "unsupported IP family"))

/-- One round of the loop over the parts. -/
def CIDRScan.addPart
    (cidrFilter : String)
    (scan : CIDRScan)
    (part : String) :
    Except Err CIDRScan :=
  let trimmed := trimSpace part
  if trimmed = "" then
    .ok scan
  else
    match parseCIDRPart trimmed with
    | none =>
        .error (.errorf
          (s!"invalid configuration for --{flagNodeIPCIDR}: " ++
            s!"invalid CIDR or IP format {quote trimmed}"))
    | some (addr, pfx) => do
        let counted ←
          CIDRScan.countFamily { scan with configured := true } cidrFilter trimmed addr
        checkUnicast trimmed addr
        return { counted with
          prefixes := counted.prefixes ++ [pfx]
          updatedCidr := counted.updatedCidr ++ [trimmed] }

/-- The texts between the commas of a value. -/
def commaFields (value : String) : List String :=
  (value.toList.splitOn ',').map String.ofList

/-- The loop over all parts and the check behind it. -/
def scanNodeIPCIDR (cidrFilter : String) : Except Err CIDRScan := do
  let scan ← (commaFields cidrFilter).foldlM (CIDRScan.addPart cidrFilter) {}
  if scan.configured && scan.prefixes.isEmpty then
    .error (.errorf
      (s!"invalid configuration for --{flagNodeIPCIDR} ({quote cidrFilter}): " ++
        "no valid CIDR or IP entries found"))
  else
    return scan

/-- Validate the configured value and store its prefixes and its trimmed form. -/
def validateAndParseNodeIPCIDR : Program Config Err Unit :=
  fun cfg =>
    match scanNodeIPCIDR cfg.nodeIPCIDR with
    | .error error => (.error error, cfg)
    | .ok scan =>
        (.ok (),
          { cfg with
            internalNodeIPCIDRPrefixes := scan.prefixes
            nodeIPCIDR := ",".intercalate scan.updatedCidr })

end Scan

section Format

/-- An address that a node may have. -/
structure Addr.Allowed (addr : Addr) : Prop where
  notLoopback : addr.isLoopback = false
  notLinkLocalUnicast : addr.isLinkLocalUnicast = false
  notLinkLocalMulticast : addr.isLinkLocalMulticast = false
  notMulticast : addr.isMulticast = false
  notUnspecified : addr.isUnspecified = false
  notBroadcast : addr ≠ broadcastIPv4

/-- The parts that count: trimmed, and not blank. -/
def keptParts (fields : List String) : List String :=
  (fields.map trimSpace).filter fun part => part ≠ ""

/-- The parts of a value of `--node-ip-cidr`. -/
def cidrParts (value : String) : List String :=
  keptParts (commaFields value)

/-- A part whose address is an IPv4 address. -/
def isIPv4Part (part : String) : Bool :=
  (parseCIDRPart part).any fun entry => entry.1.is4

/-- A part whose address is an IPv6 address. -/
def isIPv6Part (part : String) : Bool :=
  (parseCIDRPart part).any fun entry => entry.1.is6

/-- The format of `--node-ip-cidr`, stated on the list of its parts. -/
structure CIDRFormat (parts : List String) : Prop where
  parses :
    ∀ part ∈ parts,
      ∃ addr pfx, parseCIDRPart part = some (addr, pfx) ∧ addr.Allowed
  oneIPv4 : parts.countP isIPv4Part ≤ 1
  oneIPv6 : parts.countP isIPv6Part ≤ 1

/-- A format does not depend on the order of the parts. -/
theorem CIDRFormat.perm
    {first second : List String}
    (format : CIDRFormat first)
    (permuted : first.Perm second) :
    CIDRFormat second where
  parses part member := format.parses part (permuted.mem_iff.mpr member)
  oneIPv4 := (permuted.countP_eq isIPv4Part) ▸ format.oneIPv4
  oneIPv6 := (permuted.countP_eq isIPv6Part) ▸ format.oneIPv6

/-- The safety checks pass exactly for the allowed addresses. -/
theorem checkUnicast_ok_iff {trimmed : String} {addr : Addr} :
    checkUnicast trimmed addr = .ok () ↔ addr.Allowed := by
  unfold checkUnicast
  constructor
  · intro passed
    split at passed
    · cases passed
    split at passed
    · cases passed
    split at passed
    · cases passed
    split at passed
    · cases passed
    rename_i loopback linkLocal unicast broadcast
    simp only [Bool.or_eq_true, not_or, Bool.not_eq_true] at linkLocal unicast loopback
    exact ⟨loopback, linkLocal.1, linkLocal.2, unicast.1, unicast.2, broadcast⟩
  · intro allowed
    simp [allowed.notLoopback, allowed.notLinkLocalUnicast, allowed.notLinkLocalMulticast,
      allowed.notMulticast, allowed.notUnspecified, allowed.notBroadcast]

/-- A parsed address has exactly one of the two families. -/
theorem is6_of_parseAddr
    {text : String}
    {addr : Addr}
    (parsed : parseAddr text = some addr) :
    addr.is6 = !addr.is4 := by
  unfold parseAddr at parsed
  split at parsed
  · obtain ⟨bits, -, rfl⟩ := Option.map_eq_some_iff.mp parsed
    rfl
  · unfold parseIPv6 at parsed
    split at parsed
    · obtain ⟨bits, -, rfl⟩ := Option.map_eq_some_iff.mp parsed
      rfl
    · cases parsed
    · obtain ⟨bits, -, rfl⟩ := Option.map_eq_some_iff.mp parsed
      rfl
  · cases parsed

/-- The address of a parsed prefix has exactly one of the two families. -/
theorem is6_of_parsePrefix
    {text : String}
    {pfx : Prefix}
    (parsed : Prefix.parse text = some pfx) :
    pfx.addr.is6 = !pfx.addr.is4 := by
  unfold Prefix.parse at parsed
  dsimp only at parsed
  split at parsed
  · cases parsed
  · simp only [Option.bind_eq_bind, Option.bind_eq_some_iff] at parsed
    obtain ⟨addr, parsedAddr, length, -, checked⟩ := parsed
    have family := is6_of_parseAddr parsedAddr
    split at checked
    · cases checked
      cases addr <;> exact family
    · cases checked

theorem is6_of_parseCIDRPart
    {part : String}
    {addr : Addr}
    {pfx : Prefix}
    (parsed : parseCIDRPart part = some (addr, pfx)) :
    addr.is6 = !addr.is4 := by
  unfold parseCIDRPart at parsed
  split at parsed
  · rename_i found parsedPrefix
    cases parsed
    exact is6_of_parsePrefix parsedPrefix
  · obtain ⟨bare, parsedAddr, same⟩ := Option.map_eq_some_iff.mp parsed
    cases same
    exact is6_of_parseAddr parsedAddr

/-- The prefixes that the parts stand for. -/
def cidrPrefixes (parts : List String) : List Prefix :=
  parts.filterMap fun part => (parseCIDRPart part).map Prod.snd

/-- The loop variables after some more parts have been accepted. -/
def CIDRScan.extended (scan : CIDRScan) (parts : List String) : CIDRScan where
  hasIPv4 := scan.hasIPv4 || parts.any isIPv4Part
  hasIPv6 := scan.hasIPv6 || parts.any isIPv6Part
  configured := scan.configured || !parts.isEmpty
  prefixes := scan.prefixes ++ cidrPrefixes parts
  updatedCidr := scan.updatedCidr ++ parts

theorem CIDRScan.extended_nil (scan : CIDRScan) : scan.extended [] = scan := by
  simp [CIDRScan.extended, cidrPrefixes]

theorem CIDRScan.extended_cons (scan : CIDRScan) (part : String) (parts : List String) :
    scan.extended (part :: parts) = (scan.extended [part]).extended parts := by
  simp only [CIDRScan.extended, List.any_cons, List.any_nil, Bool.or_false, Bool.or_assoc,
    List.isEmpty_cons, Bool.not_false, Bool.or_true, Bool.true_or, cidrPrefixes,
    List.filterMap_cons, List.filterMap_nil, List.append_assoc, List.singleton_append,
    CIDRScan.mk.injEq, true_and, and_true]
  cases parseCIDRPart part <;> simp

/-- A blank part is skipped. -/
theorem addPart_of_blank
    {cidrFilter part : String}
    (scan : CIDRScan)
    (blank : trimSpace part = "") :
    scan.addPart cidrFilter part = .ok scan := by
  simp [CIDRScan.addPart, blank]

/-- An address is counted exactly if it is the first of its family. -/
theorem countFamily_ok_iff
    {cidrFilter trimmed : String}
    {addr : Addr}
    {scan counted : CIDRScan}
    (family : addr.is6 = !addr.is4) :
    scan.countFamily cidrFilter trimmed addr = .ok counted ↔
      (addr.is4 = true → scan.hasIPv4 = false) ∧
        (addr.is6 = true → scan.hasIPv6 = false) ∧
        counted =
          { scan with
            hasIPv4 := scan.hasIPv4 || addr.is4
            hasIPv6 := scan.hasIPv6 || addr.is6 } := by
  obtain ⟨hasIPv4, hasIPv6, configured, prefixes, updatedCidr⟩ := scan
  unfold CIDRScan.countFamily
  rw [family]
  cases addr.is4 with
  | true =>
      cases hasIPv4 <;> simp [eq_comm]
  | false =>
      cases hasIPv6 <;> simp [eq_comm]

/-- A composition succeeds exactly when both of its parts do. -/
theorem except_bind_ok
    {Value Result : Type}
    {first : Except Err Value}
    {next : Value → Except Err Result}
    {result : Result} :
    (first >>= next) = .ok result ↔
      ∃ value, first = .ok value ∧ next value = .ok result := by
  cases first with
  | error error =>
      simp [Bind.bind, Except.bind]
  | ok value =>
      simp [Bind.bind, Except.bind]

/-- A part is taken exactly if it parses, is allowed, and is the first of its family. -/
theorem addPart_ok_iff
    {cidrFilter part : String}
    {scan next : CIDRScan}
    (present : trimSpace part ≠ "") :
    scan.addPart cidrFilter part = .ok next ↔
      (∃ addr pfx, parseCIDRPart (trimSpace part) = some (addr, pfx) ∧ addr.Allowed) ∧
        (isIPv4Part (trimSpace part) = true → scan.hasIPv4 = false) ∧
        (isIPv6Part (trimSpace part) = true → scan.hasIPv6 = false) ∧
        next = scan.extended [trimSpace part] := by
  unfold CIDRScan.addPart
  simp only [present, ↓reduceIte]
  generalize trimSpace part = trimmed
  cases parsed : parseCIDRPart trimmed with
  | none =>
      simp
  | some entry =>
      obtain ⟨addr, pfx⟩ := entry
      have family := is6_of_parseCIDRPart parsed
      have unicast := @checkUnicast_ok_iff trimmed addr
      have extended : scan.extended [trimmed] =
          { hasIPv4 := scan.hasIPv4 || addr.is4
            hasIPv6 := scan.hasIPv6 || addr.is6
            configured := true
            prefixes := scan.prefixes ++ [pfx]
            updatedCidr := scan.updatedCidr ++ [trimmed] } := by
        simp [CIDRScan.extended, cidrPrefixes, isIPv4Part, isIPv6Part, parsed]
      simp only [except_bind_ok, countFamily_ok_iff family, unicast, isIPv4Part, isIPv6Part,
        parsed, Option.any_some, extended]
      constructor
      · rintro ⟨counted, ⟨first4, first6, rfl⟩, -, allowed, taken⟩
        cases taken
        exact ⟨⟨addr, pfx, rfl, allowed⟩, first4, first6, rfl⟩
      · rintro ⟨⟨_, _, same, allowed⟩, first4, first6, rfl⟩
        cases same
        exact ⟨_, ⟨first4, first6, rfl⟩, (), allowed, rfl⟩

theorem keptParts_cons_of_blank
    {part : String}
    (blank : trimSpace part = "")
    (fields : List String) :
    keptParts (part :: fields) = keptParts fields := by
  simp [keptParts, blank]

theorem keptParts_cons
    {part : String}
    (present : trimSpace part ≠ "")
    (fields : List String) :
    keptParts (part :: fields) = trimSpace part :: keptParts fields := by
  simp [keptParts, present]

/-- Counting one more item with a flag that remembers whether there was one. -/
theorem countOnce_iff (seen now : Bool) (count : Nat) :
    ((now = true → seen = false) ∧ count + (seen || now).toNat ≤ 1) ↔
      count + (if now = true then 1 else 0) + seen.toNat ≤ 1 := by
  cases seen <;> cases now <;> simp

/--
The loop succeeds exactly if every kept part parses and is allowed and no family
occurs twice, counting what was seen before.
-/
theorem foldlM_addPart_ok_iff
    {cidrFilter : String}
    {fields : List String}
    {scan result : CIDRScan} :
    fields.foldlM (CIDRScan.addPart cidrFilter) scan = .ok result ↔
      (∀ part ∈ keptParts fields,
        ∃ addr pfx, parseCIDRPart part = some (addr, pfx) ∧ addr.Allowed) ∧
        (keptParts fields).countP isIPv4Part + scan.hasIPv4.toNat ≤ 1 ∧
        (keptParts fields).countP isIPv6Part + scan.hasIPv6.toNat ≤ 1 ∧
        result = scan.extended (keptParts fields) := by
  induction fields generalizing scan with
  | nil =>
      simp [keptParts, CIDRScan.extended_nil, Bool.toNat_le, eq_comm, pure, Except.pure]
  | cons part fields inductionHypothesis =>
      rw [List.foldlM_cons, except_bind_ok]
      by_cases blank : trimSpace part = ""
      · simp only [addPart_of_blank scan blank, Except.ok.injEq, exists_eq_left',
          inductionHypothesis, keptParts_cons_of_blank blank]
      · simp only [addPart_ok_iff blank, inductionHypothesis, keptParts_cons blank,
          List.forall_mem_cons, List.countP_cons]
        generalize trimSpace part = trimmed
        have seen4 : (scan.extended [trimmed]).hasIPv4 =
            (scan.hasIPv4 || isIPv4Part trimmed) := by
          simp [CIDRScan.extended]
        have seen6 : (scan.extended [trimmed]).hasIPv6 =
            (scan.hasIPv6 || isIPv6Part trimmed) := by
          simp [CIDRScan.extended]
        rw [CIDRScan.extended_cons scan trimmed (keptParts fields), ← countOnce_iff,
          ← countOnce_iff, ← seen4, ← seen6]
        constructor
        · rintro ⟨_, ⟨parses, first4, first6, rfl⟩, restParses, one4, one6, final⟩
          exact ⟨⟨parses, restParses⟩, ⟨first4, one4⟩, ⟨first6, one6⟩, final⟩
        · rintro ⟨⟨parses, restParses⟩, ⟨first4, one4⟩, ⟨first6, one6⟩, final⟩
          exact ⟨_, ⟨parses, first4, first6, rfl⟩, restParses, one4, one6, final⟩

/-- What a part stands for: a prefix, or the full-length prefix of an address. -/
def StandsFor (part : String) (pfx : Prefix) : Prop :=
  Prefix.parse part = some pfx ∨
    Prefix.parse part = none ∧
      ∃ addr, parseAddr part = some addr ∧ pfx = Prefix.ofAddr addr addr.bitLen

theorem standsFor_of_parseCIDRPart
    {part : String}
    {addr : Addr}
    {pfx : Prefix}
    (parsed : parseCIDRPart part = some (addr, pfx)) :
    StandsFor part pfx := by
  unfold parseCIDRPart at parsed
  split at parsed
  · rename_i found parsedPrefix
    cases parsed
    exact .inl parsedPrefix
  · rename_i noPrefix
    obtain ⟨bare, parsedAddr, same⟩ := Option.map_eq_some_iff.mp parsed
    cases same
    exact .inr ⟨noPrefix, _, parsedAddr, rfl⟩

/-- Parsed parts have one prefix each, in order. -/
theorem forall₂_cidrPrefixes
    {parts : List String}
    (parses :
      ∀ part ∈ parts,
        ∃ addr pfx, parseCIDRPart part = some (addr, pfx) ∧ addr.Allowed) :
    List.Forall₂ StandsFor parts (cidrPrefixes parts) := by
  induction parts with
  | nil =>
      exact .nil
  | cons part rest inductionHypothesis =>
      obtain ⟨⟨addr, pfx, parsed, -⟩, restParses⟩ := List.forall_mem_cons.mp parses
      have first : cidrPrefixes (part :: rest) = pfx :: cidrPrefixes rest := by
        simp [cidrPrefixes, parsed]
      rw [first]
      exact .cons (standsFor_of_parseCIDRPart parsed) (inductionHypothesis restParses)

/-- One part of each family makes at most two parts. -/
theorem CIDRFormat.length_le
    {parts : List String}
    (format : CIDRFormat parts) :
    parts.length ≤ 2 := by
  have otherFamily : parts.countP (fun part => decide ¬ isIPv4Part part = true) =
      parts.countP isIPv6Part := by
    refine List.countP_congr fun part member => ?_
    obtain ⟨addr, pfx, parsed, -⟩ := format.parses part member
    have family := is6_of_parseCIDRPart parsed
    simp [isIPv4Part, isIPv6Part, parsed, family]
  have split := List.length_eq_countP_add_countP isIPv4Part (l := parts)
  have one4 := format.oneIPv4
  have one6 := format.oneIPv6
  omega

/-- The scan succeeds exactly on the format and collects the parts. -/
theorem scanNodeIPCIDR_ok_iff {value : String} {scan : CIDRScan} :
    scanNodeIPCIDR value = .ok scan ↔
      CIDRFormat (cidrParts value) ∧ scan = CIDRScan.extended {} (cidrParts value) := by
  unfold scanNodeIPCIDR
  rw [except_bind_ok]
  simp only [foldlM_addPart_ok_iff]
  constructor
  · rintro ⟨_, ⟨parses, one4, one6, rfl⟩, checked⟩
    refine ⟨⟨parses, one4, one6⟩, ?_⟩
    split at checked
    · cases checked
    · cases checked
      rfl
  · rintro ⟨format, rfl⟩
    refine ⟨_, ⟨format.parses, format.oneIPv4, format.oneIPv6, rfl⟩, ?_⟩
    -- With a part there is a prefix, so the last check never fires.
    split
    · rename_i nothing
      simp only [CIDRScan.extended, Bool.false_or, List.nil_append, Bool.and_eq_true,
        Bool.not_eq_true', List.isEmpty_eq_false_iff, List.isEmpty_iff] at nothing
      obtain ⟨present, noPrefix⟩ := nothing
      have onePerPart := forall₂_cidrPrefixes format.parses
      unfold cidrParts at onePerPart
      rw [noPrefix, List.forall₂_nil_right_iff] at onePerPart
      exact (present onePerPart).elim
    · rfl

/-- Validation succeeds exactly on the format. -/
theorem validateAndParseNodeIPCIDR_ok_iff {cfg : Config} :
    (validateAndParseNodeIPCIDR cfg).1 = .ok () ↔
      CIDRFormat (cidrParts cfg.nodeIPCIDR) := by
  unfold validateAndParseNodeIPCIDR
  cases scanned : scanNodeIPCIDR cfg.nodeIPCIDR with
  | error error =>
      refine iff_of_false (by simp) fun format => ?_
      have succeeded := scanNodeIPCIDR_ok_iff.mpr ⟨format, rfl⟩
      rw [scanned] at succeeded
      cases succeeded
  | ok scan =>
      exact iff_of_true rfl (scanNodeIPCIDR_ok_iff.mp scanned).1

/-- A successful validation stores the prefixes and the trimmed parts. -/
theorem validateAndParseNodeIPCIDR_of_format
    {cfg : Config}
    (format : CIDRFormat (cidrParts cfg.nodeIPCIDR)) :
    validateAndParseNodeIPCIDR cfg =
      (.ok (),
        { cfg with
          internalNodeIPCIDRPrefixes := cidrPrefixes (cidrParts cfg.nodeIPCIDR)
          nodeIPCIDR := ",".intercalate (cidrParts cfg.nodeIPCIDR) }) := by
  unfold validateAndParseNodeIPCIDR
  rw [scanNodeIPCIDR_ok_iff.mpr ⟨format, rfl⟩]
  simp [CIDRScan.extended]

/-- A failed validation writes nothing. -/
theorem validateAndParseNodeIPCIDR_of_error
    {cfg : Config}
    (failed : (validateAndParseNodeIPCIDR cfg).1 ≠ .ok ()) :
    (validateAndParseNodeIPCIDR cfg).2 = cfg := by
  unfold validateAndParseNodeIPCIDR at failed ⊢
  cases scanned : scanNodeIPCIDR cfg.nodeIPCIDR with
  | error error =>
      rfl
  | ok scan =>
      rw [scanned] at failed
      exact (failed rfl).elim

/--
`validateAndParseNodeIPCIDR` accepts exactly its format, in any order of the
parts; it stores one prefix per part, at most two, and the trimmed parts, and it
writes nothing on an error.
-/
theorem validateAndParseNodeIPCIDR_exact (cfg : Config) :
    ((validateAndParseNodeIPCIDR cfg).1 = .ok () ↔
        CIDRFormat (cidrParts cfg.nodeIPCIDR)) ∧
      (∀ other : Config,
        (cidrParts other.nodeIPCIDR).Perm (cidrParts cfg.nodeIPCIDR) →
          ((validateAndParseNodeIPCIDR other).1 = .ok () ↔
            (validateAndParseNodeIPCIDR cfg).1 = .ok ())) ∧
      ((validateAndParseNodeIPCIDR cfg).1 = .ok () →
        ∃ prefixes,
          List.Forall₂ StandsFor (cidrParts cfg.nodeIPCIDR) prefixes ∧
            prefixes.length ≤ 2 ∧
            (validateAndParseNodeIPCIDR cfg).2 =
              { cfg with
                internalNodeIPCIDRPrefixes := prefixes
                nodeIPCIDR := ",".intercalate (cidrParts cfg.nodeIPCIDR) }) ∧
      ((validateAndParseNodeIPCIDR cfg).1 ≠ .ok () →
        (validateAndParseNodeIPCIDR cfg).2 = cfg) := by
  refine ⟨validateAndParseNodeIPCIDR_ok_iff, ?_, ?_, validateAndParseNodeIPCIDR_of_error⟩
  · intro other permuted
    rw [validateAndParseNodeIPCIDR_ok_iff, validateAndParseNodeIPCIDR_ok_iff]
    exact ⟨fun format => format.perm permuted, fun format => format.perm permuted.symm⟩
  · intro accepted
    have format := validateAndParseNodeIPCIDR_ok_iff.mp accepted
    have stored := forall₂_cidrPrefixes format.parses
    refine ⟨_, stored, ?_, congrArg Prod.snd (validateAndParseNodeIPCIDR_of_format format)⟩
    rw [← stored.length_eq]
    exact format.length_le

/-- A dual-stack value with blanks, and the same value in the other order. -/
theorem validateAndParseNodeIPCIDR_dualStack :
    (validateAndParseNodeIPCIDR { nodeIPCIDR := " fd00::/8,, 10.0.0.1" }).1 = .ok () ∧
      (validateAndParseNodeIPCIDR { nodeIPCIDR := "10.0.0.1,fd00::/8" }).1 = .ok () := by
  have first :
      (validateAndParseNodeIPCIDR { nodeIPCIDR := " fd00::/8,, 10.0.0.1" }).1 = .ok () := by
    rfl
  refine ⟨first, ?_⟩
  refine ((validateAndParseNodeIPCIDR_exact
    { nodeIPCIDR := " fd00::/8,, 10.0.0.1" }).2.1
      { nodeIPCIDR := "10.0.0.1,fd00::/8" } ?_).mpr first
  decide +kernel

end Format

end HarvesterCloudProvider
