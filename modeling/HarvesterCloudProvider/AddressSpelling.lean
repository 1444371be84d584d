import HarvesterCloudProvider.NetAddressText
import HarvesterCloudProvider.NodeAddresses
import HarvesterCloudProvider.NodeIPCIDR

namespace HarvesterCloudProvider

/-!
# Two spellings of an IPv4 address

An IPv4 address can be reported in dotted form or as an IPv4-mapped IPv6
address.  Most address predicates look through the mapped form, but the test for
the unspecified address, the test for the broadcast address and the family test
of the fallback mode do not.  The two spellings of one reported address are
compared here, entry by entry, in lists of any length.
-/

section Predicates

variable (bits : BitVec 32)

theorem toNat_mapped4 : (mapped4 bits).toNat = 0xFFFF * 4294967296 + bits.toNat := by
  have bound := bits.isLt
  rw [mapped4, BitVec.toNat_ofNat]
  omega

theorem is4In6_mapped4 (zone : String) : (Addr.v6 (mapped4 bits) zone).is4In6 = true := by
  have bound := bits.isLt
  refine decide_eq_true (BitVec.eq_of_toNat_eq ?_)
  rw [BitVec.toNat_ushiftRight, Nat.shiftRight_eq_div_pow, toNat_mapped4]
  simp only [BitVec.toNat_ofNat]
  omega

/-- The mapped form denotes the IPv4 address. -/
theorem unmap_mapped4 (zone : String) : (Addr.v6 (mapped4 bits) zone).unmap = .v4 bits := by
  have bound := bits.isLt
  rw [Addr.unmap, if_pos (is4In6_mapped4 bits zone)]
  refine congrArg Addr.v4 (BitVec.eq_of_toNat_eq ?_)
  rw [BitVec.truncate_eq_setWidth, BitVec.toNat_setWidth, toNat_mapped4]
  omega

/-- The mapped form is never the unspecified IPv6 address. -/
theorem mapped4_ne_zero : mapped4 bits ≠ 0#128 := by
  intro zero
  have value := congrArg BitVec.toNat zero
  rw [toNat_mapped4] at value
  simp at value

/-- The filter drops the dotted addresses that no node can have. -/
theorem isInternalOnly_v4_iff :
    isInternalOnly (.v4 bits) = true ↔ ¬ (Addr.v4 bits).Allowed := by
  rw [← Bool.not_eq_false, not_iff_not]
  constructor
  · intro useful
    simp only [isInternalOnly, Bool.or_eq_false_iff] at useful
    obtain ⟨⟨⟨⟨⟨⟨-, loopback⟩, multicast⟩, unspecified⟩, linkLocal⟩, linkLocalMulticast⟩,
      broadcast⟩ := useful
    refine ⟨loopback, linkLocal, linkLocalMulticast, multicast, unspecified, ?_⟩
    simpa [Addr.is4, broadcastIPv4] using broadcast
  · intro allowed
    have broadcast : bits ≠ 0xFFFFFFFF#32 := by
      simpa [broadcastIPv4] using allowed.notBroadcast
    simp [isInternalOnly, Addr.isValid, allowed.notLoopback, allowed.notMulticast,
      allowed.notUnspecified, allowed.notLinkLocalUnicast, allowed.notLinkLocalMulticast,
      broadcast]

/-- The mapped form is filtered alike, but for two addresses. -/
theorem isInternalOnly_mapped4
    (notUnspecified : bits ≠ 0#32)
    (notBroadcast : bits ≠ 0xFFFFFFFF#32) :
    isInternalOnly (.v6 (mapped4 bits) "") = isInternalOnly (.v4 bits) := by
  have unmapped := unmap_mapped4 bits ""
  have same : (Addr.v4 bits).unmap = .v4 bits := rfl
  unfold isInternalOnly Addr.isLoopback Addr.isMulticast Addr.isLinkLocalUnicast
    Addr.isLinkLocalMulticast
  rw [unmapped, same]
  simp [Addr.isValid, Addr.isUnspecified, Addr.is4, notUnspecified, notBroadcast,
    mapped4_ne_zero bits]

/-- The mapped forms of the unspecified and the broadcast address pass the filter. -/
theorem isInternalOnly_mapped4_exceptions :
    isInternalOnly (.v6 (mapped4 0#32) "") = false ∧
      isInternalOnly (.v6 (mapped4 0xFFFFFFFF#32) "") = false := by
  decide

end Predicates

section Entries

/-- Which reported entries the filter keeps; nothing if one of them is no address. -/
def keptEntries (texts : List String) : Option (List Bool) :=
  (texts.mapM parseAddr).map fun addrs => addrs.map fun addr => !isInternalOnly addr

/--
The tags that the fallback mode gives to the addresses, one by one; an address
that the exclude list hides has none.
-/
def tagsGiven (ctx : AddressContext) (ips : List Addr) : List (Option NodeAddressType) :=
  (categorizeByFallback ips).map fun candidate =>
    (filterByExcludeList [candidate] ctx.legacyExcludes).head?.map fun kept =>
      kept.nodeAddr.type

/-- The tags of the kept entries; nothing if an entry is no address. -/
def reportedTags (ctx : AddressContext) (texts : List String) :
    Option (List (Option NodeAddressType)) :=
  (convertAndFilterIPs texts).toOption.map (tagsGiven ctx)

/-- The internal addresses that denote an IPv4 host. -/
def internalHosts (ctx : AddressContext) (ips : List Addr) : List CandidateAddress :=
  (resolveNodeIPs ips ctx).filter fun candidate =>
    decide (candidate.nodeAddr.type = .internalIP) && candidate.addr.unmap.is4

/-- The addresses among the entries that the filter keeps. -/
def usableEntries (texts : List String) : List Addr :=
  (texts.filterMap parseAddr).filter fun addr => !isInternalOnly addr

/-- The filter returns the addresses of the kept entries. -/
theorem convertAndFilterIPs_keptEntries (texts : List String) :
    (convertAndFilterIPs texts).toOption =
      (texts.mapM parseAddr).bind fun addrs =>
        (keptEntries texts).map fun kept =>
          ((addrs.zip kept).filter Prod.snd).map Prod.fst := by
  rw [convertAndFilterIPs_toOption, keptEntries]
  cases texts.mapM parseAddr with
  | none =>
      rfl
  | some addrs =>
      refine congrArg some ?_
      dsimp only [Option.map_some]
      induction addrs with
      | nil =>
          rfl
      | cons addr rest inductionHypothesis =>
          cases useless : isInternalOnly addr <;>
            simp [useless, inductionHypothesis]

/-- The exclude list looks at one candidate at a time. -/
theorem resolveNodeIPs_fallback
    {ctx : AddressContext}
    (fallback : ctx.mode = .fallback)
    (ips : List Addr) :
    resolveNodeIPs ips ctx =
      (categorizeByFallback ips).flatMap fun candidate =>
        filterByExcludeList [candidate] ctx.legacyExcludes := by
  unfold resolveNodeIPs
  rw [fallback]
  dsimp only
  unfold filterByExcludeList
  split
  · simp
  · induction categorizeByFallback ips with
    | nil =>
        rfl
    | cons candidate rest inductionHypothesis =>
        rw [List.flatMap_cons, ← inductionHypothesis, ← List.filter_append]
        rfl

/-- The tag of a marked address. -/
def tagOf (excludes : List String) (entry : Addr × Bool) : Option NodeAddressType :=
  if entry.2 then
    some .internalIP
  else if excludes.contains entry.1.toText then
    none
  else
    some .externalIP

/-- The fallback mode tags the first address of each family as internal. -/
theorem tagsGiven_eq (ctx : AddressContext) (ips : List Addr) :
    tagsGiven ctx ips =
      (markFirst Addr.is4 (fun _ => true) [] ips).map (tagOf ctx.legacyExcludes) := by
  rw [tagsGiven, categorizeByFallback, categorize_start, List.map_map]
  refine List.map_congr_left fun entry _ => ?_
  rw [Function.comp_apply, show [candidateOf entry] = [entry].map candidateOf from rfl,
    filterByExcludeList_eq, tagOf]
  cases mark : entry.2 with
  | true =>
      simp [mark, candidateOf, nodeAddressOf]
  | false =>
      cases listed : ctx.legacyExcludes.contains entry.1.toText <;>
        simp_all [candidateOf, nodeAddressOf]

theorem tagOf_eq_internal
    {excludes : List String}
    {entry : Addr × Bool} :
    tagOf excludes entry = some .internalIP ↔ entry.2 = true := by
  unfold tagOf
  cases entry.2 with
  | true =>
      simp
  | false =>
      simp

end Entries

section Families

variable {ctx : AddressContext}

/-- A family is taken when an address of it stands in the list. -/
theorem anyWanted_family (ips : List Addr) (family : Bool) :
    anyWanted Addr.is4 (fun _ => true) ips family = true ↔
      ∃ addr ∈ ips, addr.is4 = family := by
  simp [anyWanted]

/-- Usable addresses of both families. -/
def BothFamilies (ips : List Addr) : Prop :=
  (∃ addr ∈ ips, addr.is4 = true) ∧ ∃ addr ∈ ips, addr.is4 = false

/-- The exclude list treats both spellings alike. -/
def ExcludedAlike (excludes : List String) (bits : BitVec 32) : Prop :=
  excludes.contains (Addr.v4 bits).toText =
    excludes.contains (Addr.v6 (mapped4 bits) "").toText

/-- The tags of a list around one of its addresses. -/
theorem tagsGiven_split (front back : List Addr) (addr : Addr) :
    tagsGiven ctx (front ++ addr :: back) =
      (markFirst Addr.is4 (fun _ => true) [] front).map (tagOf ctx.legacyExcludes) ++
        tagOf ctx.legacyExcludes
            (addr, !anyWanted Addr.is4 (fun _ => true) front addr.is4) ::
          (markFirst Addr.is4 (fun _ => true) (front ++ [addr]) back).map
            (tagOf ctx.legacyExcludes) := by
  rw [tagsGiven_eq, markFirst_append, List.map_append, List.nil_append, markFirst,
    List.map_cons, Bool.true_and]

/-- Equal tags come with equal marks. -/
theorem sameMark_of_sameTag
    {excludes : List String}
    {first second : Addr × Bool}
    (sameTag : tagOf excludes first = tagOf excludes second) :
    first.2 = second.2 := by
  rw [Bool.eq_iff_iff, ← @tagOf_eq_internal excludes first,
    ← @tagOf_eq_internal excludes second, sameTag]

/-- Unmarked addresses have equal tags exactly if the exclude list treats them alike. -/
theorem tagOf_unmarked_iff
    {excludes : List String}
    {first second : Addr} :
    tagOf excludes (first, false) = tagOf excludes (second, false) ↔
      excludes.contains first.toText = excludes.contains second.toText := by
  simp only [tagOf, Bool.false_eq_true, if_false]
  cases excludes.contains first.toText <;> cases excludes.contains second.toText <;> simp

/-- An address behind only one other is marked exactly if their families differ. -/
theorem not_anyWanted_singleton (addr : Addr) (family : Bool) :
    (!anyWanted Addr.is4 (fun _ => true) [addr] family) = true ↔ addr.is4 ≠ family := by
  simp [anyWanted]

/-- A list in which no family is taken is empty. -/
theorem eq_nil_of_free
    {ips : List Addr}
    (free : ∀ family, anyWanted Addr.is4 (fun _ => true) ips family = false) :
    ips = [] := by
  refine List.eq_nil_iff_forall_not_mem.mpr fun addr member => ?_
  have taken := (anyWanted_family ips addr.is4).mpr ⟨addr, member, rfl⟩
  rw [free] at taken
  cases taken

/-- At the front of a list both spellings lead to the same tags only if they are alone. -/
theorem eq_nil_of_sameRest
    {excludes : List String}
    {back : List Addr}
    {bits : BitVec 32}
    (sameRest :
      (markFirst Addr.is4 (fun _ => true) [.v4 bits] back).map (tagOf excludes) =
        (markFirst Addr.is4 (fun _ => true) [.v6 (mapped4 bits) ""] back).map
          (tagOf excludes)) :
    back = [] := by
  cases back with
  | nil =>
      rfl
  | cons next rest =>
      -- The next address is internal behind the other family only.
      rw [markFirst, markFirst, List.map_cons, List.map_cons, List.cons.injEq] at sameRest
      have marks := sameMark_of_sameTag sameRest.1
      simp only [Bool.true_and] at marks
      rw [Bool.eq_iff_iff, not_anyWanted_singleton, not_anyWanted_singleton] at marks
      cases next.is4 <;> simp [Addr.is4] at marks

/-- Both spellings lead to the same tags exactly if no family depends on the entry. -/
theorem tagsGiven_respelled_iff (front back : List Addr) (bits : BitVec 32) :
    tagsGiven ctx (front ++ .v4 bits :: back) =
        tagsGiven ctx (front ++ .v6 (mapped4 bits) "" :: back) ↔
      (front = [] ∧ back = []) ∨
        (BothFamilies front ∧ ExcludedAlike ctx.legacyExcludes bits) := by
  have is4 : (Addr.v4 bits).is4 = true := rfl
  have is6 : (Addr.v6 (mapped4 bits) "").is4 = false := rfl
  rw [tagsGiven_split, tagsGiven_split, List.append_cancel_left_eq, List.cons.injEq, is4, is6]
  constructor
  · rintro ⟨sameTag, sameRest⟩
    have sameTaken :
        anyWanted Addr.is4 (fun _ => true) front true =
          anyWanted Addr.is4 (fun _ => true) front false :=
      Bool.not_inj (sameMark_of_sameTag sameTag)
    cases taken : anyWanted Addr.is4 (fun _ => true) front true with
    | true =>
        have has4 := (anyWanted_family front true).mp taken
        have has6 := (anyWanted_family front false).mp (sameTaken.symm.trans taken)
        rw [← sameTaken, taken] at sameTag
        exact .inr ⟨⟨has4, has6⟩, tagOf_unmarked_iff.mp sameTag⟩
    | false =>
        have free : front = [] := by
          refine eq_nil_of_free fun family => ?_
          cases family with
          | true =>
              exact taken
          | false =>
              exact sameTaken.symm.trans taken
        subst free
        exact .inl ⟨rfl, eq_nil_of_sameRest sameRest⟩
  · rintro (⟨rfl, rfl⟩ | ⟨⟨has4, has6⟩, alike⟩)
    · exact ⟨rfl, rfl⟩
    · rw [← anyWanted_family] at has4 has6
      rw [has4, has6]
      refine ⟨tagOf_unmarked_iff.mpr alike, ?_⟩
      refine congrArg (List.map _) (markFirst_congr (fun family => ?_) back)
      rw [anyWanted_append, anyWanted_append]
      cases family with
      | true =>
          rw [has4, Bool.true_or, Bool.true_or]
      | false =>
          rw [has6, Bool.true_or, Bool.true_or]

end Families

section Hosts

variable {ctx : AddressContext}

/-- A dotted address and an IPv4-mapped one would both become internal. -/
def DoubledHost (ips : List Addr) : Prop :=
  (∃ addr ∈ ips, addr.is4 = true) ∧
    ∃ addr,
      (ips.find? fun addr => decide (addr.is4 = false)) = some addr ∧ addr.is4In6 = true

/-- An address denotes an IPv4 host in dotted and in mapped form. -/
theorem is4_unmap (addr : Addr) : addr.unmap.is4 = (addr.is4 || addr.is4In6) := by
  cases addr with
  | invalid =>
      rfl
  | v4 bits =>
      rfl
  | v6 bits zone =>
      unfold Addr.unmap
      dsimp only
      cases mapped : (Addr.v6 bits zone).is4In6 <;> simp [Addr.is4]

/-- The internal IPv4 hosts are the marked addresses that denote one. -/
theorem internalHosts_eq
    (fallback : ctx.mode = .fallback)
    (ips : List Addr) :
    internalHosts ctx ips =
      ((markFirst Addr.is4 (fun _ => true) [] ips).filter fun entry =>
        entry.2 && entry.1.unmap.is4).map candidateOf := by
  unfold internalHosts resolveNodeIPs
  rw [fallback]
  dsimp only
  rw [categorizeByFallback, categorize_start, filterByExcludeList_eq, List.filter_map,
    List.filter_filter]
  refine congrArg (List.map candidateOf) (List.filter_congr fun entry _ => ?_)
  cases mark : entry.2 <;> simp [candidateOf, nodeAddressOf, mark]

/-- The first address of a family is the one that is marked. -/
theorem marked_of_family (ips : List Addr) (family : Bool) :
    ((markFirst Addr.is4 (fun _ => true) [] ips).filter fun entry =>
        entry.2 && decide (entry.1.is4 = family)).map Prod.fst =
      (ips.find? fun addr => decide (addr.is4 = family)).toList := by
  have marked := @markFirst_class Addr Bool _ Addr.is4 (fun _ => true) [] ips family
  rw [anyWanted, List.any_nil, if_neg Bool.false_ne_true, List.head?_filter] at marked
  simpa only [Bool.and_true] using marked

/-- The internal IPv4 hosts: the first dotted address, and the first other one if mapped. -/
theorem length_internalHosts
    (fallback : ctx.mode = .fallback)
    (ips : List Addr) :
    (internalHosts ctx ips).length =
      (ips.find? fun addr => decide (addr.is4 = true)).toList.length +
        (ips.find? fun addr => decide (addr.is4 = false)).toList.countP Addr.is4In6 := by
  rw [internalHosts_eq fallback, List.length_map, ← List.countP_eq_length_filter,
    List.countP_eq_countP_filter_add _ _ fun entry => entry.1.is4, List.countP_filter,
    List.countP_filter]
  refine congrArg₂ (· + ·) ?_ ?_
  · rw [← marked_of_family, List.length_map, ← List.countP_eq_length_filter]
    refine List.countP_congr fun entry _ => ?_
    cases family : entry.1.is4 <;> simp [is4_unmap, family]
  · rw [← marked_of_family, List.countP_map, List.countP_filter]
    refine List.countP_congr fun entry _ => ?_
    cases family : entry.1.is4 <;> simp [is4_unmap, family, and_comm]

/-- At most one internal address denotes an IPv4 host unless a host is doubled. -/
theorem length_internalHosts_le_iff
    (fallback : ctx.mode = .fallback)
    (ips : List Addr) :
    (internalHosts ctx ips).length ≤ 1 ↔ ¬ DoubledHost ips := by
  rw [length_internalHosts fallback, DoubledHost]
  have dotted :
      (∃ addr ∈ ips, addr.is4 = true) ↔
        (ips.find? fun addr => decide (addr.is4 = true)).isSome = true := by
    simp
  rw [dotted]
  cases ips.find? fun addr => decide (addr.is4 = true) with
  | none =>
      cases ips.find? fun addr => decide (addr.is4 = false) with
      | none =>
          simp
      | some other =>
          cases mapped : other.is4In6 <;> simp [mapped]
  | some first =>
      cases ips.find? fun addr => decide (addr.is4 = false) with
      | none =>
          simp
      | some other =>
          cases mapped : other.is4In6 <;> simp [mapped]

end Hosts

section Texts

/-- One failing item fails the whole list. -/
theorem mapM_eq_none_of_mem
    {α β : Type}
    {parse : α → Option β}
    {items : List α}
    {item : α}
    (member : item ∈ items)
    (fails : parse item = none) :
    items.mapM parse = none := by
  induction items with
  | nil =>
      cases member
  | cons first rest inductionHypothesis =>
      rw [List.mapM_cons]
      rcases List.mem_cons.mp member with rfl | later
      · rw [fails]
        rfl
      · rw [inductionHypothesis later]
        cases parse first <;> rfl

/-- Without failing items the list is parsed item by item. -/
theorem mapM_eq_filterMap
    {α β : Type}
    {parse : α → Option β}
    {items : List α}
    (parsed : ∀ item ∈ items, parse item ≠ none) :
    items.mapM parse = some (items.filterMap parse) := by
  induction items with
  | nil =>
      rfl
  | cons first rest inductionHypothesis =>
      obtain ⟨value, known⟩ := Option.ne_none_iff_exists'.mp (parsed first List.mem_cons_self)
      have later := inductionHypothesis fun item member =>
        parsed item (List.mem_cons_of_mem _ member)
      rw [List.mapM_cons, known, later, List.filterMap_cons_some known]
      rfl

/-- An entry of a list of texts is no address. -/
def Unreadable (texts : List String) : Prop :=
  ∃ text ∈ texts, parseAddr text = none

theorem mapM_parseAddr_of_readable
    {texts : List String}
    (readable : ¬ Unreadable texts) :
    texts.mapM parseAddr = some (texts.filterMap parseAddr) :=
  mapM_eq_filterMap fun text member fails => readable ⟨text, member, fails⟩

theorem mapM_parseAddr_of_unreadable
    {texts : List String}
    (unreadable : Unreadable texts) :
    texts.mapM parseAddr = none := by
  obtain ⟨text, member, fails⟩ := unreadable
  exact mapM_eq_none_of_mem member fails

variable {before after : List String}
variable {text : String}
variable {addr : Addr}

/-- An address in a list does not change whether the list can be read. -/
theorem unreadable_around (parsed : parseAddr text = some addr) :
    Unreadable (before ++ text :: after) ↔ Unreadable (before ++ after) := by
  simp [Unreadable, parsed, or_and_right, exists_or]

theorem usableEntries_append (first second : List String) :
    usableEntries (first ++ second) = usableEntries first ++ usableEntries second := by
  simp [usableEntries]

/-- The usable entries around one entry. -/
theorem usableEntries_around (parsed : parseAddr text = some addr) :
    usableEntries (before ++ text :: after) =
      usableEntries before ++
        (if isInternalOnly addr then [] else [addr]) ++ usableEntries after := by
  rw [usableEntries, List.filterMap_append, List.filterMap_cons_some parsed,
    List.filter_append, List.filter_cons, usableEntries, usableEntries]
  cases isInternalOnly addr <;> simp

/-- A readable list is filtered entry by entry. -/
theorem convertAndFilterIPs_of_readable
    (parsed : parseAddr text = some addr)
    (readable : ¬ Unreadable (before ++ after)) :
    convertAndFilterIPs (before ++ text :: after) =
      .ok (usableEntries (before ++ text :: after)) := by
  have answer := convertAndFilterIPs_toOption (before ++ text :: after)
  rw [← unreadable_around parsed] at readable
  rw [mapM_parseAddr_of_readable readable] at answer
  cases converted : convertAndFilterIPs (before ++ text :: after) with
  | error error =>
      rw [converted] at answer
      cases answer
  | ok ips =>
      rw [converted] at answer
      exact congrArg Except.ok (Option.some.inj answer)

/-- A list with an unreadable entry is refused. -/
theorem convertAndFilterIPs_of_unreadable
    (parsed : parseAddr text = some addr)
    (unreadable : Unreadable (before ++ after)) :
    (convertAndFilterIPs (before ++ text :: after)).toOption = none := by
  rw [← unreadable_around parsed] at unreadable
  rw [convertAndFilterIPs_toOption, mapM_parseAddr_of_unreadable unreadable]
  rfl

/-- A single entry that is dropped. -/
theorem convertAndFilterIPs_singleton (parsed : parseAddr text = some addr) :
    convertAndFilterIPs [text] = .ok (if isInternalOnly addr then [] else [addr]) := by
  unfold convertAndFilterIPs
  rw [parsed]
  rfl

end Texts

section Spelling

/--
Reporting an entry in its IPv4-mapped form instead changes neither which entries
are kept nor their tags, at most one internal address denotes an IPv4 host, and
addresses that no node can have are dropped in both forms.
-/
structure SpellingIndependent
    (before : List String)
    (text : String)
    (after : List String)
    (ctx : AddressContext) :
    Prop where
  kept :
    keptEntries (before ++ text :: after) =
      keptEntries (before ++ ("::ffff:" ++ text) :: after)
  tags :
    reportedTags ctx (before ++ text :: after) =
      reportedTags ctx (before ++ ("::ffff:" ++ text) :: after)
  oneInternal :
    ∀ spelled ∈ [text, "::ffff:" ++ text],
    ∀ ips,
      convertAndFilterIPs (before ++ spelled :: after) = .ok ips →
      (internalHosts ctx ips).length ≤ 1
  dropped :
    ∀ bits,
      parseAddr text = some (.v4 bits) →
      ¬ (Addr.v4 bits).Allowed →
      convertAndFilterIPs [text] = .ok [] ∧
        convertAndFilterIPs ["::ffff:" ++ text] = .ok []

/--
The spelling of an entry does not matter: it is not one of the two addresses that
only their dotted form gives away, and the list is refused anyway, or the entry is
dropped, or it is the only usable one, or it follows addresses of both families and
the exclude list treats its spellings alike; and no host is doubled already.
-/
def SpellingSafe
    (before : List String)
    (text : String)
    (bits : BitVec 32)
    (after : List String)
    (excludes : List String) :
    Prop :=
  bits ≠ 0#32 ∧
    bits ≠ 0xFFFFFFFF#32 ∧
    (Unreadable (before ++ after) ∨
      (¬ (Addr.v4 bits).Allowed ∨
        usableEntries (before ++ after) = [] ∨
        BothFamilies (usableEntries before) ∧ ExcludedAlike excludes bits) ∧
      ¬ DoubledHost (usableEntries (before ++ text :: after)))

/-- Behind addresses of both families nothing decides about doubled hosts. -/
theorem doubledHost_append
    {front : List Addr}
    (both : BothFamilies front)
    (rest : List Addr) :
    DoubledHost (front ++ rest) ↔ DoubledHost front := by
  obtain ⟨dotted, other⟩ := both
  have found : (front.find? fun addr => decide (addr.is4 = false)).isSome = true := by
    simpa using other
  obtain ⟨addr, first⟩ := Option.isSome_iff_exists.mp found
  unfold DoubledHost
  rw [List.find?_append, first, Option.some_or]
  constructor
  · rintro ⟨-, mapped⟩
    exact ⟨dotted, mapped⟩
  · rintro ⟨⟨addr, member, is4⟩, mapped⟩
    exact ⟨⟨addr, List.mem_append_left _ member, is4⟩, mapped⟩

variable {before after : List String}
variable {text : String}
variable {bits : BitVec 32}
variable {ctx : AddressContext}

/-- The two exceptions are kept in their mapped form. -/
theorem SpellingIndependent.notException
    (dotted : parseAddr text = some (.v4 bits))
    (independent : SpellingIndependent before text after ctx) :
    bits ≠ 0#32 ∧ bits ≠ 0xFFFFFFFF#32 := by
  have respelled := convertAndFilterIPs_singleton (parseAddr_mapped dotted)
  constructor
  · rintro rfl
    have forbidden := (isInternalOnly_v4_iff 0#32).mp (by decide)
    rw [(independent.dropped _ dotted forbidden).2,
      isInternalOnly_mapped4_exceptions.1] at respelled
    cases respelled
  · rintro rfl
    have forbidden := (isInternalOnly_v4_iff 0xFFFFFFFF#32).mp (by decide)
    rw [(independent.dropped _ dotted forbidden).2,
      isInternalOnly_mapped4_exceptions.2] at respelled
    cases respelled

/-- What both spellings leave of a readable list. -/
theorem usableEntries_of_notException
    (dotted : parseAddr text = some (.v4 bits))
    (notUnspecified : bits ≠ 0#32)
    (notBroadcast : bits ≠ 0xFFFFFFFF#32) :
    (¬ (Addr.v4 bits).Allowed ∧
        usableEntries (before ++ text :: after) = usableEntries (before ++ after) ∧
        usableEntries (before ++ ("::ffff:" ++ text) :: after) =
          usableEntries (before ++ after)) ∨
      ((Addr.v4 bits).Allowed ∧
        usableEntries (before ++ text :: after) =
          usableEntries before ++ .v4 bits :: usableEntries after ∧
        usableEntries (before ++ ("::ffff:" ++ text) :: after) =
          usableEntries before ++ .v6 (mapped4 bits) "" :: usableEntries after) := by
  have mapped := isInternalOnly_mapped4 bits notUnspecified notBroadcast
  rw [usableEntries_around dotted, usableEntries_around (parseAddr_mapped dotted), mapped,
    usableEntries_append]
  by_cases allowed : (Addr.v4 bits).Allowed
  · have useful : isInternalOnly (.v4 bits) = false := by
      rw [← Bool.not_eq_true, isInternalOnly_v4_iff]
      exact not_not.mpr allowed
    refine .inr ⟨allowed, ?_, ?_⟩ <;> simp [useful]
  · refine .inl ⟨allowed, ?_, ?_⟩ <;>
      simp [(isInternalOnly_v4_iff bits).mpr allowed]

/-- The condition is necessary. -/
theorem SpellingIndependent.safe
    (dotted : parseAddr text = some (.v4 bits))
    (fallback : ctx.mode = .fallback)
    (independent : SpellingIndependent before text after ctx) :
    SpellingSafe before text bits after ctx.legacyExcludes := by
  obtain ⟨notUnspecified, notBroadcast⟩ := independent.notException dotted
  refine ⟨notUnspecified, notBroadcast, ?_⟩
  by_cases unreadable : Unreadable (before ++ after)
  · exact .inl unreadable
  · have converted := convertAndFilterIPs_of_readable dotted unreadable
    have respelled := convertAndFilterIPs_of_readable (parseAddr_mapped dotted) unreadable
    have oneInternal := independent.oneInternal text List.mem_cons_self _ converted
    refine .inr ⟨?_, (length_internalHosts_le_iff fallback _).mp oneInternal⟩
    rcases @usableEntries_of_notException before after _ _ dotted notUnspecified notBroadcast
      with ⟨forbidden, -, -⟩ | ⟨-, spelledUsable, respelledUsable⟩
    · exact .inl forbidden
    · have sameTags := independent.tags
      unfold reportedTags at sameTags
      rw [converted, respelled, spelledUsable, respelledUsable] at sameTags
      refine .inr (((tagsGiven_respelled_iff _ _ _).mp (Option.some.inj sameTags)).imp_left ?_)
      rintro ⟨noneBefore, noneAfter⟩
      rw [usableEntries_append, noneBefore, noneAfter]
      rfl

/-- What no node can have is dropped in both forms, but for the two exceptions. -/
theorem dropped_of_notException
    (dotted : parseAddr text = some (.v4 bits))
    (notUnspecified : bits ≠ 0#32)
    (notBroadcast : bits ≠ 0xFFFFFFFF#32)
    (other : BitVec 32)
    (same : parseAddr text = some (.v4 other))
    (forbidden : ¬ (Addr.v4 other).Allowed) :
    convertAndFilterIPs [text] = .ok [] ∧
      convertAndFilterIPs ["::ffff:" ++ text] = .ok [] := by
  rw [dotted] at same
  cases same
  rw [convertAndFilterIPs_singleton dotted,
    convertAndFilterIPs_singleton (parseAddr_mapped dotted),
    isInternalOnly_mapped4 bits notUnspecified notBroadcast,
    (isInternalOnly_v4_iff bits).mpr forbidden]
  exact ⟨rfl, rfl⟩

/-- A list that is refused is refused in both spellings. -/
theorem spellingIndependent_of_unreadable
    (dotted : parseAddr text = some (.v4 bits))
    (notUnspecified : bits ≠ 0#32)
    (notBroadcast : bits ≠ 0xFFFFFFFF#32)
    (unreadable : Unreadable (before ++ after)) :
    SpellingIndependent before text after ctx := by
  have parsed := parseAddr_mapped dotted
  have refused := convertAndFilterIPs_of_unreadable dotted unreadable
  have alsoRefused := convertAndFilterIPs_of_unreadable parsed unreadable
  refine
    { kept := ?_
      tags := ?_
      oneInternal := ?_
      dropped := dropped_of_notException dotted notUnspecified notBroadcast }
  · unfold keptEntries
    rw [mapM_parseAddr_of_unreadable ((unreadable_around dotted).mpr unreadable),
      mapM_parseAddr_of_unreadable ((unreadable_around parsed).mpr unreadable)]
  · unfold reportedTags
    rw [refused, alsoRefused]
  · intro spelled member ips converted
    rcases List.mem_pair.mp member with rfl | rfl
    · rw [converted] at refused
      cases refused
    · rw [converted] at alsoRefused
      cases alsoRefused

/-- Where the families before an entry decide, both spellings lead to the same tags. -/
theorem respelled_of_familySafe
    (dotted : parseAddr text = some (.v4 bits))
    (notUnspecified : bits ≠ 0#32)
    (notBroadcast : bits ≠ 0xFFFFFFFF#32)
    (familySafe :
      ¬ (Addr.v4 bits).Allowed ∨
        usableEntries (before ++ after) = [] ∨
        BothFamilies (usableEntries before) ∧ ExcludedAlike ctx.legacyExcludes bits)
    (notDoubled : ¬ DoubledHost (usableEntries (before ++ text :: after))) :
    tagsGiven ctx (usableEntries (before ++ text :: after)) =
        tagsGiven ctx (usableEntries (before ++ ("::ffff:" ++ text) :: after)) ∧
      ¬ DoubledHost (usableEntries (before ++ ("::ffff:" ++ text) :: after)) := by
  rcases @usableEntries_of_notException before after _ _ dotted notUnspecified notBroadcast
    with ⟨-, spelled, respelled⟩ | ⟨allowed, spelled, respelled⟩
  · rw [spelled] at notDoubled ⊢
    rw [respelled]
    exact ⟨rfl, notDoubled⟩
  · have families :
        (usableEntries before = [] ∧ usableEntries after = []) ∨
          (BothFamilies (usableEntries before) ∧ ExcludedAlike ctx.legacyExcludes bits) := by
      refine (familySafe.resolve_left (not_not.mpr allowed)).imp_left fun none => ?_
      rw [usableEntries_append] at none
      exact List.append_eq_nil_iff.mp none
    rw [spelled] at notDoubled ⊢
    rw [respelled]
    refine ⟨(tagsGiven_respelled_iff _ _ _).mpr families, ?_⟩
    rcases families with ⟨noneBefore, noneAfter⟩ | ⟨both, -⟩
    · rw [noneBefore, noneAfter]
      simp [DoubledHost, Addr.is4]
    · rw [doubledHost_append both] at notDoubled ⊢
      exact notDoubled

/-- The condition is sufficient. -/
theorem SpellingSafe.independent
    (dotted : parseAddr text = some (.v4 bits))
    (fallback : ctx.mode = .fallback)
    (safe : SpellingSafe before text bits after ctx.legacyExcludes) :
    SpellingIndependent before text after ctx := by
  obtain ⟨notUnspecified, notBroadcast, readableSafe⟩ := safe
  by_cases unreadable : Unreadable (before ++ after)
  · exact spellingIndependent_of_unreadable dotted notUnspecified notBroadcast unreadable
  · obtain ⟨familySafe, notDoubled⟩ := readableSafe.resolve_left unreadable
    obtain ⟨sameTags, stillNotDoubled⟩ :=
      respelled_of_familySafe dotted notUnspecified notBroadcast familySafe notDoubled
    have parsed := parseAddr_mapped dotted
    have converted := convertAndFilterIPs_of_readable dotted unreadable
    have respelled := convertAndFilterIPs_of_readable parsed unreadable
    refine
      { kept := ?_
        tags := ?_
        oneInternal := ?_
        dropped := dropped_of_notException dotted notUnspecified notBroadcast }
    · unfold keptEntries
      rw [mapM_parseAddr_of_readable (mt (unreadable_around dotted).mp unreadable),
        mapM_parseAddr_of_readable (mt (unreadable_around parsed).mp unreadable)]
      simp [dotted, parsed, isInternalOnly_mapped4 bits notUnspecified notBroadcast]
    · unfold reportedTags
      rw [converted, respelled]
      exact congrArg some sameTags
    · intro spelled member ips answer
      rw [length_internalHosts_le_iff fallback]
      rcases List.mem_pair.mp member with rfl | rfl
      · rw [converted] at answer
        cases answer
        exact notDoubled
      · rw [respelled] at answer
        cases answer
        exact stillNotDoubled

end Spelling

/--
Reporting a dotted IPv4 address in its IPv4-mapped form instead is without effect
exactly where the code's own tests of the family and of two special addresses
cannot tell the forms apart.
-/
theorem addressSpelling_independent_iff
    {before after : List String}
    {text : String}
    {bits : BitVec 32}
    {ctx : AddressContext}
    (dotted : parseAddr text = some (.v4 bits))
    (fallback : ctx.mode = .fallback) :
    SpellingIndependent before text after ctx ↔
      SpellingSafe before text bits after ctx.legacyExcludes :=
  ⟨fun independent => independent.safe dotted fallback,
    fun safe => safe.independent dotted fallback⟩

/-- Behind addresses of both families the spelling does not matter. -/
theorem addressSpelling_independent_dualStack :
    SpellingIndependent ["10.0.0.1", "fd00::1"] "10.0.0.5" ["10.0.0.6"]
      { mode := .fallback, network := "default/mgmt" } := by
  have dotted : parseAddr "10.0.0.5" = some (.v4 0x0A000005#32) := by
    decide +kernel
  have first :
      ((usableEntries ["10.0.0.1", "fd00::1", "10.0.0.5", "10.0.0.6"]).find? fun addr =>
        decide (addr.is4 = false)) =
        some (.v6 0xFD000000000000000000000000000001#128 "") := by
    decide +kernel
  refine (addressSpelling_independent_iff dotted rfl).mpr
    ⟨by decide, by decide, .inr ⟨.inr (.inr ⟨⟨?_, ?_⟩, rfl⟩), ?_⟩⟩
  · exact ⟨.v4 0x0A000001#32, by decide +kernel, rfl⟩
  · exact ⟨.v6 0xFD000000000000000000000000000001#128 "", by decide +kernel, rfl⟩
  · rintro ⟨-, addr, found, mapped⟩
    cases first.symm.trans found
    cases mapped

/-- The mapped form of a second IPv4 address becomes a second internal address. -/
theorem addressSpelling_not_always_independent :
    ¬ ∀ (before : List String) (text : String) (after : List String),
      ∀ (bits : BitVec 32) (ctx : AddressContext),
        parseAddr text = some (.v4 bits) →
        ctx.mode = .fallback →
        SpellingIndependent before text after ctx := by
  intro always
  have independent := always ["10.0.0.5"] "10.0.0.6" [] 0x0A000006#32
    { mode := .fallback, network := "default/mgmt" } (by decide +kernel) rfl
  have differ :
      reportedTags { mode := .fallback, network := "default/mgmt" }
          ["10.0.0.5", "10.0.0.6"] ≠
        reportedTags { mode := .fallback, network := "default/mgmt" }
          ["10.0.0.5", "::ffff:10.0.0.6"] := by
    decide +kernel
  exact differ independent.tags

end HarvesterCloudProvider
