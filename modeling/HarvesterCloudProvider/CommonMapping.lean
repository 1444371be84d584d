import HarvesterCloudProvider.VirtualMachineInstance

namespace HarvesterCloudProvider

/-!
# The common mapping as an intersection

The common mapping is built by deleting from the mapping of the first active
instance while ranging over it.  Go visits the entries of a map in any order,
and in another one in every round.  Whatever the orders are, the result is the
intersection of the mappings of all active instances.

The mapping of one instance keeps the last interface on each network
attachment definition.  So it depends on the order of the interfaces exactly
when two of them are on the same definition.
-/

section Ranging

/-- The orders in which a map is visited, one for every round. -/
structure RangeOrder where
  entries : Nat → Std.ExtTreeMap String String → List (String × String)
  visits :
    ∀ (round : Nat) (map : Std.ExtTreeMap String String),
      (entries round map).Perm map.toList

/-- Visit the entries by their keys. -/
def RangeOrder.byKey : RangeOrder where
  entries _ map := map.toList
  visits _ _ := .refl _

/-- Visit the entries by their keys, backwards in every second round. -/
def RangeOrder.alternating : RangeOrder where
  entries round map := if round % 2 = 0 then map.toList else map.toList.reverse
  visits round map := by
    split
    · exact .refl _
    · exact map.toList.reverse_perm

/-- Visit the entries and delete those that the other mapping does not have. -/
def deleteDiffering
    (curr : Std.ExtTreeMap String String)
    (entries : List (String × String))
    (result : Std.ExtTreeMap String String) :
    Std.ExtTreeMap String String :=
  entries.foldl
    (fun result entry =>
      if NilableMap.read (some curr) entry.1 ≠ entry.2 then
        result.erase entry.1
      else
        result)
    result

/-- One round of deleting for every further active instance. -/
def intersectRounds
    (order : RangeOrder) :
    Nat →
    Std.ExtTreeMap String String →
    List VirtualMachineInstance →
    Std.ExtTreeMap String String
  | _, result, [] => result
  | round, result, vmi :: rest =>
      let curr := getNADToInterfaceMapping vmi
      intersectRounds order (round + 1)
        (deleteDiffering curr (order.entries round result) result) rest

/-- `GetCommonVMINADs` with its loops, for given orders of the map entries. -/
def getCommonVMINADsRanging
    (order : RangeOrder)
    (vmis : List (Option VirtualMachineInstance)) :
    StringMap :=
  match activeVMIs vmis with
  | [] => none
  | first :: rest =>
      some (intersectRounds order 0 (getNADToInterfaceMapping first) rest)

/-- The visited entries that differ are gone, all others are kept. -/
theorem deleteDiffering_getElem?
    (curr : Std.ExtTreeMap String String)
    (entries : List (String × String))
    (result : Std.ExtTreeMap String String)
    (nad : String) :
    (deleteDiffering curr entries result)[nad]? =
      if ∃ entry ∈ entries, entry.1 = nad ∧
          NilableMap.read (some curr) entry.1 ≠ entry.2 then
        none
      else
        result[nad]? := by
  induction entries generalizing result with
  | nil =>
      simp [deleteDiffering]
  | cons entry rest inductionHypothesis =>
      have unfolded :
          deleteDiffering curr (entry :: rest) result =
            deleteDiffering curr rest
              (if NilableMap.read (some curr) entry.1 ≠ entry.2 then
                result.erase entry.1
              else
                result) := rfl
      rw [unfolded, inductionHypothesis]
      simp only [List.exists_mem_cons_iff]
      by_cases later :
          ∃ entry ∈ rest, entry.1 = nad ∧ NilableMap.read (some curr) entry.1 ≠ entry.2
      · rw [if_pos later, if_pos (.inr later)]
      · rw [if_neg later]
        by_cases differs : NilableMap.read (some curr) entry.1 ≠ entry.2
        · rw [if_pos differs]
          by_cases sameKey : entry.1 = nad
          · rw [if_pos (.inl ⟨sameKey, differs⟩), sameKey]
            exact Std.ExtTreeMap.getElem?_erase_self
          · rw [if_neg fun found => found.elim (fun here => sameKey here.1) later,
              Std.ExtTreeMap.getElem?_erase, if_neg]
            exact fun same => sameKey (Std.LawfulEqOrd.eq_of_compare same)
        · rw [if_neg differs,
            if_neg fun found => found.elim (fun here => differs here.2) later]

/-- Deleting while ranging over the map is filtering, in every order. -/
theorem deleteDiffering_eq_filter
    {curr result : Std.ExtTreeMap String String}
    {entries : List (String × String)}
    (visits : entries.Perm result.toList) :
    deleteDiffering curr entries result =
      result.filter fun nad iface => NilableMap.read (some curr) nad = iface := by
  refine Std.ExtTreeMap.ext_getElem? fun nad => ?_
  rw [deleteDiffering_getElem?, Std.ExtTreeMap.getElem?_filter']
  have visited :
      ∀ entry : String × String,
        entry ∈ entries ↔ result[entry.1]? = some entry.2 := by
    intro entry
    rw [visits.mem_iff]
    exact Std.ExtTreeMap.mem_toList_iff_getElem?_eq_some
  cases found : result[nad]? with
  | none =>
      simp
  | some iface =>
      by_cases agrees : NilableMap.read (some curr) nad = iface
      · rw [if_neg]
        · rw [Option.filter_some, if_pos (decide_eq_true agrees)]
        · rintro ⟨⟨key, value⟩, member, rfl, differs⟩
          have stored : result[key]? = some value := (visited _).mp member
          rw [found, Option.some.injEq] at stored
          exact differs (agrees.trans stored)
      · rw [if_pos ⟨(nad, iface), (visited _).mpr found, rfl, agrees⟩]
        rw [Option.filter_some, if_neg (by simpa using agrees)]

theorem intersectRounds_eq
    (order : RangeOrder)
    (round : Nat)
    (result : Std.ExtTreeMap String String)
    (rest : List VirtualMachineInstance) :
    intersectRounds order round result rest =
      rest.foldl
        (fun result vmi =>
          result.filter fun nad iface =>
            NilableMap.read (some (getNADToInterfaceMapping vmi)) nad = iface)
        result := by
  induction rest generalizing round result with
  | nil =>
      rfl
  | cons vmi rest inductionHypothesis =>
      rw [intersectRounds, inductionHypothesis, List.foldl_cons,
        deleteDiffering_eq_filter (order.visits round result)]

/-- The loops compute the common mapping, whatever the orders are. -/
theorem getCommonVMINADsRanging_eq
    (order : RangeOrder)
    (vmis : List (Option VirtualMachineInstance)) :
    getCommonVMINADsRanging order vmis = getCommonVMINADs vmis := by
  unfold getCommonVMINADsRanging getCommonVMINADs
  cases activeVMIs vmis with
  | nil =>
      rfl
  | cons first rest =>
      exact congrArg some (intersectRounds_eq order 0 _ rest)

/-- Two lists with the same members have the same common mapping. -/
theorem getCommonVMINADs_of_same_members
    {first second : List (Option VirtualMachineInstance)}
    (sameMembers : ∀ entry, entry ∈ first ↔ entry ∈ second) :
    getCommonVMINADs first = getCommonVMINADs second := by
  have active : ∀ vmi, vmi ∈ activeVMIs first ↔ vmi ∈ activeVMIs second := by
    intro vmi
    rw [mem_activeVMIs, mem_activeVMIs, sameMembers]
  exact getCommonVMINADs_of_active active

/--
The result is nil exactly when no instance is active.  Otherwise it holds the
entries that every active instance has, with interfaces that have a name.  The
order and the number of the list entries do not matter, and neither do the
orders in which the maps are visited.
-/
theorem getCommonVMINADsRanging_intersection
    (order : RangeOrder)
    (vmis : List (Option VirtualMachineInstance)) :
    (getCommonVMINADsRanging order vmis = none ↔
      ∀ vmi, some vmi ∈ vmis → isActive vmi = false) ∧
    ((∃ vmi, some vmi ∈ vmis ∧ isActive vmi = true) →
      ∀ nad iface,
        (getCommonVMINADsRanging order vmis).lookup nad = some iface ↔
          ∀ vmi,
            some vmi ∈ vmis →
            isActive vmi = true →
            (getNADToInterfaceMapping vmi)[nad]? = some iface) ∧
    (∀ nad iface,
      (getCommonVMINADsRanging order vmis).lookup nad = some iface → iface ≠ "") ∧
    ∀ (otherOrder : RangeOrder) (others : List (Option VirtualMachineInstance)),
      (∀ entry, entry ∈ others ↔ entry ∈ vmis) →
      getCommonVMINADsRanging otherOrder others = getCommonVMINADsRanging order vmis := by
  rw [getCommonVMINADsRanging_eq]
  refine ⟨?_, ?_, fun nad iface mapped => getCommonVMINADs_ne_empty mapped, ?_⟩
  · rw [getCommonVMINADs_eq_none, List.eq_nil_iff_forall_not_mem]
    refine forall_congr' fun vmi => ?_
    rw [mem_activeVMIs, not_and, Bool.not_eq_true]
  · rintro ⟨active, member, isActive⟩ nad iface
    rw [getCommonVMINADs_lookup]
    have someActive : activeVMIs vmis ≠ [] :=
      List.ne_nil_of_mem (mem_activeVMIs.mpr ⟨member, isActive⟩)
    simp only [someActive, ne_eq, not_false_eq_true, true_and, mem_activeVMIs, and_imp]
  · intro otherOrder others sameMembers
    rw [getCommonVMINADsRanging_eq]
    exact getCommonVMINADs_of_same_members sameMembers

/-- An instance with two interfaces, the second one under any name. -/
def twoHomed (secondName : String) : VirtualMachineInstance where
  ns := "default"
  name := "pool-1"
  networks :=
    [{ name := "nic-0", multus := some { networkName := "default/vlan1" } },
      { name := "nic-1", multus := some { networkName := "default/vlan2" } }]
  phase := .running
  interfaces :=
    [{ name := "nic-0", interfaceName := "enp1s0" },
      { name := "nic-1", interfaceName := secondName }]

/-- Two such instances have the interface of the first network in common. -/
theorem twoHomed_intersection :
    let vmis := [some (twoHomed "enp2s0"), none, some (twoHomed "enp3s0")]
    (getCommonVMINADsRanging .byKey vmis).lookup "default/vlan1" = some "enp1s0" ∧
      (getCommonVMINADsRanging .byKey vmis).lookup "default/vlan2" ≠ some "enp2s0" ∧
      getCommonVMINADsRanging .alternating vmis.reverse =
        getCommonVMINADsRanging .byKey vmis := by
  intro vmis
  obtain ⟨-, common, -, sameResult⟩ := getCommonVMINADsRanging_intersection .byKey vmis
  have someActive : ∃ vmi, some vmi ∈ vmis ∧ isActive vmi = true :=
    ⟨twoHomed "enp2s0", List.mem_cons_self, by decide⟩
  refine ⟨(common someActive _ _).mpr ?_, fun mapped => ?_, ?_⟩
  · have first (secondName : String) (named : secondName ∈ ["enp2s0", "enp3s0"]) :
        (getNADToInterfaceMapping (twoHomed secondName))["default/vlan1"]? =
          some "enp1s0" := by
      revert secondName
      decide +kernel
    intro vmi member _
    rcases List.mem_cons.mp member with same | member
    · cases same
      exact first _ (by decide)
    · rcases List.mem_cons.mp member with same | member
      · cases same
      · cases List.mem_singleton.mp member
        exact first _ (by decide)
  · have second :=
      (common someActive _ _).mp mapped (twoHomed "enp3s0") (by simp [vmis]) (by decide)
    revert second
    decide +kernel
  · exact sameResult .alternating vmis.reverse fun entry => List.mem_reverse

end Ranging

section Order

/-- A reported interface with both names is on a network attachment definition. -/
structure NetworkInterface.IsOn
    (iface : NetworkInterface)
    (networks : List Network)
    (nad : String) :
    Prop where
  named : ¬ (iface.interfaceName = "" ∨ iface.name = "")
  network :
    ∃ network ∈ networks,
      network.name = iface.name ∧ network.multus = some { networkName := nad }

/-- The same instance with its interfaces and its networks in another order. -/
structure VirtualMachineInstance.Reorders
    (vmi other : VirtualMachineInstance) :
    Prop where
  interfaces : vmi.interfaces.Perm other.interfaces
  networks : vmi.networks.Perm other.networks
  others :
    other = { vmi with
      interfaces := other.interfaces
      networks := other.networks }

/-- The same instance with its interfaces in another order. -/
structure VirtualMachineInstance.ReordersInterfaces
    (vmi other : VirtualMachineInstance) :
    Prop where
  interfaces : vmi.interfaces.Perm other.interfaces
  others : other = { vmi with interfaces := other.interfaces }

/-- The networks of an instance have distinct names. -/
def VirtualMachineInstance.DistinctNetworks (vmi : VirtualMachineInstance) : Prop :=
  (vmi.networks.map Network.name).Nodup

/-- The lookup table of distinctly named networks has one entry per network. -/
theorem nameToNAD_getElem?
    {networks : List Network}
    (distinct : (networks.map Network.name).Nodup)
    {name nad : String} :
    (nameToNAD networks)[name]? = some nad ↔
      ∃ network ∈ networks,
        network.name = name ∧ network.multus = some { networkName := nad } := by
  unfold nameToNAD
  induction networks using List.reverseRecOn with
  | nil =>
      simp
  | append_singleton earlier last inductionHypothesis =>
      rw [List.map_append, List.nodup_append] at distinct
      obtain ⟨earlierDistinct, -, separate⟩ := distinct
      have lastIsNew : ∀ network ∈ earlier, network.name ≠ last.name := by
        intro network member
        exact separate _ (List.mem_map_of_mem member) _ (by simp)
      rw [List.foldl_append, List.foldl_cons, List.foldl_nil]
      simp only [List.mem_append, List.mem_singleton, or_and_right, exists_or,
        exists_eq_left]
      rw [← inductionHypothesis earlierDistinct]
      cases attached : last.multus with
      | none =>
          simp
      | some multus =>
          dsimp only
          by_cases sameName : last.name = name
          · rw [sameName, Std.ExtTreeMap.getElem?_insert_self,
              inductionHypothesis earlierDistinct]
            constructor
            · rintro ⟨rfl⟩
              exact .inr ⟨rfl, rfl⟩
            · rintro (⟨network, member, found, -⟩ | ⟨-, same⟩)
              · exact (lastIsNew network member (found.trans sameName.symm)).elim
              · cases same
                rfl
          · rw [Std.ExtTreeMap.getElem?_insert, if_neg]
            · simp [sameName]
            · exact fun same => sameName (Std.LawfulEqOrd.eq_of_compare same)

section OneInstance

variable {vmi : VirtualMachineInstance}
variable {nad name : String}

/-- The last interface that is on a definition decides its entry. -/
theorem getNADToInterfaceMapping_last
    (distinct : vmi.DistinctNetworks)
    (earlier : List NetworkInterface)
    {last : NetworkInterface}
    (isOn : last.IsOn vmi.networks nad) :
    (getNADToInterfaceMapping { vmi with interfaces := earlier ++ [last] })[nad]? =
      some last.interfaceName := by
  have found : (nameToNAD vmi.networks)[last.name]? = some nad :=
    (nameToNAD_getElem? distinct).mpr isOn.network
  unfold getNADToInterfaceMapping
  dsimp only
  rw [List.foldl_append, List.foldl_cons, List.foldl_nil, if_neg isOn.named, found]
  exact Std.ExtTreeMap.getElem?_insert_self

/-- An interface that is not on a definition leaves its entry alone. -/
theorem getNADToInterfaceMapping_elsewhere
    (distinct : vmi.DistinctNetworks)
    (earlier : List NetworkInterface)
    {last : NetworkInterface}
    (elsewhere : ¬ last.IsOn vmi.networks nad) :
    (getNADToInterfaceMapping { vmi with interfaces := earlier ++ [last] })[nad]? =
      (getNADToInterfaceMapping { vmi with interfaces := earlier })[nad]? := by
  unfold getNADToInterfaceMapping
  dsimp only
  rw [List.foldl_append, List.foldl_cons, List.foldl_nil]
  split
  · rfl
  · rename_i named
    cases found : (nameToNAD vmi.networks)[last.name]? with
    | none =>
        rfl
    | some other =>
        dsimp only
        rw [Std.ExtTreeMap.getElem?_insert, if_neg]
        intro same
        have sameNad : other = nad := Std.LawfulEqOrd.eq_of_compare same
        subst sameNad
        exact elsewhere ⟨named, (nameToNAD_getElem? distinct).mp found⟩

/-- A mapped interface is one of the reported interfaces on the definition. -/
theorem isOn_of_getNADToInterfaceMapping
    (distinct : vmi.DistinctNetworks)
    (mapped : (getNADToInterfaceMapping vmi)[nad]? = some name) :
    ∃ iface ∈ vmi.interfaces, iface.IsOn vmi.networks nad ∧ iface.interfaceName = name := by
  have reported :
      ∀ interfaces : List NetworkInterface,
        (getNADToInterfaceMapping { vmi with interfaces := interfaces })[nad]? =
          some name →
        ∃ iface ∈ interfaces,
          iface.IsOn vmi.networks nad ∧ iface.interfaceName = name := by
    intro interfaces
    induction interfaces using List.reverseRecOn with
    | nil =>
        simp [getNADToInterfaceMapping]
    | append_singleton earlier last inductionHypothesis =>
        intro mapped
        by_cases isOn : last.IsOn vmi.networks nad
        · rw [getNADToInterfaceMapping_last distinct earlier isOn,
            Option.some.injEq] at mapped
          exact ⟨last, by simp, isOn, mapped⟩
        · rw [getNADToInterfaceMapping_elsewhere distinct earlier isOn] at mapped
          obtain ⟨iface, member, found⟩ := inductionHypothesis mapped
          exact ⟨iface, List.mem_append_left _ member, found⟩
  exact reported vmi.interfaces mapped

/-- A definition with an interface on it is mapped. -/
theorem getNADToInterfaceMapping_of_isOn
    (distinct : vmi.DistinctNetworks)
    {iface : NetworkInterface}
    (member : iface ∈ vmi.interfaces)
    (isOn : iface.IsOn vmi.networks nad) :
    ∃ name, (getNADToInterfaceMapping vmi)[nad]? = some name := by
  have total :
      ∀ interfaces : List NetworkInterface,
        iface ∈ interfaces →
        ∃ name,
          (getNADToInterfaceMapping { vmi with interfaces := interfaces })[nad]? =
            some name := by
    intro interfaces
    induction interfaces using List.reverseRecOn with
    | nil =>
        simp
    | append_singleton earlier last inductionHypothesis =>
        intro member
        by_cases lastIsOn : last.IsOn vmi.networks nad
        · exact ⟨_, getNADToInterfaceMapping_last distinct earlier lastIsOn⟩
        · rw [getNADToInterfaceMapping_elsewhere distinct earlier lastIsOn]
          refine inductionHypothesis ?_
          rcases List.mem_append.mp member with inEarlier | isLast
          · exact inEarlier
          · rw [List.mem_singleton] at isLast
            exact (lastIsOn (isLast ▸ isOn)).elim
  exact total vmi.interfaces member

/-- Where all interfaces on a definition have one name, that name is mapped. -/
theorem getNADToInterfaceMapping_of_agree
    (distinct : vmi.DistinctNetworks)
    {iface : NetworkInterface}
    (member : iface ∈ vmi.interfaces)
    (isOn : iface.IsOn vmi.networks nad)
    (agree :
      ∀ other ∈ vmi.interfaces,
        other.IsOn vmi.networks nad → other.interfaceName = name) :
    (getNADToInterfaceMapping vmi)[nad]? = some name := by
  obtain ⟨mappedName, mapped⟩ := getNADToInterfaceMapping_of_isOn distinct member isOn
  obtain ⟨other, otherMember, otherIsOn, otherName⟩ :=
    isOn_of_getNADToInterfaceMapping distinct mapped
  rw [mapped, ← otherName, agree other otherMember otherIsOn]

/-- The instance with one of its interfaces moved to the end. -/
def VirtualMachineInstance.endingWith
    (vmi : VirtualMachineInstance)
    (iface : NetworkInterface) :
    VirtualMachineInstance :=
  { vmi with interfaces := vmi.interfaces.erase iface ++ [iface] }

theorem reordersInterfaces_endingWith
    {iface : NetworkInterface}
    (member : iface ∈ vmi.interfaces) :
    vmi.ReordersInterfaces (vmi.endingWith iface) where
  interfaces :=
    (List.perm_cons_erase member).trans (List.perm_append_singleton _ _).symm
  others := rfl

theorem VirtualMachineInstance.ReordersInterfaces.reorders
    {other : VirtualMachineInstance}
    (reordered : vmi.ReordersInterfaces other) :
    vmi.Reorders other where
  interfaces := reordered.interfaces
  networks := by
    rw [reordered.others]
  others := by
    rw [reordered.others]

/-- Reordering keeps the interfaces on a definition. -/
theorem VirtualMachineInstance.Reorders.isOn_iff
    {other : VirtualMachineInstance}
    (reordered : vmi.Reorders other)
    {iface : NetworkInterface} :
    iface.IsOn other.networks nad ↔ iface.IsOn vmi.networks nad := by
  constructor
  · rintro ⟨named, network, member, found⟩
    exact ⟨named, network, reordered.networks.mem_iff.mpr member, found⟩
  · rintro ⟨named, network, member, found⟩
    exact ⟨named, network, reordered.networks.mem_iff.mp member, found⟩

theorem VirtualMachineInstance.Reorders.distinctNetworks
    {other : VirtualMachineInstance}
    (reordered : vmi.Reorders other)
    (distinct : vmi.DistinctNetworks) :
    other.DistinctNetworks :=
  (reordered.networks.map Network.name).nodup_iff.mp distinct

/-- Any two interfaces on the definition have the same name. -/
def VirtualMachineInstance.AgreesOn (vmi : VirtualMachineInstance) (nad : String) : Prop :=
  ∀ first ∈ vmi.interfaces,
    ∀ second ∈ vmi.interfaces,
      first.IsOn vmi.networks nad →
      second.IsOn vmi.networks nad →
      first.interfaceName = second.interfaceName

/-- What a reordered instance maps, the instance maps too. -/
theorem VirtualMachineInstance.Reorders.mapped
    {other : VirtualMachineInstance}
    (reordered : vmi.Reorders other)
    (distinct : vmi.DistinctNetworks)
    (agrees : vmi.AgreesOn nad)
    (mapped : (getNADToInterfaceMapping other)[nad]? = some name) :
    (getNADToInterfaceMapping vmi)[nad]? = some name := by
  obtain ⟨iface, member, isOn, rfl⟩ :=
    isOn_of_getNADToInterfaceMapping (reordered.distinctNetworks distinct) mapped
  have listed : iface ∈ vmi.interfaces := reordered.interfaces.mem_iff.mpr member
  have isOnToo : iface.IsOn vmi.networks nad := reordered.isOn_iff.mp isOn
  exact getNADToInterfaceMapping_of_agree distinct listed isOnToo
    fun second secondListed secondIsOn =>
      agrees second secondListed iface listed secondIsOn isOnToo

theorem VirtualMachineInstance.Reorders.symm
    {other : VirtualMachineInstance}
    (reordered : vmi.Reorders other) :
    other.Reorders vmi where
  interfaces := reordered.interfaces.symm
  networks := reordered.networks.symm
  others := by
    rw [reordered.others]

theorem VirtualMachineInstance.Reorders.agreesOn
    {other : VirtualMachineInstance}
    (reordered : vmi.Reorders other)
    (agrees : vmi.AgreesOn nad) :
    other.AgreesOn nad := by
  intro first firstListed second secondListed firstIsOn secondIsOn
  exact agrees first (reordered.interfaces.mem_iff.mpr firstListed) second
    (reordered.interfaces.mem_iff.mpr secondListed) (reordered.isOn_iff.mp firstIsOn)
    (reordered.isOn_iff.mp secondIsOn)

/-- The mapping of one instance ignores the order exactly without rivals. -/
theorem getNADToInterfaceMapping_reorders_iff
    (distinct : vmi.DistinctNetworks) :
    (∀ other,
      vmi.Reorders other →
      getNADToInterfaceMapping other = getNADToInterfaceMapping vmi) ↔
      ∀ nad, vmi.AgreesOn nad := by
  constructor
  · intro same nad first firstListed second secondListed firstIsOn secondIsOn
    have mapped :
        ∀ iface ∈ vmi.interfaces,
          iface.IsOn vmi.networks nad →
          (getNADToInterfaceMapping vmi)[nad]? = some iface.interfaceName := by
      intro iface listed isOn
      rw [← same _ (reordersInterfaces_endingWith listed).reorders]
      exact getNADToInterfaceMapping_last distinct _ isOn
    have both := mapped first firstListed firstIsOn
    rw [mapped second secondListed secondIsOn, Option.some.injEq] at both
    exact both.symm
  · intro agrees other reordered
    refine Std.ExtTreeMap.ext_getElem? fun nad => ?_
    ext name
    constructor
    · exact reordered.mapped distinct (agrees nad)
    · exact reordered.symm.mapped (reordered.distinctNetworks distinct)
        (reordered.agreesOn (agrees nad))

theorem VirtualMachineInstance.Reorders.isActive_eq
    {other : VirtualMachineInstance}
    (reordered : vmi.Reorders other) :
    isActive other = isActive vmi := by
  have sameEmpty : other.interfaces.isEmpty = vmi.interfaces.isEmpty := by
    rw [Bool.eq_iff_iff, List.isEmpty_iff, List.isEmpty_iff]
    constructor
    · intro empty
      exact (empty ▸ reordered.interfaces).eq_nil
    · intro empty
      exact (empty ▸ reordered.interfaces).nil_eq.symm
  unfold isActive
  rw [sameEmpty, reordered.others]
  rfl

end OneInstance

section Lists

variable {vmis others : List (Option VirtualMachineInstance)}

/-- Every instance of the list has its interfaces in another order. -/
def ReorderedAll (vmis others : List (Option VirtualMachineInstance)) : Prop :=
  List.Forall₂ (Option.Rel VirtualMachineInstance.ReordersInterfaces) vmis others

/-- The active instances of the list, one of whose interfaces has the name. -/
def AllOffer
    (vmis : List (Option VirtualMachineInstance))
    (nad name : String) :
    Prop :=
  ∀ vmi,
    some vmi ∈ vmis →
    isActive vmi = true →
    ∃ iface ∈ vmi.interfaces, iface.IsOn vmi.networks nad ∧ iface.interfaceName = name

/-- The active instances of the list have only interfaces with the name. -/
def AllAgree
    (vmis : List (Option VirtualMachineInstance))
    (nad name : String) :
    Prop :=
  ∀ vmi,
    some vmi ∈ vmis →
    isActive vmi = true →
    ∀ iface ∈ vmi.interfaces, iface.IsOn vmi.networks nad → iface.interfaceName = name

/-- Every instance has a reordered partner in the other list, and back. -/
theorem ReorderedAll.partner
    (reordered : ReorderedAll vmis others) :
    (∀ vmi, some vmi ∈ vmis → ∃ other, some other ∈ others ∧ vmi.Reorders other) ∧
      ∀ other, some other ∈ others → ∃ vmi, some vmi ∈ vmis ∧ vmi.Reorders other := by
  induction reordered with
  | nil =>
      simp
  | cons related rest inductionHypothesis =>
      obtain ⟨forward, backward⟩ := inductionHypothesis
      constructor
      · intro vmi member
        rcases List.mem_cons.mp member with rfl | later
        · cases related with
          | some here =>
              exact ⟨_, List.mem_cons_self, here.reorders⟩
        · obtain ⟨other, found, reordered⟩ := forward vmi later
          exact ⟨other, List.mem_cons_of_mem _ found, reordered⟩
      · intro other member
        rcases List.mem_cons.mp member with rfl | later
        · cases related with
          | some here =>
              exact ⟨_, List.mem_cons_self, here.reorders⟩
        · obtain ⟨vmi, found, reordered⟩ := backward other later
          exact ⟨vmi, List.mem_cons_of_mem _ found, reordered⟩

/-- Reordering one instance after the other reorders the list. -/
theorem reorderedAll_map
    (move : VirtualMachineInstance → VirtualMachineInstance)
    (moves : ∀ vmi : VirtualMachineInstance, vmi.ReordersInterfaces (move vmi)) :
    ReorderedAll vmis (vmis.map (Option.map move)) := by
  induction vmis with
  | nil =>
      exact .nil
  | cons entry rest inductionHypothesis =>
      refine .cons ?_ inductionHypothesis
      cases entry with
      | none =>
          exact .none
      | some vmi =>
          exact .some (moves vmi)

/-- An entry is common when all active instances offer its name and no other. -/
theorem getCommonVMINADs_of_allOffer
    {nad name : String}
    (distinct : ∀ vmi, some vmi ∈ vmis → vmi.DistinctNetworks)
    (offer : AllOffer vmis nad name)
    (agree : AllAgree vmis nad name)
    (someActive : ∃ vmi, some vmi ∈ vmis ∧ isActive vmi = true) :
    (getCommonVMINADs vmis).lookup nad = some name := by
  obtain ⟨active, member, isActive⟩ := someActive
  refine getCommonVMINADs_lookup.mpr ⟨?_, ?_⟩
  · exact List.ne_nil_of_mem (mem_activeVMIs.mpr ⟨member, isActive⟩)
  · intro vmi found
    obtain ⟨listed, vmiActive⟩ := mem_activeVMIs.mp found
    obtain ⟨iface, ifaceListed, isOn, -⟩ := offer vmi listed vmiActive
    exact getNADToInterfaceMapping_of_agree (distinct vmi listed) ifaceListed isOn
      (agree vmi listed vmiActive)

/-- Every active instance offers the names of the common mapping. -/
theorem allOffer_of_getCommonVMINADs
    {nad name : String}
    (distinct : ∀ vmi, some vmi ∈ vmis → vmi.DistinctNetworks)
    (mapped : (getCommonVMINADs vmis).lookup nad = some name) :
    AllOffer vmis nad name ∧ ∃ vmi, some vmi ∈ vmis ∧ isActive vmi = true := by
  obtain ⟨someActive, all⟩ := getCommonVMINADs_lookup.mp mapped
  obtain ⟨active, member⟩ := List.exists_mem_of_ne_nil _ someActive
  refine ⟨?_, active, mem_activeVMIs.mp member⟩
  intro vmi listed vmiActive
  exact isOn_of_getNADToInterfaceMapping (distinct vmi listed)
    (all vmi (mem_activeVMIs.mpr ⟨listed, vmiActive⟩))

/-- Reordered lists agree on the names of a definition. -/
theorem ReorderedAll.allAgree
    {nad name : String}
    (reordered : ReorderedAll vmis others)
    (agree : AllAgree vmis nad name) :
    AllAgree others nad name := by
  intro other listed active iface ifaceListed isOn
  obtain ⟨vmi, found, partner⟩ := reordered.partner.2 other listed
  exact agree vmi found (partner.isActive_eq.symm.trans active) iface
    (partner.interfaces.mem_iff.mpr ifaceListed) (partner.isOn_iff.mp isOn)

/-- Reordered lists offer the same names of a definition. -/
theorem ReorderedAll.allOffer_iff
    {nad name : String}
    (reordered : ReorderedAll vmis others) :
    AllOffer others nad name ↔ AllOffer vmis nad name := by
  constructor
  · intro offer vmi listed active
    obtain ⟨other, found, partner⟩ := reordered.partner.1 vmi listed
    obtain ⟨iface, ifaceListed, isOn, named⟩ :=
      offer other found (partner.isActive_eq.trans active)
    exact ⟨iface, partner.interfaces.mem_iff.mpr ifaceListed, partner.isOn_iff.mp isOn,
      named⟩
  · intro offer other listed active
    obtain ⟨vmi, found, partner⟩ := reordered.partner.2 other listed
    obtain ⟨iface, ifaceListed, isOn, named⟩ :=
      offer vmi found (partner.isActive_eq.symm.trans active)
    exact ⟨iface, partner.interfaces.mem_iff.mp ifaceListed, partner.isOn_iff.mpr isOn,
      named⟩

theorem ReorderedAll.someActive_iff
    (reordered : ReorderedAll vmis others) :
    (∃ vmi, some vmi ∈ others ∧ isActive vmi = true) ↔
      ∃ vmi, some vmi ∈ vmis ∧ isActive vmi = true := by
  constructor
  · rintro ⟨other, listed, active⟩
    obtain ⟨vmi, found, partner⟩ := reordered.partner.2 other listed
    exact ⟨vmi, found, partner.isActive_eq.symm.trans active⟩
  · rintro ⟨vmi, listed, active⟩
    obtain ⟨other, found, partner⟩ := reordered.partner.1 vmi listed
    exact ⟨other, found, partner.isActive_eq.trans active⟩

theorem ReorderedAll.distinctNetworks
    (reordered : ReorderedAll vmis others)
    (distinct : ∀ vmi, some vmi ∈ vmis → vmi.DistinctNetworks) :
    ∀ other, some other ∈ others → other.DistinctNetworks := by
  intro other listed
  obtain ⟨vmi, found, partner⟩ := reordered.partner.2 other listed
  exact partner.distinctNetworks (distinct vmi found)

/-- Without rivals for a common name the common mapping ignores the order. -/
theorem ReorderedAll.getCommonVMINADs_eq
    (reordered : ReorderedAll vmis others)
    (distinct : ∀ vmi, some vmi ∈ vmis → vmi.DistinctNetworks)
    (agree : ∀ nad name, AllOffer vmis nad name → AllAgree vmis nad name) :
    getCommonVMINADs others = getCommonVMINADs vmis := by
  have bothNil : getCommonVMINADs others = none ↔ getCommonVMINADs vmis = none := by
    simp only [getCommonVMINADs_eq_none, List.eq_nil_iff_forall_not_mem, mem_activeVMIs]
    have active := not_congr reordered.someActive_iff
    simpa only [not_exists] using active
  refine NilableMap.eq_of_lookup bothNil fun nad => ?_
  ext name
  constructor
  · intro mapped
    obtain ⟨offer, someActive⟩ :=
      allOffer_of_getCommonVMINADs (reordered.distinctNetworks distinct) mapped
    have offerHere := reordered.allOffer_iff.mp offer
    exact getCommonVMINADs_of_allOffer distinct offerHere (agree nad name offerHere)
      (reordered.someActive_iff.mp someActive)
  · intro mapped
    obtain ⟨offer, someActive⟩ := allOffer_of_getCommonVMINADs distinct mapped
    exact getCommonVMINADs_of_allOffer (reordered.distinctNetworks distinct)
      (reordered.allOffer_iff.mpr offer) (reordered.allAgree (agree nad name offer))
      (reordered.someActive_iff.mpr someActive)

open Classical in
/-- Move the interface that satisfies a condition to the end, if there is one. -/
noncomputable def moveToEnd
    (wanted : VirtualMachineInstance → NetworkInterface → Prop)
    (vmi : VirtualMachineInstance) :
    VirtualMachineInstance :=
  if found : ∃ iface ∈ vmi.interfaces, wanted vmi iface then
    vmi.endingWith found.choose
  else
    vmi

theorem reordersInterfaces_moveToEnd
    (wanted : VirtualMachineInstance → NetworkInterface → Prop)
    (vmi : VirtualMachineInstance) :
    vmi.ReordersInterfaces (moveToEnd wanted vmi) := by
  unfold moveToEnd
  split
  · rename_i found
    exact reordersInterfaces_endingWith found.choose_spec.1
  · exact ⟨.refl _, rfl⟩

/-- The interface that was moved to the end is mapped. -/
theorem getNADToInterfaceMapping_moveToEnd
    {wanted : VirtualMachineInstance → NetworkInterface → Prop}
    {vmi : VirtualMachineInstance}
    {nad name : String}
    (distinct : vmi.DistinctNetworks)
    (found : ∃ iface ∈ vmi.interfaces, wanted vmi iface)
    (fits :
      ∀ iface,
        wanted vmi iface →
        iface.IsOn vmi.networks nad ∧ iface.interfaceName = name) :
    (getNADToInterfaceMapping (moveToEnd wanted vmi))[nad]? = some name := by
  obtain ⟨isOn, named⟩ := fits _ found.choose_spec.2
  rw [moveToEnd, dif_pos found, ← named]
  exact getNADToInterfaceMapping_last distinct _ isOn

/-- Where the order does not matter, a common name has no rivals. -/
theorem allAgree_of_reordered_eq
    {nad name : String}
    (distinct : ∀ vmi, some vmi ∈ vmis → vmi.DistinctNetworks)
    (same :
      ∀ others,
        ReorderedAll vmis others →
        getCommonVMINADs others = getCommonVMINADs vmis)
    (offer : AllOffer vmis nad name) :
    AllAgree vmis nad name := by
  intro rival rivalListed rivalActive iface ifaceListed isOn
  -- With the offered interfaces at the end, the name is common.
  have common : (getCommonVMINADs vmis).lookup nad = some name := by
    let wanted : VirtualMachineInstance → NetworkInterface → Prop :=
      fun vmi iface => iface.IsOn vmi.networks nad ∧ iface.interfaceName = name
    have reordered : ReorderedAll vmis (vmis.map (Option.map (moveToEnd wanted))) :=
      reorderedAll_map (moveToEnd wanted) (reordersInterfaces_moveToEnd wanted)
    rw [← same _ reordered]
    refine getCommonVMINADs_lookup.mpr ⟨?_, ?_⟩
    · obtain ⟨other, listed, active⟩ :=
        reordered.someActive_iff.mpr ⟨rival, rivalListed, rivalActive⟩
      exact List.ne_nil_of_mem (mem_activeVMIs.mpr ⟨listed, active⟩)
    · intro other found
      obtain ⟨listed, active⟩ := mem_activeVMIs.mp found
      obtain ⟨entry, entryListed, moved⟩ := List.mem_map.mp listed
      obtain ⟨vmi, rfl, rfl⟩ := Option.map_eq_some_iff.mp moved
      have vmiActive : isActive vmi = true := by
        rw [← (reordersInterfaces_moveToEnd wanted vmi).reorders.isActive_eq]
        exact active
      exact getNADToInterfaceMapping_moveToEnd (distinct vmi entryListed)
        (offer vmi entryListed vmiActive) fun _ fits => fits
  -- With the rival at the end of its instance, the name would not be common.
  let wanted : VirtualMachineInstance → NetworkInterface → Prop :=
    fun vmi other => vmi = rival ∧ other = iface
  have reordered : ReorderedAll vmis (vmis.map (Option.map (moveToEnd wanted))) :=
    reorderedAll_map (moveToEnd wanted) (reordersInterfaces_moveToEnd wanted)
  rw [← same _ reordered] at common
  have rivalMoved :
      moveToEnd wanted rival ∈ activeVMIs (vmis.map (Option.map (moveToEnd wanted))) := by
    refine mem_activeVMIs.mpr ⟨List.mem_map.mpr ⟨some rival, rivalListed, rfl⟩, ?_⟩
    rw [(reordersInterfaces_moveToEnd wanted rival).reorders.isActive_eq]
    exact rivalActive
  have mapped := (getCommonVMINADs_lookup.mp common).2 _ rivalMoved
  have moved :
      (getNADToInterfaceMapping (moveToEnd wanted rival))[nad]? =
        some iface.interfaceName :=
    getNADToInterfaceMapping_moveToEnd (distinct rival rivalListed)
      ⟨iface, ifaceListed, rfl, rfl⟩ fun other fits => by
        rw [fits.2]
        exact ⟨isOn, rfl⟩
  rw [mapped, Option.some.injEq] at moved
  exact moved.symm

end Lists

/--
The mapping of an instance does not depend on the order of its interfaces and
networks exactly when all interfaces on one definition have the same name.  The
common mapping of a list does not depend on the orders of the interfaces
exactly when no name that all active instances offer has a rival.
-/
theorem mapping_ignores_order_iff
    {vmi : VirtualMachineInstance}
    {vmis : List (Option VirtualMachineInstance)}
    (distinct : vmi.DistinctNetworks)
    (allDistinct : ∀ listed, some listed ∈ vmis → listed.DistinctNetworks) :
    ((∀ other,
      vmi.Reorders other →
      getNADToInterfaceMapping other = getNADToInterfaceMapping vmi) ↔
      ∀ nad, vmi.AgreesOn nad) ∧
    ((∀ others,
      ReorderedAll vmis others →
      getCommonVMINADs others = getCommonVMINADs vmis) ↔
      ∀ nad name, AllOffer vmis nad name → AllAgree vmis nad name) := by
  refine ⟨getNADToInterfaceMapping_reorders_iff distinct, ?_⟩
  constructor
  · intro same nad name offer
    exact allAgree_of_reordered_eq allDistinct same offer
  · intro agree others reordered
    exact reordered.getCommonVMINADs_eq allDistinct agree

/-- Two interfaces of one instance on two network attachment definitions. -/
def onePerNAD : VirtualMachineInstance where
  ns := "default"
  name := "pool-2"
  networks :=
    [{ name := "nic-0", multus := some { networkName := "default/vlan1" } },
      { name := "nic-1", multus := some { networkName := "default/vlan2" } }]
  phase := .running
  interfaces :=
    [{ name := "nic-0", interfaceName := "enp1s0" },
      { name := "nic-1", interfaceName := "enp2s0" }]

/-- One interface per definition is mapped the same in every order. -/
theorem onePerNAD_ignores_order :
    (getNADToInterfaceMapping onePerNAD)["default/vlan2"]? = some "enp2s0" ∧
      (∀ other,
        onePerNAD.Reorders other →
        getNADToInterfaceMapping other = getNADToInterfaceMapping onePerNAD) ∧
      ∀ others,
        ReorderedAll [some onePerNAD, none] others →
        getCommonVMINADs others = getCommonVMINADs [some onePerNAD, none] := by
  have distinct : onePerNAD.DistinctNetworks := by
    unfold VirtualMachineInstance.DistinctNetworks
    decide
  have listed
      {vmi : VirtualMachineInstance}
      (member : some vmi ∈ [some onePerNAD, none]) :
      vmi = onePerNAD := by
    simpa using member
  -- The definition of an interface tells its name.
  have isOnOne
      {nad : String}
      {iface : NetworkInterface}
      (member : iface ∈ onePerNAD.interfaces)
      (isOn : iface.IsOn onePerNAD.networks nad) :
      iface.interfaceName = if nad = "default/vlan1" then "enp1s0" else "enp2s0" := by
    obtain ⟨network, networkListed, sameName, attached⟩ := isOn.network
    simp only [onePerNAD, List.mem_cons, List.not_mem_nil, or_false]
      at member networkListed
    rcases networkListed with rfl | rfl <;> cases attached <;>
      rcases member with rfl | rfl <;> simp_all
  have agrees : ∀ nad, onePerNAD.AgreesOn nad := by
    intro nad first firstListed second secondListed firstOn secondOn
    rw [isOnOne firstListed firstOn, isOnOne secondListed secondOn]
  have orderIff :=
    @mapping_ignores_order_iff onePerNAD [some onePerNAD, none] distinct
      fun vmi member => listed member ▸ distinct
  refine ⟨by decide +kernel, orderIff.1.mpr agrees, orderIff.2.mpr ?_⟩
  intro nad name offer vmi member active iface ifaceListed isOn
  obtain ⟨offered, offeredListed, offeredOn, rfl⟩ := offer vmi member active
  rw [listed member] at ifaceListed isOn offeredListed offeredOn
  exact agrees nad iface ifaceListed offered offeredListed isOn offeredOn

/-- Two interfaces of one instance on the same network attachment definition. -/
def twoOnOneNAD : VirtualMachineInstance where
  ns := "default"
  name := "pool-1"
  networks :=
    [{ name := "nic-0", multus := some { networkName := "default/vlan1" } },
      { name := "nic-1", multus := some { networkName := "default/vlan1" } }]
  phase := .running
  interfaces :=
    [{ name := "nic-0", interfaceName := "enp1s0" },
      { name := "nic-1", interfaceName := "enp2s0" }]

/-- The order in which the guest agent lists two interfaces moves the entry. -/
theorem mapping_depends_on_order :
    ¬ ∀ vmi other : VirtualMachineInstance,
        (vmi.networks.map Network.name).Nodup →
        (vmi.interfaces.map NetworkInterface.name).Nodup →
        (∀ iface ∈ vmi.interfaces, iface.name ≠ "") →
        (vmi.interfaces.map NetworkInterface.interfaceName).Nodup →
        (∀ iface ∈ vmi.interfaces, iface.interfaceName ≠ "") →
        vmi.Reorders other →
        getNADToInterfaceMapping other = getNADToInterfaceMapping vmi := by
  intro same
  have moved :=
    same twoOnOneNAD { twoOnOneNAD with interfaces := twoOnOneNAD.interfaces.reverse }
      (by decide) (by decide) (by decide) (by decide) (by decide)
      ⟨twoOnOneNAD.interfaces.reverse_perm.symm, .refl _, rfl⟩
  have differs :
      (getNADToInterfaceMapping
          { twoOnOneNAD with
            interfaces := twoOnOneNAD.interfaces.reverse })["default/vlan1"]? ≠
        (getNADToInterfaceMapping twoOnOneNAD)["default/vlan1"]? := by
    decide +kernel
  exact differs (by rw [moved])

end Order

end HarvesterCloudProvider
