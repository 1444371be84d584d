import HarvesterCloudProvider.NetAddress

namespace HarvesterCloudProvider

/-!
# Texts of addresses

The text of an address parses back to the address, so different addresses have
different texts.  An IPv4 address has a second spelling, the IPv4-mapped IPv6
address with the dotted form as its tail.
-/

section Digits

/-- The digits of a number are digits of its base. -/
theorem exists_of_mem_toDigits
    {base value : Nat}
    (large : 1 < base)
    {character : Char}
    (member : character ∈ Nat.toDigits base value) :
    ∃ digit, digit < base ∧ character = digit.digitChar := by
  induction value using Nat.strongRecOn with
  | ind value inductionHypothesis =>
      rw [Nat.toDigits_eq_if large] at member
      split at member
      · rename_i small
        exact ⟨value, small, List.mem_singleton.mp member⟩
      · rename_i atLeast
        rcases List.mem_append.mp member with early | last
        · exact inductionHypothesis _ (Nat.div_lt_self (by omega) large) early
        · exact ⟨value % base, Nat.mod_lt _ (by omega), List.mem_singleton.mp last⟩

/-- The characters that hexadecimal numbers are written with. -/
theorem isSome_of_mem_toDigits
    {value : Nat}
    {character : Char}
    (member : character ∈ Nat.toDigits 16 value) :
    (hexDigitValue character).isSome = true := by
  obtain ⟨digit, small, rfl⟩ := exists_of_mem_toDigits (by decide) member
  rw [hexDigitValue_digitChar small]
  rfl

/-- Reading the hexadecimal digits of a number gives the number. -/
theorem foldlM_toDigits (value : Nat) :
    (Nat.toDigits 16 value).foldlM
        (fun value digit => (hexDigitValue digit).map (value * 16 + ·)) 0 =
      some value := by
  induction value using Nat.strongRecOn with
  | ind value inductionHypothesis =>
      rw [Nat.toDigits_eq_if (by decide)]
      split
      · rename_i small
        simp [hexDigitValue_digitChar small]
      · rename_i atLeast
        have smaller : value / 16 < value := Nat.div_lt_self (by omega) (by decide)
        rw [List.foldlM_append, inductionHypothesis _ smaller]
        simp only [bind_pure_comp, List.foldlM_cons, List.foldlM_nil, Option.bind_eq_bind,
          Option.bind_some, hexDigitValue_digitChar (Nat.mod_lt value (by decide)),
          Option.map_some]
        exact congrArg some (Nat.div_add_mod' value 16)

/-- A group of sixteen bits parses back. -/
theorem parseGroup_toDigits
    {group : Nat}
    (small : group < 65536) :
    parseGroup (Nat.toDigits 16 group) = some group := by
  unfold parseGroup
  have short : (Nat.toDigits 16 group).length ≤ 4 :=
    (Nat.length_toDigits_le_iff (by decide) (by decide)).mpr small
  rw [if_neg]
  · exact foldlM_toDigits group
  · rintro (empty | long)
    · exact Nat.toDigits_ne_nil empty
    · omega

/-- An octet parses back. -/
theorem parseOctet_decimalText
    {octet : Nat}
    (small : octet < 256) :
    parseOctet (decimalText octet) = some octet := by
  have checked :
      ∀ octet : Fin 256, parseOctet (decimalText octet.val) = some octet.val := by
    decide +kernel
  exact checked ⟨octet, small⟩

/-- A decimal number has no character that is no digit. -/
theorem notMem_decimalText
    {separator : Char}
    (other : separator.isDigit = false)
    (value : Nat) :
    separator ∉ decimalText value := by
  intro member
  have digit := Nat.isDigit_of_mem_toDigits (by decide) (by decide) member
  rw [other] at digit
  cases digit

end Digits

section Dotted

/-- The dotted text of four octets splits into them. -/
theorem splitOn_string4 (bits : BitVec 32) :
    (string4 bits).splitOn '.' =
      [decimalText (bits.toNat / 16777216), decimalText (bits.toNat / 65536 % 256),
        decimalText (bits.toNat / 256 % 256), decimalText (bits.toNat % 256)] := by
  rw [← @List.splitOn_intercalate _
    [decimalText (bits.toNat / 16777216), decimalText (bits.toNat / 65536 % 256),
      decimalText (bits.toNat / 256 % 256), decimalText (bits.toNat % 256)] _ _ '.' ?_
    (by simp)]
  · simp [string4, List.intercalate]
  · intro field member
    simp only [List.mem_cons, List.not_mem_nil, or_false] at member
    rcases member with rfl | rfl | rfl | rfl <;> exact notMem_decimalText (by decide) _

/-- An IPv4 address parses back from its dotted text. -/
theorem parseIPv4Fields_string4 (bits : BitVec 32) :
    parseIPv4Fields (string4 bits) = some bits := by
  have bound := bits.isLt
  unfold parseIPv4Fields
  rw [splitOn_string4]
  simp only [parseOctet_decimalText (show bits.toNat / 16777216 < 256 by omega),
    parseOctet_decimalText (show bits.toNat / 65536 % 256 < 256 by omega),
    parseOctet_decimalText (show bits.toNat / 256 % 256 < 256 by omega),
    parseOctet_decimalText (show bits.toNat % 256 < 256 by omega)]
  refine congrArg some (BitVec.eq_of_toNat_eq ?_)
  rw [BitVec.toNat_ofNat]
  omega

end Dotted

section Groups

/-- Where a group ends. -/
def EndsGroup (rest : List Char) : Prop :=
  ∀ character ∈ rest.head?, (hexDigitValue character).isSome = false

/-- The digits in front of a text are those of the group it starts with. -/
theorem span_toDigits
    {rest : List Char}
    (ends : EndsGroup rest)
    (group : Nat) :
    (Nat.toDigits 16 group ++ rest).takeWhile
          (fun character => (hexDigitValue character).isSome) =
        Nat.toDigits 16 group ∧
      (Nat.toDigits 16 group ++ rest).dropWhile
          (fun character => (hexDigitValue character).isSome) =
        rest := by
  have digits : ∀ character ∈ Nat.toDigits 16 group, (hexDigitValue character).isSome :=
    fun character member => isSome_of_mem_toDigits member
  rw [List.takeWhile_append_of_pos digits, List.dropWhile_append_of_pos digits]
  cases rest with
  | nil =>
      simp
  | cons character later =>
      have stops := ends character rfl
      rw [List.takeWhile_cons_of_neg (by simp [stops]),
        List.dropWhile_cons_of_neg (by simp [stops]), List.append_nil]
      exact ⟨rfl, rfl⟩

theorem endsGroup_nil : EndsGroup [] := by
  simp [EndsGroup]

theorem endsGroup_colon (later : List Char) : EndsGroup (':' :: later) := by
  intro character member
  cases member
  rfl

/-- A written list of groups starts with a digit. -/
theorem groupsText_cons (group : Nat) (later : List Nat) :
    ∃ digit rest,
      groupsText (group :: later) = digit :: rest ∧
        (hexDigitValue digit).isSome = true := by
  obtain ⟨digit, rest, shape⟩ :=
    List.exists_cons_of_ne_nil (@Nat.toDigits_ne_nil group 16)
  have first : (hexDigitValue digit).isSome = true :=
    isSome_of_mem_toDigits (by rw [shape]; exact List.mem_cons_self)
  cases later with
  | nil =>
      exact ⟨digit, rest, shape, first⟩
  | cons next later =>
      refine ⟨digit, rest ++ ':' :: groupsText (next :: later), ?_, first⟩
      rw [groupsText, shape, List.cons_append]
      simp

/-- The last group of a text. -/
theorem parseGroups_last
    {group : Nat}
    (small : group < 65536)
    (room : Nat)
    (read : List Nat)
    (ellipsis : Option Nat) :
    parseGroups (room + 1) read ellipsis (Nat.toDigits 16 group) =
      some (group :: read, ellipsis) := by
  have digits := span_toDigits endsGroup_nil group
  rw [List.append_nil] at digits
  rw [parseGroups, digits.1, digits.2, parseGroup_toDigits small]

/-- A group in front of a further one. -/
theorem parseGroups_next
    {group : Nat}
    (small : group < 65536)
    (room : Nat)
    (read : List Nat)
    (ellipsis : Option Nat)
    {digit : Char}
    {rest : List Char}
    (isDigit : (hexDigitValue digit).isSome = true) :
    parseGroups (room + 1) read ellipsis
        (Nat.toDigits 16 group ++ ':' :: digit :: rest) =
      parseGroups room (group :: read) ellipsis (digit :: rest) := by
  have digits := span_toDigits (endsGroup_colon (digit :: rest)) group
  have noColon : digit ≠ ':' := by
    rintro rfl
    cases isDigit
  rw [parseGroups, digits.1, digits.2, parseGroup_toDigits small]
  simp [noColon]

/-- A group in front of the ellipsis. -/
theorem parseGroups_colons
    {group : Nat}
    (small : group < 65536)
    (room : Nat)
    (read : List Nat)
    (tail : List Char) :
    parseGroups (room + 1) read none (Nat.toDigits 16 group ++ ':' :: ':' :: tail) =
      if tail = [] then
        some (group :: read, some (read.length + 1))
      else
        parseGroups room (group :: read) (some (read.length + 1)) tail := by
  have digits := span_toDigits (endsGroup_colon (':' :: tail)) group
  rw [parseGroups, digits.1, digits.2, parseGroup_toDigits small]
  cases tail with
  | nil =>
      simp
  | cons character rest =>
      simp

/-- The groups in front of the last one are read one after the other. -/
theorem parseGroups_front
    {front : List Nat}
    (small : ∀ group ∈ front, group < 65536)
    (last : Nat)
    {room : Nat}
    (fits : front.length < room)
    (read : List Nat)
    (ellipsis : Option Nat)
    (rest : List Char) :
    parseGroups room read ellipsis (groupsText (front ++ [last]) ++ rest) =
      parseGroups (room - front.length) (front.reverse ++ read) ellipsis
        (Nat.toDigits 16 last ++ rest) := by
  induction front generalizing room read with
  | nil =>
      rfl
  | cons group later inductionHypothesis =>
      rw [List.length_cons] at fits
      obtain ⟨left, rfl⟩ : ∃ left, room = left + 1 := ⟨room - 1, by omega⟩
      have first := small group List.mem_cons_self
      have next := inductionHypothesis
        (fun other member => small other (List.mem_cons_of_mem _ member))
        (Nat.lt_of_succ_lt_succ fits) (group :: read)
      obtain ⟨second, others, split⟩ :
          ∃ second others, later ++ [last] = second :: others :=
        List.exists_cons_of_ne_nil (by simp)
      obtain ⟨digit, text, shape, isDigit⟩ := groupsText_cons second others
      have written : groupsText (group :: later ++ [last]) =
          Nat.toDigits 16 group ++ ':' :: digit :: text := by
        rw [List.cons_append, split, groupsText, shape]
        simp
      rw [split, shape, List.cons_append] at next
      rw [written, List.append_assoc, List.cons_append, List.cons_append,
        parseGroups_next first left read ellipsis isDigit, next, List.length_cons,
        List.reverse_cons, List.append_assoc, Nat.add_sub_add_right]
      rfl

/-- Groups at the end of a text. -/
theorem parseGroups_groupsText
    {groups : List Nat}
    (small : ∀ group ∈ groups, group < 65536)
    (nonempty : groups ≠ [])
    {room : Nat}
    (fits : groups.length ≤ room)
    (read : List Nat)
    (ellipsis : Option Nat) :
    parseGroups room read ellipsis (groupsText groups) =
      some (groups.reverse ++ read, ellipsis) := by
  obtain ⟨front, last, rfl⟩ := (List.eq_nil_or_concat' groups).resolve_left nonempty
  simp only [List.length_append, List.length_singleton] at fits
  have frontRead := parseGroups_front
    (fun group member => small group (List.mem_append_left _ member)) last
    (Nat.lt_of_succ_le fits) read ellipsis []
  obtain ⟨left, oneMore⟩ : ∃ left, room - front.length = left + 1 :=
    ⟨room - front.length - 1, by omega⟩
  rw [List.append_nil, List.append_nil, oneMore,
    parseGroups_last (small last (by simp)) left] at frontRead
  rw [frontRead, List.reverse_append]
  rfl

/-- Groups in front of the ellipsis. -/
theorem parseGroups_ellipsis
    {groups : List Nat}
    (small : ∀ group ∈ groups, group < 65536)
    (nonempty : groups ≠ [])
    {room : Nat}
    (fits : groups.length ≤ room)
    (tail : List Char) :
    parseGroups room [] none (groupsText groups ++ ':' :: ':' :: tail) =
      if tail = [] then
        some (groups.reverse, some groups.length)
      else
        parseGroups (room - groups.length) groups.reverse (some groups.length) tail := by
  obtain ⟨front, last, rfl⟩ := (List.eq_nil_or_concat' groups).resolve_left nonempty
  simp only [List.length_append, List.length_singleton] at fits
  have frontRead := parseGroups_front
    (fun group member => small group (List.mem_append_left _ member)) last
    (Nat.lt_of_succ_le fits) [] none (':' :: ':' :: tail)
  obtain ⟨left, oneMore⟩ : ∃ left, room - front.length = left + 1 :=
    ⟨room - front.length - 1, by omega⟩
  have remaining : left = room - (front ++ [last]).length := by
    simp only [List.length_append, List.length_singleton]
    omega
  rw [oneMore, parseGroups_colons (small last (by simp)) left] at frontRead
  rw [frontRead, remaining]
  simp

/-- The compressed run is a run of at least two zero groups. -/
theorem longestZeroRun_spec
    {groups : List Nat}
    {start run : Nat}
    (longest : longestZeroRun groups = some (start, run)) :
    2 ≤ run ∧ run = zeroRun (groups.drop start) := by
  -- Every run that the fold has remembered so far is such a run.
  have remembered :
      ∀ entry ∈ longestZeroRun groups,
        2 ≤ entry.2 ∧ entry.2 = zeroRun (groups.drop entry.1) := by
    unfold longestZeroRun
    refine List.foldlRecOn (motive := fun best : Option (Nat × Nat) =>
      ∀ entry ∈ best, 2 ≤ entry.2 ∧ entry.2 = zeroRun (groups.drop entry.1)) _ _ (by simp) ?_
    intro best known first _
    dsimp only
    split
    · exact known
    · rename_i long
      have new : ∀ entry ∈ some (first, zeroRun (groups.drop first)),
          2 ≤ entry.2 ∧ entry.2 = zeroRun (groups.drop entry.1) := by
        rintro _ ⟨⟩
        exact ⟨by omega, rfl⟩
      split
      · exact new
      · split
        · exact new
        · exact known
  exact remembered (start, run) longest

end Groups

section Bits

theorem groupsText_eq_nil {groups : List Nat} : groupsText groups = [] ↔ groups = [] := by
  cases groups with
  | nil =>
      simp [groupsText]
  | cons group later =>
      obtain ⟨digit, rest, shape, -⟩ := groupsText_cons group later
      simp [shape]

/-- The bits of an address, from the groups read and the place of the ellipsis. -/
def bitsOfRead (read : List Nat × Option Nat) : Option (BitVec 128) := do
  let groups ← expandGroups read
  return bitsOfGroups groups

theorem bitsOfRead_of_expanded
    {read : List Nat × Option Nat}
    {groups : List Nat}
    (expanded : expandGroups read = some groups) :
    bitsOfRead read = some (bitsOfGroups groups) := by
  rw [bitsOfRead, expanded]
  rfl

/-- A text that starts with a digit is read group by group from the start. -/
theorem parseIPv6Bits_of_digit
    {digit : Char}
    {rest : List Char}
    (isDigit : (hexDigitValue digit).isSome = true) :
    parseIPv6Bits (digit :: rest) =
      (parseGroups 8 [] none (digit :: rest)).bind bitsOfRead := by
  have noColon : digit ≠ ':' := by
    rintro rfl
    cases isDigit
  unfold parseIPv6Bits
  split
  · rename_i shape
    cases shape
    exact (noColon rfl).elim
  · rename_i shape
    cases shape
    exact (noColon rfl).elim
  · rfl

/-- A text that starts with the ellipsis is read from behind it. -/
theorem parseIPv6Bits_of_ellipsis (character : Char) (rest : List Char) :
    parseIPv6Bits (':' :: ':' :: character :: rest) =
      (parseGroups 8 [] (some 0) (character :: rest)).bind bitsOfRead := by
  unfold parseIPv6Bits
  split
  · rename_i shape
    cases shape
  · rename_i later _ shape
    cases shape
    rfl
  · rename_i other
    exact (other _ rfl).elim

/-- Eight groups without an ellipsis. -/
theorem parseIPv6Bits_groupsText
    {groups : List Nat}
    (small : ∀ group ∈ groups, group < 65536)
    (eight : groups.length = 8) :
    parseIPv6Bits (groupsText groups) = some (bitsOfGroups groups) := by
  obtain ⟨group, later, rfl⟩ :=
    List.exists_cons_of_length_pos (by omega : 0 < groups.length)
  obtain ⟨digit, rest, shape, isDigit⟩ := groupsText_cons group later
  have read := parseGroups_groupsText small (by simp) eight.le [] none
  rw [shape] at read ⊢
  rw [parseIPv6Bits_of_digit isDigit, read]
  refine bitsOfRead_of_expanded ?_
  simp only [List.append_nil, expandGroups, List.length_reverse, eight, ↓reduceIte,
    List.reverse_reverse]

/-- The ellipsis is filled up to eight groups. -/
theorem expandGroups_compressed
    {front back : List Nat}
    (fits : front.length + back.length < 8) :
    expandGroups (back.reverse ++ front.reverse, some front.length) =
      some (front ++ List.replicate (8 - (front.length + back.length)) 0 ++ back) := by
  have total : (back.reverse ++ front.reverse).length = front.length + back.length := by
    simp [Nat.add_comm]
  rw [expandGroups, total, if_pos fits, List.reverse_append, List.reverse_reverse,
    List.reverse_reverse, List.take_left, List.drop_left]

/-- Fewer than eight groups around an ellipsis. -/
theorem parseIPv6Bits_compressed
    {front back : List Nat}
    (frontSmall : ∀ group ∈ front, group < 65536)
    (backSmall : ∀ group ∈ back, group < 65536)
    (fits : front.length + back.length < 8) :
    parseIPv6Bits (groupsText front ++ ':' :: ':' :: groupsText back) =
      some
        (bitsOfGroups
          (front ++ List.replicate (8 - (front.length + back.length)) 0 ++ back)) := by
  have expanded := expandGroups_compressed fits
  cases front with
  | nil =>
      rw [groupsText, List.nil_append]
      cases back with
      | nil =>
          rfl
      | cons group later =>
          have read := parseGroups_groupsText backSmall (by simp)
            (by simp only [List.length_cons, List.length_nil] at fits ⊢; omega :
              (group :: later).length ≤ 8) [] (some 0)
          obtain ⟨digit, rest, shape, -⟩ := groupsText_cons group later
          rw [shape] at read ⊢
          rw [parseIPv6Bits_of_ellipsis, read]
          exact bitsOfRead_of_expanded expanded
  | cons first front =>
      obtain ⟨digit, rest, shape, isDigit⟩ := groupsText_cons first front
      have read := parseGroups_ellipsis frontSmall (by simp)
        (by omega : (first :: front).length ≤ 8) (groupsText back)
      have settled :
          parseGroups 8 [] none
              (groupsText (first :: front) ++ ':' :: ':' :: groupsText back) =
            some (back.reverse ++ (first :: front).reverse, some (first :: front).length) := by
        rw [read]
        cases back with
        | nil =>
            simp [groupsText]
        | cons group later =>
            rw [if_neg (by rw [groupsText_eq_nil]; simp),
              parseGroups_groupsText backSmall (by simp) (by omega)]
      rw [shape, List.cons_append] at settled ⊢
      rw [parseIPv6Bits_of_digit isDigit, settled]
      exact bitsOfRead_of_expanded expanded

theorem length_groupsOf (bits : BitVec 128) : (groupsOf bits).length = 8 := by
  simp [groupsOf]

theorem groupsOf_small (bits : BitVec 128) : ∀ group ∈ groupsOf bits, group < 65536 := by
  intro group member
  obtain ⟨index, -, rfl⟩ := List.mem_map.mp member
  exact Nat.mod_lt _ (by decide)

/-- The groups of an address determine its bits. -/
theorem bitsOfGroups_groupsOf (bits : BitVec 128) : bitsOfGroups (groupsOf bits) = bits := by
  refine BitVec.eq_of_toNat_eq ?_
  have bound := bits.isLt
  have joined : ∀ power : Nat,
      bits.toNat / 65536 ^ (power + 1) * 65536 + bits.toNat / 65536 ^ power % 65536 =
        bits.toNat / 65536 ^ power := by
    intro power
    rw [Nat.pow_succ, ← Nat.div_div_eq_div_mul]
    exact Nat.div_add_mod' _ _
  have top : bits.toNat / 65536 ^ 7 % 65536 = bits.toNat / 65536 ^ 7 :=
    Nat.mod_eq_of_lt (Nat.div_lt_of_lt_mul (by omega))
  rw [bitsOfGroups, BitVec.toNat_ofNat]
  have collected :
      (groupsOf bits).foldl (fun value group => value * 65536 + group) 0 = bits.toNat := by
    have listed : groupsOf bits =
        [bits.toNat / 65536 ^ 7 % 65536, bits.toNat / 65536 ^ 6 % 65536,
          bits.toNat / 65536 ^ 5 % 65536, bits.toNat / 65536 ^ 4 % 65536,
          bits.toNat / 65536 ^ 3 % 65536, bits.toNat / 65536 ^ 2 % 65536,
          bits.toNat / 65536 ^ 1 % 65536, bits.toNat / 65536 ^ 0 % 65536] := rfl
    rw [listed]
    simp only [List.foldl_cons, List.foldl_nil, Nat.zero_mul, Nat.zero_add, top, joined]
    simp
  rw [collected]
  exact Nat.mod_eq_of_lt bound

/-- A run of zero groups can be filled in again. -/
theorem zeroRun_filled
    (groups : List Nat)
    (start : Nat) :
    groups.take start ++
        List.replicate (zeroRun (groups.drop start)) 0 ++
        groups.drop (start + zeroRun (groups.drop start)) =
      groups := by
  have zeros :
      (groups.drop start).takeWhile (· = 0) =
        List.replicate (zeroRun (groups.drop start)) 0 := by
    refine List.eq_replicate_iff.mpr ⟨rfl, fun group member => ?_⟩
    simpa using List.mem_takeWhile_imp member
  have rest :
      groups.drop (start + zeroRun (groups.drop start)) =
        (groups.drop start).dropWhile (· = 0) := by
    rw [← List.drop_drop]
    calc
      (groups.drop start).drop (zeroRun (groups.drop start)) =
          ((groups.drop start).takeWhile (· = 0) ++
            (groups.drop start).dropWhile (· = 0)).drop
              ((groups.drop start).takeWhile (· = 0)).length := by
        rw [List.takeWhile_append_dropWhile]
        rfl
      _ = (groups.drop start).dropWhile (· = 0) := List.drop_left
  rw [rest, ← zeros, List.append_assoc, List.takeWhile_append_dropWhile,
    List.take_append_drop]

/-- An IPv6 address without zone parses back. -/
theorem parseIPv6Bits_string6 (bits : BitVec 128) :
    parseIPv6Bits (string6 bits) = some bits := by
  have small := groupsOf_small bits
  have eight := length_groupsOf bits
  unfold string6
  dsimp only
  split
  · rw [parseIPv6Bits_groupsText small eight, bitsOfGroups_groupsOf]
  · rename_i start run longest
    obtain ⟨long, rfl⟩ := longestZeroRun_spec longest
    have filled := zeroRun_filled (groupsOf bits) start
    have total := congrArg List.length filled
    simp only [List.length_append, List.length_replicate, eight] at total
    rw [parseIPv6Bits_compressed (fun group member => small group (List.take_subset _ _ member))
      (fun group member => small group (List.drop_subset _ _ member)) (by omega)]
    have gap :
        8 - (((groupsOf bits).take start).length +
            ((groupsOf bits).drop (start + zeroRun ((groupsOf bits).drop start))).length) =
          zeroRun ((groupsOf bits).drop start) := by
      omega
    rw [gap, filled, bitsOfGroups_groupsOf]

end Bits

section Mapped

/-- What an octet is written with. -/
structure IsOctetField (field : List Char) : Prop where
  nonempty : field ≠ []
  short : field.length ≤ 3
  digits : ∀ character ∈ field, character.isDigit = true

theorem isOctetField_of_parseOctet
    {field : List Char}
    {octet : Nat}
    (parsed : parseOctet field = some octet) :
    IsOctetField field := by
  unfold parseOctet at parsed
  split at parsed
  · cases parsed
  · rename_i wellFormed
    simp only [not_or, Bool.not_eq_true', Bool.not_eq_false, List.all_eq_true,
      not_lt] at wellFormed
    exact ⟨wellFormed.1, wellFormed.2.2.2.1, wellFormed.2.1⟩

/-- The fields of a dotted text. -/
theorem parseIPv4Fields_shape
    {text : List Char}
    {bits : BitVec 32}
    (parsed : parseIPv4Fields text = some bits) :
    ∃ a b c d,
      text = a ++ '.' :: (b ++ '.' :: (c ++ '.' :: d)) ∧
        IsOctetField a ∧
        IsOctetField b ∧
        IsOctetField c ∧
        IsOctetField d := by
  unfold parseIPv4Fields at parsed
  split at parsed
  · rename_i a b c d fields
    have joined := @List.intercalate_splitOn _ text _ _ '.'
    rw [fields] at joined
    simp only [Option.bind_eq_bind, Option.bind_eq_some_iff] at parsed
    obtain ⟨_, first, _, second, _, third, _, fourth, -⟩ := parsed
    refine ⟨a, b, c, d, ?_, isOctetField_of_parseOctet first,
      isOctetField_of_parseOctet second, isOctetField_of_parseOctet third,
      isOctetField_of_parseOctet fourth⟩
    rw [← joined]
    simp [List.intercalate]
  · cases parsed

/-- A dotted text has digits and dots only. -/
theorem isDigit_or_dot_of_mem
    {text : List Char}
    {bits : BitVec 32}
    (parsed : parseIPv4Fields text = some bits)
    {character : Char}
    (member : character ∈ text) :
    character.isDigit = true ∨ character = '.' := by
  obtain ⟨a, b, c, d, rfl, first, second, third, fourth⟩ := parseIPv4Fields_shape parsed
  simp only [List.mem_append, List.mem_cons] at member
  rcases member with inFirst | dot | inSecond | dot | inThird | dot | inFourth
  · exact .inl (first.digits character inFirst)
  · exact .inr dot
  · exact .inl (second.digits character inSecond)
  · exact .inr dot
  · exact .inl (third.digits character inThird)
  · exact .inr dot
  · exact .inl (fourth.digits character inFourth)

/-- Decimal digits are hexadecimal digits. -/
theorem isSome_of_isDigit
    {character : Char}
    (digit : character.isDigit = true) :
    (hexDigitValue character).isSome = true := by
  simp [hexDigitValue, digit]

/-- A short nonempty text of digits is a group. -/
theorem parseGroup_isSome
    {digits : List Char}
    (nonempty : digits ≠ [])
    (short : digits.length ≤ 4)
    (hex : ∀ character ∈ digits, (hexDigitValue character).isSome = true) :
    (parseGroup digits).isSome = true := by
  unfold parseGroup
  rw [if_neg (by simp [nonempty, short])]
  generalize 0 = start
  clear nonempty short
  induction digits generalizing start with
  | nil =>
      rfl
  | cons character rest inductionHypothesis =>
      obtain ⟨value, known⟩ := Option.isSome_iff_exists.mp (hex character List.mem_cons_self)
      rw [List.foldlM_cons, known]
      exact inductionHypothesis
        (fun other member => hex other (List.mem_cons_of_mem _ member)) _

/-- A dotted tail behind an ellipsis. -/
theorem parseGroups_dotted
    {text : List Char}
    {bits : BitVec 32}
    (parsed : parseIPv4Fields text = some bits)
    (room : Nat)
    (read : List Nat)
    (position : Nat) :
    parseGroups (room + 2) read (some position) text =
      some (bits.toNat % 65536 :: bits.toNat / 65536 :: read, some position) := by
  obtain ⟨first, b, c, d, shape, firstOctet, -, -, -⟩ := parseIPv4Fields_shape parsed
  have hex : ∀ character ∈ first, (hexDigitValue character).isSome = true :=
    fun character member => isSome_of_isDigit (firstOctet.digits character member)
  have front :
      text.takeWhile (fun character => (hexDigitValue character).isSome) = first := by
    rw [shape, List.takeWhile_append_of_pos hex, List.takeWhile_cons_of_neg (by decide),
      List.append_nil]
  have back :
      text.dropWhile (fun character => (hexDigitValue character).isSome) =
        '.' :: (b ++ '.' :: (c ++ '.' :: d)) := by
    rw [shape, List.dropWhile_append_of_pos hex, List.dropWhile_cons_of_neg (by decide)]
  obtain ⟨group, known⟩ := Option.isSome_iff_exists.mp
    (parseGroup_isSome firstOctet.nonempty (firstOctet.short.trans (by decide)) hex)
  rw [parseGroups, front, back, known]
  simp [parsed]

/-- The IPv4-mapped IPv6 address of an IPv4 address. -/
def mapped4 (bits : BitVec 32) : BitVec 128 :=
  BitVec.ofNat 128 (0xFFFF * 4294967296 + bits.toNat)

/-- An IPv4-mapped address is the mapped form of its last 32 bits. -/
theorem mapped4_truncate
    {bits : BitVec 128}
    {zone : String}
    (is4In6 : (Addr.v6 bits zone).is4In6 = true) :
    mapped4 (bits.truncate 32) = bits := by
  have upper := congrArg BitVec.toNat (of_decide_eq_true is4In6)
  rw [BitVec.toNat_ushiftRight, Nat.shiftRight_eq_div_pow] at upper
  have bound := bits.isLt
  refine BitVec.eq_of_toNat_eq ?_
  rw [mapped4, BitVec.toNat_ofNat, BitVec.truncate_eq_setWidth, BitVec.toNat_setWidth]
  simp only [BitVec.toNat_ofNat] at upper
  omega

/-- The IPv4-mapped spelling of a dotted text. -/
theorem parseIPv6Bits_mapped
    {text : List Char}
    {bits : BitVec 32}
    (parsed : parseIPv4Fields text = some bits) :
    parseIPv6Bits ("::ffff:".toList ++ text) = some (mapped4 bits) := by
  obtain ⟨first, b, c, d, shape, firstOctet, -, -, -⟩ := parseIPv4Fields_shape parsed
  obtain ⟨digit, others, shapeFirst⟩ := List.exists_cons_of_ne_nil firstOctet.nonempty
  have isDigit : (hexDigitValue digit).isSome = true :=
    isSome_of_isDigit
      (firstOctet.digits digit (by rw [shapeFirst]; exact List.mem_cons_self))
  have start : text = digit :: (others ++ '.' :: (b ++ '.' :: (c ++ '.' :: d))) := by
    rw [shape, shapeFirst, List.cons_append]
  have group : "ffff:".toList ++ text = Nat.toDigits 16 65535 ++ ':' :: text := by
    have written : Nat.toDigits 16 65535 = "ffff".toList := by
      decide
    rw [written]
    rfl
  have read :
      parseGroups 8 [] (some 0) ("ffff:".toList ++ text) =
        some ([bits.toNat % 65536, bits.toNat / 65536, 65535], some 0) := by
    rw [group, start, parseGroups_next (by decide) 7 [] (some 0) isDigit, ← start]
    exact parseGroups_dotted parsed 5 [65535] 0
  calc
    parseIPv6Bits ("::ffff:".toList ++ text) =
        (parseGroups 8 [] (some 0) ("ffff:".toList ++ text)).bind bitsOfRead :=
      parseIPv6Bits_of_ellipsis 'f' ("fff:".toList ++ text)
    _ = some (mapped4 bits) := by
      rw [read]
      refine congrArg some (BitVec.eq_of_toNat_eq ?_)
      have bound := bits.isLt
      simp only [List.reverse_cons, List.reverse_nil, List.nil_append, List.length_cons,
        List.length_nil, List.cons_append, List.take_zero, List.drop_zero,
        List.replicate, bitsOfGroups, List.foldl_cons, List.foldl_nil, mapped4,
        BitVec.toNat_ofNat]
      omega

end Mapped

section RoundTrip

/-- The first separator of an IPv6 text is a colon. -/
theorem find?_separator_colon
    {text : List Char}
    (colon : ':' ∈ text)
    (noDot : '.' ∉ text)
    (noPercent : '%' ∉ text)
    (later : List Char) :
    (text ++ later).find? (fun character =>
        character = '.' ∨ character = ':' ∨ character = '%') =
      some ':' := by
  have found : ∃ character, text.find? (fun character =>
      character = '.' ∨ character = ':' ∨ character = '%') = some character := by
    rw [← Option.isSome_iff_exists, List.find?_isSome]
    exact ⟨':', colon, by decide⟩
  obtain ⟨character, first⟩ := found
  have member := List.mem_of_find?_eq_some first
  have separates := List.find?_some first
  simp only [decide_eq_true_eq] at separates
  rw [List.find?_append, first, Option.some_or]
  rcases separates with rfl | rfl | rfl
  · exact (noDot member).elim
  · rfl
  · exact (noPercent member).elim

/-- A zone behind an IPv6 text is split off. -/
theorem parseIPv6_zoneText
    {text : List Char}
    {bits : BitVec 128}
    (noPercent : '%' ∉ text)
    (parsed : parseIPv6Bits text = some bits)
    (zone : String) :
    parseIPv6 (text ++ zoneText zone) = some (.v6 bits zone) := by
  have kept : ∀ character ∈ text, decide (character ≠ '%') = true := by
    intro character member
    rw [decide_eq_true_eq]
    rintro rfl
    exact noPercent member
  unfold parseIPv6 zoneText
  by_cases unzoned : zone = ""
  · rw [if_pos unzoned, List.append_nil, List.dropWhile_eq_nil_iff.mpr kept, parsed, unzoned]
    rfl
  · rw [if_neg unzoned, List.dropWhile_append_of_pos kept, List.takeWhile_append_of_pos kept,
      List.dropWhile_cons_of_neg (by decide), List.takeWhile_cons_of_neg (by decide),
      List.append_nil, parsed]
    have nonempty : zone.toList ≠ [] := by
      simpa using unzoned
    split
    · rename_i shape
      cases shape
    · rename_i shape
      exact (nonempty (List.cons.inj shape).2).elim
    · rename_i shape
      rw [← (List.cons.inj shape).2, String.ofList_toList]
      rfl

/-- An IPv4 address parses from a dotted text. -/
theorem parseAddr_dotted
    {text : String}
    {bits : BitVec 32} :
    parseAddr text = some (.v4 bits) ↔ parseIPv4Fields text.toList = some bits := by
  constructor
  · intro parsed
    unfold parseAddr at parsed
    split at parsed
    · simpa using parsed
    · unfold parseIPv6 at parsed
      split at parsed <;> simp at parsed
    · cases parsed
  · intro parsed
    obtain ⟨first, b, c, d, shape, firstOctet, -, -, -⟩ := parseIPv4Fields_shape parsed
    have separator :
        text.toList.find? (fun character =>
          character = '.' ∨ character = ':' ∨ character = '%') = some '.' := by
      have none : first.find? (fun character =>
          character = '.' ∨ character = ':' ∨ character = '%') = none := by
        rw [List.find?_eq_none]
        intro character member separates
        have digit := firstOctet.digits character member
        rw [decide_eq_true_eq] at separates
        rcases separates with rfl | rfl | rfl <;> cases digit
      rw [shape, List.find?_append, none]
      rfl
    unfold parseAddr
    rw [separator, parsed]
    rfl

/-- An IPv4-mapped spelling has no zone. -/
theorem percent_notMem_mapped
    {text : List Char}
    {bits : BitVec 32}
    (parsed : parseIPv4Fields text = some bits) :
    '%' ∉ "::ffff:".toList ++ text := by
  rw [List.mem_append, not_or]
  refine ⟨by decide, fun member => ?_⟩
  rcases isDigit_or_dot_of_mem parsed member with digit | dot
  · cases digit
  · cases dot

/-- The IPv4-mapped spelling of a dotted text parses to the IPv4-mapped address. -/
theorem parseAddr_mapped
    {text : String}
    {bits : BitVec 32}
    (parsed : parseAddr text = some (.v4 bits)) :
    parseAddr ("::ffff:" ++ text) = some (.v6 (mapped4 bits) "") := by
  rw [parseAddr_dotted] at parsed
  have whole := parseIPv6_zoneText (percent_notMem_mapped parsed)
    (parseIPv6Bits_mapped parsed) ""
  rw [zoneText, if_pos rfl, List.append_nil] at whole
  unfold parseAddr
  rw [String.toList_append]
  exact whole

/-- The characters of written groups. -/
theorem mem_groupsText
    {groups : List Nat}
    {character : Char}
    (member : character ∈ groupsText groups) :
    (hexDigitValue character).isSome = true ∨ character = ':' := by
  fun_induction groupsText groups with
  | case1 =>
      cases member
  | case2 group =>
      exact .inl (isSome_of_mem_toDigits member)
  | case3 group rest _ inductionHypothesis =>
      rcases List.mem_append.mp member with digits | later
      · exact .inl (isSome_of_mem_toDigits digits)
      · rcases List.mem_cons.mp later with colon | later
        · exact .inr colon
        · exact inductionHypothesis later

/-- The characters of an IPv6 address. -/
theorem mem_string6
    {bits : BitVec 128}
    {character : Char}
    (member : character ∈ string6 bits) :
    (hexDigitValue character).isSome = true ∨ character = ':' := by
  unfold string6 at member
  dsimp only at member
  split at member
  · exact mem_groupsText member
  · rcases List.mem_append.mp member with front | back
    · exact mem_groupsText front
    · rcases List.mem_cons.mp back with colon | back
      · exact .inr colon
      · rcases List.mem_cons.mp back with colon | back
        · exact .inr colon
        · exact mem_groupsText back

theorem colon_mem_string6 (bits : BitVec 128) : ':' ∈ string6 bits := by
  unfold string6
  dsimp only
  split
  · obtain ⟨first, second, rest, shape⟩ :
        ∃ first second rest, groupsOf bits = first :: second :: rest := ⟨_, _, _, rfl⟩
    rw [shape, groupsText]
    · simp
    · simp
  · simp

/-- The text of an address parses back to the address. -/
theorem parseAddr_toText
    {addr : Addr}
    (valid : addr.isValid = true) :
    parseAddr addr.toText = some addr := by
  cases addr with
  | invalid =>
      cases valid
  | v4 bits =>
      rw [parseAddr_dotted, Addr.toText, String.toList_ofList]
      exact parseIPv4Fields_string4 bits
  | v6 bits zone =>
      unfold Addr.toText
      dsimp only
      split
      · rename_i is4In6
        have parsed := parseIPv4Fields_string4 (bits.truncate 32)
        have whole := parseIPv6_zoneText (percent_notMem_mapped parsed)
          (parseIPv6Bits_mapped parsed) zone
        rw [mapped4_truncate is4In6] at whole
        unfold parseAddr
        rw [String.toList_ofList]
        exact whole
      · have noDot : '.' ∉ string6 bits := by
          intro member
          rcases mem_string6 member with digit | colon
          · cases digit
          · cases colon
        have noPercent : '%' ∉ string6 bits := by
          intro member
          rcases mem_string6 member with digit | colon
          · cases digit
          · cases colon
        unfold parseAddr
        rw [String.toList_ofList,
          find?_separator_colon (colon_mem_string6 bits) noDot noPercent (zoneText zone)]
        exact parseIPv6_zoneText noPercent (parseIPv6Bits_string6 bits) zone

/-- Different addresses have different texts. -/
theorem toText_injective
    {first second : Addr}
    (firstValid : first.isValid = true)
    (secondValid : second.isValid = true)
    (same : first.toText = second.toText) :
    first = second := by
  have parsed := parseAddr_toText firstValid
  rw [same, parseAddr_toText secondValid] at parsed
  exact (Option.some.inj parsed).symm

end RoundTrip

end HarvesterCloudProvider
