import HarvesterCloudProvider.Consts

namespace HarvesterCloudProvider

/-!
# Load balancer names

`loadBalancerName` joins the cluster name, the namespace and the name of a
service, cuts the join to 55 bytes and appends the CRC-32 of the uncut join
and the service UID.  Go slices strings by bytes, so the function works on byte
strings; a cut through the middle of a character is a possible result.
-/

/-- A Go string seen as its bytes. -/
abbrev Bytes := List UInt8

/-- The UTF-8 bytes of a text. -/
def bytesOf (text : String) : Bytes :=
  text.toUTF8.data.toList

theorem bytesOf_append (first second : String) :
    bytesOf (first ++ second) = bytesOf first ++ bytesOf second := by
  simp [bytesOf]

theorem bytesOf_injective : Function.Injective bytesOf := by
  intro first second same
  apply String.toByteArray_inj.mp
  exact ByteArray.ext (Array.ext' same)

/-- The text of a byte string, for use in messages. -/
def textOf (bytes : Bytes) : String :=
  (String.fromUTF8? ⟨bytes.toArray⟩).getD "invalid UTF-8"

/-- One bit of the reflected CRC-32 division. -/
def crc32Bit (crc : UInt32) : UInt32 :=
  if crc &&& 1 = 1 then
    (crc >>> 1) ^^^ 0xEDB88320
  else
    crc >>> 1

/-- Divide one more byte into the running remainder. -/
def crc32Byte (crc : UInt32) (byte : UInt8) : UInt32 :=
  Nat.repeat crc32Bit 8 (crc ^^^ byte.toUInt32)

/-- `crc32.ChecksumIEEE`. -/
def checksumIEEE (bytes : Bytes) : UInt32 :=
  bytes.foldl crc32Byte 0xFFFFFFFF ^^^ 0xFFFFFFFF

/-- The published check value of the IEEE polynomial. -/
example : checksumIEEE (bytesOf "123456789") = 0xCBF43926 := by
  decide +kernel

/-- The lowercase hexadecimal digit of a number below sixteen. -/
def hexDigitByte (value : UInt32) : UInt8 :=
  if value < 10 then
    48 + value.toUInt8
  else
    87 + value.toUInt8

/-- `%08x`: eight lowercase hexadecimal digits, padded with zeros. -/
def hexDigits8 (value : UInt32) : Bytes :=
  [value >>> 28, value >>> 24, value >>> 20, value >>> 16,
    value >>> 12, value >>> 8, value >>> 4, value].map
    fun shifted => hexDigitByte (shifted &&& 0xF)

/-- The bytes `[a-z]`. -/
def isLowerByte (byte : UInt8) : Bool :=
  97 ≤ byte && byte ≤ 122

/-- The bytes `[a-z0-9]`. -/
def isAlphanumericByte (byte : UInt8) : Bool :=
  isLowerByte byte || (48 ≤ byte && byte ≤ 57)

/-- The bytes `[-a-z0-9]`. -/
def isLabelByte (byte : UInt8) : Bool :=
  isAlphanumericByte byte || byte = 45

/-- `validation.IsDNS1035Label` reports no error. -/
def isDNS1035Label (value : Bytes) : Bool :=
  value.length ≤ 63 &&
    value.head?.any isLowerByte &&
    value.all isLabelByte &&
    value.getLast?.any isAlphanumericByte

/-- `validation.IsDNS1123Label` reports no error. -/
def isDNS1123Label (value : Bytes) : Bool :=
  value.length ≤ 63 &&
    value.head?.any isAlphanumericByte &&
    value.all isLabelByte &&
    value.getLast?.any isAlphanumericByte

/-- The bytes `[A-Za-z0-9]`. -/
def isLabelValueEndByte (byte : UInt8) : Bool :=
  isAlphanumericByte byte || (65 ≤ byte && byte ≤ 90)

/-- The bytes `[-A-Za-z0-9_.]`. -/
def isLabelValueByte (byte : UInt8) : Bool :=
  isLabelValueEndByte byte || byte = 45 || byte = 95 || byte = 46

/-- `validation.IsValidLabelValue` reports no error. -/
def isValidLabelValue (value : Bytes) : Bool :=
  value.length ≤ 63 &&
    (value.isEmpty ||
      (value.head?.any isLabelValueEndByte &&
        value.all isLabelValueByte &&
        value.getLast?.any isLabelValueEndByte))

/-- A DNS-1123 label can be stored as the value of a Kubernetes label. -/
theorem isValidLabelValue_of_isDNS1123Label
    {value : Bytes}
    (isLabel : isDNS1123Label value = true) :
    isValidLabelValue value = true := by
  have endByte {byte : UInt8} (inside : isAlphanumericByte byte = true) :
      isLabelValueEndByte byte = true := by
    simp [isLabelValueEndByte, inside]
  have valueByte {byte : UInt8} (inside : isLabelByte byte = true) :
      isLabelValueByte byte = true := by
    simp only [isLabelByte, Bool.or_eq_true, decide_eq_true_eq] at inside
    rcases inside with inside | rfl
    · simp [isLabelValueByte, endByte inside]
    · rfl
  have ends
      {found : Option UInt8}
      (inside : found.any isAlphanumericByte = true) :
      found.any isLabelValueEndByte = true := by
    obtain ⟨byte, rfl, alphanumeric⟩ := (Option.any_eq_true _ _).mp inside
    exact endByte alphanumeric
  simp only [isDNS1123Label, Bool.and_eq_true, decide_eq_true_eq,
    List.all_eq_true] at isLabel
  obtain ⟨⟨⟨short, first⟩, inner⟩, last⟩ := isLabel
  simp only [isValidLabelValue, Bool.and_eq_true, Bool.or_eq_true,
    decide_eq_true_eq, List.all_eq_true]
  exact ⟨short, .inr ⟨⟨ends first, fun byte member => valueByte (inner byte member)⟩,
    ends last⟩⟩

/-- A DNS-1123 label contains no dot and no slash. -/
theorem isDNS1123Label_notMem
    {value : Bytes}
    (isLabel : isDNS1123Label value = true)
    {byte : UInt8}
    (outside : isLabelByte byte = false) :
    byte ∉ value := by
  intro member
  simp only [isDNS1123Label, Bool.and_eq_true, List.all_eq_true]
    at isLabel
  have inside := isLabel.1.2 byte member
  rw [outside] at inside
  exact Bool.noConfusion inside

def maxNameLength : Nat :=
  63

def lenOfSuffix : Nat :=
  8

/-- The uncut join of cluster name, namespace and service name. -/
def loadBalancerNameBase
    (clusterName serviceNamespace serviceName : Bytes) :
    Bytes :=
  (if isDNS1035Label clusterName then clusterName else 97 :: clusterName) ++
    45 :: (serviceNamespace ++ 45 :: (serviceName ++ [45]))

/-- The name of the load balancer of a service. -/
def loadBalancerName
    (clusterName serviceNamespace serviceName serviceUID : Bytes) :
    Bytes :=
  let base := loadBalancerNameBase clusterName serviceNamespace serviceName
  let suffix := hexDigits8 (checksumIEEE (base ++ serviceUID))
  base.take (maxNameLength - lenOfSuffix) ++ suffix

example :
    loadBalancerName (bytesOf "1test") (bytesOf "default") (bytesOf "abcd")
        (bytesOf "d4b50d98-39ec-4d88-8098-36579de5db4a") =
      bytesOf "a1test-default-abcd-725d6700" := by
  decide +kernel

/-- A load balancer name is never empty. -/
theorem loadBalancerName_ne_nil
    (clusterName serviceNamespace serviceName serviceUID : Bytes) :
    loadBalancerName clusterName serviceNamespace serviceName serviceUID ≠
      [] := by
  simp [loadBalancerName, hexDigits8]

section WellFormedNames

/-- A digit below sixteen is written as a lowercase alphanumeric byte. -/
theorem isAlphanumericByte_hexDigitByte
    {value : UInt32}
    (small : value < 16) :
    isAlphanumericByte (hexDigitByte value) = true := by
  have finite : ∀ digit : Fin 16,
      isAlphanumericByte (hexDigitByte (UInt32.ofNat digit)) = true := by
    decide
  have below : value.toNat < 16 := UInt32.lt_iff_toNat_lt.mp small
  have found := finite ⟨value.toNat, below⟩
  rwa [UInt32.ofNat_toNat] at found

theorem hexDigits8_length (value : UInt32) : (hexDigits8 value).length = 8 :=
  rfl

/-- The checksum is written in lowercase alphanumeric bytes. -/
theorem isAlphanumericByte_of_mem_hexDigits8
    {value : UInt32}
    {byte : UInt8}
    (member : byte ∈ hexDigits8 value) :
    isAlphanumericByte byte = true := by
  obtain ⟨shifted, _, rfl⟩ := List.mem_map.mp member
  apply isAlphanumericByte_hexDigitByte
  have masked := UInt32.toNat_and shifted 0xF
  have bounded : shifted.toNat &&& 15 ≤ 15 := Nat.and_le_right
  rw [UInt32.lt_iff_toNat_lt, masked]
  exact Nat.lt_succ_of_le bounded

/-- An alphanumeric byte may stand in a label. -/
theorem isLabelByte_of_isAlphanumericByte
    {byte : UInt8}
    (alphanumeric : isAlphanumericByte byte = true) :
    isLabelByte byte = true := by
  simp [isLabelByte, alphanumeric]

/-- The join starts with a letter, whatever the cluster name starts with. -/
theorem loadBalancerNameBase_head
    (clusterName serviceNamespace serviceName : Bytes) :
    ∃ first rest,
      loadBalancerNameBase clusterName serviceNamespace serviceName = first :: rest ∧
        isLowerByte first = true := by
  unfold loadBalancerNameBase
  split
  · rename_i valid
    cases clusterName with
    | nil =>
        simp [isDNS1035Label] at valid
    | cons first rest =>
        simp only [isDNS1035Label, List.head?_cons, Option.any_some,
          Bool.and_eq_true] at valid
        exact ⟨first, _, rfl, valid.1.1.2⟩
  · exact ⟨97, _, rfl, by decide⟩

/-- Joining parts over the label alphabet stays in the label alphabet. -/
theorem loadBalancerNameBase_all
    {clusterName serviceNamespace serviceName : Bytes}
    (clusterBytes : clusterName.all isLabelByte = true)
    (namespaceBytes : serviceNamespace.all isLabelByte = true)
    (nameBytes : serviceName.all isLabelByte = true) :
    (loadBalancerNameBase clusterName serviceNamespace serviceName).all
      isLabelByte = true := by
  have hyphen : isLabelByte 45 = true := by decide
  have letter : isLabelByte 97 = true := by decide
  unfold loadBalancerNameBase
  split <;>
    simp only [List.all_append, List.all_cons, List.all_nil, clusterBytes,
      namespaceBytes, nameBytes, hyphen, letter, Bool.and_true]

/-- The name is the cut join followed by the checksum of the uncut one. -/
theorem loadBalancerName_eq
    (clusterName serviceNamespace serviceName serviceUID : Bytes) :
    loadBalancerName clusterName serviceNamespace serviceName serviceUID =
      (loadBalancerNameBase clusterName serviceNamespace serviceName).take 55 ++
        hexDigits8
          (checksumIEEE
            (loadBalancerNameBase clusterName serviceNamespace serviceName ++
              serviceUID)) :=
  rfl

/-- Parts over the label alphabet give a DNS-1035 label. -/
theorem isDNS1035Label_loadBalancerName
    {clusterName serviceNamespace serviceName : Bytes}
    (clusterBytes : clusterName.all isLabelByte = true)
    (namespaceBytes : serviceNamespace.all isLabelByte = true)
    (nameBytes : serviceName.all isLabelByte = true)
    (serviceUID : Bytes) :
    isDNS1035Label
      (loadBalancerName clusterName serviceNamespace serviceName serviceUID) =
        true := by
  have baseBytes := loadBalancerNameBase_all clusterBytes namespaceBytes nameBytes
  obtain ⟨first, rest, base, lower⟩ :=
    loadBalancerNameBase_head clusterName serviceNamespace serviceName
  rw [loadBalancerName_eq]
  generalize checksumIEEE _ = digest
  rw [base] at baseBytes ⊢
  have suffixLength := hexDigits8_length digest
  simp only [isDNS1035Label, Bool.and_eq_true, decide_eq_true_eq]
  refine ⟨⟨⟨?_, ?_⟩, ?_⟩, ?_⟩
  · rw [List.length_append, suffixLength, List.length_take]
    omega
  · simpa using lower
  · rw [List.all_append, Bool.and_eq_true]
    constructor
    · rw [List.all_eq_true] at baseBytes ⊢
      exact fun byte member => baseBytes byte (List.mem_of_mem_take member)
    · rw [List.all_eq_true]
      exact fun byte member =>
        isLabelByte_of_isAlphanumericByte
          (isAlphanumericByte_of_mem_hexDigits8 member)
  · have nonempty : hexDigits8 digest ≠ [] := by
      simp [hexDigits8]
    rw [List.getLast?_append_of_ne_nil _ nonempty,
      List.getLast?_eq_some_getLast nonempty, Option.any_some]
    exact isAlphanumericByte_of_mem_hexDigits8 (List.getLast_mem nonempty)

/-- No name is longer than 63 bytes. -/
theorem loadBalancerName_length_le
    (clusterName serviceNamespace serviceName serviceUID : Bytes) :
    (loadBalancerName clusterName serviceNamespace serviceName
      serviceUID).length ≤ 63 := by
  rw [loadBalancerName_eq, List.length_append, hexDigits8_length, List.length_take]
  omega

/--
Every name is the first 55 bytes of the join, or all of it when it is shorter,
followed by the eight digits of the checksum of the uncut join and the UID.  It
has at most 63 bytes, and it is a DNS-1035 label when the cluster name, the
namespace and the service name are written in `[a-z0-9-]`, whatever the cluster
name starts or ends with.
-/
theorem loadBalancerName_wellFormed
    (clusterName serviceNamespace serviceName serviceUID : Bytes) :
    (clusterName.all isLabelByte = true →
      serviceNamespace.all isLabelByte = true →
      serviceName.all isLabelByte = true →
        isDNS1035Label
          (loadBalancerName clusterName serviceNamespace serviceName
            serviceUID) = true) ∧
      (loadBalancerName clusterName serviceNamespace serviceName
        serviceUID).length ≤ 63 ∧
      loadBalancerName clusterName serviceNamespace serviceName serviceUID =
        (loadBalancerNameBase clusterName serviceNamespace serviceName).take
            (min 55
              (loadBalancerNameBase clusterName serviceNamespace
                serviceName).length) ++
          hexDigits8
            (checksumIEEE
              (loadBalancerNameBase clusterName serviceNamespace serviceName ++
                serviceUID)) := by
  refine ⟨?_, loadBalancerName_length_le _ _ _ _, ?_⟩
  · intro clusterBytes namespaceBytes nameBytes
    exact isDNS1035Label_loadBalancerName clusterBytes namespaceBytes nameBytes serviceUID
  · rw [loadBalancerName_eq, ← List.take_eq_take_min]

/-- The empty cluster name, and a join that is cut after a hyphen. -/
theorem loadBalancerName_wellFormed_emptyCluster :
    (loadBalancerNameBase [] (bytesOf "default") (List.replicate 44 97)).take 55 =
        bytesOf "a-default-" ++ List.replicate 44 97 ++ [45] ∧
      isDNS1035Label
        (loadBalancerName [] (bytesOf "default") (List.replicate 44 97)
          (bytesOf "d4b50d98-39ec-4d88-8098-36579de5db4a")) = true :=
  ⟨by decide +kernel,
    (loadBalancerName_wellFormed [] (bytesOf "default") (List.replicate 44 97)
      (bytesOf "d4b50d98-39ec-4d88-8098-36579de5db4a")).1 (by decide +kernel)
      (by decide +kernel) (by decide +kernel)⟩

end WellFormedNames

end HarvesterCloudProvider
