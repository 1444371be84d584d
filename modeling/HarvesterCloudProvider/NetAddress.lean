import HarvesterCloudProvider.TextFields

namespace HarvesterCloudProvider

/-!
# IP addresses and prefixes

The part of Go's `net/netip` that node address selection uses: parsing and
printing of addresses, the address predicates, and prefix membership.  An
IPv6 address may carry a zone; the predicates other than `is4` and
`isUnspecified` look through IPv4-mapped IPv6 addresses.
-/

/-- `netip.Addr`; `invalid` is its zero value. -/
inductive Addr where
  | invalid
  | v4 (bits : BitVec 32)
  | v6 (bits : BitVec 128) (zone : String)
  deriving Repr, DecidableEq

namespace Addr

/-- `IsValid`. -/
def isValid : Addr → Bool
  | .invalid => false
  | _ => true

/-- `Is4`. -/
def is4 : Addr → Bool
  | .v4 _ => true
  | _ => false

/-- `Is6`, which includes IPv4-mapped addresses. -/
def is6 : Addr → Bool
  | .v6 .. => true
  | _ => false

/-- `Is4In6`: the address lies in `::ffff:0:0/96`. -/
def is4In6 : Addr → Bool
  | .v6 bits _ => bits >>> 32 = 0xFFFF#128
  | _ => false

/-- `Unmap`: drop the IPv6 prefix of an IPv4-mapped address. -/
def unmap (addr : Addr) : Addr :=
  match addr with
  | .v6 bits _ => if addr.is4In6 then .v4 (bits.truncate 32) else addr
  | _ => addr

/-- `BitLen`. -/
def bitLen : Addr → Nat
  | .invalid => 0
  | .v4 _ => 32
  | .v6 .. => 128

/-- The zone of an IPv6 address. -/
def zone : Addr → String
  | .v6 _ zone => zone
  | _ => ""

/-- `IsLoopback`: `127.0.0.0/8` or `::1`. -/
def isLoopback (addr : Addr) : Bool :=
  match addr.unmap with
  | .invalid => false
  | .v4 bits => bits >>> 24 = 127#32
  | .v6 bits _ => bits = 1#128

/-- `IsMulticast`: `224.0.0.0/4` or `ff00::/8`. -/
def isMulticast (addr : Addr) : Bool :=
  match addr.unmap with
  | .invalid => false
  | .v4 bits => bits >>> 28 = 0xE#32
  | .v6 bits _ => bits >>> 120 = 0xFF#128

/-- `IsLinkLocalUnicast`: `169.254.0.0/16` or `fe80::/10`. -/
def isLinkLocalUnicast (addr : Addr) : Bool :=
  match addr.unmap with
  | .invalid => false
  | .v4 bits => bits >>> 16 = 0xA9FE#32
  | .v6 bits _ => bits >>> 118 = 0x3FA#128

/-- `IsLinkLocalMulticast`: `224.0.0.0/24` or `ff02::/16` under any flags. -/
def isLinkLocalMulticast (addr : Addr) : Bool :=
  match addr.unmap with
  | .invalid => false
  | .v4 bits => bits >>> 8 = 0xE00000#32
  | .v6 bits _ => (bits >>> 112) &&& 0xFF0F#128 = 0xFF02#128

/-- `IsUnspecified`: exactly `0.0.0.0` or `::`. -/
def isUnspecified (addr : Addr) : Bool :=
  addr = .v4 0#32 || addr = .v6 0#128 ""

end Addr

section Parsing

/-- Decimal digits as a number. -/
def decimalValue (digits : List Char) : Nat :=
  digits.foldl (fun value digit => value * 10 + (digit.toNat - '0'.toNat)) 0

/-- One decimal octet: at most 255 and without a leading zero. -/
def parseOctet (field : List Char) : Option Nat :=
  if field = [] ∨ !field.all Char.isDigit ∨
      (field.length > 1 ∧ field.head? = some '0') ∨
      field.length > 3 ∨ decimalValue field > 255 then
    none
  else
    some (decimalValue field)

/-- Four dotted octets. -/
def parseIPv4Fields (input : List Char) : Option (BitVec 32) :=
  match input.splitOn '.' with
  | [a, b, c, d] => do
      let a ← parseOctet a
      let b ← parseOctet b
      let c ← parseOctet c
      let d ← parseOctet d
      return BitVec.ofNat 32 (((a * 256 + b) * 256 + c) * 256 + d)
  | _ => none

/-- One group of up to four hexadecimal digits. -/
def parseGroup (digits : List Char) : Option Nat :=
  if digits = [] ∨ digits.length > 4 then
    none
  else
    digits.foldlM (fun value digit => (hexDigitValue digit).map (value * 16 + ·)) 0

/--
The groups of an IPv6 address and the position of its ellipsis.  `read` holds
the groups read so far, last first.
-/
def parseGroups :
    Nat → List Nat → Option Nat → List Char → Option (List Nat × Option Nat)
  | 0, read, ellipsis, rest =>
      if rest = [] then some (read, ellipsis) else none
  | room + 1, read, ellipsis, input =>
      let digits := input.takeWhile fun character =>
        (hexDigitValue character).isSome
      let rest := input.dropWhile fun character =>
        (hexDigitValue character).isSome
      match parseGroup digits with
      | none => none
      | some group =>
          match rest with
          | [] => some (group :: read, ellipsis)
          | '.' :: _ =>
              -- A dotted tail takes the place of the last two groups.
              if (ellipsis = none ∧ read.length ≠ 6) ∨ room = 0 then
                none
              else
                (parseIPv4Fields input).map fun bits =>
                  (bits.toNat % 65536 :: bits.toNat / 65536 :: read, ellipsis)
          | [':', ':'] =>
              if ellipsis = none then
                some (group :: read, some (read.length + 1))
              else
                none
          | ':' :: ':' :: later =>
              if ellipsis = none then
                parseGroups room (group :: read) (some (read.length + 1)) later
              else
                none
          | ':' :: character :: later =>
              parseGroups room (group :: read) ellipsis (character :: later)
          | _ => none

/-- Fill the ellipsis with zero groups. -/
def expandGroups : List Nat × Option Nat → Option (List Nat)
  | (read, none) =>
      if read.length = 8 then some read.reverse else none
  | (read, some position) =>
      if read.length < 8 then
        some
          (read.reverse.take position ++
            List.replicate (8 - read.length) 0 ++
            read.reverse.drop position)
      else
        none

/-- The 128 bits of eight groups. -/
def bitsOfGroups (groups : List Nat) : BitVec 128 :=
  BitVec.ofNat 128 (groups.foldl (fun value group => value * 65536 + group) 0)

/-- An IPv6 address without its zone. -/
def parseIPv6Bits (input : List Char) : Option (BitVec 128) := do
  let read ←
    match input with
    | [':', ':'] => some ([], some 0)
    | ':' :: ':' :: rest => parseGroups 8 [] (some 0) rest
    | _ => parseGroups 8 [] none input
  let groups ← expandGroups read
  return bitsOfGroups groups

/-- An IPv6 address with an optional nonempty zone. -/
def parseIPv6 (input : List Char) : Option Addr :=
  match input.dropWhile (· ≠ '%') with
  | [] => (parseIPv6Bits input).map fun bits => .v6 bits ""
  | [_] => none
  | _ :: zone =>
      (parseIPv6Bits (input.takeWhile (· ≠ '%'))).map fun bits =>
        .v6 bits (String.ofList zone)

/-- `netip.ParseAddr`: the first separator decides the family. -/
def parseAddr (input : String) : Option Addr :=
  match input.toList.find? fun character =>
      character = '.' ∨ character = ':' ∨ character = '%' with
  | some '.' => (parseIPv4Fields input.toList).map .v4
  | some ':' => parseIPv6 input.toList
  | _ => none

end Parsing

section Printing

/-- Decimal text of a number. -/
def decimalText (value : Nat) : List Char :=
  Nat.toDigits 10 value

/-- Dotted text of an IPv4 address. -/
def string4 (bits : BitVec 32) : List Char :=
  decimalText (bits.toNat / 16777216) ++ '.' ::
    (decimalText (bits.toNat / 65536 % 256) ++ '.' ::
      (decimalText (bits.toNat / 256 % 256) ++ '.' ::
        decimalText (bits.toNat % 256)))

/-- The eight groups of an IPv6 address. -/
def groupsOf (bits : BitVec 128) : List Nat :=
  (List.range 8).map fun index => bits.toNat / 65536 ^ (7 - index) % 65536

/-- The length of the zero run that starts at the head. -/
def zeroRun (groups : List Nat) : Nat :=
  (groups.takeWhile (· = 0)).length

/-- The first longest run of at least two zero groups: start and length. -/
def longestZeroRun (groups : List Nat) : Option (Nat × Nat) :=
  (List.range 8).foldl
    (fun best start =>
      let run := zeroRun (groups.drop start)
      if run < 2 then
        best
      else
        match best with
        | none => some (start, run)
        | some (_, longest) => if run > longest then some (start, run) else best)
    none

/-- Hexadecimal groups separated by colons. -/
def groupsText : List Nat → List Char
  | [] => []
  | [group] => Nat.toDigits 16 group
  | group :: rest => Nat.toDigits 16 group ++ ':' :: groupsText rest

/-- Text of an IPv6 address, with its longest zero run compressed. -/
def string6 (bits : BitVec 128) : List Char :=
  let groups := groupsOf bits
  match longestZeroRun groups with
  | none => groupsText groups
  | some (start, run) =>
      groupsText (groups.take start) ++ ':' :: ':' ::
        groupsText (groups.drop (start + run))

/-- The zone behind an IPv6 address. -/
def zoneText (zone : String) : List Char :=
  if zone = "" then [] else '%' :: zone.toList

/-- `Addr.String`. -/
def Addr.toText (addr : Addr) : String :=
  match addr with
  | .invalid => "invalid IP"
  | .v4 bits => String.ofList (string4 bits)
  | .v6 bits zone =>
      if addr.is4In6 then
        String.ofList
          ("::ffff:".toList ++ string4 (bits.truncate 32) ++ zoneText zone)
      else
        String.ofList (string6 bits ++ zoneText zone)

end Printing

/-- `netip.Prefix`; a length of `none` marks an invalid prefix. -/
structure Prefix where
  addr : Addr
  bits : Option Nat
  deriving Repr, DecidableEq

namespace Prefix

/-- `netip.PrefixFrom`, which drops the zone of its address. -/
def ofAddr (addr : Addr) (bits : Nat) : Prefix where
  addr :=
    match addr with
    | .v6 value _ => .v6 value ""
    | _ => addr
  bits := if addr.isValid ∧ bits ≤ addr.bitLen then some bits else none

/-- `Prefix.Contains`: same family, no zone, and equal leading bits. -/
def contains (pfx : Prefix) (addr : Addr) : Bool :=
  match pfx.bits, pfx.addr, addr with
  | some length, .v4 network, .v4 host =>
      (network ^^^ host) >>> (32 - length) = 0#32
  | some length, .v6 network _, .v6 host zone =>
      zone = "" && (network ^^^ host) >>> (128 - length) = 0#128
  | _, _, _ => false

/-- A prefix length: decimal, without sign or leading zero. -/
def parseLength (field : List Char) : Option Nat :=
  if field = [] ∨ !field.all Char.isDigit ∨
      (field.length > 1 ∧ field.head? = some '0') then
    none
  else
    some (decimalValue field)

/-- `netip.ParsePrefix`: an address without zone, a slash, and a length. -/
def parse (input : String) : Option Prefix :=
  let reversed := input.toList.reverse
  match reversed.dropWhile (· ≠ '/') with
  | [] => none
  | _ :: address => do
      let addr ← parseAddr (String.ofList address.reverse)
      let length ← parseLength (reversed.takeWhile (· ≠ '/')).reverse
      if addr.zone = "" ∧ length ≤ addr.bitLen then
        return Prefix.ofAddr addr length
      else
        none

end Prefix

end HarvesterCloudProvider
