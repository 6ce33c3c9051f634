import FragglePacket.Text.Str
import FragglePacket.Wire.Bytes

/-! Internet addresses and their textual forms, as the standard library writes
and reads them: `Display` and `FromStr` for `Ipv4Addr` and `Ipv6Addr`. -/

namespace FragglePacket.Net

open FragglePacket.Text FragglePacket.Wire

structure Ipv4Addr where
  a : UInt8
  b : UInt8
  c : UInt8
  d : UInt8
deriving DecidableEq

structure Ipv6Addr where
  octets : Vector UInt8 16
deriving DecidableEq

inductive IpAddr where
  | v4 (addr : Ipv4Addr)
  | v6 (addr : Ipv6Addr)
deriving DecidableEq

structure SocketAddr where
  ip : IpAddr
  port : UInt16
deriving DecidableEq

/-- `Ipv4Addr::from(u32)`. -/
def Ipv4Addr.ofBits (bits : UInt32) : Ipv4Addr where
  a := highByte (highWord bits)
  b := lowByte (highWord bits)
  c := highByte (lowWord bits)
  d := lowByte (lowWord bits)

def Ipv4Addr.toBits (addr : Ipv4Addr) : UInt32 := readBe32 addr.a addr.b addr.c addr.d

@[simp] theorem Ipv4Addr.ofBits_toBits (addr : Ipv4Addr) : Ipv4Addr.ofBits addr.toBits = addr := by
  simp [Ipv4Addr.ofBits, Ipv4Addr.toBits]

/-- `Ipv6Addr::segments`. -/
def Ipv6Addr.segments (addr : Ipv6Addr) : Vector UInt16 8 :=
  .ofFn fun i => readBe16 addr.octets[2 * i.val] addr.octets[2 * i.val + 1]

def Ipv6Addr.ofSegments (segments : Vector UInt16 8) : Ipv6Addr where
  octets := .ofFn fun i =>
    if i.val % 2 = 0 then highByte segments[i.val / 2] else lowByte segments[i.val / 2]

/-- The decimal spelling of one octet. -/
def octetText (octet : UInt8) : Str := Nat.toDigits 10 octet.toNat

/-- `Display` for `Ipv4Addr`: the canonical dotted quad. -/
def Ipv4Addr.text (addr : Ipv4Addr) : Str :=
  octetText addr.a ++ '.' :: (octetText addr.b ++ '.' ::
    (octetText addr.c ++ '.' :: octetText addr.d))

/-- Groups of an address that are zero, one behind the other. -/
structure ZeroSpan where
  start : Nat
  len : Nat

/-- The longest span so far, and the one that ends before a group with its place. -/
def zeroStep (spans : ZeroSpan × ZeroSpan) (segment : UInt16 × Nat) : ZeroSpan × ZeroSpan :=
  if segment.1 = 0 then
    let current : ZeroSpan :=
      ⟨if spans.2.len = 0 then segment.2 else spans.2.start, spans.2.len + 1⟩
    (if spans.1.len < current.len then current else spans.1, current)
  else (spans.1, ⟨0, 0⟩)

def groupText (group : UInt16) : Str := Nat.toDigits 16 group.toNat

def groupsText (groups : List UInt16) : Str := [':'].intercalate (groups.map groupText)

/-- `Ipv6Addr::to_ipv4_mapped`. -/
def Ipv6Addr.toIpv4Mapped (addr : Ipv6Addr) : Option Ipv4Addr :=
  let octets := addr.octets
  if octets.toList.take 12 = List.replicate 10 0 ++ [0xff, 0xff] then
    some ⟨octets[12], octets[13], octets[14], octets[15]⟩
  else none

/-- `Display` for `Ipv6Addr`: the first of the longest spans of zero groups is left out. -/
def Ipv6Addr.text (addr : Ipv6Addr) : Str :=
  match addr.toIpv4Mapped with
  | some v4 => [':', ':', 'f', 'f', 'f', 'f', ':'] ++ v4.text
  | none =>
    let groups := addr.segments.toList
    let zeroes := (groups.zipIdx.foldl zeroStep (⟨0, 0⟩, ⟨0, 0⟩)).1
    if 1 < zeroes.len then
      groupsText (groups.take zeroes.start) ++ ':' :: ':' ::
        groupsText (groups.drop (zeroes.start + zeroes.len))
    else groupsText groups

/-- `Display` for `IpAddr`. -/
def IpAddr.text : IpAddr → Str
  | v4 addr => addr.text
  | v6 addr => addr.text

/-- `Parser::read_number`: at most `maxDigits` digits with a value that fits. -/
def readNumber (radix maxDigits limit : Nat) (allowZeroPrefix : Bool) (text : Str) :
    Option (Nat × Str) :=
  let digits := text.takeWhile fun c => (toDigit radix c).isSome
  let value := digitsValue radix digits
  if digits.length > maxDigits then none
  else if digits.isEmpty then none
  else if !allowZeroPrefix && digits.head? == some '0' && digits.length > 1 then none
  else if value ≤ limit then some (value, text.drop digits.length)
  else none

def readGivenChar (expected : Char) : Str → Option Str
  | c :: rest => if c = expected then some rest else none
  | [] => none

/-- `Parser::read_separator`: the separator comes before every item but the first. -/
def readSeparator {β : Type} (separator : Char) (index : Nat) (inner : Str → Option (β × Str))
    (text : Str) : Option (β × Str) :=
  if index > 0 then (readGivenChar separator text).bind inner else inner text

def readOctet (index : Nat) (text : Str) : Option (UInt8 × Str) :=
  (readSeparator '.' index (readNumber 10 3 255 false) text).map fun (value, rest) =>
    (.ofNat value, rest)

/-- `Parser::read_ipv4_addr`. -/
def readIpv4Addr (text : Str) : Option (Ipv4Addr × Str) := do
  let (a, text) ← readOctet 0 text
  let (b, text) ← readOctet 1 text
  let (c, text) ← readOctet 2 text
  let (d, text) ← readOctet 3 text
  return (⟨a, b, c, d⟩, text)

/-- `Parser::parse_with`: all of the text has to be read. -/
def parseWith {β : Type} (inner : Str → Option (β × Str)) (text : Str) : Option β :=
  match inner text with
  | some (value, []) => some value
  | _ => none

/-- `str::parse::<Ipv4Addr>`. -/
def parseIpv4 (text : Str) : Option Ipv4Addr :=
  if byteLen text > 15 then none else parseWith readIpv4Addr text

/-- `read_groups` of `Parser::read_ipv6_addr` with `slots` places left: the groups
read, and whether the last two of them were an embedded IPv4 address. -/
def readGroups : Nat → Nat → Str → List UInt16 × Bool × Str
  | 0, _, text => ([], false, text)
  | slots + 1, index, text =>
    match (if slots > 0 then readSeparator ':' index readIpv4Addr text else none) with
    | some (v4, rest) => ([readBe16 v4.a v4.b, readBe16 v4.c v4.d], true, rest)
    | none =>
      match readSeparator ':' index (readNumber 16 4 65535 true) text with
      | some (group, rest) =>
        let (groups, embedded, rest) := readGroups slots (index + 1) rest
        (.ofNat group :: groups, embedded, rest)
      | none => ([], false, text)

private def segmentsOf (head tail : List UInt16) : Vector UInt16 8 :=
  .ofFn fun i =>
    if i.val < 8 - tail.length then head.getD i.val 0 else tail.getD (i.val - (8 - tail.length)) 0

/-- `Parser::read_ipv6_addr`. -/
def readIpv6Addr (text : Str) : Option (Ipv6Addr × Str) :=
  let (head, embedded, text) := readGroups 8 0 text
  if head.length = 8 then some (.ofSegments (segmentsOf head []), text)
  else if embedded then none
  else do
    let text ← readGivenChar ':' text
    let text ← readGivenChar ':' text
    let (tail, _, text) := readGroups (8 - (head.length + 1)) 0 text
    return (.ofSegments (segmentsOf head tail), text)

/-- `str::parse::<Ipv6Addr>`. -/
def parseIpv6 (text : Str) : Option Ipv6Addr := parseWith readIpv6Addr text

/-- `Ipv4Addr::is_private`. -/
def Ipv4Addr.isPrivate (addr : Ipv4Addr) : Bool :=
  addr.a == 10 || (addr.a == 172 && 16 ≤ addr.b && addr.b ≤ 31) || (addr.a == 192 && addr.b == 168)

/-- `Ipv4Addr::is_loopback`. -/
def Ipv4Addr.isLoopback (addr : Ipv4Addr) : Bool := addr.a == 127

/-- `Ipv4Addr::is_link_local`. -/
def Ipv4Addr.isLinkLocal (addr : Ipv4Addr) : Bool := addr.a == 169 && addr.b == 254

/-- `Ipv6Addr::is_loopback`. -/
def Ipv6Addr.isLoopback (addr : Ipv6Addr) : Bool :=
  addr.segments == .ofFn fun i => if i.val = 7 then 1 else 0

example : parseIpv4 "140.82.114.4".toList = some ⟨140, 82, 114, 4⟩ := by decide
example : parseIpv4 "10.0.0.01".toList = none := by decide
example : (parseIpv6 "64:ff9b:0::192.0.0.170".toList).map (·.text) =
    some "64:ff9b::c000:aa".toList := by decide
example : (parseIpv6 "fe80::1".toList).map (·.segments[0]) = some 0xfe80 := by decide

end FragglePacket.Net
