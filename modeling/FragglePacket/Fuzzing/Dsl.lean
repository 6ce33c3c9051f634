import FragglePacket.Fuzzing.Etherparse

/-! The packet DSL: a packet is a stack of layers, built into bytes from the
innermost layer outwards. -/

namespace FragglePacket.Fuzzing

open FragglePacket.Wire

structure Ether where
  src : Vector UInt8 6
  dst : Vector UInt8 6
  etherType : Option UInt16

structure Vlan where
  vid : UInt16
  pcp : UInt8

/-- Checksum override for the layers that have one. -/
inductive ChecksumMode where
  | auto
  | fixed (value : UInt16)
  | bad
deriving DecidableEq

structure Ip where
  src : Vector UInt8 4
  dst : Vector UInt8 4
  ttl : UInt8
  id : UInt16
  dontFragment : Bool
  moreFragments : Bool
  fragmentOffset : UInt16
  proto : Option UInt8
  checksum : ChecksumMode

/-- `Ip::new()` with the identification it draws. -/
def Ip.new (id : UInt16) : Ip where
  src := #v[10, 0, 0, 1]
  dst := #v[10, 0, 0, 2]
  ttl := 64
  id := id
  dontFragment := false
  moreFragments := false
  fragmentOffset := 0
  proto := none
  checksum := .auto

structure Ipv6 where
  src : Vector UInt8 16
  dst : Vector UInt8 16
  hopLimit : UInt8
  nextHeader : Option UInt8
  flowLabel : UInt32

inductive TcpOpt where
  | nop
  | mss (value : UInt16)
  | wScale (value : UInt8)
  | sAckOK
  | timestamp (tsval tsecr : UInt32)

structure TcpFlags where
  fin : Bool
  syn : Bool
  rst : Bool
  psh : Bool
  ack : Bool
  urg : Bool

structure Tcp where
  sport : UInt16
  dport : UInt16
  seq : UInt32
  ack : UInt32
  window : UInt16
  flags : TcpFlags
  options : List TcpOpt
  checksum : ChecksumMode

/-- `Tcp::new()` with the source port and sequence number it draws. -/
def Tcp.new (sport : UInt16) (seq : UInt32) : Tcp where
  sport := sport
  dport := 443
  seq := seq
  ack := 0
  window := 65535
  flags := ⟨false, false, false, false, false, false⟩
  options := []
  checksum := .auto

structure Udp where
  sport : UInt16
  dport : UInt16
  checksum : ChecksumMode

structure Icmp where
  icmpType : UInt8
  code : UInt8
  id : UInt16
  seq : UInt16
  nextHopMtu : Option UInt16

/-- `Icmp::echo_request()` with the identifier it draws. -/
def Icmp.echoRequest (id : UInt16) : Icmp where
  icmpType := 8
  code := 0
  id := id
  seq := 0
  nextHopMtu := none

structure Icmpv6 where
  icmpType : UInt8
  code : UInt8

structure Raw where
  load : Bytes

/-- A single network layer. -/
inductive Layer where
  | ether (e : Ether)
  | vlan (v : Vlan)
  | ip (ip : Ip)
  | ipv6 (ip : Ipv6)
  | tcp (t : Tcp)
  | udp (u : Udp)
  | icmp (i : Icmp)
  | icmpv6 (i : Icmpv6)
  | raw (r : Raw)

structure Packet where
  layers : List Layer

/-- Why a build ends without bytes: a `DslError::Build`, or the panic of an
addition that overflows where the profile checks for it. -/
inductive Failure where
  | build (message : String)
  | overflow
deriving DecidableEq

def inferProtoFromLayers : List Layer → Option UInt8
  | [] => none
  | .tcp _ :: _ => some 6
  | .udp _ :: _ => some 17
  | .icmp _ :: _ => some 1
  | _ :: rest => inferProtoFromLayers rest

def inferEtherType : List Layer → UInt16
  | [] => 0x0800
  | .ip _ :: _ => 0x0800
  | .ipv6 _ :: _ => 0x86DD
  | .vlan _ :: _ => 0x8100
  | _ :: rest => inferEtherType rest

def inferIpProto : List Layer → UInt8
  | [] => 255
  | .tcp _ :: _ => 6
  | .udp _ :: _ => 17
  | .icmp _ :: _ => 1
  | .icmpv6 _ :: _ => 58
  | _ :: rest => inferIpProto rest

def TcpOpt.bytes : TcpOpt → Bytes
  | .nop => [1]
  | .mss value => [2, 4] ++ be16 value
  | .wScale value => [3, 3, value]
  | .sAckOK => [4, 2]
  | .timestamp tsval tsecr => [8, 10] ++ be32 tsval ++ be32 tsecr

/-- The options one after the other, padded with NOPs to whole words. -/
def serializeTcpOptions (opts : List TcpOpt) : Bytes :=
  let out := opts.flatMap TcpOpt.bytes
  out ++ List.replicate ((4 - out.length % 4) % 4) 1

/-- Overwrites the two bytes from `offset` on, when the header is that long. -/
def overwrite (bytes : Bytes) (offset : Nat) (value : UInt16) : Bytes :=
  if offset + 2 ≤ bytes.length then bytes.take offset ++ be16 value ++ bytes.drop (offset + 2)
  else bytes

/-- The checksum field of a written header after the override; `random` is what
the generator draws for a bad one. -/
def overrideChecksum (mode : ChecksumMode) (random : UInt16) (offset : Nat)
    (bytes : Bytes) : Bytes :=
  match mode with
  | .auto => bytes
  | .fixed value => overwrite bytes offset value
  | .bad => overwrite bytes offset random

def buildError (result : Except String α) : Except Failure α := result.mapError .build

/-- `8 + len as u16`: overflow panics or wraps, by the profile. -/
def udpLength (overflowChecks : Bool) (len : Nat) : Except Failure UInt16 :=
  let short := UInt16.ofNat len
  if overflowChecks && 65536 ≤ 8 + short.toNat then .error .overflow else .ok (8 + short)

def udpChecksum (mode : ChecksumMode) (random : UInt16) : UInt16 :=
  match mode with
  | .fixed value => value
  | .bad => random
  | .auto => 0

/-- The header a `Tcp` layer fills in, with the options that fit. -/
def Tcp.header (crate : Etherparse) (t : Tcp) : TcpHeader :=
  let header := { crate.tcpHeaderNew t.sport t.dport t.seq t.window with
    acknowledgmentNumber := t.ack
    syn := t.flags.syn
    ack := t.flags.ack
    psh := t.flags.psh
    fin := t.flags.fin
    rst := t.flags.rst
    urg := t.flags.urg }
  let opts := serializeTcpOptions t.options
  if opts.isEmpty then header else (crate.tcpHeaderSetOptionsRaw header opts).getD header

/-- The four bytes behind the ICMP checksum. -/
def Icmp.restOfHeader (i : Icmp) : Bytes :=
  if i.icmpType = 8 ∨ i.icmpType = 0 then be16 i.id ++ be16 i.seq
  else if i.icmpType = 3 then [0, 0] ++ be16 (i.nextHopMtu.getD 0)
  else [0, 0, 0, 0]

/-- Serializes the layers, each with the bytes of those above it as payload. What is
above a raw layer is not reached. `draw n` is the random word for the layer with `n`
layers above it. -/
def buildLayers (crate : Etherparse) (overflowChecks : Bool) (draw : Nat → UInt16) :
    List Layer → Except Failure Bytes
  | [] => .ok []
  | .ether e :: upper => do
    let header ← buildError (crate.ethernet2HeaderWrite {
      source := e.src
      destination := e.dst
      etherType := e.etherType.getD (inferEtherType upper) })
    let rest ← buildLayers crate overflowChecks draw upper
    return header ++ rest
  | .vlan v :: upper => do
    let tci := (v.pcp.toUInt16 <<< 13) ||| (v.vid &&& 0x0FFF)
    let rest ← buildLayers crate overflowChecks draw upper
    return [0x81, 0x00] ++ be16 tci ++ be16 (inferEtherType upper) ++ rest
  | .ip ip :: upper => do
    let rest ← buildLayers crate overflowChecks draw upper
    let proto := ip.proto.getD (inferIpProto upper)
    let header ← buildError (crate.ipv4HeaderNew (.ofNat rest.length) ip.ttl proto ip.src ip.dst)
    let bytes ← buildError (crate.ipv4HeaderWrite { header with
      identification := ip.id
      dontFragment := ip.dontFragment
      moreFragments := ip.moreFragments
      fragmentOffset := (crate.ipFragOffsetTryFrom ip.fragmentOffset).getD 0 })
    return overrideChecksum ip.checksum (draw upper.length) 10 bytes ++ rest
  | .ipv6 ip :: upper => do
    let rest ← buildLayers crate overflowChecks draw upper
    let bytes ← buildError (crate.ipv6HeaderWrite {
      trafficClass := 0
      flowLabel := (crate.ipv6FlowLabelTryNew ip.flowLabel).getD 0
      payloadLength := .ofNat rest.length
      nextHeader := ip.nextHeader.getD (inferIpProto upper)
      hopLimit := ip.hopLimit
      source := ip.src
      destination := ip.dst })
    return bytes ++ rest
  | .tcp t :: upper => do
    let rest ← buildLayers crate overflowChecks draw upper
    let bytes ← buildError (crate.tcpHeaderWrite (t.header crate))
    return overrideChecksum t.checksum (draw upper.length) 16 bytes ++ rest
  | .udp u :: upper => do
    let rest ← buildLayers crate overflowChecks draw upper
    let length ← udpLength overflowChecks rest.length
    let bytes ← buildError (crate.udpHeaderWrite {
      sourcePort := u.sport
      destinationPort := u.dport
      length := length
      checksum := udpChecksum u.checksum (draw upper.length) })
    return bytes ++ rest
  | .icmp i :: upper => do
    let rest ← buildLayers crate overflowChecks draw upper
    return [i.icmpType, i.code, 0, 0] ++ i.restOfHeader ++ rest
  | .icmpv6 i :: upper => do
    let rest ← buildLayers crate overflowChecks draw upper
    return [i.icmpType, i.code, 0, 0] ++ rest
  | .raw r :: _ => .ok r.load

/-- Serialize the full layer stack to wire bytes. -/
def Packet.build (crate : Etherparse) (overflowChecks : Bool) (draw : Nat → UInt16)
    (packet : Packet) : Except Failure Bytes :=
  buildLayers crate overflowChecks draw packet.layers

def Layer.ip? : Layer → Option Ip
  | .ip header => some header
  | _ => none

/-- The layers before the first IPv4 layer, that layer, and the layers above it. -/
def splitAtIp : List Layer → Option (List Layer × Ip × List Layer)
  | [] => none
  | layer :: rest =>
    match layer.ip? with
    | some ip => some ([], ip, rest)
    | none => (splitAtIp rest).map fun (before, ip, upper) => (layer :: before, ip, upper)

/-- The fragment that carries `chunk`. -/
def fragmentPacket (before : List Layer) (ip : Ip) (protoHint : Option UInt8) (offsetBytes : Nat)
    (isLast : Bool) (chunk : Bytes) : Packet where
  layers := before ++ [
    .ip { ip with
      moreFragments := !isLast
      fragmentOffset := .ofNat (offsetBytes / 8)
      proto := protoHint.orElse fun _ => ip.proto },
    .raw ⟨chunk⟩]

/-- The splitting loop; `none` when the fuel is used up. -/
def fragmentLoop (before : List Layer) (ip : Ip) (protoHint : Option UInt8) (upperBytes : Bytes)
    (fragsize : Nat) : Nat → Nat → Option (List Packet)
  | 0, _ => none
  | fuel + 1, offsetBytes =>
    let total := upperBytes.length
    if offsetBytes < total then
      let stop := min (offsetBytes + fragsize) total
      let chunk := (upperBytes.take stop).drop offsetBytes
      let packet := fragmentPacket before ip protoHint offsetBytes (stop == total) chunk
      (fragmentLoop before ip protoHint upperBytes fragsize fuel stop).map (packet :: ·)
    else some []

/-- Split the payload of the first IPv4 layer into fragments of `fragsize` bytes;
`none` when the loop is still running after `fuel` rounds. -/
def Packet.fragment (crate : Etherparse) (overflowChecks : Bool) (draw : Nat → UInt16)
    (fuel : Nat) (fragsize : Nat) (packet : Packet) : Option (Except Failure (List Packet)) :=
  if fragsize % 8 ≠ 0 then some (.error (.build "fragsize must be a multiple of 8"))
  else
    match splitAtIp packet.layers with
    | none => some (.error (.build "fragment() requires an IP layer"))
    | some (before, ip, upper) =>
      match buildLayers crate overflowChecks draw upper with
      | .error failure => some (.error failure)
      | .ok upperBytes =>
        if upperBytes.length = 0 then some (.ok [packet])
        else (fragmentLoop before ip (inferProtoFromLayers upper) upperBytes fragsize
          fuel 0).map .ok

end FragglePacket.Fuzzing
