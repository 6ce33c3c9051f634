import Mathlib.Data.Finset.Insert
import Mathlib.Data.List.AList
import FragglePacket.Wire.Bytes

/-! The running analysis of a capture, packet by packet. -/

namespace FragglePacket.NetworkTests

open FragglePacket.Wire

/-- What the lax slicer says of the network layer. -/
inductive LaxNetSlice where
  | ipv4 (source destination : Vector UInt8 4)
  | ipv6 (source destination : Vector UInt8 16)

structure TcpSlice where
  sourcePort : UInt16
  destinationPort : UInt16
  sequenceNumber : UInt32
  acknowledgmentNumber : UInt32
  ack : Bool
  checksum : UInt16
  payload : Bytes
  /-- `calc_checksum_ipv4`; `none` is an error. -/
  calcChecksumIpv4 : Vector UInt8 4 → Vector UInt8 4 → Option UInt16

structure UdpSlice where
  sourcePort : UInt16
  destinationPort : UInt16
  payload : Bytes

inductive TransportSlice where
  | tcp (tcp : TcpSlice)
  | udp (udp : UdpSlice)
  | icmpv4
  | icmpv6

structure LaxSlicedPacket where
  net : Option LaxNetSlice
  transport : Option TransportSlice

/-- `LaxSlicedPacket::from_ethernet`, which is not part of the repository. -/
abbrev LaxSlicer := Bytes → Option LaxSlicedPacket

def ethernetHeaderLen : Nat := 14
def defaultLinkMtu : Nat := 1500

def oversizeThreshold (linkMtu : Nat) : Nat := linkMtu + ethernetHeaderLen

def maxTrackedFlows : Nat := 200000
def maxTcpSamplePackets : Nat := 2000000

/-- `u128::from_be_bytes`; arrays of one length compare as these numbers do. -/
def u128 (bytes : Vector UInt8 16) : Nat :=
  bytes.toList.foldl (fun value byte => value * 256 + byte.toNat) 0

abbrev FlowId := Nat × UInt16 × Nat × UInt16

structure FlowKey where
  aIp : Vector UInt8 16
  aPort : UInt16
  bIp : Vector UInt8 16
  bPort : UInt16

/-- `(src_ip, src_port) <= (dst_ip, dst_port)`. -/
def endpointLe (srcIp : Vector UInt8 16) (srcPort : UInt16) (dstIp : Vector UInt8 16)
    (dstPort : UInt16) : Bool :=
  decide (u128 srcIp < u128 dstIp) ||
    (decide (u128 srcIp = u128 dstIp) && decide (srcPort ≤ dstPort))

def FlowKey.normalized (srcIp : Vector UInt8 16) (srcPort : UInt16) (dstIp : Vector UInt8 16)
    (dstPort : UInt16) :
    FlowKey :=
  if endpointLe srcIp srcPort dstIp dstPort then ⟨srcIp, srcPort, dstIp, dstPort⟩
  else ⟨dstIp, dstPort, srcIp, srcPort⟩

def FlowKey.id (key : FlowKey) : FlowId := (u128 key.aIp, key.aPort, u128 key.bIp, key.bPort)

/-- What a flow keeps of one of its two directions. -/
structure FlowSide where
  maxSeqEnd : Option Nat
  lastAck : Option UInt32
  dupAckRun : Nat

structure FlowState where
  seenFromA : Bool
  seenFromB : Bool
  a : FlowSide
  b : FlowSide

def FlowSide.default : FlowSide := ⟨none, none, 0⟩

def FlowState.default : FlowState := ⟨false, false, .default, .default⟩

structure Accumulator where
  snaplen : UInt32
  linkType : String
  packetCount : Nat
  byteCount : Nat
  truncated : Bool
  maxFrameLen : Nat
  oversizeCount : Nat
  firstTsSeen : Bool
  tcpChecksumZero : Nat
  tcpChecksumChecked : Nat
  srcIps : Finset (Vector UInt8 16)
  dstIps : Finset (Vector UInt8 16)
  flows : AList (fun _ : FlowId => FlowState)
  retransmissions : Nat
  outOfOrder : Nat
  duplicateAcks : Nat
  tcpSampled : Nat
  tcpPackets : Nat
  tcpBytes : Nat
  udpPackets : Nat
  udpBytes : Nat
  quicCandidatePackets : Nat
  quicCandidateBytes : Nat
  icmpPackets : Nat
  otherPackets : Nat
  udpFlows : Finset FlowId
  minTs : Option Nat
  maxTs : Option Nat

/-- One call of `observe`: the original length, the captured bytes and the timestamp in
nanoseconds. -/
structure CapturedPacket where
  origLen : UInt64
  captured : Bytes
  ts : Option Nat

/-- The four bytes of an IPv4 address in a field of sixteen. -/
def padIpv4 (address : Vector UInt8 4) : Vector UInt8 16 :=
  .ofFn fun i => address.toList.getD i.val 0

def LaxNetSlice.endpoints : LaxNetSlice → Vector UInt8 16 × Vector UInt8 16
  | .ipv4 source destination => (padIpv4 source, padIpv4 destination)
  | .ipv6 source destination => (source, destination)

def LaxNetSlice.v4Addrs : LaxNetSlice → Option (Vector UInt8 4 × Vector UInt8 4)
  | .ipv4 source destination => some (source, destination)
  | .ipv6 _ _ => none

/-- The flow that a TCP or UDP packet belongs to, and whether it comes from its `a` side. -/
def flowOf (net : LaxNetSlice) (srcPort dstPort : UInt16) : FlowId × Bool :=
  let (src16, dst16) := net.endpoints
  ((FlowKey.normalized src16 srcPort dst16 dstPort).id, endpointLe src16 srcPort dst16 dstPort)

namespace Accumulator

def new (snaplen : UInt32) (linkType : String) : Accumulator where
  snaplen := snaplen
  linkType := linkType
  packetCount := 0
  byteCount := 0
  truncated := false
  maxFrameLen := 0
  oversizeCount := 0
  firstTsSeen := false
  tcpChecksumZero := 0
  tcpChecksumChecked := 0
  srcIps := ∅
  dstIps := ∅
  flows := ∅
  retransmissions := 0
  outOfOrder := 0
  duplicateAcks := 0
  tcpSampled := 0
  tcpPackets := 0
  tcpBytes := 0
  udpPackets := 0
  udpBytes := 0
  quicCandidatePackets := 0
  quicCandidateBytes := 0
  icmpPackets := 0
  otherPackets := 0
  udpFlows := ∅
  minTs := none
  maxTs := none

def looksLikeQuic (udp : UdpSlice) : Bool :=
  decide (udp.sourcePort = 443) || decide (udp.destinationPort = 443) ||
    (udp.payload.head?.elim false fun byte => byte &&& 0x80 != 0)

def classifyProtocol (slicer : LaxSlicer) (acc : Accumulator) (captured : Bytes)
    (origLen : Nat) : Accumulator :=
  match slicer captured with
  | none => { acc with otherPackets := acc.otherPackets + 1 }
  | some parsed =>
    match parsed.net with
    | none => { acc with otherPackets := acc.otherPackets + 1 }
    | some net =>
      match parsed.transport with
      | some (.tcp _) =>
        { acc with tcpPackets := acc.tcpPackets + 1, tcpBytes := acc.tcpBytes + origLen }
      | some (.udp udp) =>
        let acc := { acc with
          udpPackets := acc.udpPackets + 1
          udpBytes := acc.udpBytes + origLen
          udpFlows := insert (flowOf net udp.sourcePort udp.destinationPort).1 acc.udpFlows }
        if looksLikeQuic udp then
          { acc with
            quicCandidatePackets := acc.quicCandidatePackets + 1
            quicCandidateBytes := acc.quicCandidateBytes + origLen }
        else acc
      | some .icmpv4 => { acc with icmpPackets := acc.icmpPackets + 1 }
      | some .icmpv6 => { acc with icmpPackets := acc.icmpPackets + 1 }
      | none => { acc with otherPackets := acc.otherPackets + 1 }

def checksumBad (net : LaxNetSlice) (tcp : TcpSlice) (frameComplete : Bool) : Bool :=
  decide (tcp.checksum = 0) ||
    (frameComplete && net.v4Addrs.elim false fun (source, destination) =>
      (tcp.calcChecksumIpv4 source destination).elim false fun computed => computed != tcp.checksum)

/-- A data segment against the highest end seen before: counted as a retransmission, as
out of order, or not at all. -/
def trackData (acc : Accumulator) (maxSeqEnd : Option Nat) (seq payloadLen : Nat) : Accumulator :=
  let seqEnd := seq + max payloadLen 1
  match maxSeqEnd with
  | some prevMax =>
    if seqEnd ≤ prevMax then { acc with retransmissions := acc.retransmissions + 1 }
    else if seq < prevMax - payloadLen then { acc with outOfOrder := acc.outOfOrder + 1 }
    else acc
  | none => acc

/-- An acknowledgment without data against the last one, with the run it leaves. -/
def trackAck (acc : Accumulator) (side : FlowSide) (ack : UInt32) : Accumulator × FlowSide :=
  if side.lastAck = some ack then
    let side := { side with dupAckRun := side.dupAckRun + 1 }
    if 2 ≤ side.dupAckRun then
      ({ acc with duplicateAcks := acc.duplicateAcks + 1 }, { side with lastAck := some ack })
    else (acc, { side with lastAck := some ack })
  else (acc, { side with dupAckRun := 0, lastAck := some ack })

/-- What a TCP segment does to the counters and to its side of the flow. -/
def trackSide (acc : Accumulator) (side : FlowSide) (tcp : TcpSlice) : Accumulator × FlowSide :=
  let seq := tcp.sequenceNumber.toNat
  let payloadLen := tcp.payload.length
  if 0 < payloadLen then
    (acc.trackData side.maxSeqEnd seq payloadLen,
      { side with maxSeqEnd := some (max (side.maxSeqEnd.getD 0) (seq + max payloadLen 1)) })
  else if tcp.ack then acc.trackAck side tcp.acknowledgmentNumber
  else (acc, side)

/-- `flows.entry(id).or_default()`. -/
def flowState (acc : Accumulator) (id : FlowId) : FlowState := (acc.flows.lookup id).getD .default

def setFlow (acc : Accumulator) (id : FlowId) (state : FlowState) : Accumulator :=
  { acc with flows := acc.flows.insert id state }

def trackFlow (acc : Accumulator) (net : LaxNetSlice) (tcp : TcpSlice) : Accumulator :=
  let (id, aSide) := flowOf net tcp.sourcePort tcp.destinationPort
  if acc.flows.keys.length < maxTrackedFlows ∨ id ∈ acc.flows then
    let state := acc.flowState id
    if aSide then
      let (acc, side) := acc.trackSide state.a tcp
      acc.setFlow id { state with seenFromA := true, a := side }
    else
      let (acc, side) := acc.trackSide state.b tcp
      acc.setFlow id { state with seenFromB := true, b := side }
  else acc

def noteAddresses (acc : Accumulator) (net : LaxNetSlice) : Accumulator :=
  { acc with
    srcIps := insert net.endpoints.1 acc.srcIps
    dstIps := insert net.endpoints.2 acc.dstIps }

def sampleTcp (acc : Accumulator) (net : LaxNetSlice) (tcp : TcpSlice)
    (frameComplete : Bool) : Accumulator :=
  { acc with
    tcpSampled := acc.tcpSampled + 1
    tcpChecksumChecked := acc.tcpChecksumChecked + 1
    tcpChecksumZero := acc.tcpChecksumZero + if checksumBad net tcp frameComplete then 1 else 0 }

def inspectPacket (slicer : LaxSlicer) (acc : Accumulator) (captured : Bytes)
    (frameComplete : Bool) : Accumulator :=
  match slicer captured with
  | none => acc
  | some parsed =>
    match parsed.net with
    | none => acc
    | some net =>
      match parsed.transport with
      | some (.tcp tcp) =>
        ((acc.noteAddresses net).sampleTcp net tcp frameComplete).trackFlow net tcp
      | _ => acc.noteAddresses net

def countFrame (acc : Accumulator) (packet : CapturedPacket) : Accumulator :=
  let origLen := packet.origLen.toNat
  { acc with
    packetCount := acc.packetCount + 1
    byteCount := acc.byteCount + origLen
    firstTsSeen := true
    minTs := packet.ts.elim acc.minTs fun t => some (acc.minTs.elim t (min · t))
    maxTs := packet.ts.elim acc.maxTs fun t => some (acc.maxTs.elim t (max · t))
    truncated := acc.truncated || decide (packet.captured.length < origLen)
    maxFrameLen := max (max acc.maxFrameLen packet.captured.length) origLen
    oversizeCount := acc.oversizeCount + if oversizeThreshold defaultLinkMtu <
      origLen then 1 else 0 }

def observe (slicer : LaxSlicer) (acc : Accumulator) (packet : CapturedPacket) : Accumulator :=
  let acc := (acc.countFrame packet).classifyProtocol slicer packet.captured packet.origLen.toNat
  if maxTcpSamplePackets ≤ acc.tcpSampled then acc
  else acc.inspectPacket slicer packet.captured (packet.captured.length == packet.origLen.toNat)

/-- The `u64` counters. -/
def counters (acc : Accumulator) : List Nat :=
  [acc.packetCount, acc.byteCount, acc.oversizeCount, acc.tcpChecksumZero, acc.tcpChecksumChecked,
    acc.retransmissions, acc.outOfOrder, acc.duplicateAcks, acc.tcpSampled, acc.tcpPackets,
    acc.tcpBytes, acc.udpPackets, acc.udpBytes, acc.quicCandidatePackets, acc.quicCandidateBytes,
    acc.icmpPackets, acc.otherPackets]

/-- Every counter as the `u64` sums of a release build leave it. -/
def wrap (acc : Accumulator) : Accumulator :=
  { acc with
    packetCount := acc.packetCount % 2 ^ 64
    byteCount := acc.byteCount % 2 ^ 64
    oversizeCount := acc.oversizeCount % 2 ^ 64
    tcpChecksumZero := acc.tcpChecksumZero % 2 ^ 64
    tcpChecksumChecked := acc.tcpChecksumChecked % 2 ^ 64
    retransmissions := acc.retransmissions % 2 ^ 64
    outOfOrder := acc.outOfOrder % 2 ^ 64
    duplicateAcks := acc.duplicateAcks % 2 ^ 64
    tcpSampled := acc.tcpSampled % 2 ^ 64
    tcpPackets := acc.tcpPackets % 2 ^ 64
    tcpBytes := acc.tcpBytes % 2 ^ 64
    udpPackets := acc.udpPackets % 2 ^ 64
    udpBytes := acc.udpBytes % 2 ^ 64
    quicCandidatePackets := acc.quicCandidatePackets % 2 ^ 64
    quicCandidateBytes := acc.quicCandidateBytes % 2 ^ 64
    icmpPackets := acc.icmpPackets % 2 ^ 64
    otherPackets := acc.otherPackets % 2 ^ 64 }

/-- `observe` on `u64` counters, to each of which it adds at most once: a sum that leaves the
range panics with overflow checks and wraps without. -/
def observeU64 (overflowChecks : Bool) (slicer : LaxSlicer) (acc : Accumulator)
    (packet : CapturedPacket) : Option Accumulator :=
  let next := acc.observe slicer packet
  if overflowChecks ∧ ∃ counter ∈ next.counters, 2 ^ 64 ≤ counter then none else some next.wrap

/-- The calls of `observe` for a whole capture; `none` is a panic. -/
def observeAll (overflowChecks : Bool) (slicer : LaxSlicer) (acc : Accumulator)
    (packets : List CapturedPacket) : Option Accumulator :=
  packets.foldlM (observeU64 overflowChecks slicer) acc

end Accumulator

end FragglePacket.NetworkTests
