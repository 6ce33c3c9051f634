import Mathlib.Data.Finset.Card
import Mathlib.Data.Rat.Cast.Order
import FragglePacket.NetworkTests.PcapReport
import FragglePacket.Text.Fields

/-! What the running analysis of a capture is reported as. -/

namespace FragglePacket.NetworkTests

open FragglePacket.Text

inductive Vantage where
  | hostOffloadSuspect
  | onWireMirrorOrTap
  | unknown
deriving DecidableEq

inductive Confidence where
  | low
  | medium
  | high
deriving DecidableEq

structure VantageClassification where
  vantage : Vantage
  confidence : Confidence
  evidence : List String

structure CaptureHealth where
  fileFormat : String
  linkType : String
  interfaceName : Option String
  snaplen : UInt32
  truncated : Bool
  packetCount : Nat
  byteCount : Nat
  durationSecs : Option ℚ
  /-- `none` is a count that the file does not give. -/
  dropsKnown : Option Nat

structure FrameSizeAnalysis where
  linkMtuAssumed : Nat
  oversizeThreshold : Nat
  observedOverThreshold : Nat
  maxObservedFrameLen : Nat
  oversizeIsHostSegmentArtifact : Bool

structure ChecksumOffloadSignal where
  tcpChecksumZeroOrInvalid : Nat
  tcpChecksumChecked : Nat

structure TcpAnomalyCounts where
  sampledPackets : Nat
  retransmissions : Nat
  outOfOrder : Nat
  duplicateAcks : Nat
  qualificationRequired : Bool

structure ProtocolBreakdown where
  tcpPackets : Nat
  tcpBytes : Nat
  udpPackets : Nat
  udpBytes : Nat
  udpFlows : Nat
  quicCandidatePackets : Nat
  quicCandidateBytes : Nat
  icmpPackets : Nat
  otherPackets : Nat

structure DirectionsSeen where
  srcIpsSeen : Nat
  dstIpsSeen : Nat
  bidirectionalTcpFlows : Nat
  totalTcpFlows : Nat

structure PcapReport where
  path : String
  health : CaptureHealth
  vantage : VantageClassification
  frameSize : FrameSizeAnalysis
  checksumOffload : ChecksumOffloadSignal
  tcpAnomalies : TcpAnomalyCounts
  directionsSeen : DirectionsSeen
  protocolBreakdown : ProtocolBreakdown
  payloadAnalysisSuppressed : Bool
  notes : List String

/-- A line of evidence, and what it counts for either vantage point. -/
structure Signal where
  evidence : List String
  scoreHost : Nat
  scoreWire : Nat

namespace Accumulator

variable (acc : Accumulator)

def threshold : Nat := NetworkTests.oversizeThreshold defaultLinkMtu

def oversizeSignal : Signal :=
  if 0 < acc.oversizeCount then
    ⟨[toString acc.oversizeCount ++ " frames exceed link MTU+L2 (" ++ toString threshold ++
      " bytes) — strong TSO/GSO/GRO signal"], 3, 0⟩
  else ⟨["no frames exceed link MTU+L2 (" ++ toString threshold ++ " bytes)"], 0, 0⟩

def checksumSignal : Signal :=
  if acc.tcpChecksumChecked = 0 then ⟨[], 0, 0⟩
  else
    let counts := toString acc.tcpChecksumZero ++ "/" ++ toString acc.tcpChecksumChecked
    if (1 / 20 : ℚ) < acc.tcpChecksumZero / acc.tcpChecksumChecked then
      ⟨[counts ++
        " sampled TCP segments carry zero/placeholder checksums — checksum-offload artifact typical of " ++
        "host-side capture of transmitted packets"], 2, 0⟩
    else ⟨[counts ++ " sampled TCP segments show non-zero checksums"], 0, 0⟩

def totalFlows : Nat := acc.flows.entries.length

def bidirFlows : Nat := acc.flows.entries.countP fun flow => flow.2.seenFromA && flow.2.seenFromB

def directionSignal : Signal :=
  if acc.totalFlows = 0 then ⟨[], 0, 0⟩
  else
    let counts := toString acc.bidirFlows ++ "/" ++ toString acc.totalFlows
    if (2 / 5 : ℚ) < acc.bidirFlows / acc.totalFlows then
      ⟨[counts ++
        " TCP flows show both directions in the file — consistent with a host endpoint's own " ++
        "send+receive path"], 1, 0⟩
    else
      ⟨[counts ++
        " TCP flows show only one direction — consistent with an on-path mirror/tap seeing partial traffic"],
        0, 1⟩

/-- The name begins or contains what host interfaces are called. Lowering the ASCII letters
decides that, since no other character has one of theirs as its lower case. -/
def isHostName (name : String) : Bool :=
  let lname := name.toList.map Char.toLower
  "en".toList.isPrefixOf lname || "eth".toList.isPrefixOf lname || contains lname "wl".toList ||
    "utun".toList.isPrefixOf lname

def nameSignal : Option String → Signal
  | some name =>
    if isHostName name then
      ⟨["interface name '" ++ name ++ "' matches a host NIC naming convention"], 1, 0⟩
    else ⟨[], 0, 0⟩
  | none => ⟨["interface name not recorded in file"], 0, 0⟩

def classifyVantage (ifName : Option String) : VantageClassification :=
  let signals := [acc.oversizeSignal, acc.checksumSignal, acc.directionSignal, nameSignal ifName]
  let evidence := signals.flatMap (·.evidence)
  let scoreHost : Nat := (signals.map (·.scoreHost)).sum
  let scoreWire : Nat := (signals.map (·.scoreWire)).sum
  if 3 ≤ scoreHost then ⟨.hostOffloadSuspect, if 5 ≤ scoreHost then .high else .medium, evidence⟩
  else if scoreHost < scoreWire then ⟨.onWireMirrorOrTap, .low, evidence⟩
  else if 0 < scoreHost then ⟨.hostOffloadSuspect, .low, evidence⟩
  else ⟨.unknown, .low, evidence⟩

def truncationNotes : List String :=
  if acc.truncated then
    ["snaplen truncation detected: at least one packet's captured length is shorter than its original length " ++
      "(file/interface snaplen " ++ toString acc.snaplen ++
        "). Payload-dependent verdicts are suppressed."]
  else []

def dropNotes : Option Nat → List String
  | none =>
    ["capture drop count is unknown: this file format/section carries no drop-count record (classic pcap never does; " ++
      "this pcapng section had no Interface Statistics Block). This is reported as unknown, not zero."]
  | some drops =>
    if 0 < drops then
      ["capture reports " ++ toString drops ++
        " interface drops (isb_ifdrop) — captured packets may undercount what actually arrived."]
    else []

def hostSideNotes (hostSide : Bool) : List String :=
  if hostSide then
    ["vantage classified as host-side/offload-suspect: retransmission/out-of-order/duplicate-ACK counts below are NOT " ++
      "usable as on-wire network-fault evidence. TSO/GSO/GRO on a host capture reconstruct segments that were never " ++
      "sent/received as observed; capture drops can also manufacture phantom retransmissions."] ++
    if 0 < acc.oversizeCount then
      [toString acc.oversizeCount ++
        " frames over link MTU+L2 are pre-segmentation host segments (TSO/GRO), not " ++
        "on-wire oversize frames — no MTU conclusion can be drawn from them."]
    else []
  else []

/-- The time between the earliest and the latest packet, kept in nanoseconds, in seconds. -/
def durationSecs : Option ℚ :=
  match acc.minTs, acc.maxTs with
  | some earliest, some latest =>
    if earliest ≤ latest then some ((latest - earliest : Nat) / 10 ^ 9) else none
  | _, _ => none

def finish (path format : String) (ifName : Option String) (dropsKnown : Option Nat) : PcapReport :=
  let vantage := acc.classifyVantage ifName
  let hostSide := vantage.vantage == .hostOffloadSuspect
  { path
    health := {
      fileFormat := format
      linkType := acc.linkType
      interfaceName := ifName
      snaplen := acc.snaplen
      truncated := acc.truncated
      packetCount := acc.packetCount
      byteCount := acc.byteCount
      durationSecs := acc.durationSecs
      dropsKnown }
    vantage
    frameSize := {
      linkMtuAssumed := defaultLinkMtu
      oversizeThreshold := threshold
      observedOverThreshold := acc.oversizeCount
      maxObservedFrameLen := acc.maxFrameLen
      oversizeIsHostSegmentArtifact := decide (0 < acc.oversizeCount) && hostSide }
    checksumOffload := ⟨acc.tcpChecksumZero, acc.tcpChecksumChecked⟩
    tcpAnomalies :=
      ⟨acc.tcpSampled, acc.retransmissions, acc.outOfOrder, acc.duplicateAcks, hostSide⟩
    directionsSeen := ⟨acc.srcIps.card, acc.dstIps.card, acc.bidirFlows, acc.totalFlows⟩
    protocolBreakdown := {
      tcpPackets := acc.tcpPackets
      tcpBytes := acc.tcpBytes
      udpPackets := acc.udpPackets
      udpBytes := acc.udpBytes
      udpFlows := acc.udpFlows.card
      quicCandidatePackets := acc.quicCandidatePackets
      quicCandidateBytes := acc.quicCandidateBytes
      icmpPackets := acc.icmpPackets
      otherPackets := acc.otherPackets }
    payloadAnalysisSuppressed := acc.truncated
    notes := acc.truncationNotes ++ dropNotes dropsKnown ++ acc.hostSideNotes hostSide }

end Accumulator

end FragglePacket.NetworkTests
