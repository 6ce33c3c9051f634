import Mathlib.Data.List.AList
import Mathlib.Data.Prod.Lex
import Mathlib.Data.String.Basic
import FragglePacket.Lists.SortByKey
import FragglePacket.Net.AddressDisplay

/-! The segment sizes that both ends of a connection advertise, from the
SYN segments of a capture. -/

namespace FragglePacket.NetworkTests

open FragglePacket.Lists FragglePacket.Net FragglePacket.Text FragglePacket.Wire

inductive MssConfidence where
  | insufficient
  | low
  | medium
  | high
deriving DecidableEq

structure FlowMssEvidence where
  localIp : Str
  localPort : UInt16
  peerIp : Str
  peerPort : UInt16
  localAdvertised : Option UInt16
  peerAdvertised : Option UInt16
  bothDirectionsObserved : Bool
deriving DecidableEq

def FlowMssEvidence.new (localIp : Str) (localPort : UInt16) (peerIp : Str)
    (peerPort : UInt16) : FlowMssEvidence where
  localIp := localIp
  localPort := localPort
  peerIp := peerIp
  peerPort := peerPort
  localAdvertised := none
  peerAdvertised := none
  bothDirectionsObserved := false

def FlowMssEvidence.recompute (flow : FlowMssEvidence) : FlowMssEvidence :=
  { flow with bothDirectionsObserved := flow.localAdvertised.isSome && flow.peerAdvertised.isSome }

inductive MiddleboxVerdict where
  | noRewriteEvidence
  | ambiguous
  | insufficientEvidence
deriving DecidableEq

structure MiddleboxAttribution where
  verdict : MiddleboxVerdict
  confidence : MssConfidence
  explanation : Str

inductive MssEvidenceError where
  | io (detail : String)
  | unrecognizedFormat
  | pcap (detail : String)

/-- Why there is no report: an error, or an `unwrap` of nothing. -/
inductive MssEvidenceHalt where
  | error (error : MssEvidenceError)
  | unwrap

def attributeMiddlebox (flow : FlowMssEvidence) : Except MssEvidenceHalt MiddleboxAttribution :=
  if flow.bothDirectionsObserved = false then
    .ok ⟨.insufficientEvidence, .insufficient,
      "only ".toList ++ (if flow.localAdvertised.isSome then "the local->peer" else
        "the peer->local").toList ++ " SYN direction observed for ".toList ++ flow.localIp ++ ':' ::
          Nat.toDigits 10 flow.localPort.toNat ++
        " <-> ".toList ++ flow.peerIp ++ ':' :: Nat.toDigits 10 flow.peerPort.toNat ++
        "; a middlebox-rewrite claim requires both SYN and SYN-ACK".toList⟩
  else
    match flow.localAdvertised, flow.peerAdvertised with
    | some localMss, some peerMss =>
      .ok ⟨.ambiguous, .low,
        "both directions observed: local advertised ".toList ++ Nat.toDigits 10 localMss.toNat ++
          " in SYN, peer advertised ".toList ++ Nat.toDigits 10 peerMss.toNat ++
            " in SYN-ACK to ".toList ++
          flow.peerIp ++ ':' :: Nat.toDigits 10 flow.peerPort.toNat ++
          (". This alone cannot distinguish genuine peer/proxy policy from an in-path rewrite of either value; " ++
            "it requires corroboration across independent flows to the same or different peers to raise confidence.").toList⟩
    | _, _ => .error .unwrap

structure GapTenReport where
  source : String
  flows : List FlowMssEvidence
  attributions : List MiddleboxAttribution
  flowsWithBothDirections : Nat
  flowsTotal : Nat

/-- An option of a TCP header, as the slicing of the packet gives it. -/
inductive TcpOptionElement where
  | maximumSegmentSize (value : UInt16)
  | other

def mssFromOptions (options : List (Option TcpOptionElement)) : Option UInt16 :=
  options.findSome? fun
    | some (.maximumSegmentSize value) => some value
    | _ => none

structure SlicedTcp where
  sourcePort : UInt16
  destinationPort : UInt16
  syn : Bool
  ack : Bool
  /-- The options in order; `none` is one that cannot be read. -/
  options : List (Option TcpOptionElement)

/-- A frame with the addresses of its network layer and the header behind
it, where they are there. -/
structure SlicedFrame where
  net : Option (IpAddr × IpAddr)
  tcp : Option SlicedTcp

abbrev Endpoint := IpAddr × UInt16

/-- What a segment with the SYN flag tells of its connection. -/
structure SynSegment where
  src : Endpoint
  dst : Endpoint
  ack : Bool
  mss : Option UInt16

/-- The readers of the capture formats, and the slicing of a frame. -/
structure CaptureReaders where
  pcapng : Bytes → Except String (List (Except String (Option Bytes)))
  pcap : Bytes → Except String (List (Except String Bytes))
  slice : Bytes → Option SlicedFrame

def inspectFrame (readers : CaptureReaders) (captured : Bytes) : Option SynSegment := do
  let parsed ← readers.slice captured
  let (src, dst) ← parsed.net
  let tcp ← parsed.tcp
  if tcp.syn then some ⟨(src, tcp.sourcePort), (dst, tcp.destinationPort), tcp.ack,
    mssFromOptions tcp.options⟩ else none

/-- The frames of a capture file, in order. -/
def captureFrames (readers : CaptureReaders) (bytes : Bytes) :
    Except MssEvidenceError (List Bytes) := do
  if bytes.length < 4 then throw .unrecognizedFormat
  let magic := bytes.take 4
  let isPcapng := magic == [0x0A, 0x0D, 0x0D, 0x0A]
  let isPcapBe := magic == [0xA1, 0xB2, 0xC3, 0xD4] || magic == [0xA1, 0xB2, 0x3C, 0x4D]
  let isPcapLe := magic == [0xD4, 0xC3, 0xB2, 0xA1] || magic == [0x4D, 0x3C, 0xB2, 0xA1]
  if !isPcapng && !isPcapBe && !isPcapLe then throw .unrecognizedFormat
  if isPcapng then
    let blocks ← (readers.pcapng bytes).mapError .pcap
    let packets ← blocks.mapM fun block => block.mapError .pcap
    return packets.filterMap id
  else
    let packets ← (readers.pcap bytes).mapError .pcap
    packets.mapM fun pkt => pkt.mapError .pcap

/-- The end that counts as local, the peer, and whether the segment comes from the local end. -/
def orient (localIps : List IpAddr) (segment : SynSegment) : Option (Endpoint × Endpoint × Bool) :=
  if localIps = [] then
    if segment.ack = false then some (segment.src, segment.dst, true)
    else some (segment.dst, segment.src, false)
  else if segment.src.1 ∈ localIps then some (segment.src, segment.dst, true)
  else if segment.dst.1 ∈ localIps then some (segment.dst, segment.src, false)
  else none

abbrev SynFlowKey := Str × UInt16 × Str × UInt16

abbrev FlowMap := AList fun _ : SynFlowKey => FlowMssEvidence

def flowKey (localEnd peerEnd : Endpoint) : SynFlowKey :=
  (localEnd.1.text, localEnd.2, peerEnd.1.text, peerEnd.2)

/-- `entry(key).or_insert_with`, and what is recorded in the entry. -/
def advertise (localEnd peerEnd : Endpoint) (isLocalLeg : Bool) (mss : UInt16)
    (flows : FlowMap) : FlowMap :=
  let key := flowKey localEnd peerEnd
  let entry := (flows.lookup key).getD (.new localEnd.1.text localEnd.2 peerEnd.1.text peerEnd.2)
  let entry :=
    if isLocalLeg then { entry with localAdvertised := some mss }
    else { entry with peerAdvertised := some mss }
  flows.insert key entry.recompute

def recordSyn (localIps : List IpAddr) (flows : FlowMap) (segment : SynSegment) : FlowMap :=
  match segment.mss with
  | none => flows
  | some mss =>
    match orient localIps segment with
    | none => flows
    | some (localEnd, peerEnd, isLocalLeg) => advertise localEnd peerEnd isLocalLeg mss flows

/-- The order in which a hash map gives its values. -/
structure HashOrder where
  visit : List FlowMssEvidence → List FlowMssEvidence
  perm : ∀ values, (visit values).Perm values

abbrev PeerKey := Str ×ₗ Nat

def peerKey (flow : FlowMssEvidence) : PeerKey := toLex (flow.peerIp, flow.peerPort.toNat)

/-- The flows after the segments, sorted by their peers. -/
def flowList (order : HashOrder) (localIps : List IpAddr) (segments : List SynSegment) :
    List FlowMssEvidence :=
  sortByKey peerKey (order.visit ((segments.foldl (recordSyn localIps) ∅).entries.map (·.2)))

def ingestSynMss (readers : CaptureReaders) (order : HashOrder) (path : String)
    (file : Except String Bytes) (localIps : List IpAddr) :
    Except MssEvidenceHalt GapTenReport := do
  let bytes ← file.mapError fun detail => .error (.io detail)
  let frames ← (captureFrames readers bytes).mapError .error
  let flows := flowList order localIps (frames.filterMap (inspectFrame readers))
  let attributions ← flows.mapM attributeMiddlebox
  return {
    source := path
    flows := flows
    attributions := attributions
    flowsWithBothDirections := flows.countP (·.bothDirectionsObserved)
    flowsTotal := flows.length }

end FragglePacket.NetworkTests
