import FragglePacket.Lists.Update
import FragglePacket.NetworkTests.PcapSequence

/-! The tallies of a capture agree with each other after any packets. -/

namespace FragglePacket.NetworkTests

open FragglePacket.Lists FragglePacket.Wire

namespace Accumulator

section Steps
variable (acc : Accumulator)

/-- A data segment counts at most once. -/
theorem trackData_eq (maxSeqEnd : Option Nat) (seq payloadLen : Nat) : ∃ retransmissions outOfOrder,
    acc.trackData maxSeqEnd seq payloadLen =
        { acc with retransmissions := retransmissions, outOfOrder := outOfOrder } ∧
      retransmissions + outOfOrder ≤ acc.retransmissions + acc.outOfOrder + 1 := by
  cases maxSeqEnd with
  | none => exact ⟨acc.retransmissions, acc.outOfOrder, rfl, by omega⟩
  | some prevMax =>
    simp only [trackData]
    split
    · exact ⟨acc.retransmissions + 1, acc.outOfOrder, rfl, by omega⟩
    · split
      · exact ⟨acc.retransmissions, acc.outOfOrder + 1, rfl, by omega⟩
      · exact ⟨acc.retransmissions, acc.outOfOrder, rfl, by omega⟩

theorem trackAck_eq (side : FlowSide) (ack : UInt32) : ∃ duplicateAcks,
    (acc.trackAck side ack).1 = { acc with duplicateAcks := duplicateAcks } ∧
      duplicateAcks ≤ acc.duplicateAcks + 1 := by
  simp only [trackAck]
  split
  · split
    · exact ⟨acc.duplicateAcks + 1, rfl, by omega⟩
    · exact ⟨acc.duplicateAcks, rfl, by omega⟩
  · exact ⟨acc.duplicateAcks, rfl, by omega⟩

/-- The anomalies of a segment: at most one. -/
def anomalies : Nat := acc.retransmissions + acc.outOfOrder + acc.duplicateAcks

/-- What the tracking of a flow can change. -/
structure TrackedFrom (after : Accumulator) : Prop where
  same : ∃ retransmissions outOfOrder duplicateAcks flows, after = { acc with
    retransmissions := retransmissions, outOfOrder := outOfOrder, duplicateAcks := duplicateAcks,
      flows := flows }
  once : after.anomalies ≤ acc.anomalies + 1

theorem trackSide_tracked (side : FlowSide) (tcp : TcpSlice) :
    acc.TrackedFrom (acc.trackSide side tcp).1 ∧ (acc.trackSide side tcp).1.flows = acc.flows := by
  simp only [trackSide]
  split
  · obtain ⟨retransmissions, outOfOrder, same, once⟩ :=
      acc.trackData_eq side.maxSeqEnd tcp.sequenceNumber.toNat tcp.payload.length
    rw [same]
    exact ⟨⟨⟨_, _, _, _, rfl⟩, by simp only [anomalies]; omega⟩, rfl⟩
  · split
    · obtain ⟨duplicateAcks, same, once⟩ := acc.trackAck_eq side tcp.acknowledgmentNumber
      rw [same]
      exact ⟨⟨⟨_, _, _, _, rfl⟩, by simp only [anomalies]; omega⟩, rfl⟩
    · exact ⟨⟨⟨_, _, _, _, rfl⟩, Nat.le_succ _⟩, rfl⟩

theorem setFlow_tracked {after : Accumulator} (tracked : acc.TrackedFrom after) (id : FlowId)
    (state : FlowState) :
    acc.TrackedFrom (after.setFlow id state) := by
  obtain ⟨⟨retransmissions, outOfOrder, duplicateAcks, flows, rfl⟩, once⟩ := tracked
  exact ⟨⟨_, _, _, _, rfl⟩, once⟩

/-- A flow is added only where there is room. -/
theorem setFlow_flows {id : FlowId}
    (room : acc.flows.keys.length < maxTrackedFlows ∨ id ∈ acc.flows)
    (bounded : acc.flows.keys.length ≤ maxTrackedFlows) (state : FlowState) :
    (acc.setFlow id state).flows.keys.length ≤ maxTrackedFlows := by
  rw [setFlow, insert_keys_length]
  by_cases known : id ∈ acc.flows
  · rw [if_pos known]
    exact bounded
  · rw [if_neg known]
    exact room.resolve_right known

theorem trackFlow_tracked (bounded : acc.flows.keys.length ≤ maxTrackedFlows) (net : LaxNetSlice)
    (tcp : TcpSlice) :
    acc.TrackedFrom (acc.trackFlow net tcp) ∧
      (acc.trackFlow net tcp).flows.keys.length ≤ maxTrackedFlows := by
  have tracks (side : FlowSide) (state : FlowState) (id : FlowId)
      (room : acc.flows.keys.length < maxTrackedFlows ∨ id ∈ acc.flows) :
      acc.TrackedFrom ((acc.trackSide side tcp).1.setFlow id state) ∧
        ((acc.trackSide side tcp).1.setFlow id state).flows.keys.length ≤ maxTrackedFlows := by
    obtain ⟨tracked, kept⟩ := acc.trackSide_tracked side tcp
    refine ⟨acc.setFlow_tracked tracked id state, setFlow_flows _ ?_ ?_ state⟩
    · rw [kept]
      exact room
    · rw [kept]
      exact bounded
  simp only [trackFlow]
  split
  case isTrue room =>
    split
    · exact tracks _ _ _ room
    · exact tracks _ _ _ room
  case isFalse => exact ⟨⟨⟨_, _, _, _, rfl⟩, Nat.le_succ _⟩, bounded⟩

end Steps

/-- What the two passes make of a packet. -/
inductive Kind where
  | tcp
  | udp
  | icmp
  | other
deriving DecidableEq

def kindOf (slicer : LaxSlicer) (captured : Bytes) : Kind :=
  match slicer captured with
  | some ⟨some _, some (.tcp _)⟩ => .tcp
  | some ⟨some _, some (.udp _)⟩ => .udp
  | some ⟨some _, some .icmpv4⟩ => .icmp
  | some ⟨some _, some .icmpv6⟩ => .icmp
  | _ => .other

section Passes
variable (acc : Accumulator)

/-- What the tally of protocols makes of a packet. -/
inductive Classified (origLen : Nat) : Kind → Accumulator → Prop
  | tcp : Classified origLen .tcp
      { acc with tcpPackets := acc.tcpPackets + 1, tcpBytes := acc.tcpBytes + origLen }
  | udp (udpFlows : Finset FlowId) : Classified origLen .udp { acc with
      udpPackets := acc.udpPackets + 1, udpBytes := acc.udpBytes + origLen, udpFlows := udpFlows }
  | quic (udpFlows : Finset FlowId) : Classified origLen .udp { acc with
      udpPackets := acc.udpPackets + 1, udpBytes := acc.udpBytes + origLen, udpFlows := udpFlows
      quicCandidatePackets := acc.quicCandidatePackets + 1,
        quicCandidateBytes := acc.quicCandidateBytes + origLen }
  | icmp : Classified origLen .icmp { acc with icmpPackets := acc.icmpPackets + 1 }
  | other : Classified origLen .other { acc with otherPackets := acc.otherPackets + 1 }

theorem classifyProtocol_classified (slicer : LaxSlicer) (captured : Bytes) (origLen : Nat) :
    acc.Classified origLen (kindOf slicer captured)
      (acc.classifyProtocol slicer captured origLen) := by
  rw [kindOf, classifyProtocol]
  rcases slicer captured with - | ⟨- | net, transport⟩
  · exact .other
  · exact .other
  · rcases transport with - | tcp | udp | - | -
    · exact .other
    · exact .tcp
    · by_cases quic : looksLikeQuic udp
      · simp only [if_pos quic]
        exact .quic _
      · simp only [if_neg quic]
        exact .udp _
    · exact .icmp
    · exact .icmp

/-- What the sample of TCP segments makes of a packet. -/
inductive Inspected : Kind → Accumulator → Prop
  | skipped {kind : Kind} (other : kind ≠ .tcp) (srcIps dstIps : Finset (Vector UInt8 16)) :
    Inspected kind { acc with srcIps := srcIps, dstIps := dstIps }
  | sampled (srcIps dstIps : Finset (Vector UInt8 16)) {bad : Nat} (atMostOne : bad ≤ 1)
      {after : Accumulator}
    (tracked : TrackedFrom { acc with
      srcIps := srcIps, dstIps := dstIps, tcpSampled := acc.tcpSampled + 1
      tcpChecksumChecked := acc.tcpChecksumChecked + 1, tcpChecksumZero := acc.tcpChecksumZero +
        bad } after)
    (bounded : after.flows.keys.length ≤ maxTrackedFlows) : Inspected .tcp after

theorem inspectPacket_inspected (bounded : acc.flows.keys.length ≤ maxTrackedFlows)
    (slicer : LaxSlicer) (captured : Bytes) (frameComplete : Bool) :
    acc.Inspected (kindOf slicer captured) (acc.inspectPacket slicer captured frameComplete) := by
  have skips (kind : Kind) (other : kind ≠ .tcp) (srcIps dstIps : Finset (Vector UInt8 16)) :
      acc.Inspected kind { acc with srcIps := srcIps, dstIps := dstIps } :=
        .skipped other srcIps dstIps
  rw [kindOf, inspectPacket]
  rcases slicer captured with - | ⟨- | net, transport⟩
  · exact skips .other (by decide) _ _
  · exact skips .other (by decide) _ _
  · rcases transport with - | tcp | udp | - | -
    · exact skips .other (by decide) _ _
    · have sampled : ((acc.noteAddresses net).sampleTcp net tcp frameComplete).flows.keys.length ≤
          maxTrackedFlows :=
        bounded
      obtain ⟨tracked, room⟩ := trackFlow_tracked _ sampled net tcp
      exact .sampled _ _ (by split <;> omega) tracked room
    · exact skips .udp (by decide) _ _
    · exact skips .icmp (by decide) _ _
    · exact skips .icmp (by decide) _ _

end Passes

/-- The counters agree with each other. -/
structure Consistent (acc : Accumulator) : Prop where
  oversize : acc.oversizeCount ≤ acc.packetCount
  packets : acc.tcpPackets + acc.udpPackets + acc.icmpPackets + acc.otherPackets = acc.packetCount
  quicPackets : acc.quicCandidatePackets ≤ acc.udpPackets
  quicBytes : acc.quicCandidateBytes ≤ acc.udpBytes
  bytes : acc.tcpBytes + acc.udpBytes ≤ acc.byteCount
  checked : acc.tcpSampled = acc.tcpChecksumChecked
  sampled : acc.tcpSampled ≤ acc.tcpPackets
  capped : acc.tcpSampled ≤ maxTcpSamplePackets
  zero : acc.tcpChecksumZero ≤ acc.tcpChecksumChecked
  anomalies : acc.anomalies ≤ acc.tcpSampled
  flows : acc.flows.keys.length ≤ maxTrackedFlows

theorem new_consistent (snaplen : UInt32) (linkType : String) :
    (new snaplen linkType).Consistent := by
  constructor <;> simp [new, anomalies]

/-- The first pass keeps the counters in agreement, and leaves room to sample a TCP packet. -/
theorem Classified.consistent {acc after : Accumulator} {kind : Kind} {packet : CapturedPacket}
    (classified : (acc.countFrame packet).Classified packet.origLen.toNat kind after)
    (consistent : acc.Consistent) :
    after.Consistent ∧ (kind = .tcp → after.tcpSampled < after.tcpPackets) := by
  obtain ⟨oversize, packets, quicPackets, quicBytes, bytes, checked, sampled, capped, zero,
      anomalies, flows⟩ := consistent
  have once : (if oversizeThreshold defaultLinkMtu < packet.origLen.toNat then 1 else 0) ≤ 1 := by
    split <;> decide
  cases classified with
  | tcp =>
    refine ⟨⟨?_, ?_, quicPackets, quicBytes, ?_, checked, ?_, capped, zero, anomalies, flows⟩,
      fun _ => Nat.lt_succ_of_le sampled⟩
    all_goals simp only [countFrame]; omega
  | udp udpFlows =>
    refine ⟨⟨?_, ?_, ?_, ?_, ?_, checked, sampled, capped, zero, anomalies, flows⟩, nofun⟩
    all_goals simp only [countFrame]; omega
  | quic udpFlows =>
    refine ⟨⟨?_, ?_, ?_, ?_, ?_, checked, sampled, capped, zero, anomalies, flows⟩, nofun⟩
    all_goals simp only [countFrame]; omega
  | icmp =>
    refine ⟨⟨?_, ?_, quicPackets, quicBytes, ?_, checked, sampled, capped, zero, anomalies, flows⟩,
      nofun⟩
    all_goals simp only [countFrame]; omega
  | other =>
    refine ⟨⟨?_, ?_, quicPackets, quicBytes, ?_, checked, sampled, capped, zero, anomalies, flows⟩,
      nofun⟩
    all_goals simp only [countFrame]; omega

/-- The second pass samples only what the first counted. -/
theorem Inspected.consistent {acc after : Accumulator} {kind : Kind}
    (inspected : acc.Inspected kind after) (consistent : acc.Consistent)
    (counted : kind = .tcp → acc.tcpSampled < acc.tcpPackets)
    (below : acc.tcpSampled < maxTcpSamplePackets) : after.Consistent := by
  obtain ⟨oversize, packets, quicPackets, quicBytes, bytes, checked, sampled, capped, zero,
      anomalies, flows⟩ := consistent
  cases inspected with
  | skipped other srcIps dstIps =>
    exact ⟨oversize, packets, quicPackets, quicBytes, bytes, checked, sampled, capped, zero,
      anomalies, flows⟩
  | sampled srcIps dstIps atMostOne tracked bounded =>
    have ahead := counted rfl
    obtain ⟨⟨retransmissions, outOfOrder, duplicateAcks, flows', rfl⟩, once⟩ := tracked
    refine ⟨oversize, packets, quicPackets, quicBytes, bytes, congrArg (· + 1) checked, ahead,
      below, ?_, ?_, bounded⟩
    · exact Nat.add_le_add zero atMostOne
    · exact Nat.le_trans once (Nat.succ_le_succ anomalies)

theorem observe_consistent {acc : Accumulator} (consistent : acc.Consistent) (slicer : LaxSlicer)
    (packet : CapturedPacket) : (acc.observe slicer packet).Consistent := by
  have classified :=
    (acc.countFrame packet).classifyProtocol_classified slicer packet.captured packet.origLen.toNat
  obtain ⟨tallied, counted⟩ := classified.consistent consistent
  simp only [observe]
  split
  case isTrue => exact tallied
  case isFalse sampling =>
    have inspected := inspectPacket_inspected _ tallied.flows slicer packet.captured
      (packet.captured.length == packet.origLen.toNat)
    exact inspected.consistent tallied counted (Nat.lt_of_not_le sampling)

theorem foldl_observe_consistent {acc : Accumulator} (consistent : acc.Consistent)
    (slicer : LaxSlicer) (packets : List CapturedPacket) :
    (packets.foldl (observe slicer) acc).Consistent := by
  induction packets generalizing acc with
  | nil => exact consistent
  | cons packet rest ih => exact ih (observe_consistent consistent slicer packet)

theorem Classified.totals {acc after : Accumulator} {kind : Kind} {origLen : Nat}
    (classified : acc.Classified origLen kind after) :
    after.packetCount = acc.packetCount ∧ after.byteCount = acc.byteCount := by
  cases classified <;> exact ⟨rfl, rfl⟩

theorem Inspected.totals {acc after : Accumulator} {kind : Kind}
    (inspected : acc.Inspected kind after) :
    after.packetCount = acc.packetCount ∧ after.byteCount = acc.byteCount := by
  cases inspected with
  | skipped other srcIps dstIps => exact ⟨rfl, rfl⟩
  | sampled srcIps dstIps atMostOne tracked bounded =>
    obtain ⟨⟨retransmissions, outOfOrder, duplicateAcks, flows, rfl⟩, -⟩ := tracked
    exact ⟨rfl, rfl⟩

theorem observe_totals (slicer : LaxSlicer) {acc : Accumulator} (consistent : acc.Consistent)
    (packet : CapturedPacket) :
    (acc.observe slicer packet).packetCount = acc.packetCount + 1 ∧
      (acc.observe slicer packet).byteCount = acc.byteCount + packet.origLen.toNat := by
  have classified :=
    (acc.countFrame packet).classifyProtocol_classified slicer packet.captured packet.origLen.toNat
  have room := (classified.consistent consistent).1.flows
  simp only [observe]
  split
  case isTrue => exact classified.totals
  case isFalse =>
    obtain ⟨packets, bytes⟩ := (inspectPacket_inspected _ room slicer packet.captured
      (packet.captured.length == packet.origLen.toNat)).totals
    rw [packets, bytes]
    exact classified.totals

theorem Consistent.counters_le {acc : Accumulator} (consistent : acc.Consistent) :
    ∀ counter ∈ acc.counters, counter ≤ max acc.packetCount acc.byteCount := by
  obtain ⟨oversize, packets, quicPackets, quicBytes, bytes, checked, sampled, capped, zero, once,
    flows⟩ := consistent
  rw [Accumulator.anomalies] at once
  simp only [counters, List.forall_mem_cons, le_max_iff]
  refine ⟨?_, ?_, ?_, ?_, ?_, ?_, ?_, ?_, ?_, ?_, ?_, ?_, ?_, ?_, ?_, ?_, ?_, by simp⟩
  all_goals omega

theorem wrap_of_fits {acc : Accumulator} (fits : ∀ counter ∈ acc.counters, counter < 2 ^ 64) :
    acc.wrap = acc := by
  simp only [counters, List.forall_mem_cons] at fits
  simp only [wrap, fits, Nat.mod_eq_of_lt]

/-- A step that leaves no counter out of range is the same with and without overflow checks. -/
theorem observeU64_fits (overflowChecks : Bool) {slicer : LaxSlicer} {acc : Accumulator}
    {packet : CapturedPacket}
    (fits : ∀ counter ∈ (acc.observe slicer packet).counters, counter < 2 ^ 64) :
    acc.observeU64 overflowChecks slicer packet = some (acc.observe slicer packet) := by
  rw [observeU64, if_neg, wrap_of_fits fits]
  rintro ⟨-, counter, member, beyond⟩
  exact absurd (fits counter member) (Nat.not_lt.mpr beyond)

/-- Capture sizes that no counter outgrows. -/
def Fits (acc : Accumulator) (packets : List CapturedPacket) : Prop :=
  acc.packetCount + packets.length < 2 ^ 64 ∧
    acc.byteCount + (packets.map (·.origLen.toNat)).sum < 2 ^ 64

theorem observe_counters_fit_iff {acc : Accumulator} (consistent : acc.Consistent)
    (slicer : LaxSlicer) (packet : CapturedPacket) :
    (∀ counter ∈ (acc.observe slicer packet).counters, counter < 2 ^ 64) ↔ acc.Fits [packet] := by
  obtain ⟨packets, bytes⟩ := observe_totals slicer consistent packet
  have sums : acc.Fits [packet] ↔ (acc.observe slicer packet).packetCount < 2 ^ 64 ∧
      (acc.observe slicer packet).byteCount < 2 ^ 64 := by
    rw [packets, bytes, Fits, List.map_singleton, List.sum_singleton, List.length_singleton]
  rw [sums]
  constructor
  · intro fits
    exact ⟨fits _ (by simp [counters]), fits _ (by simp [counters])⟩
  · intro ⟨few, short⟩ counter member
    have bounded := (observe_consistent consistent slicer packet).counters_le counter member
    omega

theorem fits_cons_iff {acc : Accumulator} (consistent : acc.Consistent) (slicer : LaxSlicer)
    (packet : CapturedPacket) (rest : List CapturedPacket) :
    acc.Fits (packet :: rest) ↔ acc.Fits [packet] ∧ (acc.observe slicer packet).Fits rest := by
  obtain ⟨packets, bytes⟩ := observe_totals slicer consistent packet
  simp only [Fits, packets, bytes, List.length_cons, List.map_cons, List.sum_cons, List.length_nil,
    List.map_nil, List.sum_nil]
  omega

/-- While the sizes fit, the counters run as numbers without a bound do. -/
theorem observeAll_fits (overflowChecks : Bool) (slicer : LaxSlicer) {acc : Accumulator}
    (consistent : acc.Consistent) {packets : List CapturedPacket} (fits : acc.Fits packets) :
    acc.observeAll overflowChecks slicer packets = some (packets.foldl (observe slicer) acc) := by
  induction packets generalizing acc with
  | nil => rfl
  | cons packet rest ih =>
    obtain ⟨here, later⟩ := (fits_cons_iff consistent slicer packet rest).mp fits
    have step := observeU64_fits overflowChecks
      ((observe_counters_fit_iff consistent slicer packet).mpr here)
    rw [observeAll, List.foldlM_cons, step]
    exact ih (observe_consistent consistent slicer packet) later

/-- With overflow checks, sizes that do not fit end in a panic. -/
theorem observeAll_overflows (slicer : LaxSlicer) {acc : Accumulator} (consistent : acc.Consistent)
    (start : acc.Fits []) {packets : List CapturedPacket} (beyond : ¬ acc.Fits packets) :
    acc.observeAll true slicer packets = none := by
  induction packets generalizing acc with
  | nil => exact absurd start beyond
  | cons packet rest ih =>
    rw [fits_cons_iff consistent slicer packet rest, not_and] at beyond
    have inRange := observe_counters_fit_iff consistent slicer packet
    rw [observeAll, List.foldlM_cons]
    by_cases here : acc.Fits [packet]
    · obtain ⟨packets, bytes⟩ := observe_totals slicer consistent packet
      have next : (acc.observe slicer packet).Fits [] := by
        simpa [Fits, packets, bytes] using here
      rw [observeU64_fits true (inRange.mpr here)]
      exact ih (observe_consistent consistent slicer packet) next (beyond here)
    · have out : ∃ counter ∈ (acc.observe slicer packet).counters, 2 ^ 64 ≤ counter := by
        simpa using mt inRange.mp here
      rw [observeU64, if_pos ⟨rfl, out⟩]
      rfl

end Accumulator

/-- The counters of a capture agree with each other. -/
structure TalliesAgree (acc : Accumulator) : Prop where
  packets : acc.tcpPackets + acc.udpPackets + acc.icmpPackets + acc.otherPackets = acc.packetCount
  quicPackets : acc.quicCandidatePackets ≤ acc.udpPackets
  quicBytes : acc.quicCandidateBytes ≤ acc.udpBytes
  bytes : acc.tcpBytes + acc.udpBytes ≤ acc.byteCount
  checked : acc.tcpSampled = acc.tcpChecksumChecked
  sampled : acc.tcpChecksumChecked ≤ min acc.tcpPackets 2000000
  zero : acc.tcpChecksumZero ≤ acc.tcpChecksumChecked
  anomalies : acc.retransmissions + acc.outOfOrder ≤ acc.tcpSampled
  flows : acc.flows.keys.length ≤ 200000

theorem Accumulator.Consistent.talliesAgree {acc : Accumulator} (consistent : acc.Consistent) :
    TalliesAgree acc where
  packets := consistent.packets
  quicPackets := consistent.quicPackets
  quicBytes := consistent.quicBytes
  bytes := consistent.bytes
  checked := consistent.checked
  sampled := consistent.checked ▸ Nat.le_min.mpr ⟨consistent.sampled, consistent.capped⟩
  zero := consistent.zero
  anomalies := Nat.le_trans (Nat.le_add_right _ acc.duplicateAcks) consistent.anomalies
  flows := consistent.flows

/-- The counters of a capture agree after any packets whose number and whose original lengths
together stay within 64 bits; beyond that, a build with overflow checks panics. -/
theorem tallies_consistent (overflowChecks : Bool) (slicer : LaxSlicer) (snaplen : UInt32)
    (linkType : String) (packets : List CapturedPacket) :
    let run := (Accumulator.new snaplen linkType).observeAll overflowChecks slicer packets
    let fits := packets.length < 2 ^ 64 ∧ (packets.map (·.origLen.toNat)).sum < 2 ^ 64
    (fits → ∃ acc, run = some acc ∧ TalliesAgree acc) ∧
      (¬ fits → overflowChecks = true → run = none) := by
  have start := Accumulator.new_consistent snaplen linkType
  have sizes : (Accumulator.new snaplen linkType).Fits packets ↔
      packets.length < 2 ^ 64 ∧ (packets.map (·.origLen.toNat)).sum < 2 ^ 64 := by
    simp [Accumulator.Fits, Accumulator.new]
  constructor
  · intro fits
    have ended := Accumulator.foldl_observe_consistent start slicer packets
    exact ⟨_, Accumulator.observeAll_fits overflowChecks slicer start (sizes.mpr fits),
      ended.talliesAgree⟩
  · rintro beyond rfl
    exact Accumulator.observeAll_overflows slicer start
      (by simp [Accumulator.Fits, Accumulator.new])
      (mt sizes.mp beyond)

/-- An empty UDP datagram from 10.0.0.5 to 10.0.0.6 in an Ethernet frame. -/
def datagramFrame : Bytes :=
  [2, 0, 0, 0, 0, 2, 2, 0, 0, 0, 0, 1, 8, 0] ++
    [0x45, 0, 0, 28, 0, 0, 0x40, 0, 64, 17, 0, 0, 10, 0, 0, 7, 10, 0, 0, 8] ++
    [0x9c, 0x40, 0x01, 0xbb, 0, 8, 0, 0]

/-- The slicer on that frame and on an empty capture. -/
def datagramSlicer : LaxSlicer := fun frame =>
  if frame = datagramFrame then
    some ⟨some (.ipv4 ⟨#[10, 0, 0, 7], rfl⟩ ⟨#[10, 0, 0, 8], rfl⟩), some (.udp ⟨40000, 443, []⟩)⟩
  else none

theorem tallies_consistent_datagrams : ∃ acc,
    (Accumulator.new 65535 "ETHERNET").observeAll true datagramSlicer
      [⟨42, datagramFrame, some 5⟩, ⟨1400, [], none⟩, ⟨42, datagramFrame, some 9⟩] = some acc ∧
      TalliesAgree acc :=
  (tallies_consistent true datagramSlicer 65535 "ETHERNET"
    [⟨42, datagramFrame, some 5⟩, ⟨1400, [], none⟩, ⟨42, datagramFrame, some 9⟩]).1 (by decide)

/-- A length of 2^64 - 1 and one more byte: with overflow checks the sum panics, and without
it starts again at zero, below the bytes of the datagram. -/
theorem byte_count_overflows :
    (Accumulator.new 65535 "ETHERNET").observeAll true datagramSlicer
        [⟨0xFFFFFFFFFFFFFFFF, datagramFrame, none⟩, ⟨1, [], none⟩] = none ∧
      ∃ acc, (Accumulator.new 65535 "ETHERNET").observeAll false datagramSlicer
          [⟨0xFFFFFFFFFFFFFFFF, datagramFrame, none⟩, ⟨1, [], none⟩] = some acc ∧
        acc.byteCount = 0 ∧ acc.udpBytes = 2 ^ 64 - 1 ∧ ¬ TalliesAgree acc := by
  constructor
  · have beyond : ((Accumulator.new 65535 "ETHERNET").observeAll true datagramSlicer
        [⟨0xFFFFFFFFFFFFFFFF, datagramFrame, none⟩, ⟨1, [], none⟩]).isNone = true := by
      decide +kernel
    exact Option.isNone_iff_eq_none.mp beyond
  · have bytes : ((Accumulator.new 65535 "ETHERNET").observeAll false datagramSlicer
        [⟨0xFFFFFFFFFFFFFFFF, datagramFrame, none⟩, ⟨1, [], none⟩]).map
          (fun acc => (acc.byteCount, acc.udpBytes)) = some (0, 2 ^ 64 - 1) := by
      decide +kernel
    obtain ⟨acc, ended, counts⟩ := Option.map_eq_some_iff.mp bytes
    obtain ⟨byteCount, udpBytes⟩ := Prod.mk.inj counts
    refine ⟨acc, ended, byteCount, udpBytes, fun agree => ?_⟩
    have within := agree.bytes
    omega

end FragglePacket.NetworkTests
