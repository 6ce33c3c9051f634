import Mathlib.Data.List.Forall2
import FragglePacket.NetworkTests.PcapReport

/-! How the capture analysis follows the sequence numbers of one direction of a flow. -/

namespace FragglePacket.NetworkTests

open FragglePacket.Wire

namespace Accumulator

/-- What the count of a data segment leaves as it is. -/
theorem trackData_keeps (acc : Accumulator) (maxSeqEnd : Option Nat) (seq payloadLen : Nat) :
    (acc.trackData maxSeqEnd seq payloadLen).outOfOrder = acc.outOfOrder ∧
      (acc.trackData maxSeqEnd seq payloadLen).tcpSampled = acc.tcpSampled ∧
      (acc.trackData maxSeqEnd seq payloadLen).flows = acc.flows := by
  cases maxSeqEnd with
  | none => exact ⟨rfl, rfl, rfl⟩
  | some prevMax =>
    simp only [trackData]
    by_cases repeated : seq + max payloadLen 1 ≤ prevMax
    · rw [if_pos repeated]
      exact ⟨rfl, rfl, rfl⟩
    · -- what ends behind the maximum does not begin more than its length before it
      have near : ¬ seq < prevMax - payloadLen := by omega
      rw [if_neg repeated, if_neg near]
      exact ⟨rfl, rfl, rfl⟩

theorem trackAck_keeps (acc : Accumulator) (side : FlowSide) (ack : UInt32) :
    (acc.trackAck side ack).1.outOfOrder = acc.outOfOrder ∧
      (acc.trackAck side ack).1.tcpSampled = acc.tcpSampled ∧
      (acc.trackAck side ack).1.flows = acc.flows ∧
      (acc.trackAck side ack).1.retransmissions = acc.retransmissions ∧
      (acc.trackAck side ack).2.maxSeqEnd = side.maxSeqEnd := by
  simp only [trackAck]
  split
  · split <;> exact ⟨rfl, rfl, rfl, rfl, rfl⟩
  · exact ⟨rfl, rfl, rfl, rfl, rfl⟩

theorem trackSide_outOfOrder (acc : Accumulator) (side : FlowSide) (tcp : TcpSlice) :
    (acc.trackSide side tcp).1.outOfOrder = acc.outOfOrder := by
  simp only [trackSide]
  split
  · exact (acc.trackData_keeps _ _ _).1
  · split
    · exact (acc.trackAck_keeps side _).1
    · rfl

theorem trackFlow_outOfOrder (acc : Accumulator) (net : LaxNetSlice) (tcp : TcpSlice) :
    (acc.trackFlow net tcp).outOfOrder = acc.outOfOrder := by
  simp only [trackFlow]
  split
  · split
    · exact acc.trackSide_outOfOrder _ tcp
    · exact acc.trackSide_outOfOrder _ tcp
  · rfl

theorem inspectPacket_outOfOrder (slicer : LaxSlicer) (acc : Accumulator) (captured : Bytes)
    (frameComplete : Bool) :
    (acc.inspectPacket slicer captured frameComplete).outOfOrder = acc.outOfOrder := by
  simp only [inspectPacket]
  split
  · rfl
  · split
    · rfl
    · split
      · exact trackFlow_outOfOrder _ _ _
      · rfl

/-- What the tally of protocols leaves as it is. -/
theorem classifyProtocol_keeps (slicer : LaxSlicer) (acc : Accumulator) (captured : Bytes)
    (origLen : Nat) :
    (acc.classifyProtocol slicer captured origLen).outOfOrder = acc.outOfOrder ∧
      (acc.classifyProtocol slicer captured origLen).retransmissions = acc.retransmissions ∧
      (acc.classifyProtocol slicer captured origLen).tcpSampled = acc.tcpSampled ∧
      (acc.classifyProtocol slicer captured origLen).flows = acc.flows := by
  simp only [classifyProtocol]
  split
  · exact ⟨rfl, rfl, rfl, rfl⟩
  · split
    · exact ⟨rfl, rfl, rfl, rfl⟩
    · split
      · exact ⟨rfl, rfl, rfl, rfl⟩
      · split <;> exact ⟨rfl, rfl, rfl, rfl⟩
      · exact ⟨rfl, rfl, rfl, rfl⟩
      · exact ⟨rfl, rfl, rfl, rfl⟩
      · exact ⟨rfl, rfl, rfl, rfl⟩

theorem observe_outOfOrder (slicer : LaxSlicer) (acc : Accumulator) (packet : CapturedPacket) :
    (acc.observe slicer packet).outOfOrder = acc.outOfOrder := by
  have tallied :=
    (classifyProtocol_keeps slicer (acc.countFrame packet) packet.captured packet.origLen.toNat).1
  simp only [observe]
  split
  · exact tallied
  · rw [inspectPacket_outOfOrder, tallied]
    rfl

/-- No packet is ever counted as out of order. -/
theorem foldl_observe_outOfOrder (slicer : LaxSlicer) (acc : Accumulator)
    (packets : List CapturedPacket) :
    (packets.foldl (observe slicer) acc).outOfOrder = acc.outOfOrder := by
  induction packets generalizing acc with
  | nil => rfl
  | cons packet rest ih => rw [List.foldl_cons, ih, observe_outOfOrder]

end Accumulator

/-- One direction of a flow. -/
structure Direction where
  source : Vector UInt8 16
  sourcePort : UInt16
  destination : Vector UInt8 16
  destinationPort : UInt16

def Direction.flowId (dir : Direction) : FlowId :=
  (FlowKey.normalized dir.source dir.sourcePort dir.destination dir.destinationPort).id

def Direction.aSide (dir : Direction) : Bool :=
  endpointLe dir.source dir.sourcePort dir.destination dir.destinationPort

/-- The packet is a TCP segment of the direction, with a sequence number and a number of
payload bytes. -/
def Carries (slicer : LaxSlicer) (dir : Direction) (packet : CapturedPacket)
    (segment : UInt32 × Nat) : Prop :=
  ∃ net tcp, slicer packet.captured = some ⟨some net, some (.tcp tcp)⟩ ∧
    net.endpoints = (dir.source, dir.destination) ∧ tcp.sourcePort = dir.sourcePort ∧
    tcp.destinationPort = dir.destinationPort ∧ tcp.sequenceNumber = segment.1 ∧
      tcp.payload.length = segment.2

/-- What the analysis knows of the sequence numbers of one direction. -/
@[ext] structure SeqTracker where
  sampled : Nat
  maxEnd : Option Nat
  retransmissions : Nat

/-- The segment ends at or before the highest end. -/
def Repeats (maxEnd : Option Nat) (segmentEnd : Nat) : Prop :=
  ∃ prevMax ∈ maxEnd, segmentEnd ≤ prevMax

instance (maxEnd : Option Nat) (segmentEnd : Nat) : Decidable (Repeats maxEnd segmentEnd) :=
  match maxEnd with
  | none => .isFalse (by simp [Repeats])
  | some prevMax => decidable_of_iff (segmentEnd ≤ prevMax) (by simp [Repeats])

/-- What a segment makes of the counter of retransmissions and of the highest end. -/
def SeqTracker.count (tracker : SeqTracker) (segment : UInt32 × Nat) : Nat × Option Nat :=
  if 0 < segment.2 then
    (tracker.retransmissions + if Repeats tracker.maxEnd
      (segment.1.toNat + segment.2) then 1 else 0,
      some (max (tracker.maxEnd.getD 0) (segment.1.toNat + segment.2)))
  else (tracker.retransmissions, tracker.maxEnd)

def SeqTracker.step (tracker : SeqTracker) (segment : UInt32 × Nat) : SeqTracker :=
  if maxTcpSamplePackets ≤ tracker.sampled then tracker
  else
    let (retransmissions, maxEnd) := tracker.count segment
    ⟨tracker.sampled + 1, maxEnd, retransmissions⟩

section Track
variable {slicer : LaxSlicer} {dir : Direction}

def Accumulator.side (acc : Accumulator) (dir : Direction) : FlowSide :=
  if dir.aSide then (acc.flowState dir.flowId).a else (acc.flowState dir.flowId).b

def Accumulator.tracker (acc : Accumulator) (dir : Direction) : SeqTracker :=
  ⟨acc.tcpSampled, (acc.side dir).maxSeqEnd, acc.retransmissions⟩

/-- There is room for the flow: nothing is tracked yet, or it is. -/
def Accumulator.Tracks (acc : Accumulator) (dir : Direction) : Prop :=
  acc.flows.keys.length < maxTrackedFlows ∨ dir.flowId ∈ acc.flows

theorem trackData_retransmissions (acc : Accumulator) (maxSeqEnd : Option Nat) (seq : Nat)
    {payloadLen : Nat} (data : 0 < payloadLen) :
    (acc.trackData maxSeqEnd seq payloadLen).retransmissions =
      acc.retransmissions + if Repeats maxSeqEnd (seq + payloadLen) then 1 else 0 := by
  have size : max payloadLen 1 = payloadLen := Nat.max_eq_left data
  cases maxSeqEnd with
  | none => simp [Accumulator.trackData, Repeats]
  | some prevMax =>
    have repeats : Repeats (some prevMax) (seq + payloadLen) ↔ seq + payloadLen ≤ prevMax := by
      simp [Repeats]
    simp only [Accumulator.trackData, size, repeats]
    split
    · rfl
    · split <;> rfl

theorem trackSide_counts (acc : Accumulator) (side : FlowSide) (tcp : TcpSlice) (sampled : Nat) :
    (acc.trackSide side tcp).1.tcpSampled = acc.tcpSampled ∧
      (acc.trackSide side tcp).1.flows = acc.flows ∧
      ((acc.trackSide side tcp).1.retransmissions, (acc.trackSide side tcp).2.maxSeqEnd) =
        SeqTracker.count ⟨sampled, side.maxSeqEnd, acc.retransmissions⟩
          (tcp.sequenceNumber, tcp.payload.length) := by
  simp only [Accumulator.trackSide, SeqTracker.count]
  by_cases data : 0 < tcp.payload.length
  · obtain ⟨-, sampledKept, flowsKept⟩ :=
      acc.trackData_keeps side.maxSeqEnd tcp.sequenceNumber.toNat tcp.payload.length
    have size : max tcp.payload.length 1 = tcp.payload.length := Nat.max_eq_left data
    rw [if_pos data, if_pos data, trackData_retransmissions acc side.maxSeqEnd _ data, size]
    exact ⟨sampledKept, flowsKept, rfl⟩
  · rw [if_neg data, if_neg data]
    split
    · obtain ⟨-, sampledKept, flowsKept, counted, maxKept⟩ :=
        acc.trackAck_keeps side tcp.acknowledgmentNumber
      rw [counted, maxKept]
      exact ⟨sampledKept, flowsKept, rfl⟩
    · exact ⟨rfl, rfl, rfl⟩

@[simp] theorem setFlow_side (acc : Accumulator) (dir : Direction) (state : FlowState) :
    (acc.setFlow dir.flowId state).side dir = if dir.aSide then state.a else state.b := by
  simp [Accumulator.side, Accumulator.flowState, Accumulator.setFlow]

theorem setFlow_tracks (acc : Accumulator) (dir : Direction) (state : FlowState) :
    (acc.setFlow dir.flowId state).Tracks dir := by
  right
  simp [Accumulator.setFlow]

/-- A segment of the direction does to a tracked flow what the tracker says. -/
theorem trackFlow_counts {acc : Accumulator} (tracked : acc.Tracks dir) {net : LaxNetSlice}
    {tcp : TcpSlice}
    (flow : flowOf net tcp.sourcePort tcp.destinationPort = (dir.flowId, dir.aSide)) :
    (acc.trackFlow net tcp).Tracks dir ∧ (acc.trackFlow net tcp).tcpSampled = acc.tcpSampled ∧
      ((acc.trackFlow net tcp).retransmissions, ((acc.trackFlow net tcp).side dir).maxSeqEnd) =
        (acc.tracker dir).count (tcp.sequenceNumber, tcp.payload.length) := by
  have room : acc.flows.keys.length < maxTrackedFlows ∨ dir.flowId ∈ acc.flows := tracked
  simp only [Accumulator.trackFlow, flow, if_pos room]
  by_cases fromA : dir.aSide
  · have side : acc.side dir = (acc.flowState dir.flowId).a := if_pos fromA
    obtain ⟨sampledKept, _, counted⟩ := trackSide_counts acc (acc.side dir) tcp acc.tcpSampled
    rw [if_pos fromA, ← side, setFlow_side, if_pos fromA]
    exact ⟨setFlow_tracks _ dir _, sampledKept, counted⟩
  · have side : acc.side dir = (acc.flowState dir.flowId).b := if_neg fromA
    obtain ⟨sampledKept, _, counted⟩ := trackSide_counts acc (acc.side dir) tcp acc.tcpSampled
    rw [if_neg fromA, ← side, setFlow_side, if_neg fromA]
    exact ⟨setFlow_tracks _ dir _, sampledKept, counted⟩

/-- One observed segment is one step of the tracker. -/
theorem observe_tracker {acc : Accumulator} (tracked : acc.Tracks dir) {packet : CapturedPacket}
    {segment : UInt32 × Nat} (carries : Carries slicer dir packet segment) :
    (acc.observe slicer packet).Tracks dir ∧
      (acc.observe slicer packet).tracker dir = (acc.tracker dir).step segment := by
  obtain ⟨seq, size⟩ := segment
  obtain ⟨net, tcp, sliced, addresses, sourcePort, destinationPort, rfl, rfl⟩ := carries
  obtain ⟨_, retransmissionsKept, sampledKept, flowsKept⟩ :=
    Accumulator.classifyProtocol_keeps slicer
      (acc.countFrame packet) packet.captured packet.origLen.toNat
  rw [Accumulator.observe]
  generalize (acc.countFrame packet).classifyProtocol slicer packet.captured packet.origLen.toNat =
    tally
    at retransmissionsKept sampledKept flowsKept
  have sameTracker : tally.tracker dir = acc.tracker dir := by
    simp only [Accumulator.tracker, Accumulator.side, Accumulator.flowState, retransmissionsKept,
      sampledKept, flowsKept]
    rfl
  have stillTracked : tally.Tracks dir := by
    rw [Accumulator.Tracks, flowsKept]
    exact tracked
  rw [← sameTracker, SeqTracker.step]
  by_cases full : maxTcpSamplePackets ≤ tally.tcpSampled
  · have alsoFull : maxTcpSamplePackets ≤ (tally.tracker dir).sampled := full
    rw [if_pos alsoFull]
    simp only [if_pos full]
    exact ⟨stillTracked, trivial⟩
  · have notFull : ¬ maxTcpSamplePackets ≤ (tally.tracker dir).sampled := full
    have flow : flowOf net tcp.sourcePort tcp.destinationPort = (dir.flowId, dir.aSide) := by
      rw [flowOf, addresses, sourcePort, destinationPort]
      rfl
    rw [if_neg notFull]
    simp only [if_neg full, Accumulator.inspectPacket, sliced]
    generalize frameComplete : (packet.captured.length == packet.origLen.toNat) = complete
    have sampled : ((tally.noteAddresses net).sampleTcp net tcp complete).Tracks dir := stillTracked
    obtain ⟨nowTracked, sampledOnce, counted⟩ := trackFlow_counts sampled flow
    have same : (((tally.noteAddresses net).sampleTcp net tcp complete).tracker dir).count
        (tcp.sequenceNumber, tcp.payload.length) =
          (tally.tracker dir).count (tcp.sequenceNumber, tcp.payload.length) := rfl
    rw [same] at counted
    rw [← counted]
    exact ⟨nowTracked, SeqTracker.ext sampledOnce rfl rfl⟩

/-- A whole run over segments of the direction is a run of the tracker. -/
theorem foldl_observe_tracker {acc : Accumulator} (tracked : acc.Tracks dir)
    {packets : List CapturedPacket} {segments : List (UInt32 × Nat)}
    (carried : List.Forall₂ (Carries slicer dir) packets segments) :
    (packets.foldl (Accumulator.observe slicer) acc).tracker dir =
      segments.foldl SeqTracker.step (acc.tracker dir) := by
  induction carried generalizing acc with
  | nil => rfl
  | cons carries _ ih =>
    obtain ⟨nowTracked, stepped⟩ := observe_tracker tracked carries
    rw [List.foldl_cons, List.foldl_cons, ih nowTracked, stepped]

theorem new_tracks (snaplen : UInt32) (linkType : String) (dir : Direction) :
    (Accumulator.new snaplen linkType).Tracks dir :=
  .inl (show 0 < maxTrackedFlows by decide)

theorem new_tracker (snaplen : UInt32) (linkType : String) (dir : Direction) :
    (Accumulator.new snaplen linkType).tracker dir = ⟨0, none, 0⟩ := by
  simp [Accumulator.tracker, Accumulator.side, Accumulator.flowState, Accumulator.new,
    FlowState.default, FlowSide.default]

end Track

/-- Where the data segments end, counted on from their 32-bit numbers. -/
def dataEnds (segments : List (UInt32 × Nat)) : List Nat :=
  (segments.filter fun segment => 0 < segment.2).map fun segment => segment.1.toNat + segment.2

@[simp] theorem dataEnds_nil : dataEnds [] = [] := rfl

theorem dataEnds_cons_data {segment : UInt32 × Nat} (data : 0 < segment.2)
    (rest : List (UInt32 × Nat)) :
    dataEnds (segment :: rest) = (segment.1.toNat + segment.2) :: dataEnds rest := by
  simp [dataEnds, data]

theorem dataEnds_cons_empty {segment : UInt32 × Nat} (empty : ¬ 0 < segment.2)
    (rest : List (UInt32 × Nat)) :
    dataEnds (segment :: rest) = dataEnds rest := by
  simp [dataEnds, empty]

namespace SeqTracker

theorem step_full {tracker : SeqTracker} (full : maxTcpSamplePackets ≤ tracker.sampled)
    (segment : UInt32 × Nat) :
    tracker.step segment = tracker := if_pos full

theorem step_data {tracker : SeqTracker} (sampling : ¬ maxTcpSamplePackets ≤ tracker.sampled)
    {segment : UInt32 × Nat} (data : 0 < segment.2) : tracker.step segment =
      ⟨tracker.sampled + 1, some (max (tracker.maxEnd.getD 0) (segment.1.toNat + segment.2)),
        tracker.retransmissions + if Repeats tracker.maxEnd (segment.1.toNat + segment.2) then 1
          else 0⟩ := by
  simp only [step, if_neg sampling, count, if_pos data]

theorem step_repeated {tracker : SeqTracker} (sampling : ¬ maxTcpSamplePackets ≤ tracker.sampled)
    {segment : UInt32 × Nat} (data : 0 < segment.2)
    (repeats : Repeats tracker.maxEnd (segment.1.toNat + segment.2)) :
    (tracker.step segment).retransmissions = tracker.retransmissions + 1 := by
  rw [step_data sampling data, if_pos repeats]

theorem step_fresh {tracker : SeqTracker} (sampling : ¬ maxTcpSamplePackets ≤ tracker.sampled)
    {segment : UInt32 × Nat} (data : 0 < segment.2)
    (fresh : ¬ Repeats tracker.maxEnd (segment.1.toNat + segment.2)) : tracker.step segment =
      ⟨tracker.sampled + 1, some (segment.1.toNat + segment.2), tracker.retransmissions⟩ := by
  have highest : max (tracker.maxEnd.getD 0) (segment.1.toNat + segment.2) =
      segment.1.toNat + segment.2 := by
    cases known : tracker.maxEnd with
    | none => simp
    | some prevMax =>
      apply Nat.max_eq_right
      by_contra behind
      exact fresh ⟨prevMax, known, Nat.le_of_not_le behind⟩
  rw [step_data sampling data, if_neg fresh, highest]
  rfl

theorem step_empty {tracker : SeqTracker} (sampling : ¬ maxTcpSamplePackets ≤ tracker.sampled)
    {segment : UInt32 × Nat} (empty : ¬ 0 < segment.2) :
    tracker.step segment = { tracker with sampled := tracker.sampled + 1 } := by
  simp only [step, if_neg sampling, count, if_neg empty]

theorem step_retransmissions_le (tracker : SeqTracker) (segment : UInt32 × Nat) :
    tracker.retransmissions ≤ (tracker.step segment).retransmissions := by
  by_cases full : maxTcpSamplePackets ≤ tracker.sampled
  · rw [step_full full]
  · by_cases data : 0 < segment.2
    · rw [step_data full data]
      exact Nat.le_add_right _ _
    · rw [step_empty full data]

theorem run_retransmissions_le (tracker : SeqTracker) (segments : List (UInt32 × Nat)) :
    tracker.retransmissions ≤ (segments.foldl step tracker).retransmissions := by
  induction segments generalizing tracker with
  | nil => exact Nat.le_refl _
  | cons segment rest ih => exact Nat.le_trans (tracker.step_retransmissions_le segment) (ih _)

theorem run_full {tracker : SeqTracker} (full : maxTcpSamplePackets ≤ tracker.sampled)
    (segments : List (UInt32 × Nat)) : segments.foldl step tracker = tracker := by
  induction segments with
  | nil => rfl
  | cons segment rest ih => rw [List.foldl_cons, step_full full, ih]

/-- Nothing is counted exactly when each data segment that is sampled ends behind all that
came before it. -/
theorem run_clean_iff (tracker : SeqTracker) (segments : List (UInt32 × Nat)) :
    (segments.foldl step tracker).retransmissions = tracker.retransmissions ↔
      List.IsChain (· < ·)
        (tracker.maxEnd.toList ++ dataEnds
          (segments.take (maxTcpSamplePackets - tracker.sampled))) := by
  induction segments generalizing tracker with
  | nil => cases tracker.maxEnd <;> simp
  | cons segment rest ih =>
    by_cases full : maxTcpSamplePackets ≤ tracker.sampled
    · rw [run_full full, Nat.sub_eq_zero_of_le full, List.take_zero]
      cases tracker.maxEnd <;> simp
    · have budget : maxTcpSamplePackets - tracker.sampled =
          maxTcpSamplePackets - (tracker.sampled + 1) + 1 := by
        omega
      rw [List.foldl_cons, budget, List.take_succ_cons]
      by_cases data : 0 < segment.2
      · rw [dataEnds_cons_data data]
        by_cases repeats : Repeats tracker.maxEnd (segment.1.toNat + segment.2)
        · have counted := run_retransmissions_le (tracker.step segment) rest
          rw [step_repeated full data repeats] at counted
          obtain ⟨prevMax, known, behind⟩ := repeats
          rw [Option.mem_def.mp known]
          constructor
          · intro same
            omega
          · intro chain
            exact absurd (List.isChain_cons_cons.mp chain).1 (Nat.not_lt.mpr behind)
        · rw [step_fresh full data repeats, ih]
          cases known : tracker.maxEnd with
          | none => rfl
          | some prevMax =>
            have ahead : prevMax < segment.1.toNat + segment.2 := by
              rw [← Nat.not_le]
              exact fun behind => repeats ⟨prevMax, known, behind⟩
            simp [ahead]
      · rw [step_empty full data, dataEnds_cons_empty data]
        exact ih { tracker with sampled := tracker.sampled + 1 }

end SeqTracker

end FragglePacket.NetworkTests
