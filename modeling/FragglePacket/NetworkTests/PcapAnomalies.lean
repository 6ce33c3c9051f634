import FragglePacket.NetworkTests.PcapSequence
import FragglePacket.Wire.Checksum

/-! Which streams the capture analysis counts anomalies in. -/

namespace FragglePacket.NetworkTests

open FragglePacket.Wire

/-- The segments of these lengths, each starting where the one before it ends, with
32-bit sequence numbers. -/
def stream (isn : UInt32) : List Nat → List (UInt32 × Nat)
  | [] => []
  | len :: rest => (isn, len) :: stream (isn + .ofNat len) rest

/-- Each data segment starts, counted on from the first, before the number wraps. -/
def StartsBeforeWrap (position : Nat) : List Nat → Prop
  | [] => True
  | len :: rest => (0 < len → position < 2 ^ 32) ∧ StartsBeforeWrap (position + len) rest

theorem stream_take (isn : UInt32) (lens : List Nat) (n : Nat) :
    (stream isn lens).take n = stream isn (lens.take n) := by
  induction n generalizing isn lens with
  | zero => rfl
  | succ n ih =>
    cases lens with
    | nil => rfl
    | cons len rest => simp only [stream, List.take_succ_cons, ih]

/-- The number at a position of the stream. -/
def seqAt (position : Nat) : UInt32 := .ofNat position

theorem seqAt_add (position len : Nat) : seqAt position + .ofNat len = seqAt (position + len) := by
  apply UInt32.toNat_inj.mp
  simp [seqAt]

theorem seqAt_toNat (position : Nat) : (seqAt position).toNat = position % 2 ^ 32 := by
  simp [seqAt]

/-- From a position on, behind data that ends there: no segment starts behind the wrap just
when each end is higher than the one before. -/
private theorem ends_from (lens : List Nat) (short : ∀ len ∈ lens, len < 2 ^ 32) (position : Nat)
    (maxEnd : Option Nat) (reached : maxEnd = some position ∨ (maxEnd = none ∧ position < 2 ^ 32)) :
    List.IsChain (· < ·) (maxEnd.toList ++ dataEnds (stream (seqAt position) lens)) ↔
      StartsBeforeWrap position lens := by
  induction lens generalizing position maxEnd with
  | nil => rcases reached with rfl | ⟨rfl, _⟩ <;> simp [stream, StartsBeforeWrap]
  | cons len rest ih =>
    have tail := ih (fun other member => short other (List.mem_cons_of_mem len member))
    rw [stream, seqAt_add, StartsBeforeWrap]
    by_cases data : 0 < len
    · rw [dataEnds_cons_data data, seqAt_toNat]
      by_cases early : position < 2 ^ 32
      · have next := tail (position + len) (some (position + len)) (.inl rfl)
        rw [Nat.mod_eq_of_lt early, ← next, and_iff_right fun _ => early]
        rcases reached with rfl | ⟨rfl, _⟩
        · exact ⟨fun chain => (List.isChain_cons_cons.mp chain).2,
            fun chain => List.isChain_cons_cons.mpr ⟨Nat.lt_add_of_pos_right data, chain⟩⟩
        · exact Iff.rfl
      · have known : maxEnd = some position := by
          rcases reached with known | ⟨_, below⟩
          · exact known
          · exact absurd below early
        have behind : ¬ position < position % 2 ^ 32 + len := by
          have small := short len List.mem_cons_self
          omega
        rw [known]
        exact ⟨fun chain => absurd (List.isChain_cons_cons.mp chain).1 behind,
          fun starts => absurd (starts.1 data) early⟩
    · have zero : len = 0 := by omega
      subst zero
      rw [dataEnds_cons_empty data]
      rw [and_iff_right fun some => absurd some data]
      exact tail position maxEnd reached

theorem ends_increase_iff (isn : UInt32) (lens : List Nat) (short : ∀ len ∈ lens, len < 2 ^ 32) :
    List.IsChain (· < ·) (dataEnds (stream isn lens)) ↔ StartsBeforeWrap isn.toNat lens := by
  have start : seqAt isn.toNat = isn := UInt32.ofNat_toNat
  have ends := ends_from lens short isn.toNat none (.inr ⟨rfl, isn.toNat_lt⟩)
  rwa [start] at ends

/-- The analysis of a fresh accumulator over some packets. -/
def analysed (slicer : LaxSlicer) (snaplen : UInt32) (linkType : String)
    (packets : List CapturedPacket) : Accumulator :=
  packets.foldl (Accumulator.observe slicer) (.new snaplen linkType)

theorem analysed_outOfOrder (slicer : LaxSlicer) (snaplen : UInt32) (linkType : String)
    (packets : List CapturedPacket) : (analysed slicer snaplen linkType packets).outOfOrder = 0 :=
  Accumulator.foldl_observe_outOfOrder slicer _ packets

section Analysed
variable {slicer : LaxSlicer} {dir : Direction} {packets : List CapturedPacket}
  {segments : List (UInt32 × Nat)}

theorem analysed_retransmissions (carried : List.Forall₂ (Carries slicer dir) packets segments)
    (snaplen : UInt32) (linkType : String) :
    (analysed slicer snaplen linkType packets).retransmissions =
      (segments.foldl SeqTracker.step ⟨0, none, 0⟩).retransmissions := by
  rw [← new_tracker snaplen linkType dir,
    ← foldl_observe_tracker (new_tracks snaplen linkType dir) carried]
  rfl

theorem analysed_clean_iff (carried : List.Forall₂ (Carries slicer dir) packets segments)
    (snaplen : UInt32) (linkType : String) :
    (analysed slicer snaplen linkType packets).retransmissions = 0 ↔
      List.IsChain (· < ·) (dataEnds (segments.take maxTcpSamplePackets)) := by
  rw [analysed_retransmissions carried]
  exact SeqTracker.run_clean_iff ⟨0, none, 0⟩ segments

/-- A stream without gaps is free of anomalies just when each sampled data segment ends
higher than the last; for segments shorter than the number space, just when none of them
starts behind the wrap of the sequence number. -/
theorem clean_stream_unflagged_iff {isn : UInt32} {lens : List Nat}
    (carried : List.Forall₂ (Carries slicer dir) packets (stream isn lens)) (snaplen : UInt32)
    (linkType : String) :
    (((analysed slicer snaplen linkType packets).retransmissions = 0 ∧
        (analysed slicer snaplen linkType packets).outOfOrder = 0) ↔
      List.IsChain (· < ·) (dataEnds (stream isn (lens.take maxTcpSamplePackets)))) ∧
    ((∀ len ∈ lens.take maxTcpSamplePackets, len < 2 ^ 32) →
      (List.IsChain (· < ·) (dataEnds (stream isn (lens.take maxTcpSamplePackets))) ↔
        StartsBeforeWrap isn.toNat (lens.take maxTcpSamplePackets))) := by
  constructor
  · rw [analysed_clean_iff carried, stream_take]
    exact and_iff_left (analysed_outOfOrder slicer snaplen linkType packets)
  · exact ends_increase_iff isn _

end Analysed

/-- A TCP segment from 10.0.0.5 to 10.0.0.6 in an Ethernet frame, without options and with
its checksum left to the card. -/
def tcpFrame (seq : UInt32) (payload : Bytes) : Bytes :=
  [2, 0, 0, 0, 0, 2, 2, 0, 0, 0, 0, 1, 8, 0] ++ [0x45, 0] ++ be16 (.ofNat (40 + payload.length)) ++
    [0, 0, 0x40, 0, 64, 6, 0, 0, 10, 0, 0, 5, 10, 0, 0, 6] ++ be16 40000 ++ be16 443 ++ be32 seq ++
      be32 0 ++
    [0x50, 0x10, 0xff, 0xff, 0, 0, 0, 0] ++ payload

/-- The slicer on frames of Ethernet, IPv4 and TCP that carry no options and no padding. -/
def plainSlicer : LaxSlicer := fun frame =>
  if 54 ≤ frame.length ∧ (frame.drop 12).take 3 = [8, 0, 0x45] ∧ frame.getD 23 0 = 6 ∧
    frame.getD 46 0 = 0x50 then
    let address := fun (start : Nat) => Vector.ofFn fun i : Fin 4 => frame.getD (start + i.val) 0
    let word := fun (start : Nat) => readBe16 (frame.getD start 0) (frame.getD (start + 1) 0)
    let long := fun (start : Nat) =>
      readBe32 (frame.getD start 0) (frame.getD (start + 1) 0) (frame.getD (start + 2) 0)
        (frame.getD (start + 3) 0)
    let segment := frame.drop 34
    some ⟨some (.ipv4 (address 26) (address 30)), some (.tcp
      { sourcePort := word 34
        destinationPort := word 36
        sequenceNumber := long 38
        acknowledgmentNumber := long 42
        ack := frame.getD 47 0 &&& 0x10 != 0
        checksum := word 50
        payload := frame.drop 54
        calcChecksumIpv4 :=
          fun source destination => some (internetChecksum (source.toList ++ destination.toList ++
            [0, 6] ++ be16 (.ofNat segment.length) ++ segment.take 16 ++ [0, 0] ++
              segment.drop 18)) })⟩
  else none

def tcpPacket (seq : UInt32) (payload : Bytes) : CapturedPacket :=
  ⟨.ofNat (54 + payload.length), tcpFrame seq payload, none⟩

def exampleDirection : Direction :=
  ⟨padIpv4 ⟨#[10, 0, 0, 5], rfl⟩, 40000, padIpv4 ⟨#[10, 0, 0, 6], rfl⟩, 443⟩

/-- The frames of single bytes at these numbers. -/
def singleBytes (seqs : List UInt32) : List CapturedPacket :=
  seqs.map fun seq => tcpPacket seq [0x78]

/-- Each frame carries its byte, whatever the number. -/
theorem carries_singleBytes (seqs : List UInt32) :
    List.Forall₂ (Carries plainSlicer exampleDirection) (singleBytes seqs)
      (seqs.map fun seq => (seq, 1)) := by
  induction seqs with
  | nil => exact .nil
  | cons seq seqs ih =>
    exact .cons ⟨_, _, rfl, rfl, readBe16_bytes 40000, readBe16_bytes 443,
      readBe32_bytes seq, rfl⟩ ih

theorem clean_stream_unflagged_iff_low :
    ((analysed plainSlicer 65535 "ETHERNET" (singleBytes [100, 101])).retransmissions = 0 ∧
      (analysed plainSlicer 65535 "ETHERNET" (singleBytes [100, 101])).outOfOrder = 0) ↔
      List.IsChain (· < ·) (dataEnds (stream 100 [1, 1])) :=
  have carried : List.Forall₂ (Carries plainSlicer exampleDirection) (singleBytes [100, 101])
      (stream 100 [1, 1]) :=
    carries_singleBytes [100, 101]
  (clean_stream_unflagged_iff carried 65535 "ETHERNET").1

/-- The byte behind the wrap of the sequence number is counted as sent again. -/
theorem wrapped_stream_flagged :
    List.Forall₂ (Carries plainSlicer exampleDirection) (singleBytes [0xFFFFFFFF, 0])
      (stream 0xFFFFFFFF [1, 1]) ∧
      (analysed plainSlicer 65535 "ETHERNET" (singleBytes [0xFFFFFFFF, 0])).retransmissions =
        1 := by
  have carried : List.Forall₂ (Carries plainSlicer exampleDirection) (singleBytes [0xFFFFFFFF, 0])
      (stream 0xFFFFFFFF [1, 1]) := carries_singleBytes [0xFFFFFFFF, 0]
  refine ⟨carried, ?_⟩
  rw [analysed_retransmissions carried]
  decide

/-- The segments do not overlap. -/
def Disjoint (first second : UInt32 × Nat) : Prop :=
  first.1.toNat + first.2 ≤ second.1.toNat ∨ second.1.toNat + second.2 ≤ first.1.toNat

/-- Some segment arrives after one with a higher number. -/
def ArrivesLate (segments : List (UInt32 × Nat)) : Prop :=
  ∃ higher late, List.Sublist [higher, late] segments ∧ late.1 < higher.1

theorem arrivesLate_iff (segments : List (UInt32 × Nat)) :
    ArrivesLate segments ↔ ¬ segments.Pairwise fun first second => first.1 ≤ second.1 := by
  simp only [ArrivesLate, List.pairwise_iff_forall_sublist, not_forall, UInt32.not_le]
  exact ⟨fun ⟨higher, late, order, lower⟩ => ⟨higher, late, order, lower⟩,
    fun ⟨higher, late, order, lower⟩ => ⟨higher, late, order, lower⟩⟩

/-- Segments without overlap that come in the order of their numbers end one behind the
other. -/
theorem ends_of_ordered {segments : List (UInt32 × Nat)}
    (data : ∀ segment ∈ segments, 0 < segment.2) (disjoint : segments.Pairwise Disjoint)
    (ordered : segments.Pairwise fun first second => first.1 ≤ second.1) :
    List.IsChain (· < ·) (dataEnds segments) := by
  apply List.Pairwise.isChain
  rw [dataEnds, List.pairwise_map]
  apply List.Pairwise.filter
  apply (disjoint.and ordered).imp_of_mem
  intro first second _ later both
  have some := data second later
  have below := UInt32.le_iff_toNat_le.mp both.2
  rcases both.1 with ahead | behind
  · omega
  · omega

/-- Reordering and retransmission are told apart exactly when nothing is reordered. -/
theorem reordering_told_apart_iff {slicer : LaxSlicer} {dir : Direction}
    {packets : List CapturedPacket} {segments : List (UInt32 × Nat)}
    (carried : List.Forall₂ (Carries slicer dir) packets segments)
    (data : ∀ segment ∈ segments, 0 < segment.2) (disjoint : segments.Pairwise Disjoint)
    (snaplen : UInt32) (linkType : String) :
    ((analysed slicer snaplen linkType packets).retransmissions = 0 ∧
        (ArrivesLate segments → 0 < (analysed slicer snaplen linkType packets).outOfOrder)) ↔
      segments.Pairwise fun first second => first.1 ≤ second.1 := by
  rw [analysed_outOfOrder, arrivesLate_iff]
  constructor
  · intro told
    by_contra late
    exact absurd (told.2 late) (Nat.lt_irrefl 0)
  · intro ordered
    refine ⟨?_, fun late => absurd ordered late⟩
    rw [analysed_clean_iff carried]
    have taken := List.take_sublist maxTcpSamplePackets segments
    exact ends_of_ordered (fun segment member => data segment (taken.subset member))
      (disjoint.sublist taken)
      (ordered.sublist taken)

theorem reordering_told_apart_iff_low :
    ((analysed plainSlicer 65535 "ETHERNET" (singleBytes [100, 101])).retransmissions = 0 ∧
        (ArrivesLate [(100, 1), (101, 1)] →
          0 < (analysed plainSlicer 65535 "ETHERNET" (singleBytes [100, 101])).outOfOrder)) ↔
      [((100 : UInt32), 1), (101, 1)].Pairwise fun first second => first.1 ≤ second.1 :=
  reordering_told_apart_iff (carries_singleBytes [100, 101]) (by decide)
    (by unfold Disjoint; decide) 65535 "ETHERNET"

/-- A single swap of two segments is counted as a retransmission and not as reordering. -/
theorem swapped_segments_flagged :
    List.Forall₂ (Carries plainSlicer exampleDirection) (singleBytes [101, 100])
      [(101, 1), (100, 1)] ∧
      (analysed plainSlicer 65535 "ETHERNET" (singleBytes [101, 100])).retransmissions = 1 ∧
      (analysed plainSlicer 65535 "ETHERNET" (singleBytes [101, 100])).outOfOrder = 0 := by
  have carried := carries_singleBytes [101, 100]
  refine ⟨carried, ?_, analysed_outOfOrder _ _ _ _⟩
  rw [analysed_retransmissions carried]
  decide

end FragglePacket.NetworkTests
