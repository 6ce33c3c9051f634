import FragglePacket.Fuzzing.Replay
import FragglePacket.Fuzzing.TransportChecksum

/-! The transport checksum of a replayed frame. The rewrites compute only the header
checksum again, so a segment stays valid exactly when the new addresses sum to the old. -/

namespace FragglePacket.Fuzzing

open FragglePacket.Wire

def frameWord (frame : Bytes) (offset : Nat) : UInt16 :=
  readBe16 (frame.getD offset 0) (frame.getD (offset + 1) 0)

def frameProtocol (frame : Bytes) : UInt8 := frame.getD 23 0

def frameAddress (frame : Bytes) (offset : Nat) : Vector UInt8 4 :=
  #v[frame.getD offset 0, frame.getD (offset + 1) 0, frame.getD (offset + 2) 0,
    frame.getD (offset + 3) 0]

def segmentOffset (frame : Bytes) : Nat := 14 + headerBytes (frame.drop 14)

/-- The size that the checksum covers: a datagram announces its own, a segment is the
rest of the IPv4 packet. -/
def coveredSize (frame : Bytes) : Nat :=
  if frameProtocol frame = 17 then (frameWord frame (segmentOffset frame + 4)).toNat
  else (frameWord frame 16).toNat - headerBytes (frame.drop 14)

def coveredBytes (frame : Bytes) : Bytes := slice frame (segmentOffset frame) (coveredSize frame)

/-- A frame with a TCP segment or a UDP datagram whose checksum is in use. -/
structure CarriesSegment (frame : Bytes) : Prop where
  ipv4 : CarriesIpv4 frame
  packet : 14 + (frameWord frame 16).toNat ≤ frame.length
  inside : headerBytes (frame.drop 14) + coveredSize frame ≤ (frameWord frame 16).toNat
  transport : frameProtocol frame = 6 ∧ 20 ≤ coveredSize frame ∨
    frameProtocol frame = 17 ∧ 8 ≤ coveredSize frame ∧ frameWord frame (segmentOffset frame + 6) ≠ 0

/-- The checksum of the frame's segment verifies against its pseudo-header. -/
def SegmentVerifies (frame : Bytes) : Prop :=
  onesSum (pseudoHeader (frameAddress frame 26) (frameAddress frame 30) (frameProtocol frame)
    (coveredSize frame) ++ coveredBytes frame) = 0xFFFF

def ValidSegment (frame : Bytes) : Prop := CarriesSegment frame ∧ SegmentVerifies frame

/-- The words of the two addresses agree modulo 65535 before and after the rewrites. -/
def ReplayOptions.KeepsSum (opts : ReplayOptions) (frame : Bytes) : Prop :=
  (wordSum (fieldAfter opts.rewriteSrcIp (slice frame 26 4)) +
      wordSum (fieldAfter opts.rewriteDstIp (slice frame 30 4))) % 65535 =
    (wordSum (slice frame 26 4) + wordSum (slice frame 30 4)) % 65535

/-- The words that the checksum covers besides the addresses. -/
def coveredSum (frame : Bytes) : Nat :=
  (frameProtocol frame).toNat + (coveredSize frame) % 65536 + wordSum (coveredBytes frame)

theorem frameAddress_toList {frame : Bytes} {offset : Nat} (fits : offset + 4 ≤ frame.length) :
    (frameAddress frame offset).toList = slice frame offset 4 := by
  have byte {i : Nat} (inside : i < frame.length) : frame.getD i 0 = frame[i] := by
    rw [List.getD_eq_getElem?_getD, List.getElem?_eq_getElem inside, Option.getD_some]
  change [frame.getD offset 0, frame.getD (offset + 1) 0, frame.getD (offset + 2) 0,
    frame.getD (offset + 3) 0] = _
  rw [slice, List.drop_eq_getElem_cons (by omega), List.drop_eq_getElem_cons (by omega),
    List.drop_eq_getElem_cons (by omega), List.drop_eq_getElem_cons (by omega), byte (by omega),
      byte (by omega),
    byte (by omega), byte (by omega)]
  rfl

theorem wordSum_covered {frame : Bytes} (long : 34 ≤ frame.length) :
    wordSum (pseudoHeader (frameAddress frame 26) (frameAddress frame 30) (frameProtocol frame)
        (coveredSize frame) ++ coveredBytes frame) =
      wordSum (slice frame 26 4) + wordSum (slice frame 30 4) + coveredSum frame := by
  simp only [pseudoHeader, List.append_assoc,
    frameAddress_toList (by omega : 26 + 4 ≤ frame.length), frameAddress_toList
      (by omega : 30 + 4 ≤ frame.length)]
  rw [wordSum_append (by rw [slice_length (by omega)]),
    wordSum_append (by rw [slice_length (by omega)])]
  simp only [List.cons_append, List.nil_append, wordSum_cons, wordSum_be16_append,
    UInt16.toNat_ofNat', coveredSum, UInt8.toNat_zero]
  omega

/-- A segment verifies exactly when all its words sum to a multiple of 65535. -/
theorem segmentVerifies_iff {frame : Bytes} (carries : CarriesSegment frame) :
    SegmentVerifies frame ↔
      (wordSum (slice frame 26 4) + wordSum (slice frame 30 4) + coveredSum frame) % 65535 = 0 := by
  have some : 0 < coveredSum frame := by
    have protocol : 0 < (frameProtocol frame).toNat := by
      rcases carries.transport with ⟨tcp, _⟩ | ⟨udp, _⟩
      · rw [tcp]
        decide
      · rw [udp]
        decide
    rw [coveredSum]
    omega
  rw [SegmentVerifies, onesSum_eq_max_iff, wordSum_covered carries.ipv4.long]
  omega

theorem ReplayOptions.Selects.range {opts : ReplayOptions} {i : Nat} (selected : opts.Selects i) :
    i < 12 ∨ 24 ≤ i ∧ i < 34 := by
  rcases selected with ⟨_, dstMac⟩ | ⟨_, srcMac⟩ | ⟨_, srcIp⟩ | ⟨_, dstIp⟩ | ⟨_, checksum⟩ <;> omega

section Kept
variable {opts : ReplayOptions} {frame after : Bytes} (rewritten : Rewritten opts frame after)
include rewritten

theorem Rewritten.getD_eq {i : Nat} (out : 12 ≤ i ∧ i < 24 ∨ 34 ≤ i) :
    after.getD i 0 = frame.getD i 0 :=
  rewritten.confined.getD_eq fun selected => absurd selected.range (by omega)

theorem Rewritten.frameWord_eq {i : Nat} (out : 12 ≤ i ∧ i < 23 ∨ 34 ≤ i) :
    frameWord after i = frameWord frame i := by
  rw [frameWord, rewritten.getD_eq (by omega), rewritten.getD_eq (by omega), frameWord]

theorem Rewritten.headerBytes_eq : headerBytes (after.drop 14) = headerBytes (frame.drop 14) :=
  headerBytes_kept rewritten.confined fun selected => absurd selected.range (by decide)

theorem Rewritten.protocol_eq : frameProtocol after = frameProtocol frame :=
  rewritten.getD_eq (.inl (by decide))

theorem Rewritten.offset_eq : segmentOffset after = segmentOffset frame := by
  rw [segmentOffset, rewritten.headerBytes_eq, segmentOffset]

theorem Rewritten.coveredSize_eq (carries : CarriesIpv4 frame) :
    coveredSize after = coveredSize frame := by
  have behind : 34 ≤ segmentOffset frame := by
    have words := carries.words
    rw [segmentOffset]
    omega
  rw [coveredSize, rewritten.protocol_eq, rewritten.offset_eq, rewritten.headerBytes_eq,
    rewritten.frameWord_eq (by omega), rewritten.frameWord_eq (by omega), coveredSize]

theorem Rewritten.coveredBytes_eq (carries : CarriesIpv4 frame) :
    coveredBytes after = coveredBytes frame := by
  have words := carries.words
  rw [coveredBytes, rewritten.offset_eq, rewritten.coveredSize_eq carries, coveredBytes]
  apply rewritten.confined.slice_eq
  intro i from_ _ selected
  have range := selected.range
  rw [segmentOffset] at from_
  omega

theorem Rewritten.carriesIpv4 (carries : CarriesIpv4 frame) : CarriesIpv4 after := by
  refine ⟨?_, ?_, ?_⟩
  · exact (rewritten.frameWord_eq (.inl (by decide))).trans carries.etherType
  · rw [rewritten.headerBytes_eq]
    exact carries.words
  · rw [rewritten.headerBytes_eq, rewritten.confined.length]
    exact carries.present

theorem Rewritten.carriesSegment (carries : CarriesSegment frame) : CarriesSegment after := by
  have behind : 34 ≤ segmentOffset frame := by
    have words := carries.ipv4.words
    rw [segmentOffset]
    omega
  refine ⟨rewritten.carriesIpv4 carries.ipv4, ?_, ?_, ?_⟩
  · rw [rewritten.frameWord_eq (.inl (by decide)), rewritten.confined.length]
    exact carries.packet
  · rw [rewritten.frameWord_eq (.inl (by decide)), rewritten.headerBytes_eq,
      rewritten.coveredSize_eq carries.ipv4]
    exact carries.inside
  · rw [rewritten.protocol_eq, rewritten.coveredSize_eq carries.ipv4, rewritten.offset_eq,
      rewritten.frameWord_eq (by omega)]
    exact carries.transport

theorem Rewritten.coveredSum_eq (carries : CarriesIpv4 frame) :
    coveredSum after = coveredSum frame := by
  rw [coveredSum, rewritten.protocol_eq, rewritten.coveredSize_eq carries,
    rewritten.coveredBytes_eq carries, coveredSum]

/-- A rewritten segment verifies exactly when the addresses keep their sum. -/
theorem Rewritten.validSegment_iff (valid : ValidSegment frame) :
    ValidSegment after ↔ opts.KeepsSum frame := by
  have carries := valid.1
  have carriesAfter := rewritten.carriesSegment carries
  have before := (segmentVerifies_iff carries).mp valid.2
  have sum := segmentVerifies_iff carriesAfter
  rw [rewritten.src carries.ipv4, rewritten.dst carries.ipv4,
    rewritten.coveredSum_eq carries.ipv4] at sum
  rw [ValidSegment, and_iff_right carriesAfter, sum, ReplayOptions.KeepsSum]
  omega

end Kept

/-- Replaying a frame with a valid segment sends a valid segment exactly when the
addresses keep their sum. -/
theorem applyRewrites_segment_iff (opts : ReplayOptions) (frame : Bytes)
    (valid : ValidSegment frame) :
    (∃ after, applyRewrites frame opts = some after ∧ ValidSegment after) ↔
      opts.KeepsSum frame := by
  obtain ⟨sent, run, rewritten⟩ := applyRewrites_rewritten opts frame
  rw [← rewritten.validSegment_iff valid, run]
  constructor
  · intro ⟨after, same, kept⟩
    rwa [Option.some.inj same]
  · intro kept
    exact ⟨sent, rfl, kept⟩

/-- A SYN from 10.0.0.1 to 10.0.0.2 with both checksums in place. -/
def synFrame : Bytes :=
  [0, 0, 0, 0, 0, 0, 0, 0, 0, 0, 0, 0, 0x08, 0x00,
    0x45, 0, 0, 40, 0, 1, 0, 0, 64, 6, 102, 205, 10, 0, 0, 1, 10, 0, 0, 2,
    0xC0, 0, 0, 80, 0, 0, 0, 1, 0, 0, 0, 0, 0x50, 2, 0xFF, 0xFF, 219, 142, 0, 0]

def fromTestAddress : ReplayOptions where
  rewriteSrcMac := none
  rewriteDstMac := none
  rewriteSrcIp := some #v[1, 2, 3, 4]
  rewriteDstIp := none

theorem synFrame_valid : ValidSegment synFrame := by
  constructor
  · exact ⟨⟨by decide, by decide, by decide⟩, by decide, by decide, by decide⟩
  · unfold SegmentVerifies
    decide

theorem applyRewrites_segment_syn :
    (∃ after, applyRewrites synFrame fromTestAddress = some after ∧ ValidSegment after) ↔
      fromTestAddress.KeepsSum synFrame :=
  applyRewrites_segment_iff fromTestAddress synFrame synFrame_valid

/-- A rewritten source address breaks a valid segment. -/
theorem rewritten_segment_invalid : ¬ ∀ (opts : ReplayOptions) (frame : Bytes), ValidSegment frame →
    ∃ after, applyRewrites frame opts = some after ∧ ValidSegment after := by
  intro claim
  obtain ⟨after, run, valid⟩ := claim fromTestAddress synFrame synFrame_valid
  obtain ⟨sent, sentRun, rewritten⟩ := applyRewrites_rewritten fromTestAddress synFrame
  obtain rfl : after = sent := Option.some.inj (run.symm.trans sentRun)
  have kept := (rewritten.validSegment_iff synFrame_valid).mp valid
  revert kept
  unfold ReplayOptions.KeepsSum
  decide

end FragglePacket.Fuzzing
