import FragglePacket.Fuzzing.Context
import FragglePacket.Fuzzing.Replay
import FragglePacket.Fuzzing.TcpOptions
import FragglePacket.Wire.Reassembly

/-! The fuzzing campaigns: the frames that each of them writes to its capture file, and what
a receiver makes of them. -/

namespace FragglePacket.Fuzzing

open FragglePacket.Wire

inductive FuzzMode where
  | segmentSize
  | lengthMismatch
  | tcpOptions
  | fragmentation
  | checksum

/-- What a campaign draws at random: the payload of each packet it builds, in the order it
builds them, and for the corrupted checksums the words and the payload sizes. -/
structure CampaignDraws where
  payload : Nat → Nat → UInt8
  word : Nat → UInt16
  size : Nat → Nat
  sizeRange : ∀ index, 50 ≤ size index ∧ size index < 500

namespace BaseLayers

def packet (layers : BaseLayers) : Bytes :=
  layers.eth ++ layers.ipv4 ++ layers.tcp ++ layers.payload

/-- Claims a total length, and clears the checksum. -/
def claiming (layers : BaseLayers) (totalLen : UInt16) : Bytes :=
  let ipv4 := (layers.ipv4.set 2 (highByte totalLen)).set 3 (lowByte totalLen)
  { layers with ipv4 := (ipv4.set 10 0).set 11 0 }.packet

def withChecksum (layers : BaseLayers) (checksum : UInt16) : Bytes :=
  { layers with ipv4 := (layers.ipv4.set 10 (highByte checksum)).set 11 (lowByte checksum) }.packet

/-- The checksum that the header has. -/
def checksum (layers : BaseLayers) : UInt16 :=
  readBe16 (layers.ipv4.getD 10 0) (layers.ipv4.getD 11 0)

/-- The header with another byte of flags and another of the offset, in front
of a part of the segment. -/
def fragment (layers : BaseLayers) (flags offset : UInt8) (part : Bytes) : Bytes :=
  layers.eth ++ (layers.ipv4.set 6 flags).set 7 offset ++ part

/-- Options behind the TCP header, which is left as it is. -/
def withOptions (layers : BaseLayers) (options : Bytes) : Bytes :=
  layers.eth ++ layers.ipv4 ++ layers.tcp ++ options

end BaseLayers

section Campaigns
variable (context : PacketContext) (crate : Etherparse) (draws : CampaignDraws)

def SegmentSize.fuzz : Except String (List Bytes) :=
  [1, 2, 3, 4, 5, 6, 7, 8, 9, 10, 536, 1460, 1500, 4096].zipIdx.mapM fun (size, index) =>
    context.buildPacket crate (draws.payload index) size

def LengthMismatch.fuzz : Except String (List Bytes) := do
  let baseline ← context.buildPacket crate (draws.payload 0) 100
  let short ← context.buildBaseLayers crate (draws.payload 1) 100
  let long ← context.buildBaseLayers crate (draws.payload 2) 100
  let others ← [(50, 25), (50, 100), (200, 100), (200, 300)].zipIdx.mapM
      fun ((actualSize, claimedSize), index) => do
    let layers ← context.buildBaseLayers crate (draws.payload (3 + index)) actualSize
    return layers.claiming (.ofNat (20 + 20 + claimedSize))
  return baseline :: short.claiming 50 :: long.claiming 200 :: others

/-- Zeros up to a multiple of four bytes. -/
def padded (packet : Bytes) : Bytes := packet ++ List.replicate ((4 - packet.length % 4) % 4) 0

/-- An MSS of 0 and of 65535, an MSS of the wrong length, other options of wrong lengths, and kinds
that are not assigned. -/
def TcpOptions.malformed : List Bytes :=
  [[2, 4, 0, 0, 0], [2, 4, 0xFF, 0xFF, 0], [2, 2, 0], [3, 1, 4, 5, 0]] ++
    [255, 254, 200, 150, 100].map fun kind => [kind, 4, 0, 0, 0]

def TcpOptions.fuzz : Except String (List Bytes) := do
  let normal ← context.buildBaseLayers crate (draws.payload 0) 0
  let others ← TcpOptions.malformed.zipIdx.mapM fun (options, index) => do
    let layers ← context.buildBaseLayers crate (draws.payload (1 + index)) 0
    return layers.withOptions options ++ layers.payload
  return (padded (normal.withOptions ([2, 4] ++ be16 1460 ++ [0])) ++ normal.payload) :: others

/-- The parts of the fragmentation campaign. -/
inductive Scenario where
  | normal
  | overlapping
  | missingMiddle
  | outOfOrder
  | tiny

def Scenario.all : List Scenario := [.normal, .overlapping, .missingMiddle, .outOfOrder, .tiny]

def Scenario.payloadLen : Scenario → Nat
  | .normal => 100
  | .overlapping => 100
  | .missingMiddle => 120
  | .outOfOrder => 90
  | .tiny => 32

def Scenario.fragments (scenario : Scenario) : Except String (List Bytes) := do
  match scenario with
  | .normal =>
    let first ← context.buildBaseLayers crate (draws.payload 0) 100
    let second ← context.buildBaseLayers crate (draws.payload 1) 100
    return [first.fragment 0x20 0x00 (first.tcp ++ first.payload.take 50),
      second.fragment 0x00 0x06 (first.payload.drop 50)]
  | .overlapping =>
    let first ← context.buildBaseLayers crate (draws.payload 2) 100
    let second ← context.buildBaseLayers crate (draws.payload 3) 100
    return [first.fragment 0x20 0x00 (first.tcp ++ first.payload.take 60),
      second.fragment 0x00 0x06 (first.payload.drop 50)]
  | .missingMiddle =>
    let first ← context.buildBaseLayers crate (draws.payload 4) 120
    let third ← context.buildBaseLayers crate (draws.payload 5) 120
    return [first.fragment 0x20 0x00 (first.tcp ++ first.payload.take 40),
      third.fragment 0x00 0x0A (first.payload.drop 80)]
  | .outOfOrder =>
    let base ← context.buildBaseLayers crate (draws.payload 6) 90
    let second ← context.buildBaseLayers crate (draws.payload 7) 90
    let first ← context.buildBaseLayers crate (draws.payload 8) 90
    let third ← context.buildBaseLayers crate (draws.payload 9) 90
    return [second.fragment 0x20 0x05 ((base.payload.drop 40).take 40),
      first.fragment 0x20 0x00 (first.tcp ++ base.payload.take 40),
      third.fragment 0x00 0x0A (base.payload.drop 80)]
  | .tiny =>
    let base ← context.buildBaseLayers crate (draws.payload 10) 32
    (List.range 4).mapM fun i => do
      let layers ← context.buildBaseLayers crate (draws.payload (11 + i)) 32
      let part := (base.payload.drop (i * 8)).take 8
      return layers.fragment (if i < 3 then 0x20 else 0x00) (.ofNat i)
        (if i = 0 then layers.tcp ++ part else part)

def Fragmentation.fuzz : Except String (List Bytes) := do
  let fragments ← Scenario.all.mapM (Scenario.fragments context crate draws)
  return fragments.flatten

def Checksum.fuzz : Except String (List Bytes) := do
  let valid ← context.buildPacket crate (draws.payload 0) 100
  let zero ← context.buildBaseLayers crate (draws.payload 1) 100
  let random ← context.buildBaseLayers crate (draws.payload 2) 100
  let offByOne ← context.buildBaseLayers crate (draws.payload 3) 100
  let maximum ← context.buildBaseLayers crate (draws.payload 4) 100
  let corrupt ← (List.range 5).mapM fun i => do
    let layers ← context.buildBaseLayers crate (draws.payload (5 + i)) (draws.size i)
    return layers.withChecksum (draws.word (1 + i))
  return valid :: zero.withChecksum 0 :: random.withChecksum (draws.word 0) ::
    offByOne.withChecksum (offByOne.checksum + 1) :: maximum.withChecksum 0xFFFF :: corrupt

/-- The packets that the campaign of a mode writes. Their number is the one it reports. -/
def runCampaign : FuzzMode → Except String (List Bytes)
  | .segmentSize => SegmentSize.fuzz context crate draws
  | .lengthMismatch => LengthMismatch.fuzz context crate draws
  | .tcpOptions => TcpOptions.fuzz context crate draws
  | .fragmentation => Fragmentation.fuzz context crate draws
  | .checksum => Checksum.fuzz context crate draws

end Campaigns

/-- The IPv4 header of a frame verifies, as a receiver checks it before anything else. -/
def Ipv4Verifies (frame : Bytes) : Prop :=
  onesSum (slice (frame.drop 14) 0 (headerBytes (frame.drop 14))) = 0xFFFF

instance (frame : Bytes) : Decidable (Ipv4Verifies frame) := inferInstanceAs (Decidable (_ = _))

namespace PacketContext

variable (context : PacketContext)

/-- The header of the base packet with its words that the campaigns change. -/
def header (totalLen fragmentWord checksum : UInt16) : Bytes :=
  [0x45, 0] ++ be16 totalLen ++ be16 0 ++ be16 fragmentWord ++ [64, 6] ++ be16 checksum ++
    context.srcIp.toList ++ context.dstIp.toList

/-- A frame of a campaign: what lies behind the IPv4 header may be anything. -/
def frame (totalLen fragmentWord checksum : UInt16) (body : Bytes) : Bytes :=
  Ethernet2Header.layout ⟨context.srcMac, context.dstMac, 0x0800⟩ ++
    context.header totalLen fragmentWord checksum ++ body

/-- The total length that the base packet has in its header. -/
def claimedLength (payloadLen : Nat) : UInt16 := .ofNat (20 + 20 + payloadLen) + 20

def goodChecksum (totalLen : UInt16) : UInt16 := internetChecksum (context.header totalLen 0x4000 0)

/-- What the base packet is built from. -/
def baseLayers (gen : Nat → UInt8) (payloadLen : Nat) : BaseLayers where
  eth := Ethernet2Header.layout ⟨context.srcMac, context.dstMac, 0x0800⟩
  ipv4 := context.header (claimedLength payloadLen) 0x4000
    (context.goodChecksum (claimedLength payloadLen))
  tcp := context.tcpHeader.layout
  payload := (List.range payloadLen).map gen

@[simp] theorem header_length (totalLen fragmentWord checksum : UInt16) :
    (context.header totalLen fragmentWord checksum).length = 20 := by
  simp [header]

theorem ipv4Header_layout (payloadLen : Nat) (checksum : UInt16) :
    (context.ipv4Header payloadLen).layout checksum =
      context.header (claimedLength payloadLen) 0x4000 checksum := by
  simp [ipv4Header, Ipv4Header.layout, Ipv4Header.fresh, Ipv4Header.fragmentWord, header,
    claimedLength]

theorem buildBaseLayers_eq {crate : Etherparse} (documented : crate.Documented) (gen : Nat → UInt8)
    {payloadLen : Nat} (small : payloadLen ≤ 65475) :
    context.buildBaseLayers crate gen payloadLen = .ok (context.baseLayers gen payloadLen) := by
  have fits : (UInt16.ofNat (20 + 20 + payloadLen)).toNat ≤ 65515 := by
    rw [UInt16.toNat_ofNat']
    omega
  have made := documented.ipv4New _ 64 6 context.srcIp context.dstIp fits
  have written : crate.tcpHeaderWrite context.tcpHeader = .ok context.tcpHeader.layout :=
    documented.tcpWrite context.tcpHeader (Nat.zero_le 40) rfl
  rw [tcpHeader] at written
  simp only [buildBaseLayers, documented.ethernet2Write, made, documented.ipv4Write,
    documented.tcpNew, written, bind, Except.bind, pure, Except.pure]
  rw [baseLayers, goodChecksum, ← ipv4Header_layout, ← ipv4Header_layout]
  rfl

theorem buildPacket_layers {crate : Etherparse} (documented : crate.Documented) (gen : Nat → UInt8)
    {payloadLen : Nat} (small : payloadLen ≤ 65475) :
    context.buildPacket crate gen payloadLen = .ok (context.baseLayers gen payloadLen).packet := by
  rw [buildPacket, buildBaseLayers_eq context documented gen small]
  rfl

/-! The frames in terms of the header's words. -/

theorem packet_eq (gen : Nat → UInt8) (payloadLen : Nat) :
    (context.baseLayers gen payloadLen).packet =
      context.frame (claimedLength payloadLen) 0x4000
        (context.goodChecksum (claimedLength payloadLen))
        (context.tcpHeader.layout ++ (List.range payloadLen).map gen) := by
  simp [BaseLayers.packet, baseLayers, frame]

theorem fragment_eq (gen : Nat → UInt8) (payloadLen : Nat) (flags offset : UInt8) (part : Bytes) :
    (context.baseLayers gen payloadLen).fragment flags offset part =
      context.frame (claimedLength payloadLen) (readBe16 flags offset)
        (context.goodChecksum (claimedLength payloadLen))
        part := by
  have written : be16 (readBe16 flags offset) = [flags, offset] := by simp [be16]
  simp [BaseLayers.fragment, baseLayers, frame, header, written]
  simp [be16]

theorem claiming_eq (gen : Nat → UInt8) (payloadLen : Nat) (totalLen : UInt16) :
    (context.baseLayers gen payloadLen).claiming totalLen =
      context.frame totalLen 0x4000 0
        (context.tcpHeader.layout ++ (List.range payloadLen).map gen) := by
  simp [BaseLayers.claiming, BaseLayers.packet, baseLayers, frame, header, be16]
  exact ⟨rfl, rfl⟩

theorem withChecksum_eq (gen : Nat → UInt8) (payloadLen : Nat) (checksum : UInt16) :
    (context.baseLayers gen payloadLen).withChecksum checksum =
      context.frame (claimedLength payloadLen) 0x4000 checksum
        (context.tcpHeader.layout ++ (List.range payloadLen).map gen) := by
  simp [BaseLayers.withChecksum, BaseLayers.packet, baseLayers, frame, header, be16]

theorem checksum_eq (gen : Nat → UInt8) (payloadLen : Nat) :
    (context.baseLayers gen payloadLen).checksum =
      context.goodChecksum (claimedLength payloadLen) := by
  simp [BaseLayers.checksum, baseLayers, header, be16]

/-! What a receiver reads in a frame. -/

theorem drop_frame (totalLen fragmentWord checksum : UInt16) (body : Bytes) :
    (context.frame totalLen fragmentWord checksum body).drop 14 =
      context.header totalLen fragmentWord checksum ++ body := by
  rw [frame, List.append_assoc, List.drop_left' (by simp)]

theorem drop_headers (totalLen fragmentWord checksum : UInt16) (body : Bytes) :
    (context.frame totalLen fragmentWord checksum body).drop 34 = body :=
  List.drop_left' (by simp)

theorem totalLengthField_frame (totalLen fragmentWord checksum : UInt16) (body : Bytes) :
    totalLengthField (context.frame totalLen fragmentWord checksum body) = some totalLen := by
  rw [totalLengthField, ← wordAt_drop _ 14 2, drop_frame]
  simp [header, wordAt, be16]

theorem verifies_frame_iff (totalLen fragmentWord checksum : UInt16) (body : Bytes) :
    Ipv4Verifies (context.frame totalLen fragmentWord checksum body) ↔
      onesSum (context.header totalLen fragmentWord checksum) = 0xFFFF := by
  have five : headerBytes (context.header totalLen fragmentWord checksum ++ body) = 20 := by
    simp [headerBytes, header]
  rw [Ipv4Verifies, drop_frame, five, slice, List.drop_zero, List.take_left' (by simp)]

/-! When the header of a frame verifies. -/

theorem header_split_checksum (totalLen fragmentWord checksum : UInt16) :
    context.header totalLen fragmentWord checksum =
      ([0x45, 0] ++ be16 totalLen ++ be16 0 ++ be16 fragmentWord ++ [64, 6]) ++
        (be16 checksum ++ (context.srcIp.toList ++ context.dstIp.toList)) := by
  simp [header]

theorem header_split_fragment (totalLen fragmentWord checksum : UInt16) :
    context.header totalLen fragmentWord checksum =
      ([0x45, 0] ++ be16 totalLen ++ be16 0) ++
        (be16 fragmentWord ++ ([64, 6] ++ be16 checksum ++ context.srcIp.toList ++
          context.dstIp.toList)) := by
  simp [header]

theorem wordSum_header_ne_zero (totalLen fragmentWord checksum : UInt16) :
    wordSum (context.header totalLen fragmentWord checksum) ≠ 0 := by
  have first : context.header totalLen fragmentWord checksum =
      [0x45, 0] ++ (context.header totalLen fragmentWord checksum).drop 2 := rfl
  rw [first, wordSum_append rfl]
  simp

theorem goodChecksum_verifies (totalLen : UInt16) :
    onesSum (context.header totalLen 0x4000 (context.goodChecksum totalLen)) = 0xFFFF := by
  rw [goodChecksum, header_split_checksum, header_split_checksum]
  exact internetChecksum_completes (by simp) _

/-- A frame whose flags or offset were changed behind the checksum is refused. -/
theorem fragment_refused (totalLen : UInt16) {fragmentWord : UInt16}
    (changed : fragmentWord ≠ 0x4000) (body : Bytes) :
    ¬ Ipv4Verifies (context.frame totalLen fragmentWord (context.goodChecksum totalLen) body) := by
  have good := context.goodChecksum_verifies totalLen
  rw [verifies_frame_iff, header_split_fragment]
  rw [header_split_fragment] at good
  have kept : wordSum (([0x45, 0] ++ be16 totalLen ++ be16 0) ++
      ([64, 6] ++ be16 (context.goodChecksum totalLen) ++ context.srcIp.toList ++
        context.dstIp.toList)) ≠ 0 := by
    rw [List.append_assoc, List.append_assoc, wordSum_append rfl]
    simp
  rw [verifies_replaced_iff (by simp) kept good]
  simp [changed]

theorem goodChecksum_ne_max (totalLen : UInt16) : context.goodChecksum totalLen ≠ 0xFFFF :=
  internetChecksum_ne_max (context.wordSum_header_ne_zero totalLen 0x4000 0)

theorem verifies_checksum_iff (totalLen checksum : UInt16) (body : Bytes) :
    Ipv4Verifies (context.frame totalLen 0x4000 checksum body) ↔
      checksum = context.goodChecksum totalLen ∨
        (context.goodChecksum totalLen = 0 ∧ checksum = 0xFFFF) := by
  have good := context.goodChecksum_verifies totalLen
  have notMax := context.goodChecksum_ne_max totalLen
  rw [verifies_frame_iff, header_split_checksum]
  rw [header_split_checksum] at good
  have kept : wordSum (([0x45, 0] ++ be16 totalLen ++ be16 0 ++ be16 0x4000 ++ [64, 6]) ++
      (context.srcIp.toList ++ context.dstIp.toList)) ≠ 0 := by
    rw [List.append_assoc, List.append_assoc, List.append_assoc, List.append_assoc,
      wordSum_append rfl]
    simp
  rw [verifies_replaced_iff (by simp) kept good]
  simp [notMax]

/-- The fragments of a scenario: the word of flags and offset of each, and the bytes it carries. -/
def parts (draws : CampaignDraws) (scenario : Scenario) : List (UInt16 × Bytes) :=
  let payload (build : Nat) : Bytes := (List.range scenario.payloadLen).map (draws.payload build)
  let tcp := context.tcpHeader.layout
  match scenario with
  | .normal => [(0x2000, tcp ++ (payload 0).take 50), (0x0006, (payload 0).drop 50)]
  | .overlapping => [(0x2000, tcp ++ (payload 2).take 60), (0x0006, (payload 2).drop 50)]
  | .missingMiddle => [(0x2000, tcp ++ (payload 4).take 40), (0x000A, (payload 4).drop 80)]
  | .outOfOrder =>
    [(0x2005, ((payload 6).drop 40).take 40), (0x2000, tcp ++ (payload 6).take 40),
      (0x000A, (payload 6).drop 80)]
  | .tiny => [(0x2000, tcp ++ (payload 10).take 8), (0x2001, ((payload 10).drop 8).take 8),
      (0x2002, ((payload 10).drop 16).take 8), (0x0003, ((payload 10).drop 24).take 8)]

section Frames
variable {crate : Etherparse} (documented : crate.Documented) (draws : CampaignDraws)
include documented

theorem segmentSize_eq : SegmentSize.fuzz context crate draws =
    .ok ([1, 2, 3, 4, 5, 6, 7, 8, 9, 10, 536, 1460, 1500, 4096].zipIdx.map fun (size, index) =>
      (context.baseLayers (draws.payload index) size).packet) := by
  simp (disch := omega) only [SegmentSize.fuzz, List.zipIdx_cons, List.zipIdx_nil, List.mapM_cons,
    List.mapM_nil, buildPacket_layers context documented, bind, Except.bind, pure, Except.pure,
    List.map_cons, List.map_nil]

theorem lengthMismatch_eq : LengthMismatch.fuzz context crate draws =
    .ok [(context.baseLayers (draws.payload 0) 100).packet,
      (context.baseLayers (draws.payload 1) 100).claiming 50, (context.baseLayers
        (draws.payload 2) 100).claiming 200, (context.baseLayers (draws.payload 3) 50).claiming 65,
      (context.baseLayers (draws.payload 4) 50).claiming 140,
        (context.baseLayers (draws.payload 5) 200).claiming 140,
      (context.baseLayers (draws.payload 6) 200).claiming 340] := by
  simp (disch := omega) only [LengthMismatch.fuzz, List.zipIdx_cons, List.zipIdx_nil,
    List.mapM_cons, List.mapM_nil, buildPacket_layers context documented,
    buildBaseLayers_eq context documented, bind, Except.bind, pure, Except.pure]
  rfl

theorem tcpOptions_eq : TcpOptions.fuzz context crate draws =
    .ok ((context.baseLayers (draws.payload 0) 0).withOptions [2, 4, 5, 0xB4, 0, 0] ::
      TcpOptions.malformed.zipIdx.map fun (options, index) =>
        (context.baseLayers (draws.payload (1 + index)) 0).withOptions options) := by
  have unpadded : ((context.baseLayers (draws.payload 0) 0).withOptions
      ([2, 4] ++ be16 1460 ++ [0])).length = 59 := by
    simp [BaseLayers.withOptions, baseLayers, tcpHeader, TcpHeader.fresh]
  have first :
      padded ((context.baseLayers (draws.payload 0) 0).withOptions ([2, 4] ++ be16 1460 ++ [0])) =
      (context.baseLayers (draws.payload 0) 0).withOptions [2, 4, 5, 0xB4, 0, 0] := by
    rw [padded, unpadded, BaseLayers.withOptions, BaseLayers.withOptions, List.append_assoc]
    rfl
  simp (disch := omega) only [TcpOptions.fuzz, TcpOptions.malformed, List.map_cons, List.map_nil,
    List.cons_append, List.nil_append, List.zipIdx_cons, List.zipIdx_nil, List.mapM_cons,
    List.mapM_nil, buildBaseLayers_eq context documented, bind, Except.bind, pure, Except.pure]
  simp only [List.cons_append, List.nil_append] at first
  rw [first]
  simp [baseLayers]

theorem checksum_fuzz_eq : Checksum.fuzz context crate draws =
    .ok ((context.baseLayers (draws.payload 0) 100).packet ::
      (context.baseLayers (draws.payload 1) 100).withChecksum 0 ::
      (context.baseLayers (draws.payload 2) 100).withChecksum (draws.word 0) ::
      (context.baseLayers (draws.payload 3) 100).withChecksum
        (context.goodChecksum (claimedLength 100) + 1) ::
      (context.baseLayers (draws.payload 4) 100).withChecksum 0xFFFF ::
      (List.range 5).map fun i =>
        (context.baseLayers (draws.payload (5 + i)) (draws.size i)).withChecksum
          (draws.word (1 + i))) := by
  have small (i : Nat) : draws.size i ≤ 65475 := by
    have range := (draws.sizeRange i).2
    omega
  have corrupt : (List.range 5).mapM (fun i => do
      let layers ← context.buildBaseLayers crate (draws.payload (5 + i)) (draws.size i)
      return layers.withChecksum (draws.word (1 + i))) = Except.ok ((List.range 5).map fun i =>
        (context.baseLayers (draws.payload (5 + i)) (draws.size i)).withChecksum
          (draws.word (1 + i))) := by
    simp only [buildBaseLayers_eq context documented _ (small _)]
    exact List.mapM_pure
  simp only [bind, Except.bind, pure, Except.pure] at corrupt
  simp (disch := omega) only [Checksum.fuzz, corrupt, buildPacket_layers context documented,
    buildBaseLayers_eq context documented, bind, Except.bind, pure, Except.pure, checksum_eq]

theorem fragments_eq (scenario : Scenario) : scenario.fragments context crate draws =
    .ok ((context.parts draws scenario).map fun (fragmentWord, part) =>
      context.frame (claimedLength scenario.payloadLen) fragmentWord
        (context.goodChecksum (claimedLength scenario.payloadLen)) part) := by
  cases scenario with
  | tiny =>
    simp (disch := omega) only [Scenario.fragments, List.range_succ, List.range_zero,
      List.nil_append, List.cons_append, List.mapM_cons, List.mapM_nil,
      buildBaseLayers_eq context documented, bind, Except.bind, pure, Except.pure, fragment_eq]
    rfl
  | _ =>
    simp (disch := omega) only [Scenario.fragments, buildBaseLayers_eq context documented, bind,
      Except.bind, pure, Except.pure, fragment_eq]
    rfl

theorem fragmentation_eq : Fragmentation.fuzz context crate draws =
    .ok (Scenario.all.flatMap fun scenario =>
      (context.parts draws scenario).map fun (fragmentWord, part) =>
      context.frame (claimedLength scenario.payloadLen) fragmentWord
        (context.goodChecksum (claimedLength scenario.payloadLen)) part) := by
  rw [Fragmentation.fuzz, funext (fragments_eq context documented draws)]
  rfl

end Frames

theorem claimedLength_toNat {payloadLen : Nat} (small : payloadLen ≤ 65475) :
    (claimedLength payloadLen).toNat = 60 + payloadLen := by
  simp only [claimedLength, UInt16.toNat_add, UInt16.toNat_ofNat', UInt16.reduceToNat]
  omega

@[simp] theorem tcpHeader_options : context.tcpHeader.options = [] := rfl

end PacketContext

/-- The header claims another length than the datagram has. -/
def Misclaims (frame : Bytes) : Prop :=
  (totalLengthField frame).map UInt16.toNat ≠ some (frame.drop 14).length

/-- Where a receiver that takes no notice of the checksum puts what a fragment carries. -/
def fragmentPiece (frame : Bytes) : Nat × Bytes :=
  (((wordAt frame 20).getD 0 &&& 0x1FFF).toNat * 8, frame.drop 34)

namespace PacketContext

variable (context : PacketContext)

theorem misclaims_frame {totalLen : UInt16} {body : Bytes}
    (differs : totalLen.toNat ≠ 20 + body.length) (fragmentWord checksum : UInt16) :
    Misclaims (context.frame totalLen fragmentWord checksum body) := by
  rw [Misclaims, totalLengthField_frame, drop_frame, List.length_append, header_length]
  simpa using differs

theorem fragmentPiece_frame (totalLen fragmentWord checksum : UInt16) (body : Bytes) :
    fragmentPiece (context.frame totalLen fragmentWord checksum body) =
      ((fragmentWord &&& 0x1FFF).toNat * 8, body) := by
  have word : wordAt (context.frame totalLen fragmentWord checksum body) 20 =
      some fragmentWord := by
    rw [← wordAt_drop _ 14 6, drop_frame]
    simp [header, wordAt, be16]
  rw [fragmentPiece, word, drop_headers, Option.getD_some]

/-- No fragment has the flags of the base packet, and none ends where the segment ends. -/
theorem parts_short (draws : CampaignDraws) (scenario : Scenario) :
    ∀ part ∈ context.parts draws scenario,
    part.1 ≠ 0x4000 ∧ (part.1 &&& 0x1FFF).toNat * 8 + part.2.length < 20 + scenario.payloadLen := by
  cases scenario <;> simp [parts, Scenario.payloadLen]

theorem withOptions_eq (gen : Nat → UInt8) (options : Bytes) :
    (context.baseLayers gen 0).withOptions options =
      context.frame (claimedLength 0) 0x4000 (context.goodChecksum (claimedLength 0))
        (context.tcpHeader.layout ++ options) := by
  simp [BaseLayers.withOptions, baseLayers, frame]

/-- The base packet claims the bytes of the IPv4 header twice. -/
theorem misclaims_base (gen : Nat → UInt8) {payloadLen : Nat} (small : payloadLen ≤ 65475)
    (checksum : UInt16) :
    Misclaims (context.frame (claimedLength payloadLen) 0x4000 checksum
      (context.tcpHeader.layout ++ (List.range payloadLen).map gen)) := by
  refine context.misclaims_frame ?_ _ _
  rw [claimedLength_toNat small]
  simp
  omega

/-- The data offset of the base packet ends its header in front of anything that follows. -/
theorem optionArea_base (data : Bytes) : optionArea (context.tcpHeader.layout ++ data) = [] := by
  simp [optionArea, TcpHeader.layout, tcpHeader, TcpHeader.fresh, TcpHeader.offsetWord, be16, be32,
    highByte]

theorem malformed_length : ∀ options ∈ TcpOptions.malformed, options.length ≤ 5 := by decide

/-- The first choice of everything that is drawn. -/
def firstDraws : CampaignDraws :=
  ⟨fun _ _ => 0, fun _ => 0, fun _ => 50, fun _ => ⟨Nat.le_refl 50, by decide⟩⟩

/-- Every campaign is written to its end, and no packet of it, the good ones included, is as long as
its header says. -/
theorem runCampaign_misclaims {crate : Etherparse} (documented : crate.Documented)
    (draws : CampaignDraws) (mode : FuzzMode) :
    ∃ frames, runCampaign context crate draws mode = .ok frames ∧ frames ≠ [] ∧
      ∀ frame ∈ frames, Misclaims frame := by
  cases mode with
  | segmentSize =>
    refine ⟨_, context.segmentSize_eq documented draws, by simp, ?_⟩
    intro frame listed
    obtain ⟨⟨size, index⟩, member, rfl⟩ := List.mem_map.mp listed
    have bounded : ∀ size ∈ [1, 2, 3, 4, 5, 6, 7, 8, 9, 10, 536, 1460, 1500, 4096], size ≤
        65475 := by decide
    dsimp only
    rw [packet_eq]
    exact context.misclaims_base _ (bounded size (List.fst_mem_of_mem_zipIdx member)) _
  | lengthMismatch =>
    refine ⟨_, context.lengthMismatch_eq documented draws, by simp, ?_⟩
    simp only [List.forall_mem_cons, packet_eq, claiming_eq]
    refine ⟨context.misclaims_base _ (by decide) _, ?_⟩
    simp only [List.not_mem_nil, false_implies, implies_true, and_true]
    refine ⟨?_, ?_, ?_, ?_, ?_, ?_⟩ <;> exact context.misclaims_frame (by simp) _ _
  | tcpOptions =>
    refine ⟨_, context.tcpOptions_eq documented draws, by simp, ?_⟩
    have misclaims (gen : Nat → UInt8) {options : Bytes} (short : options.length ≤ 6) :
        Misclaims ((context.baseLayers gen 0).withOptions options) := by
      rw [withOptions_eq]
      refine context.misclaims_frame ?_ _ _
      rw [claimedLength_toNat (Nat.zero_le _)]
      simp
      omega
    refine List.forall_mem_cons.mpr ⟨misclaims _ (by decide), ?_⟩
    intro frame listed
    obtain ⟨⟨options, index⟩, member, rfl⟩ := List.mem_map.mp listed
    have short := malformed_length options (List.fst_mem_of_mem_zipIdx member)
    exact misclaims _ (by omega)
  | fragmentation =>
    refine ⟨_, context.fragmentation_eq documented draws, by simp [Scenario.all, parts], ?_⟩
    intro frame listed
    obtain ⟨scenario, -, cut⟩ := List.mem_flatMap.mp listed
    obtain ⟨⟨fragmentWord, part⟩, member, rfl⟩ := List.mem_map.mp cut
    have short := (context.parts_short draws scenario _ member).2
    have small : scenario.payloadLen ≤ 65475 := by cases scenario <;> decide
    refine context.misclaims_frame ?_ _ _
    rw [claimedLength_toNat small]
    dsimp only at short ⊢
    omega
  | checksum =>
    refine ⟨_, context.checksum_fuzz_eq documented draws, by simp, ?_⟩
    simp only [List.forall_mem_cons, packet_eq, withChecksum_eq]
    refine ⟨context.misclaims_base _ (by decide) _, context.misclaims_base _ (by decide) _,
      context.misclaims_base _ (by decide) _, context.misclaims_base _ (by decide) _,
      context.misclaims_base _ (by decide) _, ?_⟩
    intro frame listed
    obtain ⟨i, -, rfl⟩ := List.mem_map.mp listed
    have range := (draws.sizeRange i).2
    exact context.misclaims_base _ (by omega) _

theorem runCampaign_misclaims_checksum : ∃ frames,
    runCampaign exampleContext .reference firstDraws .checksum = .ok frames ∧ frames ≠ [] ∧
      ∀ frame ∈ frames, Misclaims frame :=
  exampleContext.runCampaign_misclaims Etherparse.reference_documented firstDraws .checksum

/-- Every fragment is refused for its header checksum; and where a receiver takes no
notice of it, no choice of the fragments of a scenario, in whatever order, makes up the
segment they were cut from. -/
theorem fragments_lost {crate : Etherparse} (documented : crate.Documented)
    (draws : CampaignDraws) :
    ∃ frames, Fragmentation.fuzz context crate draws = .ok frames ∧ frames.length = 13 ∧
    (∀ frame ∈ frames, ¬ Ipv4Verifies frame) ∧
    ∀ scenario : Scenario, ∃ fragments, scenario.fragments context crate draws = .ok fragments ∧
      (∀ fragment ∈ fragments, fragment ∈ frames) ∧
      ∀ received : List Bytes, (∀ fragment ∈ received, fragment ∈ fragments) →
        (reassemble (received.map fragmentPiece)).length < 20 + scenario.payloadLen := by
  refine ⟨_, context.fragmentation_eq documented draws, rfl, ?_, ?_⟩
  · intro frame listed
    obtain ⟨scenario, -, cut⟩ := List.mem_flatMap.mp listed
    obtain ⟨⟨fragmentWord, part⟩, member, rfl⟩ := List.mem_map.mp cut
    exact context.fragment_refused _ (context.parts_short draws scenario _ member).1 _
  · intro scenario
    refine ⟨_, context.fragments_eq documented draws scenario, ?_, ?_⟩
    · intro fragment cut
      exact List.mem_flatMap.mpr ⟨scenario, by cases scenario <;> simp [Scenario.all], cut⟩
    · intro received chosen
      refine Nat.lt_of_le_sub_one (by omega) (reassemble_length_le ?_)
      intro piece placed
      obtain ⟨fragment, taken, rfl⟩ := List.mem_map.mp placed
      obtain ⟨⟨fragmentWord, part⟩, member, rfl⟩ := List.mem_map.mp (chosen fragment taken)
      have short := (context.parts_short draws scenario _ member).2
      dsimp only at short ⊢
      rw [fragmentPiece_frame]
      dsimp only
      omega

theorem fragments_lost_example : ∃ frames,
    Fragmentation.fuzz exampleContext .reference firstDraws = .ok frames ∧ frames.length = 13 ∧
    (∀ frame ∈ frames, ¬ Ipv4Verifies frame) ∧
    ∀ scenario : Scenario, ∃ fragments, scenario.fragments exampleContext .reference firstDraws =
      .ok fragments ∧ (∀ fragment ∈ fragments, fragment ∈ frames) ∧
      ∀ received : List Bytes, (∀ fragment ∈ received, fragment ∈ fragments) →
        (reassemble (received.map fragmentPiece)).length < 20 + scenario.payloadLen :=
  exampleContext.fragments_lost Etherparse.reference_documented firstDraws

/-- What the options campaign means as options is data: the TCP header of no packet has any. -/
theorem options_are_data {crate : Etherparse} (documented : crate.Documented)
    (draws : CampaignDraws) :
    ∃ frames, TcpOptions.fuzz context crate draws = .ok frames ∧
    (frames.map fun frame => frame.drop 54) = [2, 4, 5, 0xB4, 0, 0] :: TcpOptions.malformed ∧
    ∀ frame ∈ frames, decodeOptions (optionArea (frame.drop 34)) = some [] := by
  have data (gen : Nat → UInt8) (options : Bytes) :
      ((context.baseLayers gen 0).withOptions options).drop 54 = options := by
    rw [withOptions_eq, ← List.drop_drop (i := 20) (j := 34), drop_headers,
      List.drop_left' (by simp)]
  have without (gen : Nat → UInt8) (options : Bytes) :
      decodeOptions (optionArea (((context.baseLayers gen 0).withOptions options).drop 34)) =
        some [] := by
    rw [withOptions_eq, drop_headers, optionArea_base, decodeOptions, optionWalk_nil]
    rfl
  refine ⟨_, context.tcpOptions_eq documented draws, ?_, ?_⟩
  · rw [List.map_cons, data, List.map_map]
    refine congrArg _ ?_
    simp only [Function.comp_def, data]
    exact List.zipIdx_map_fst ..
  · refine List.forall_mem_cons.mpr ⟨without _ _, ?_⟩
    intro frame listed
    obtain ⟨⟨options, index⟩, -, rfl⟩ := List.mem_map.mp listed
    exact without _ _

theorem options_are_data_example :
    ∃ frames, TcpOptions.fuzz exampleContext .reference firstDraws = .ok frames ∧
    (frames.map fun frame => frame.drop 54) = [2, 4, 5, 0xB4, 0, 0] :: TcpOptions.malformed ∧
    ∀ frame ∈ frames, decodeOptions (optionArea (frame.drop 34)) = some [] :=
  exampleContext.options_are_data Etherparse.reference_documented firstDraws

/-- Which headers of the checksum campaign verify, by the checksum that each should have: the first
one; those of all zeros and all ones only where the right checksum is zero, and the random ones
where they hit it. The one that is off by one never does. -/
theorem checksums_verify {crate : Etherparse} (documented : crate.Documented)
    (draws : CampaignDraws) :
    ∃ frames, Checksum.fuzz context crate draws = .ok frames ∧
    let good (payloadLen : Nat) := context.goodChecksum (claimedLength payloadLen)
    let hit (payloadLen : Nat) (word : UInt16) :=
      decide (word = good payloadLen ∨ good payloadLen = 0 ∧ word = 0xFFFF)
    (frames.map fun frame => decide (Ipv4Verifies frame)) =
      [true, decide (good 100 = 0), hit 100 (draws.word 0), false, decide (good 100 = 0)] ++
        (List.range 5).map fun i => hit (draws.size i) (draws.word (1 + i)) := by
  have notMax := context.goodChecksum_ne_max (claimedLength 100)
  refine ⟨_, context.checksum_fuzz_eq documented draws, ?_⟩
  simp only [List.map_cons, List.map_map, packet_eq, withChecksum_eq, verifies_checksum_iff,
    Function.comp_def]
  have cleared (good : UInt16) : (0 = good ∨ good = 0 ∧ (0 : UInt16) = 0xFFFF) ↔ good = 0 := by
    simp [eq_comm]
  have filled {good : UInt16} (notMax : good ≠ 0xFFFF) : (0xFFFF = good ∨ good = 0 ∧ True) ↔
      good = 0 := by
    simp [notMax.symm]
  have next (good : UInt16) : ¬ (good + 1 = good ∨ good = 0 ∧ good + 1 = 0xFFFF) := by
    rintro (same | ⟨rfl, max⟩)
    · have wrapped := congrArg UInt16.toNat same
      rw [UInt16.toNat_add, UInt16.toNat_one] at wrapped
      have bound := good.toNat_lt
      omega
    · exact absurd max (by decide)
  simp only [cleared, filled notMax, next, true_or, decide_true, decide_false]
  rfl

theorem checksums_verify_example :
    ∃ frames, Checksum.fuzz exampleContext .reference firstDraws = .ok frames ∧
    let good (payloadLen : Nat) := exampleContext.goodChecksum (claimedLength payloadLen)
    let hit (payloadLen : Nat) (word : UInt16) :=
      decide (word = good payloadLen ∨ good payloadLen = 0 ∧ word = 0xFFFF)
    (frames.map fun frame => decide (Ipv4Verifies frame)) =
      [true, decide (good 100 = 0), hit 100 (firstDraws.word 0), false, decide (good 100 = 0)] ++
        (List.range 5).map fun i => hit (firstDraws.size i) (firstDraws.word (1 + i)) :=
  exampleContext.checksums_verify Etherparse.reference_documented firstDraws

end PacketContext

end FragglePacket.Fuzzing
