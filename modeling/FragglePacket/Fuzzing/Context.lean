import FragglePacket.Fuzzing.TransportChecksum

/-! The base packet that the fuzzers start from. -/

namespace FragglePacket.Fuzzing

open FragglePacket.Wire

structure PacketContext where
  srcIp : Vector UInt8 4
  dstIp : Vector UInt8 4
  srcMac : Vector UInt8 6
  dstMac : Vector UInt8 6
  srcPort : UInt16
  dstPort : UInt16

/-- The headers and the payload, in the order of the packet. -/
structure BaseLayers where
  eth : Bytes
  ipv4 : Bytes
  tcp : Bytes
  payload : Bytes

namespace PacketContext

variable (context : PacketContext) (crate : Etherparse) (gen : Nat → UInt8)

/-- `gen` gives the random bytes of the payload. -/
def buildBaseLayers (payloadLen : Nat) : Except String BaseLayers := do
  let payload := (List.range payloadLen).map gen
  let eth ← crate.ethernet2HeaderWrite
      { source := context.srcMac, destination := context.dstMac, etherType := 0x0800 }
  let totalLen := 20 + 20 + payloadLen
  let ipv4 ← crate.ipv4HeaderNew (.ofNat totalLen) 64 6 context.srcIp context.dstIp
  let ipv4 ← crate.ipv4HeaderWrite { ipv4 with dontFragment := true }
  let tcp ← crate.tcpHeaderWrite
    { crate.tcpHeaderNew context.srcPort context.dstPort 0 65535 with syn := true }
  return { eth, ipv4, tcp, payload }

def buildPacket (payloadLen : Nat) : Except String Bytes := do
  let layers ← context.buildBaseLayers crate gen payloadLen
  return layers.eth ++ layers.ipv4 ++ layers.tcp ++ layers.payload

end PacketContext

/-- The total length of the IPv4 header behind an Ethernet header. -/
def totalLengthField (packet : Bytes) : Option UInt16 := wordAt packet 16

/-- The total length counts the bytes from the IP header on, and the TCP checksum verifies. -/
structure PacketContext.Valid (context : PacketContext) (packet : Bytes) : Prop where
  totalLength : (totalLengthField packet).map UInt16.toNat = some (packet.drop 14).length
  checksum : onesSum (pseudoHeader context.srcIp context.dstIp 6 (packet.drop 34).length ++
    packet.drop 34) = 0xFFFF

namespace PacketContext

/-- The header with the length that the code passes. -/
def ipv4Header (context : PacketContext) (payloadLen : Nat) : Ipv4Header :=
  .fresh (.ofNat (20 + 20 + payloadLen)) 64 6 context.srcIp context.dstIp

def tcpHeader (context : PacketContext) : TcpHeader :=
  { TcpHeader.fresh context.srcPort context.dstPort 0 65535 with syn := true }

section Build
variable {crate : Etherparse} (documented : crate.Documented) (gen : Nat → UInt8)
  (context : PacketContext) (payloadLen : Nat)
include documented

/-- The packet that is built where the constructor of the header takes the length. -/
theorem buildPacket_eq (fits : (40 + payloadLen) % 65536 ≤ 65515) :
    context.buildPacket crate gen payloadLen = .ok (
      Ethernet2Header.layout ⟨context.srcMac, context.dstMac, 0x0800⟩ ++
        (context.ipv4Header payloadLen).layout
        (internetChecksum ((context.ipv4Header payloadLen).layout 0)) ++ context.tcpHeader.layout ++
      (List.range payloadLen).map gen) := by
  have small : (UInt16.ofNat (20 + 20 + payloadLen)).toNat ≤ 65515 := by
    rw [UInt16.toNat_ofNat']
    exact fits
  have made := documented.ipv4New _ 64 6 context.srcIp context.dstIp small
  have written : crate.tcpHeaderWrite context.tcpHeader = .ok context.tcpHeader.layout :=
    documented.tcpWrite context.tcpHeader (Nat.zero_le 40) rfl
  rw [tcpHeader] at written
  simp only [buildPacket, buildBaseLayers, documented.ethernet2Write, made, documented.ipv4Write,
    documented.tcpNew, written, bind, Except.bind, pure, Except.pure]
  rfl

theorem buildPacket_error (big : 65515 < (40 + payloadLen) % 65536) :
    ∃ message, context.buildPacket crate gen payloadLen = .error message := by
  have refused : 65515 < (UInt16.ofNat (20 + 20 + payloadLen)).toNat := by
    rw [UInt16.toNat_ofNat']
    exact big
  obtain ⟨message, error⟩ := documented.ipv4New_tooBig _ 64 6 context.srcIp context.dstIp refused
  refine ⟨message, ?_⟩
  simp only [buildPacket, buildBaseLayers, documented.ethernet2Write, error, bind, Except.bind]

/-- The length that the constructor takes for the payload's is that of the packet, cut to a
word, so that the field is 20 more; and the TCP checksum stays zero. -/
theorem buildPacket_fields {packet : Bytes}
    (built : context.buildPacket crate gen payloadLen = .ok packet) :
    (packet.drop 14).length = 40 + payloadLen ∧
      (totalLengthField packet).map UInt16.toNat = some ((40 + payloadLen) % 65536 + 20) ∧
      wordAt packet 50 = some 0 := by
  rcases Nat.lt_or_ge 65515 ((40 + payloadLen) % 65536) with big | fits
  · obtain ⟨message, error⟩ := buildPacket_error documented gen context payloadLen big
    rw [error] at built
    cases built
  · rw [buildPacket_eq documented gen context payloadLen fits] at built
    obtain rfl := Except.ok.inj built
    have length : (context.ipv4Header payloadLen).totalLen.toNat =
        (40 + payloadLen) % 65536 + 20 := by
      simp only [ipv4Header, Ipv4Header.fresh, UInt16.toNat_add, UInt16.toNat_ofNat',
        UInt16.reduceToNat]
      omega
    generalize internetChecksum _ = checksum
    refine ⟨?_, ?_, ?_⟩
    · simp [tcpHeader, TcpHeader.fresh]
      omega
    · rw [← length, totalLengthField, ← wordAt_drop _ 14 2]
      simp [wordAt, Ipv4Header.layout, be16]
    · rw [← wordAt_drop _ 34 16, List.append_assoc, List.drop_left' (by simp)]
      simp [wordAt, TcpHeader.layout, be16, be32, tcpHeader, TcpHeader.fresh]

/-- The base packet is valid only where none is built: for the payloads whose packet has a
length that the constructor refuses once it is cut to a word. -/
theorem buildPacket_valid_iff :
    (∀ packet, context.buildPacket crate gen payloadLen = .ok packet → context.Valid packet) ↔
      65515 < (payloadLen + 40) % 65536 := by
  rw [Nat.add_comm]
  constructor
  · intro valid
    by_contra fits
    have built := buildPacket_eq documented gen context payloadLen (Nat.not_lt.mp fits)
    obtain ⟨size, field, -⟩ := buildPacket_fields documented gen context payloadLen built
    have counted := Option.some.inj (field.symm.trans (valid _ built).totalLength)
    omega
  · intro big packet built
    obtain ⟨message, error⟩ := buildPacket_error documented gen context payloadLen big
    rw [error] at built
    cases built

end Build

def exampleContext : PacketContext where
  srcIp := #v[192, 168, 1, 1]
  dstIp := #v[8, 8, 8, 8]
  srcMac := #v[2, 0, 0, 0, 0, 1]
  dstMac := #v[2, 0, 0, 0, 0, 2]
  srcPort := 49152
  dstPort := 443

theorem buildPacket_valid_iff_hundred :
    (∀ packet, exampleContext.buildPacket .reference (fun _ => 0) 100 = .ok packet →
      exampleContext.Valid packet) ↔
      65515 < (100 + 40) % 65536 :=
  buildPacket_valid_iff Etherparse.reference_documented (fun _ => 0) exampleContext 100

/-- The packet of a hundred bytes of payload says that it is 160 bytes long, and is 140. -/
theorem hundred_bytes_invalid :
    ∃ packet, exampleContext.buildPacket .reference (fun _ => 0) 100 = .ok packet ∧
      (packet.drop 14).length = 140 ∧
      totalLengthField packet = some 160 ∧ ¬ exampleContext.Valid packet := by
  refine ⟨_, rfl, by decide +kernel, by decide +kernel, fun valid => ?_⟩
  have counted := valid.totalLength
  revert counted
  decide +kernel

end PacketContext

end FragglePacket.Fuzzing
