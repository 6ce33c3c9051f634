import FragglePacket.Wire.Checksum

/-! The header types of the `etherparse` crate and what its documentation says of
them. The crate itself is a parameter: the packet DSL is modelled over any
implementation with this behaviour. -/

namespace FragglePacket.Fuzzing

open FragglePacket.Wire

structure Ethernet2Header where
  source : Vector UInt8 6
  destination : Vector UInt8 6
  etherType : UInt16

structure Ipv4Header where
  dscp : UInt8
  ecn : UInt8
  totalLen : UInt16
  identification : UInt16
  dontFragment : Bool
  moreFragments : Bool
  fragmentOffset : UInt16
  timeToLive : UInt8
  protocol : UInt8
  source : Vector UInt8 4
  destination : Vector UInt8 4

structure Ipv6Header where
  trafficClass : UInt8
  flowLabel : UInt32
  payloadLength : UInt16
  nextHeader : UInt8
  hopLimit : UInt8
  source : Vector UInt8 16
  destination : Vector UInt8 16

structure TcpHeader where
  sourcePort : UInt16
  destinationPort : UInt16
  sequenceNumber : UInt32
  acknowledgmentNumber : UInt32
  ns : Bool
  cwr : Bool
  ece : Bool
  urg : Bool
  ack : Bool
  psh : Bool
  rst : Bool
  syn : Bool
  fin : Bool
  windowSize : UInt16
  checksum : UInt16
  urgentPointer : UInt16
  options : Bytes

structure UdpHeader where
  sourcePort : UInt16
  destinationPort : UInt16
  length : UInt16
  checksum : UInt16

/-- The functions of the crate that the packet DSL calls. Writing goes to a byte
vector; a failed `setOptionsRaw` leaves the header as it was. -/
structure Etherparse where
  ethernet2HeaderWrite : Ethernet2Header → Except String Bytes
  ipv4HeaderNew : UInt16 → UInt8 → UInt8 → Vector UInt8 4 → Vector UInt8 4 →
    Except String Ipv4Header
  ipv4HeaderWrite : Ipv4Header → Except String Bytes
  ipFragOffsetTryFrom : UInt16 → Option UInt16
  ipv6FlowLabelTryNew : UInt32 → Option UInt32
  ipv6HeaderWrite : Ipv6Header → Except String Bytes
  tcpHeaderNew : UInt16 → UInt16 → UInt32 → UInt16 → TcpHeader
  tcpHeaderSetOptionsRaw : TcpHeader → Bytes → Option TcpHeader
  tcpHeaderWrite : TcpHeader → Except String Bytes
  udpHeaderWrite : UdpHeader → Except String Bytes

def Ethernet2Header.layout (header : Ethernet2Header) : Bytes :=
  header.destination.toList ++ header.source.toList ++ be16 header.etherType

/-- The flag bits and the 13-bit fragment offset in one word. -/
def Ipv4Header.fragmentWord (header : Ipv4Header) : UInt16 :=
  .ofNat ((if header.dontFragment then 0x4000 else 0) +
    (if header.moreFragments then 0x2000 else 0) +
    header.fragmentOffset.toNat % 0x2000)

/-- An IPv4 header without options. -/
def Ipv4Header.layout (header : Ipv4Header) (checksum : UInt16) : Bytes :=
  [0x45, header.dscp * 4 + header.ecn] ++ be16 header.totalLen ++ be16 header.identification ++
    be16 header.fragmentWord ++ [header.timeToLive, header.protocol] ++ be16 checksum ++
    header.source.toList ++ header.destination.toList

def Ipv6Header.layout (header : Ipv6Header) : Bytes :=
  be32 (.ofNat (6 * 0x10000000 + header.trafficClass.toNat * 0x100000 + header.flowLabel.toNat)) ++
    be16 header.payloadLength ++ [header.nextHeader, header.hopLimit] ++
    header.source.toList ++ header.destination.toList

/-- The data offset in the high nibble and the nine flag bits. -/
def TcpHeader.offsetWord (header : TcpHeader) : UInt16 :=
  let bit (flag : Bool) (weight : Nat) := if flag then weight else 0
  .ofNat ((5 + header.options.length / 4) * 4096 + bit header.ns 256 + bit header.cwr 128 +
    bit header.ece 64 + bit header.urg 32 + bit header.ack 16 + bit header.psh 8 +
      bit header.rst 4 +
    bit header.syn 2 + bit header.fin 1)

def TcpHeader.layout (header : TcpHeader) : Bytes :=
  be16 header.sourcePort ++ be16 header.destinationPort ++ be32 header.sequenceNumber ++
    be32 header.acknowledgmentNumber ++ be16 header.offsetWord ++ be16 header.windowSize ++
    be16 header.checksum ++ be16 header.urgentPointer ++ header.options

def UdpHeader.layout (header : UdpHeader) : Bytes :=
  be16 header.sourcePort ++ be16 header.destinationPort ++ be16 header.length ++
    be16 header.checksum

/-- The header `Ipv4Header::new` documents: no options, don't-fragment set, a
total length that adds the header's own 20 bytes. -/
def Ipv4Header.fresh (payloadLen : UInt16) (timeToLive protocol : UInt8)
    (source destination : Vector UInt8 4) : Ipv4Header where
  dscp := 0
  ecn := 0
  totalLen := payloadLen + 20
  identification := 0
  dontFragment := true
  moreFragments := false
  fragmentOffset := 0
  timeToLive := timeToLive
  protocol := protocol
  source := source
  destination := destination

def TcpHeader.fresh (sourcePort destinationPort : UInt16) (sequenceNumber : UInt32)
    (windowSize : UInt16) : TcpHeader where
  sourcePort := sourcePort
  destinationPort := destinationPort
  sequenceNumber := sequenceNumber
  acknowledgmentNumber := 0
  ns := false
  cwr := false
  ece := false
  urg := false
  ack := false
  psh := false
  rst := false
  syn := false
  fin := false
  windowSize := windowSize
  checksum := 0
  urgentPointer := 0
  options := []

/-- The documented behaviour of the crate: the standard wire layouts, the header
checksum `Ipv4Header::write` computes by itself, and the ranges it refuses. -/
structure Etherparse.Documented (crate : Etherparse) : Prop where
  ethernet2Write : ∀ header, crate.ethernet2HeaderWrite header = .ok header.layout
  ipv4New : ∀ len ttl protocol source destination, len.toNat ≤ 65515 →
    crate.ipv4HeaderNew len ttl protocol source destination =
      .ok (.fresh len ttl protocol source destination)
  ipv4New_tooBig : ∀ len ttl protocol source destination, 65515 < len.toNat →
    ∃ message, crate.ipv4HeaderNew len ttl protocol source destination = .error message
  ipv4Write : ∀ header, crate.ipv4HeaderWrite header =
    .ok (header.layout (internetChecksum (header.layout 0)))
  fragOffset : ∀ offset, offset.toNat ≤ 8191 → crate.ipFragOffsetTryFrom offset = some offset
  fragOffset_tooBig : ∀ offset, 8191 < offset.toNat → crate.ipFragOffsetTryFrom offset = none
  flowLabel : ∀ label, label.toNat ≤ 0xFFFFF → crate.ipv6FlowLabelTryNew label = some label
  flowLabel_tooBig : ∀ label, 0xFFFFF < label.toNat → crate.ipv6FlowLabelTryNew label = none
  ipv6Write : ∀ header, header.flowLabel.toNat ≤ 0xFFFFF →
    crate.ipv6HeaderWrite header = .ok header.layout
  tcpNew : ∀ sport dport seq window, crate.tcpHeaderNew sport dport seq window =
    .fresh sport dport seq window
  setOptions : ∀ header data, data.length ≤ 40 → data.length % 4 = 0 →
    crate.tcpHeaderSetOptionsRaw header data = some { header with options := data }
  setOptions_tooBig : ∀ header data, 40 < data.length →
    crate.tcpHeaderSetOptionsRaw header data = none
  tcpWrite : ∀ header, header.options.length ≤ 40 → header.options.length % 4 = 0 →
    crate.tcpHeaderWrite header = .ok header.layout
  udpWrite : ∀ header, crate.udpHeaderWrite header = .ok header.layout

/-- An implementation that behaves as documented. -/
def Etherparse.reference : Etherparse where
  ethernet2HeaderWrite header := .ok header.layout
  ipv4HeaderNew len ttl protocol source destination :=
    if len.toNat ≤ 65515 then .ok (.fresh len ttl protocol source destination)
    else .error "payload_len too big"
  ipv4HeaderWrite header := .ok (header.layout (internetChecksum (header.layout 0)))
  ipFragOffsetTryFrom offset := if offset.toNat ≤ 8191 then some offset else none
  ipv6FlowLabelTryNew label := if label.toNat ≤ 0xFFFFF then some label else none
  ipv6HeaderWrite header := .ok header.layout
  tcpHeaderNew := .fresh
  tcpHeaderSetOptionsRaw header data :=
    if data.length ≤ 40 then
      some { header with options := data ++ List.replicate ((4 - data.length % 4) % 4) 0 }
    else none
  tcpHeaderWrite header := .ok header.layout
  udpHeaderWrite header := .ok header.layout

theorem Etherparse.reference_documented : Etherparse.reference.Documented where
  ethernet2Write _ := rfl
  ipv4New _ _ _ _ _ small := if_pos small
  ipv4New_tooBig _ _ _ _ _ big := ⟨_, if_neg (Nat.not_le.mpr big)⟩
  ipv4Write _ := rfl
  fragOffset _ small := if_pos small
  fragOffset_tooBig _ big := if_neg (Nat.not_le.mpr big)
  flowLabel _ small := if_pos small
  flowLabel_tooBig _ big := if_neg (Nat.not_le.mpr big)
  ipv6Write _ _ := rfl
  tcpNew _ _ _ _ := rfl
  setOptions header data small padded := by
    simp [Etherparse.reference, small, padded]
  setOptions_tooBig _ _ big := if_neg (Nat.not_le.mpr big)
  tcpWrite _ _ _ := rfl
  udpWrite _ := rfl

@[simp] theorem Ethernet2Header.layout_length (header : Ethernet2Header) :
    header.layout.length = 14 := by
  simp [Ethernet2Header.layout]

@[simp] theorem Ipv4Header.layout_length (header : Ipv4Header) (checksum : UInt16) :
    (header.layout checksum).length = 20 := by
  simp [Ipv4Header.layout]

@[simp] theorem Ipv6Header.layout_length (header : Ipv6Header) : header.layout.length = 40 := by
  simp [Ipv6Header.layout]

@[simp] theorem TcpHeader.layout_length (header : TcpHeader) :
    header.layout.length = 20 + header.options.length := by
  simp only [TcpHeader.layout, List.length_append, be16_length, be32_length]

@[simp] theorem UdpHeader.layout_length (header : UdpHeader) : header.layout.length = 8 := by
  simp [UdpHeader.layout]

end FragglePacket.Fuzzing
