import FragglePacket.Fuzzing.Dsl

/-! What one layer adds to a build: the header bytes it writes in front of its
payload, and the payloads it refuses; and with it which stacks of layers build at all. -/

namespace FragglePacket.Fuzzing

open FragglePacket.Wire

theorem serializeTcpOptions_aligned (opts : List TcpOpt) :
    (serializeTcpOptions opts).length % 4 = 0 := by
  simp only [serializeTcpOptions, List.length_append, List.length_replicate]
  omega

/-- The options that reach the wire: all of them, or none when they do not fit. -/
def Tcp.optionBytes (t : Tcp) : Bytes :=
  if (serializeTcpOptions t.options).length ≤ 40 then serializeTcpOptions t.options else []

theorem Tcp.optionBytes_aligned (t : Tcp) : t.optionBytes.length % 4 = 0 := by
  unfold Tcp.optionBytes
  split
  · exact serializeTcpOptions_aligned t.options
  · rfl

theorem Tcp.optionBytes_length_le (t : Tcp) : t.optionBytes.length ≤ 40 := by
  unfold Tcp.optionBytes
  split
  · assumption
  · exact Nat.zero_le _

/-- The TCP header in front of a payload; its checksum field is zero. -/
def Tcp.plainHeader (t : Tcp) : TcpHeader :=
  { TcpHeader.fresh t.sport t.dport t.seq t.window with
    acknowledgmentNumber := t.ack
    syn := t.flags.syn
    ack := t.flags.ack
    psh := t.flags.psh
    fin := t.flags.fin
    rst := t.flags.rst
    urg := t.flags.urg
    options := t.optionBytes }

theorem Tcp.header_eq {crate : Etherparse} (documented : crate.Documented) (t : Tcp) :
    t.header crate = t.plainHeader := by
  simp only [Tcp.header, Tcp.plainHeader, Tcp.optionBytes, documented.tcpNew]
  by_cases empty : serializeTcpOptions t.options = []
  · simp [empty, TcpHeader.fresh]
  · have kept : (serializeTcpOptions t.options).isEmpty = false := by simpa using empty
    rw [kept]
    by_cases fits : (serializeTcpOptions t.options).length ≤ 40
    · simp [documented.setOptions _ _ fits (serializeTcpOptions_aligned _), fits]
    · simp [documented.setOptions_tooBig _ _ (Nat.not_le.mp fits), fits, TcpHeader.fresh]

/-- The IPv4 header in front of a payload of `size` bytes. -/
def Ip.header (ip : Ip) (upper : List Layer) (size : Nat) : Ipv4Header :=
  { Ipv4Header.fresh (.ofNat size) ip.ttl (ip.proto.getD (inferIpProto upper)) ip.src ip.dst with
    identification := ip.id
    dontFragment := ip.dontFragment
    moreFragments := ip.moreFragments
    fragmentOffset := if ip.fragmentOffset.toNat ≤ 8191 then ip.fragmentOffset else 0 }

def Ipv6.header (ip : Ipv6) (upper : List Layer) (size : Nat) : Ipv6Header where
  trafficClass := 0
  flowLabel := if ip.flowLabel.toNat ≤ 0xFFFFF then ip.flowLabel else 0
  payloadLength := .ofNat size
  nextHeader := ip.nextHeader.getD (inferIpProto upper)
  hopLimit := ip.hopLimit
  source := ip.src
  destination := ip.dst

def Udp.header (u : Udp) (random : UInt16) (size : Nat) : UdpHeader where
  sourcePort := u.sport
  destinationPort := u.dport
  length := 8 + .ofNat size
  checksum := udpChecksum u.checksum random

def Vlan.tci (v : Vlan) : UInt16 := (v.pcp.toUInt16 <<< 13) ||| (v.vid &&& 0x0FFF)

/-- The header a layer writes in front of a payload of `size` bytes. -/
def Layer.headerBytes (random : UInt16) (upper : List Layer) (size : Nat) : Layer → Bytes
  | .ether e => Ethernet2Header.layout {
      source := e.src
      destination := e.dst
      etherType := e.etherType.getD (inferEtherType upper) }
  | .vlan v => [0x81, 0x00] ++ be16 v.tci ++ be16 (inferEtherType upper)
  | .ip i =>
    let header := i.header upper size
    overrideChecksum i.checksum random 10 (header.layout (internetChecksum (header.layout 0)))
  | .ipv6 i => (i.header upper size).layout
  | .tcp t => overrideChecksum t.checksum random 16 t.plainHeader.layout
  | .udp u => (u.header random size).layout
  | .icmp i => [i.icmpType, i.code, 0, 0] ++ i.restOfHeader
  | .icmpv6 i => [i.icmpType, i.code, 0, 0]
  | .raw r => r.load

/-- The length the header of a layer has, whatever its payload. -/
def Layer.headerSize : Layer → Nat
  | .ether _ => 14
  | .vlan _ => 6
  | .ip _ => 20
  | .ipv6 _ => 40
  | .tcp t => 20 + t.optionBytes.length
  | .udp _ => 8
  | .icmp _ => 8
  | .icmpv6 _ => 4
  | .raw r => r.load.length

/-- The payload sizes a layer accepts: an IPv4 header refuses a truncated length
above 65515, and the addition for the UDP length may panic. -/
def Layer.Accepts (overflowChecks : Bool) (size : Nat) : Layer → Prop
  | .ip _ => size % 65536 ≤ 65515
  | .udp _ => overflowChecks = true → size % 65536 < 65528
  | _ => True

def Layer.isRaw : Layer → Bool
  | .raw _ => true
  | _ => false

@[simp] theorem overwrite_length (bytes : Bytes) (offset : Nat) (value : UInt16) :
    (overwrite bytes offset value).length = bytes.length := by
  unfold overwrite
  split
  · simp only [List.length_append, List.length_take, be16_length, List.length_drop]
    omega
  · rfl

@[simp] theorem overrideChecksum_length (mode : ChecksumMode) (random : UInt16) (offset : Nat)
    (bytes : Bytes) :
    (overrideChecksum mode random offset bytes).length = bytes.length := by
  cases mode with
  | auto => rfl
  | fixed value => exact overwrite_length bytes offset value
  | bad => exact overwrite_length bytes offset random

theorem Icmp.restOfHeader_length (i : Icmp) : i.restOfHeader.length = 4 := by
  unfold Icmp.restOfHeader
  split
  · rfl
  · split <;> rfl

theorem Layer.headerBytes_length (layer : Layer) (random : UInt16) (upper : List Layer)
    (size : Nat) :
    (layer.headerBytes random upper size).length = layer.headerSize := by
  cases layer with
  | tcp t => simp [Layer.headerBytes, Layer.headerSize, Tcp.plainHeader]
  | icmp i => simp [Layer.headerBytes, Layer.headerSize, i.restOfHeader_length]
  | _ => simp [Layer.headerBytes, Layer.headerSize]

theorem overwrite_layout (header : Ipv4Header) (checksum value : UInt16) :
    overwrite (header.layout checksum) 10 value = header.layout value := by
  simp only [overwrite, Ipv4Header.layout_length, Nat.reduceAdd, Nat.reduceLeDiff, ↓reduceIte]
  simp [Ipv4Header.layout, be16]

/-- Whatever happens to its checksum, the header keeps its layout. -/
theorem ip_headerBytes (i : Ip) (random : UInt16) (upper : List Layer) (size : Nat) :
    ∃ checksum, (Layer.ip i).headerBytes random upper size =
      (i.header upper size).layout checksum := by
  simp only [Layer.headerBytes]
  cases i.checksum with
  | auto => exact ⟨_, rfl⟩
  | fixed value => exact ⟨value, overwrite_layout _ _ _⟩
  | bad => exact ⟨random, overwrite_layout _ _ _⟩

theorem wordAt_behind_header (layer : Layer) (random : UInt16) (upper : List Layer) (size : Nat)
    (rest : Bytes) (offset : Nat) :
    wordAt (layer.headerBytes random upper size ++ rest) (layer.headerSize + offset) =
      wordAt rest offset := by
  rw [← wordAt_drop, List.drop_left' (layer.headerBytes_length random upper size)]

@[simp] private theorem buildError_ok (value : α) : buildError (.ok value) = .ok value := rfl

private theorem fragOffset_getD {crate : Etherparse} (documented : crate.Documented)
    (offset : UInt16) :
    (crate.ipFragOffsetTryFrom offset).getD 0 = if offset.toNat ≤ 8191 then offset else 0 := by
  by_cases small : offset.toNat ≤ 8191
  · simp [documented.fragOffset offset small, small]
  · simp [documented.fragOffset_tooBig offset (Nat.not_le.mp small), small]

private theorem flowLabel_getD {crate : Etherparse} (documented : crate.Documented)
    (label : UInt32) :
    (crate.ipv6FlowLabelTryNew label).getD 0 = if label.toNat ≤ 0xFFFFF then label else 0 := by
  by_cases small : label.toNat ≤ 0xFFFFF
  · simp [documented.flowLabel label small, small]
  · simp [documented.flowLabel_tooBig label (Nat.not_le.mp small), small]

private theorem ipv6Write_header {crate : Etherparse} (documented : crate.Documented) (ip : Ipv6)
    (upper : List Layer) (size : Nat) :
    crate.ipv6HeaderWrite (ip.header upper size) = .ok (ip.header upper size).layout := by
  refine documented.ipv6Write _ ?_
  simp only [Ipv6.header]
  split
  · assumption
  · exact Nat.zero_le _

private theorem udpLength_ok {overflowChecks : Bool} {size : Nat}
    (small : overflowChecks = true → size % 65536 < 65528) :
    udpLength overflowChecks size = .ok (8 + .ofNat size) := by
  refine if_neg ?_
  simp only [UInt16.toNat_ofNat', Bool.and_eq_true, decide_eq_true_eq, not_and]
  intro checks
  have bound := small checks
  omega

private theorem udpLength_overflow {overflowChecks : Bool} {size : Nat}
    (checks : overflowChecks = true) (big : 65528 ≤ size % 65536) :
    udpLength overflowChecks size = .error .overflow := by
  refine if_pos ?_
  simp only [UInt16.toNat_ofNat', Bool.and_eq_true, decide_eq_true_eq]
  exact ⟨checks, by omega⟩

section Step
variable {crate : Etherparse} {overflowChecks : Bool} {draw : Nat → UInt16} {upper : List Layer}

/-- The layers above fail first. -/
theorem buildLayers_cons_above (documented : crate.Documented) {layer : Layer}
    (below : layer.isRaw = false) {failure : Failure}
    (failed : buildLayers crate overflowChecks draw upper = .error failure) :
    buildLayers crate overflowChecks draw (layer :: upper) = .error failure := by
  cases layer with
  | raw r => cases below
  | ether e => simp [buildLayers, failed, documented.ethernet2Write, bind, Except.bind]
  | _ => simp [buildLayers, failed, bind, Except.bind]

/-- A layer that accepts the bytes of those above it puts its header in front of them. -/
theorem buildLayers_cons_accepts (documented : crate.Documented) {layer : Layer}
    (below : layer.isRaw = false) {rest : Bytes}
    (built : buildLayers crate overflowChecks draw upper = .ok rest)
    (accepts : layer.Accepts overflowChecks rest.length) :
    buildLayers crate overflowChecks draw (layer :: upper) =
      .ok (layer.headerBytes (draw upper.length) upper rest.length ++ rest) := by
  cases layer with
  | raw r => cases below
  | ether e =>
    simp [buildLayers, built, documented.ethernet2Write, bind, Except.bind, pure, Except.pure,
      Layer.headerBytes]
  | vlan v =>
    simp [buildLayers, built, bind, Except.bind, pure, Except.pure, Layer.headerBytes, Vlan.tci]
  | ip i =>
    have small : (UInt16.ofNat rest.length).toNat ≤ 65515 := by simpa [Layer.Accepts] using accepts
    simp [buildLayers, built, bind, Except.bind, pure, Except.pure,
      documented.ipv4New _ _ _ _ _ small, documented.ipv4Write, fragOffset_getD documented,
      Layer.headerBytes, Ip.header]
  | ipv6 i =>
    have written := ipv6Write_header documented i upper rest.length
    simp only [Ipv6.header] at written
    simp [buildLayers, built, bind, Except.bind, pure, Except.pure,
      flowLabel_getD documented, written, Layer.headerBytes, Ipv6.header]
  | tcp t =>
    have written := documented.tcpWrite t.plainHeader t.optionBytes_length_le t.optionBytes_aligned
    simp [buildLayers, built, bind, Except.bind, pure, Except.pure, t.header_eq documented, written,
      Layer.headerBytes]
  | udp u =>
    simp [buildLayers, built, bind, Except.bind, pure, Except.pure, udpLength_ok accepts,
      documented.udpWrite, Layer.headerBytes, Udp.header]
  | icmp i => simp [buildLayers, built, bind, Except.bind, pure, Except.pure, Layer.headerBytes]
  | icmpv6 i => simp [buildLayers, built, bind, Except.bind, pure, Except.pure, Layer.headerBytes]

/-- Only an IPv4 layer returns an error by itself, and only a UDP layer panics. -/
theorem buildLayers_cons_refuses (documented : crate.Documented) {layer : Layer}
    {rest : Bytes} (built : buildLayers crate overflowChecks draw upper = .ok rest)
    (refuses : ¬ layer.Accepts overflowChecks rest.length) :
    ((∃ i, layer = .ip i) ∧ ∃ message,
      buildLayers crate overflowChecks draw (layer :: upper) = .error (.build message)) ∨
    ((∃ u, layer = .udp u) ∧
      buildLayers crate overflowChecks draw (layer :: upper) = .error .overflow) := by
  cases layer with
  | ip i =>
    have big : 65515 < (UInt16.ofNat rest.length).toNat := by simpa [Layer.Accepts] using refuses
    obtain ⟨message, refused⟩ :=
      documented.ipv4New_tooBig _ i.ttl (i.proto.getD (inferIpProto upper)) i.src i.dst big
    refine .inl ⟨⟨i, rfl⟩, message, ?_⟩
    simp [buildLayers, built, bind, Except.bind, refused, buildError, Except.mapError]
  | udp u =>
    simp only [Layer.Accepts, Classical.not_imp] at refuses
    refine .inr ⟨⟨u, rfl⟩, ?_⟩
    simp [buildLayers, built, bind, Except.bind,
      udpLength_overflow refuses.1 (Nat.not_lt.mp refuses.2)]
  | _ => simp [Layer.Accepts] at refuses

theorem buildLayers_cons (documented : crate.Documented) {layer : Layer}
    (below : layer.isRaw = false) (bytes : Bytes) :
    buildLayers crate overflowChecks draw (layer :: upper) = .ok bytes ↔
      ∃ rest, buildLayers crate overflowChecks draw upper = .ok rest ∧
        layer.Accepts overflowChecks rest.length ∧
        bytes = layer.headerBytes (draw upper.length) upper rest.length ++ rest := by
  cases built : buildLayers crate overflowChecks draw upper with
  | error failure => simp [buildLayers_cons_above documented below built]
  | ok rest =>
    by_cases accepts : layer.Accepts overflowChecks rest.length
    · simp [buildLayers_cons_accepts documented below built accepts, accepts, eq_comm]
    · rcases buildLayers_cons_refuses documented built accepts with ⟨_, _, failed⟩ | ⟨_, failed⟩ <;>
        simp [failed, accepts]

end Step

/-- Over a stack of layers: a raw layer hides those above it, every
other layer stands below them. -/
@[elab_as_elim]
theorem stack_induction {motive : List Layer → Prop} (layers : List Layer) (nil : motive [])
    (raw : ∀ r upper, motive (.raw r :: upper))
    (cons : ∀ layer upper, layer.isRaw = false → motive upper → motive (layer :: upper)) :
    motive layers := by
  induction layers with
  | nil => exact nil
  | cons layer upper ih =>
    cases layer with
    | raw r => exact raw r upper
    | _ => exact cons _ upper rfl ih

/-- The bytes a stack of layers takes; a raw layer hides those above it. -/
def encodedSize : List Layer → Nat
  | [] => 0
  | .raw r :: _ => r.load.length
  | layer :: upper => layer.headerSize + encodedSize upper

@[simp] theorem encodedSize_raw (r : Raw) (upper : List Layer) :
    encodedSize (.raw r :: upper) = r.load.length := rfl

theorem encodedSize_cons {layer : Layer} (below : layer.isRaw = false) (upper : List Layer) :
    encodedSize (layer :: upper) = layer.headerSize + encodedSize upper := by
  cases layer with
  | raw r => cases below
  | _ => rfl

@[simp] theorem buildLayers_nil (crate : Etherparse) (overflowChecks : Bool) (draw : Nat → UInt16) :
    buildLayers crate overflowChecks draw [] = .ok [] := rfl

@[simp] theorem buildLayers_raw (crate : Etherparse) (overflowChecks : Bool) (draw : Nat → UInt16)
    (r : Raw) (upper : List Layer) :
    buildLayers crate overflowChecks draw (.raw r :: upper) = .ok r.load := rfl

theorem buildLayers_length {crate : Etherparse} (documented : crate.Documented)
    {overflowChecks : Bool} {draw : Nat → UInt16} {layers : List Layer} {bytes : Bytes}
    (built : buildLayers crate overflowChecks draw layers = .ok bytes) :
    bytes.length = encodedSize layers := by
  induction layers using stack_induction generalizing bytes with
  | nil => cases built; rfl
  | raw r upper => cases built; rfl
  | cons layer upper below ih =>
    obtain ⟨rest, above, _, rfl⟩ := (buildLayers_cons documented below bytes).mp built
    rw [List.length_append, layer.headerBytes_length, encodedSize_cons below, ih above]

/-- Below the raw layers, a build is the headers of the lower layers in front of what
the layers above them build. -/
theorem buildLayers_append {crate : Etherparse} (documented : crate.Documented)
    {overflowChecks : Bool} {draw : Nat → UInt16} {before above : List Layer}
    (noRaw : ∀ layer ∈ before, layer.isRaw = false) {bytes : Bytes}
    (built : buildLayers crate overflowChecks draw (before ++ above) = .ok bytes) :
    ∃ front tail, bytes = front ++ tail ∧ front.length = encodedSize before ∧
      buildLayers crate overflowChecks draw above = .ok tail := by
  induction before generalizing bytes with
  | nil => exact ⟨[], bytes, rfl, rfl, built⟩
  | cons layer rest ih =>
    have below : layer.isRaw = false := noRaw layer List.mem_cons_self
    obtain ⟨inner, builtInner, _, rfl⟩ := (buildLayers_cons documented below bytes).mp built
    obtain ⟨front, tail, rfl, size, builtTail⟩ :=
      ih (fun other member => noRaw other (List.mem_cons_of_mem _ member)) builtInner
    refine ⟨_ ++ front, tail, (List.append_assoc _ _ _).symm, ?_, builtTail⟩
    rw [List.length_append, Layer.headerBytes_length, size, encodedSize_cons below]

/-- What lies behind a raw layer takes no space. -/
theorem encodedSize_append_raw {before : List Layer} {layer : Layer} (raw : layer.isRaw = true)
    (member : layer ∈ before) (above : List Layer) :
    encodedSize (before ++ above) = encodedSize before := by
  induction before with
  | nil => cases member
  | cons first rest ih =>
    cases below : first.isRaw with
    | true =>
      cases first with
      | raw r => rfl
      | _ => cases below
    | false =>
      have inRest : layer ∈ rest := by
        rcases List.mem_cons.mp member with rfl | inRest
        · simp [raw] at below
        · exact inRest
      rw [List.cons_append, encodedSize_cons below, encodedSize_cons below, ih inRest]

/-- Every layer accepts the bytes of the layers above it. -/
def Buildable (overflowChecks : Bool) : List Layer → Prop
  | [] => True
  | .raw _ :: _ => True
  | layer :: upper =>
    Buildable overflowChecks upper ∧ layer.Accepts overflowChecks (encodedSize upper)

def Layer.isUdp : Layer → Bool
  | .udp _ => true
  | _ => false

/-- The innermost layer that refuses its payload is a UDP layer, whose length panics. -/
def Panics (overflowChecks : Bool) : List Layer → Prop
  | [] => False
  | .raw _ :: _ => False
  | layer :: upper => Panics overflowChecks upper ∨
      Buildable overflowChecks upper ∧ layer.isUdp = true ∧
        ¬ layer.Accepts overflowChecks (encodedSize upper)

theorem buildable_cons {layer : Layer} (below : layer.isRaw = false) (overflowChecks : Bool)
    (upper : List Layer) :
    Buildable overflowChecks (layer :: upper) ↔
      Buildable overflowChecks upper ∧ layer.Accepts overflowChecks (encodedSize upper) := by
  cases layer with
  | raw r => cases below
  | _ => rfl

theorem panics_cons {layer : Layer} (below : layer.isRaw = false) (overflowChecks : Bool)
    (upper : List Layer) :
    Panics overflowChecks (layer :: upper) ↔ Panics overflowChecks upper ∨
      Buildable overflowChecks upper ∧ layer.isUdp = true ∧
        ¬ layer.Accepts overflowChecks (encodedSize upper) := by
  cases layer with
  | raw r => cases below
  | _ => rfl

section Outcomes
variable {crate : Etherparse} (documented : crate.Documented) (overflowChecks : Bool)
  (draw : Nat → UInt16) (layers : List Layer)
include documented

/-- The three ways a build ends, one for each kind of stack. -/
theorem buildLayers_outcome :
    (Buildable overflowChecks layers ∧ ¬ Panics overflowChecks layers ∧
      ∃ bytes, buildLayers crate overflowChecks draw layers = .ok bytes) ∨
    (¬ Buildable overflowChecks layers ∧ Panics overflowChecks layers ∧
      buildLayers crate overflowChecks draw layers = .error .overflow) ∨
    (¬ Buildable overflowChecks layers ∧ ¬ Panics overflowChecks layers ∧
      ∃ message, buildLayers crate overflowChecks draw layers = .error (.build message)) := by
  induction layers using stack_induction with
  | nil => exact .inl ⟨trivial, id, [], rfl⟩
  | raw r upper => exact .inl ⟨trivial, id, r.load, rfl⟩
  | cons layer upper below ih =>
    rw [buildable_cons below, panics_cons below]
    rcases ih with ⟨buildable, calm, rest, built⟩ | ⟨stuck, panics, failed⟩ |
      ⟨stuck, calm, message, failed⟩
    · have size : rest.length = encodedSize upper := buildLayers_length documented built
      by_cases accepts : layer.Accepts overflowChecks (encodedSize upper)
      · have whole := buildLayers_cons_accepts documented below built (size ▸ accepts)
        exact .inl ⟨⟨buildable, accepts⟩, by simp [calm, accepts], _, whole⟩
      · rcases buildLayers_cons_refuses documented built (size ▸ accepts) with
          ⟨⟨i, rfl⟩, message, failed⟩ | ⟨⟨u, rfl⟩, failed⟩
        · exact .inr (.inr ⟨fun whole => accepts whole.2, by simp [calm, Layer.isUdp],
            message, failed⟩)
        · exact .inr (.inl ⟨fun whole => accepts whole.2, .inr ⟨buildable, rfl, accepts⟩, failed⟩)
    · exact .inr (.inl ⟨fun whole => stuck whole.1, .inl panics,
        buildLayers_cons_above documented below failed⟩)
    · refine .inr (.inr ⟨fun whole => stuck whole.1, by simp [calm, stuck], message, ?_⟩)
      exact buildLayers_cons_above documented below failed

theorem buildLayers_ok_iff :
    (∃ bytes, buildLayers crate overflowChecks draw layers = .ok bytes) ↔
      Buildable overflowChecks layers := by
  rcases buildLayers_outcome documented overflowChecks draw layers with
    ⟨buildable, _, built⟩ | ⟨stuck, _, failed⟩ | ⟨stuck, _, message, failed⟩
  · exact iff_of_true built buildable
  · exact iff_of_false (by simp [failed]) stuck
  · exact iff_of_false (by simp [failed]) stuck

theorem buildLayers_error_iff :
    (∃ message, buildLayers crate overflowChecks draw layers = .error (.build message)) ↔
      ¬ Buildable overflowChecks layers ∧ ¬ Panics overflowChecks layers := by
  rcases buildLayers_outcome documented overflowChecks draw layers with
    ⟨builds, quiet, bytes, built⟩ | ⟨stuck, panics, failed⟩ | ⟨stuck, quiet, message, failed⟩
  · simp [built, builds]
  · simp [failed, panics]
  · simp [failed, stuck, quiet]

theorem buildLayers_overflow_iff :
    buildLayers crate overflowChecks draw layers = .error .overflow ↔
      Panics overflowChecks layers := by
  rcases buildLayers_outcome documented overflowChecks draw layers with
    ⟨_, calm, bytes, built⟩ | ⟨_, panics, failed⟩ | ⟨_, calm, message, failed⟩
  · exact iff_of_false (by simp [built]) calm
  · exact iff_of_true failed panics
  · exact iff_of_false (by simp [failed]) calm

end Outcomes

end FragglePacket.Fuzzing
