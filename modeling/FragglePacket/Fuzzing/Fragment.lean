import FragglePacket.Fuzzing.Build
import FragglePacket.Wire.Reassembly
import Mathlib.Data.List.Forall2

/-! Fragments as the receiver sees them: their headers read back, and their payloads
put together again. -/

namespace FragglePacket.Fuzzing

open FragglePacket.Wire

/-- What a receiver reads off the IPv4 header of a fragment. -/
structure Fragment where
  offset : Nat
  moreFragments : Bool
  protocol : UInt8
  payload : Bytes

/-- Reads the packet that starts with an IPv4 header: the payload runs from the end of
the header to the total length. -/
def readFragment : Bytes → Option Fragment
  | version :: tos :: lenHigh :: lenLow :: idHigh :: idLow :: fragHigh :: fragLow :: ttl ::
      protocol :: rest =>
    let bytes := version :: tos :: lenHigh :: lenLow :: idHigh :: idLow :: fragHigh ::
      fragLow :: ttl ::
      protocol :: rest
    let word := (readBe16 fragHigh fragLow).toNat
    some {
      offset := word % 8192
      moreFragments := word / 8192 % 2 == 1
      protocol := protocol
      payload := (bytes.take (readBe16 lenHigh lenLow).toNat).drop (version.toNat % 16 * 4) }
  | _ => none

/-- The fragments carry `upper` under protocol `proto`: their payloads, placed at
eight times their offsets, give its bytes; all but the last have more to come and
are `fragsize` bytes long. -/
structure Carries (fragsize : Nat) (upper : Bytes) (proto : UInt8)
    (fragments : List Fragment) : Prop where
  data : reassemble (fragments.map fun f => (f.offset * 8, f.payload)) = upper
  protocol : ∀ f ∈ fragments, f.protocol = proto
  more : ∀ f ∈ fragments.dropLast, f.moreFragments = true
  last : ∀ f ∈ fragments.getLast?, f.moreFragments = false
  size : ∀ f ∈ fragments.dropLast, f.payload.length = fragsize

theorem fragmentWord_toNat (header : Ipv4Header) : header.fragmentWord.toNat =
    (if header.dontFragment then 0x4000 else 0) + (if header.moreFragments then 0x2000 else 0) +
      header.fragmentOffset.toNat % 0x2000 := by
  simp only [Ipv4Header.fragmentWord, UInt16.toNat_ofNat']
  split <;> split <;> omega

theorem readFragment_layout (header : Ipv4Header) (checksum : UInt16) (payload : Bytes) :
    readFragment (header.layout checksum ++ payload) = some {
      offset := header.fragmentOffset.toNat % 8192
      moreFragments := header.moreFragments
      protocol := header.protocol
      payload := payload.take (header.totalLen.toNat - 20) } := by
  have shape : header.layout checksum ++ payload = 0x45 :: (header.dscp * 4 + header.ecn) ::
      highByte header.totalLen :: lowByte header.totalLen :: highByte header.identification ::
      lowByte header.identification :: highByte header.fragmentWord ::
        lowByte header.fragmentWord ::
      header.timeToLive :: header.protocol ::
      (be16 checksum ++ header.source.toList ++ header.destination.toList ++ payload) := by
    simp [Ipv4Header.layout, be16]
  have body : ((header.layout checksum ++ payload).take header.totalLen.toNat).drop 20 =
      payload.take (header.totalLen.toNat - 20) := by
    rw [List.drop_take, List.drop_left' (header.layout_length checksum)]
  have offset : header.fragmentWord.toNat % 8192 = header.fragmentOffset.toNat % 8192 := by
    rw [fragmentWord_toNat]
    split <;> split <;> omega
  have flag : (header.fragmentWord.toNat / 8192 % 2 == 1) = header.moreFragments := by
    rw [fragmentWord_toNat]
    cases header.moreFragments <;> cases header.dontFragment <;> simp <;> omega
  rw [shape] at body ⊢
  simp only [readFragment, readBe16_bytes, offset, flag]
  exact congrArg (fun payload => some (Fragment.mk _ _ _ payload)) body

/-- The offset field that reaches the wire: the eighths of the byte offset cut to 16
bits, and zero when they do not fit the field's 13. -/
def wireOffset (offsetBytes : Nat) : Nat :=
  if offsetBytes / 8 % 65536 ≤ 8191 then offsetBytes / 8 % 65536 else 0

section Fragments
variable {crate : Etherparse} {overflowChecks : Bool} {before : List Layer} {ip : Ip}
  {protoHint : Option UInt8}

/-- What a built fragment reads as. -/
theorem readFragment_build (documented : crate.Documented) {draw : Nat → UInt16}
    (noRaw : ∀ layer ∈ before, layer.isRaw = false) {offsetBytes : Nat} {isLast : Bool}
    {chunk bytes : Bytes}
    (built : (fragmentPacket before ip protoHint offsetBytes isLast chunk).build crate
      overflowChecks draw =
      .ok bytes) :
    readFragment (bytes.drop (encodedSize before)) = some {
      offset := wireOffset offsetBytes
      moreFragments := !isLast
      protocol := (protoHint.orElse fun _ => ip.proto).getD 255
      payload := chunk.take (chunk.length % 65536) } := by
  obtain ⟨front, tail, rfl, size, builtTail⟩ := buildLayers_append documented noRaw built
  obtain ⟨payload, builtPayload, accepts, rfl⟩ :=
    (buildLayers_cons documented rfl tail).mp builtTail
  obtain rfl : chunk = payload := Except.ok.inj builtPayload
  obtain ⟨checksum, layout⟩ := ip_headerBytes
    { ip with moreFragments := !isLast, fragmentOffset := .ofNat (offsetBytes / 8),
              proto := protoHint.orElse fun _ => ip.proto } (draw 1) [.raw ⟨chunk⟩] chunk.length
  have small : chunk.length % 65536 ≤ 65515 := accepts
  have total : (UInt16.ofNat chunk.length + 20).toNat - 20 = chunk.length % 65536 := by
    simp only [UInt16.toNat_add, UInt16.toNat_ofNat', UInt16.toNat_ofNat]
    omega
  rw [List.drop_left' size]
  refine (congrArg (fun header => readFragment (header ++ chunk)) layout).trans ?_
  rw [readFragment_layout]
  simp only [Ip.header, Ipv4Header.fresh, total, wireOffset, inferIpProto, UInt16.toNat_ofNat',
    Option.some.injEq, Fragment.mk.injEq, and_true]
  split
  · simp only [UInt16.toNat_ofNat']
    omega
  · rfl

/-- The packet the splitting loop makes in round `k`. -/
def roundPacket (before : List Layer) (ip : Ip) (protoHint : Option UInt8) (upperBytes : Bytes)
    (fragsize k : Nat) : Packet :=
  fragmentPacket before ip protoHint (k * fragsize) (k == (upperBytes.length - 1) / fragsize)
    ((upperBytes.drop (k * fragsize)).take fragsize)

/-- From round `k` on the loop makes the packets of the remaining rounds. -/
theorem fragmentLoop_rounds {upperBytes : Bytes} {fragsize : Nat} (positive : 0 < fragsize)
    (nonempty : 0 < upperBytes.length) (fuel k : Nat) {packets : List Packet}
    (looped : fragmentLoop before ip protoHint upperBytes fragsize fuel
      (min (k * fragsize) upperBytes.length) =
      some packets) :
    packets = (List.range' k ((upperBytes.length - 1) / fragsize + 1 - k)).map
      (roundPacket before ip protoHint upperBytes fragsize) := by
  induction fuel generalizing k packets with
  | zero => cases looped
  | succ fuel ih =>
    have rounds : k * fragsize < upperBytes.length ↔ k ≤ (upperBytes.length - 1) / fragsize := by
      rw [Nat.le_div_iff_mul_le positive]
      omega
    have next : k * fragsize + fragsize < upperBytes.length ↔
        k + 1 ≤ (upperBytes.length - 1) / fragsize := by
      rw [Nat.le_div_iff_mul_le positive, Nat.add_one_mul]
      omega
    rw [fragmentLoop] at looped
    by_cases more : k * fragsize < upperBytes.length
    · have stop : min (min (k * fragsize) upperBytes.length + fragsize) upperBytes.length =
          min ((k + 1) * fragsize) upperBytes.length := by
        rw [Nat.add_one_mul]
        omega
      have start : min (k * fragsize) upperBytes.length = k * fragsize := by omega
      simp only [stop] at looped
      rw [if_pos (by omega)] at looped
      obtain ⟨rest, later, rfl⟩ := Option.map_eq_some_iff.mp looped
      rw [ih (k + 1) later]
      have count : (upperBytes.length - 1) / fragsize + 1 - k =
          ((upperBytes.length - 1) / fragsize + 1 - (k + 1)) + 1 := by
        have bound := rounds.mp more
        omega
      rw [count, List.range'_succ, List.map_cons, start]
      have chunk : (upperBytes.take (min ((k + 1) * fragsize) upperBytes.length)).drop
          (k * fragsize) =
          (upperBytes.drop (k * fragsize)).take fragsize := by
        rw [List.drop_take, List.take_eq_take_iff, List.length_drop, Nat.add_one_mul]
        omega
      have last : (min ((k + 1) * fragsize) upperBytes.length == upperBytes.length) =
          (k == (upperBytes.length - 1) / fragsize) := by
        rw [Bool.eq_iff_iff, beq_iff_eq, beq_iff_eq, Nat.add_one_mul]
        omega
      rw [chunk, last]
      rfl
    · rw [if_neg (by omega)] at looped
      obtain rfl := Option.some.inj looped
      have none : (upperBytes.length - 1) / fragsize + 1 - k = 0 := by omega
      rw [none]
      rfl

/-- A positive fragment size ends the loop after one round a byte at most. -/
theorem fragmentLoop_returns {upperBytes : Bytes} {fragsize : Nat} (positive : 0 < fragsize)
    (fuel offsetBytes : Nat) (enough : upperBytes.length - offsetBytes < fuel) :
    ∃ packets, fragmentLoop before ip protoHint upperBytes fragsize fuel offsetBytes =
      some packets := by
  induction fuel generalizing offsetBytes with
  | zero => omega
  | succ fuel ih =>
    by_cases more : offsetBytes < upperBytes.length
    · obtain ⟨packets, looped⟩ := ih (min (offsetBytes + fragsize) upperBytes.length) (by omega)
      simp [fragmentLoop, more, looped]
    · simp [fragmentLoop, more]

theorem fragment_rounds (documented : crate.Documented) {draw : Nat → UInt16} {packet : Packet}
    {upper : List Layer} (split : splitAtIp packet.layers = some (before, ip, upper))
    {fuel fragsize : Nat} (positive : 0 < fragsize) (aligned : fragsize % 8 = 0)
    (nonempty : encodedSize upper ≠ 0) {packets : List Packet}
    (fragmented : packet.fragment crate overflowChecks draw fuel fragsize =
      some (.ok packets)) :
    ∃ upperBytes, buildLayers crate overflowChecks draw upper = .ok upperBytes ∧
      packets = (List.range ((upperBytes.length - 1) / fragsize + 1)).map
        (roundPacket before ip (inferProtoFromLayers upper) upperBytes fragsize) := by
  simp only [Packet.fragment, aligned, ne_eq, not_true_eq_false, ↓reduceIte, split] at fragmented
  cases built : buildLayers crate overflowChecks draw upper with
  | error failure => simp [built] at fragmented
  | ok upperBytes =>
    have size : upperBytes.length = encodedSize upper := buildLayers_length documented built
    have bytes : ¬ upperBytes.length = 0 := by rwa [size]
    simp only [built, bytes, ↓reduceIte] at fragmented
    obtain ⟨made, looped, same⟩ := Option.map_eq_some_iff.mp fragmented
    obtain rfl : made = packets := Except.ok.inj same
    refine ⟨upperBytes, rfl, ?_⟩
    have start : fragmentLoop before ip (inferProtoFromLayers upper) upperBytes fragsize fuel
        (min (0 * fragsize) upperBytes.length) = some made := by simpa using looped
    have rounds := fragmentLoop_rounds positive (Nat.pos_of_ne_zero bytes) fuel 0 start
    rwa [Nat.sub_zero, ← List.range_eq_range'] at rounds

/-- What the receiver has of round `k`. -/
def received (proto : UInt8) (upperBytes : Bytes) (fragsize k : Nat) : Fragment :=
  let chunk := (upperBytes.drop (k * fragsize)).take fragsize
  { offset := wireOffset (k * fragsize)
    moreFragments := !(k == (upperBytes.length - 1) / fragsize)
    protocol := proto
    payload := chunk.take (chunk.length % 65536) }

theorem read_rounds (documented : crate.Documented) (noRaw : ∀ layer ∈ before, layer.isRaw = false)
    {upperBytes : Bytes} {fragsize : Nat} {rounds : List Nat} {outputs : List Bytes}
    (built : List.Forall₂ (fun k bytes =>
      ∃ draw, (roundPacket before ip protoHint upperBytes fragsize k).build
      crate overflowChecks draw = .ok bytes) rounds outputs) :
    outputs.map (fun bytes => readFragment (bytes.drop (encodedSize before))) =
      (rounds.map (received ((protoHint.orElse fun _ => ip.proto).getD 255)
        upperBytes fragsize)).map some := by
  induction built with
  | nil => rfl
  | cons here _ ih =>
    obtain ⟨draw, here⟩ := here
    rw [List.map_cons, ih, readFragment_build documented noRaw here]
    rfl

end Fragments

section Draws
variable {crate : Etherparse} {overflowChecks : Bool} {draw draw' : Nat → UInt16}

/-- The layer draws a random checksum. -/
def Layer.DrawsChecksum : Layer → Prop
  | .ip i => i.checksum = .bad
  | .tcp t => t.checksum = .bad
  | .udp u => u.checksum = .bad
  | _ => False

/-- Two builds draw the same words for the layers that draw any. -/
def SameDraws (draw draw' : Nat → UInt16) : List Layer → Prop
  | [] => True
  | .raw _ :: _ => True
  | layer :: upper =>
    SameDraws draw draw' upper ∧ (layer.DrawsChecksum → draw upper.length = draw' upper.length)

theorem sameDraws_cons {layer : Layer} (below : layer.isRaw = false) (upper : List Layer) :
    SameDraws draw draw' (layer :: upper) ↔
      SameDraws draw draw' upper ∧ (layer.DrawsChecksum →
        draw upper.length = draw' upper.length) := by
  cases layer with
  | raw r => cases below
  | _ => rfl

theorem overwrite_injective {bytes : Bytes} {offset : Nat} (room : offset + 2 ≤ bytes.length)
    {first second : UInt16} (same : overwrite bytes offset first = overwrite bytes offset second) :
    first = second := by
  simp only [overwrite, room, ↓reduceIte, List.append_assoc] at same
  exact be16_injective (List.append_inj_left (List.append_cancel_left same) rfl)

theorem overrideChecksum_eq_iff {mode : ChecksumMode} {offset : Nat} {bytes : Bytes}
    (room : offset + 2 ≤ bytes.length) (first second : UInt16) :
    overrideChecksum mode first offset bytes = overrideChecksum mode second offset bytes ↔
      (mode = .bad → first = second) := by
  cases mode with
  | auto => simp [overrideChecksum]
  | fixed value => simp [overrideChecksum]
  | bad =>
    simp only [overrideChecksum, true_implies]
    exact ⟨overwrite_injective room, fun same => by rw [same]⟩

theorem headerBytes_eq_iff (layer : Layer) (first second : UInt16) (upper : List Layer)
    (size : Nat) :
    layer.headerBytes first upper size = layer.headerBytes second upper size ↔
      (layer.DrawsChecksum → first = second) := by
  cases layer with
  | ip i => exact overrideChecksum_eq_iff (by simp) first second
  | tcp t => exact overrideChecksum_eq_iff (by rw [TcpHeader.layout_length]; omega) first second
  | udp u =>
    simp only [Layer.headerBytes, Layer.DrawsChecksum, UdpHeader.layout, Udp.header,
      List.append_cancel_left_eq, be16_inj]
    cases u.checksum <;> simp [udpChecksum]
  | _ => simp [Layer.headerBytes, Layer.DrawsChecksum]

/-- Two builds of the same layers give the same bytes exactly when their draws agree. -/
theorem buildLayers_eq_iff (documented : crate.Documented) {layers : List Layer}
    {bytes bytes' : Bytes} (built : buildLayers crate overflowChecks draw layers = .ok bytes)
    (built' : buildLayers crate overflowChecks draw' layers = .ok bytes') :
    bytes = bytes' ↔ SameDraws draw draw' layers := by
  induction layers using stack_induction generalizing bytes bytes' with
  | nil =>
    cases built
    cases built'
    simp [SameDraws]
  | raw r upper =>
    cases built
    cases built'
    simp [SameDraws]
  | cons layer upper below ih =>
    obtain ⟨rest, above, _, rfl⟩ := (buildLayers_cons documented below bytes).mp built
    obtain ⟨rest', above', _, rfl⟩ := (buildLayers_cons documented below bytes').mp built'
    have size : rest.length = rest'.length :=
      (buildLayers_length documented above).trans (buildLayers_length documented above').symm
    rw [sameDraws_cons below, ← ih above above',
      ← headerBytes_eq_iff layer _ _ upper rest'.length, size]
    constructor
    · intro same
      have parts := List.append_inj same (by simp only [Layer.headerBytes_length])
      exact ⟨parts.2, parts.1⟩
    · intro ⟨same, header⟩
      rw [same, header]

end Draws

/-- When fragmentation is faithful: no raw layer hides the IPv4 layer, the hinted
protocol is the one `build` writes, the last offset fits its 13 bits, no fragment is
64 KiB long, and the checksums drawn at random come out the same. -/
structure Faithful (draw draw' : Nat → UInt16) (fragsize : Nat) (before : List Layer) (ip : Ip)
    (upper : List Layer) : Prop where
  noRaw : ∀ layer ∈ before, layer.isRaw = false
  protocol : ((inferProtoFromLayers upper).orElse fun _ => ip.proto).getD 255 =
    ip.proto.getD (inferIpProto upper)
  offsets : (encodedSize upper - 1) / fragsize * fragsize / 8 ≤ 8191
  sizes : min fragsize (encodedSize upper) < 65536
  draws : SameDraws draw draw' upper

section Carries
variable {upperBytes upperBytes' : Bytes} {fragsize : Nat} {proto proto' : UInt8}

private theorem last_round (positive : 0 < fragsize) (nonempty : upperBytes.length ≠ 0) :
    (upperBytes.length - 1) / fragsize * fragsize < upperBytes.length ∧
      upperBytes.length ≤ (upperBytes.length - 1) / fragsize * fragsize + fragsize := by
  have parts := Nat.div_add_mod (upperBytes.length - 1) fragsize
  have rest := Nat.mod_lt (upperBytes.length - 1) positive
  rw [Nat.mul_comm] at parts
  omega

private theorem received_payload_length (k : Nat) :
    (received proto upperBytes fragsize k).payload.length =
    min fragsize (upperBytes.length - k * fragsize) % 65536 := by
  simp only [received, List.length_take, List.length_drop]
  omega

private theorem wireOffset_le (offsetBytes : Nat) : wireOffset offsetBytes * 8 ≤ offsetBytes := by
  unfold wireOffset
  split <;> omega

/-- While offsets and sizes fit, the receiver has the windows of the upper bytes. -/
theorem reassemble_received (positive : 0 < fragsize) (aligned : fragsize % 8 = 0)
    (nonempty : upperBytes.length ≠ 0)
    (offsets : (upperBytes.length - 1) / fragsize * fragsize / 8 ≤ 8191)
    (sizes : min fragsize upperBytes.length < 65536) :
    reassemble (((List.range ((upperBytes.length - 1) / fragsize + 1)).map
      (received proto upperBytes fragsize)).map fun f => (f.offset * 8, f.payload)) =
        upperBytes := by
  obtain ⟨starts, covers⟩ := last_round positive nonempty
  have placed (k : Nat) (bound : k ∈ List.range ((upperBytes.length - 1) / fragsize + 1)) :
      ((fun f : Fragment => (f.offset * 8, f.payload)) ∘ received proto upperBytes fragsize) k =
        (k * fragsize, (upperBytes.drop (k * fragsize)).take fragsize) := by
    have within : k * fragsize ≤ (upperBytes.length - 1) / fragsize * fragsize :=
      Nat.mul_le_mul_right _ (Nat.le_of_lt_succ (List.mem_range.mp bound))
    have eighths : k * fragsize % 8 = 0 := by rw [Nat.mul_mod, aligned, Nat.mul_zero]
    have offset : wireOffset (k * fragsize) * 8 = k * fragsize := by
      rw [wireOffset, if_pos (by omega)]
      omega
    have whole : ((upperBytes.drop (k * fragsize)).take fragsize).length % 65536 =
        ((upperBytes.drop (k * fragsize)).take fragsize).length := by
      rw [List.length_take, List.length_drop]
      omega
    simp only [Function.comp, received, offset, whole, List.take_length]
  rw [List.map_map, List.map_congr_left placed, reassemble_windows]
  · rw [List.take_of_length_le]
    rw [Nat.add_one_mul]
    exact covers
  · intro k bound
    have within : k * fragsize ≤ (upperBytes.length - 1) / fragsize * fragsize :=
      Nat.mul_le_mul_right _ (Nat.le_of_lt_succ bound)
    omega

/-- A last offset beyond its 13 bits leaves the end of the upper bytes unwritten. -/
theorem reassemble_short (proto : UInt8) (positive : 0 < fragsize)
    (nonempty : upperBytes.length ≠ 0)
    (beyond : 8191 < (upperBytes.length - 1) / fragsize * fragsize / 8) :
    (reassemble (((List.range ((upperBytes.length - 1) / fragsize + 1)).map
      (received proto upperBytes fragsize)).map fun f => (f.offset * 8, f.payload))).length <
      upperBytes.length := by
  obtain ⟨starts, covers⟩ := last_round positive nonempty
  have within : ∀ piece ∈ ((List.range ((upperBytes.length - 1) / fragsize + 1)).map
      (received proto upperBytes fragsize)).map (fun f => (f.offset * 8, f.payload)),
      piece.1 + piece.2.length ≤ upperBytes.length - 1 := by
    intro piece member
    simp only [List.map_map, List.mem_map, List.mem_range, Function.comp] at member
    obtain ⟨k, bound, rfl⟩ := member
    have size : (received proto upperBytes fragsize k).payload.length ≤
        min fragsize (upperBytes.length - k * fragsize) := by
      rw [received_payload_length]
      exact Nat.mod_le _ _
    have offset := wireOffset_le (k * fragsize)
    simp only [received] at size ⊢
    by_cases last : k = (upperBytes.length - 1) / fragsize
    · subst last
      have field : wireOffset ((upperBytes.length - 1) / fragsize * fragsize) ≤ 8191 := by
        unfold wireOffset
        split <;> omega
      omega
    · have earlier : k * fragsize + fragsize ≤ (upperBytes.length - 1) / fragsize * fragsize := by
        rw [← Nat.add_one_mul]
        exact Nat.mul_le_mul_right _ (by omega)
      omega
  have length := reassemble_length_le within
  omega

/-- A fragment of 64 KiB or more is read back shorter than it is. -/
theorem Carries.sizes (positive : 0 < fragsize) (nonempty : upperBytes.length ≠ 0)
    (size : upperBytes'.length = upperBytes.length)
    (carries : Carries fragsize upperBytes' proto'
      ((List.range ((upperBytes.length - 1) / fragsize + 1)).map
      (received proto upperBytes fragsize))) : min fragsize upperBytes.length < 65536 := by
  by_contra big
  obtain ⟨starts, covers⟩ := last_round positive nonempty
  by_cases single : (upperBytes.length - 1) / fragsize = 0
  · have data := congrArg List.length carries.data
    rw [single] at data covers
    simp only [Nat.zero_add, List.range_one, List.map_singleton, reassemble, List.foldl_cons,
      List.foldl_nil, place_length, received_payload_length, size] at data
    have offset := wireOffset_le (0 * fragsize)
    simp only [received, List.length_nil] at data
    omega
  · have first : received proto upperBytes fragsize 0 ∈
        ((List.range ((upperBytes.length - 1) / fragsize + 1)).map
          (received proto upperBytes fragsize)).dropLast := by
      rw [List.range_succ, List.map_append, List.map_singleton, List.dropLast_concat]
      exact List.mem_map_of_mem (List.mem_range.mpr (Nat.pos_of_ne_zero single))
    have short := carries.size _ first
    have one : 1 * fragsize ≤ (upperBytes.length - 1) / fragsize * fragsize :=
      Nat.mul_le_mul_right _ (Nat.pos_of_ne_zero single)
    rw [received_payload_length] at short
    omega

theorem carries_rounds_iff (proto proto' : UInt8) (positive : 0 < fragsize)
    (aligned : fragsize % 8 = 0) (nonempty : upperBytes.length ≠ 0)
    (size : upperBytes'.length = upperBytes.length) :
    Carries fragsize upperBytes' proto' ((List.range ((upperBytes.length - 1) / fragsize + 1)).map
      (received proto upperBytes fragsize)) ↔
      proto = proto' ∧ (upperBytes.length - 1) / fragsize * fragsize / 8 ≤ 8191 ∧
        min fragsize upperBytes.length < 65536 ∧ upperBytes = upperBytes' := by
  obtain ⟨starts, covers⟩ := last_round positive nonempty
  constructor
  · intro carries
    have sizes := carries.sizes positive nonempty size
    have protocol : proto = proto' := carries.protocol (received proto upperBytes fragsize 0)
      (List.mem_map_of_mem (List.mem_range.mpr (Nat.succ_pos _)))
    have offsets : (upperBytes.length - 1) / fragsize * fragsize / 8 ≤ 8191 := by
      by_contra beyond
      have short := reassemble_short proto positive nonempty (Nat.not_le.mp beyond)
      rw [carries.data, size] at short
      omega
    refine ⟨protocol, offsets, sizes, ?_⟩
    rw [← carries.data, reassemble_received positive aligned nonempty offsets sizes]
  · intro ⟨protocol, offsets, sizes, same⟩
    subst same
    have rounds : (List.range ((upperBytes.length - 1) / fragsize + 1)).map
        (received proto upperBytes fragsize) =
        (List.range ((upperBytes.length - 1) / fragsize)).map
          (received proto upperBytes fragsize) ++
          [received proto upperBytes fragsize ((upperBytes.length - 1) / fragsize)] := by
      rw [List.range_succ, List.map_append, List.map_singleton]
    constructor
    · exact reassemble_received positive aligned nonempty offsets sizes
    · intro f member
      obtain ⟨k, _, rfl⟩ := List.mem_map.mp member
      exact protocol
    · intro f member
      rw [rounds, List.dropLast_concat] at member
      obtain ⟨k, bound, rfl⟩ := List.mem_map.mp member
      have early : k ≠ (upperBytes.length - 1) / fragsize := Nat.ne_of_lt (List.mem_range.mp bound)
      simpa [received] using early
    · intro f member
      rw [rounds, List.getLast?_concat] at member
      obtain rfl := Option.some.inj member
      simp [received]
    · intro f member
      rw [rounds, List.dropLast_concat] at member
      obtain ⟨k, bound, rfl⟩ := List.mem_map.mp member
      have earlier : k * fragsize + fragsize ≤ (upperBytes.length - 1) / fragsize * fragsize := by
        rw [← Nat.add_one_mul]
        exact Nat.mul_le_mul_right _ (List.mem_range.mp bound)
      rw [received_payload_length]
      omega

end Carries

/-- Nothing can be read of a fragment whose IPv4 layer a raw layer hides. -/
theorem readFragment_hidden {crate : Etherparse} (documented : crate.Documented)
    {overflowChecks : Bool} {draw : Nat → UInt16} {before above : List Layer} {layer : Layer}
    (member : layer ∈ before) (raw : layer.isRaw = true) {bytes : Bytes}
    (built : buildLayers crate overflowChecks draw (before ++ above) = .ok bytes) :
    readFragment (bytes.drop (encodedSize before)) = none := by
  have size := buildLayers_length documented built
  rw [encodedSize_append_raw raw member] at size
  rw [← size, List.drop_length]
  rfl

/-- The built fragments, read back and reassembled, carry the upper bytes and the
protocol of the unfragmented packet exactly when fragmentation is faithful. -/
theorem fragment_carries_iff {crate : Etherparse} (documented : crate.Documented)
    (overflowChecks : Bool) (draw draw' : Nat → UInt16) (packet : Packet)
    (before upper : List Layer) (ip : Ip)
    (split : splitAtIp packet.layers = some (before, ip, upper)) (fuel fragsize : Nat)
    (positive : 0 < fragsize) (aligned : fragsize % 8 = 0) (nonempty : encodedSize upper ≠ 0)
    (packets : List Packet)
    (fragmented : packet.fragment crate overflowChecks draw fuel fragsize = some (.ok packets))
    (outputs : List Bytes)
    (built : List.Forall₂ (fun fragment bytes =>
      ∃ draw, Packet.build crate overflowChecks draw fragment =
      .ok bytes) packets outputs)
    (upperBytes : Bytes) (emitted : buildLayers crate overflowChecks draw' upper = .ok upperBytes) :
    (∃ fragments, outputs.map (fun bytes => readFragment (bytes.drop (encodedSize before))) =
        fragments.map some ∧
      Carries fragsize upperBytes (ip.proto.getD (inferIpProto upper)) fragments) ↔
      Faithful draw draw' fragsize before ip upper := by
  obtain ⟨cut, builtUpper, rfl⟩ :=
    fragment_rounds documented split positive aligned nonempty fragmented
  have size : cut.length = encodedSize upper := buildLayers_length documented builtUpper
  have sameSize : upperBytes.length = cut.length :=
    (buildLayers_length documented emitted).trans size.symm
  have filled : cut.length ≠ 0 := by rwa [size]
  rw [List.forall₂_map_left_iff] at built
  by_cases noRaw : ∀ layer ∈ before, layer.isRaw = false
  · rw [read_rounds documented noRaw built]
    have injective : Function.Injective (List.map (some : Fragment → Option Fragment)) :=
      List.map_injective_iff.mpr fun _ _ => Option.some.inj
    have criterion :=
      carries_rounds_iff (((inferProtoFromLayers upper).orElse fun _ => ip.proto).getD 255)
        (ip.proto.getD (inferIpProto upper)) positive aligned filled sameSize
    rw [buildLayers_eq_iff documented builtUpper emitted, size] at criterion
    constructor
    · intro ⟨fragments, same, carries⟩
      obtain rfl := injective same
      rw [size] at carries
      obtain ⟨protocol, offsets, sizes, draws⟩ := criterion.mp carries
      exact ⟨noRaw, protocol, offsets, sizes, draws⟩
    · intro faithful
      refine ⟨_, rfl, ?_⟩
      rw [size]
      exact criterion.mpr ⟨faithful.protocol, faithful.offsets, faithful.sizes, faithful.draws⟩
  · have hidden : ∃ layer ∈ before, layer.isRaw = true := by simpa using noRaw
    obtain ⟨layer, member, raw⟩ := hidden
    refine ⟨fun ⟨fragments, same, _⟩ => ?_, fun faithful => absurd faithful.noRaw noRaw⟩
    rw [List.range_succ_eq_map] at built
    cases built with
    | cons here _ =>
      obtain ⟨draw, here⟩ := here
      rw [List.map_cons, readFragment_hidden documented member raw here] at same
      cases fragments with
      | nil => cases same
      | cons f rest => cases same

theorem fragment_carries_udp :
    ∃ packets outputs, Packet.fragment .reference true (fun _ => 0) 9 8
        ⟨[.ip (.new 1), .udp ⟨7, 9, .auto⟩, .raw ⟨List.replicate 8 67⟩]⟩ = some (.ok packets) ∧
      List.Forall₂ (fun fragment bytes => ∃ draw, Packet.build .reference true draw fragment =
        .ok bytes)
        packets outputs ∧
      ∃ fragments, outputs.map (fun bytes => readFragment (bytes.drop 0)) = fragments.map some ∧
        Carries 8 ([0, 7, 0, 9, 0, 16, 0, 0] ++ List.replicate 8 67) 17 fragments :=
  have built := .cons ⟨fun _ => 0, rfl⟩ (.cons ⟨fun _ => 0, rfl⟩ .nil)
  ⟨_, _, rfl, built, (fragment_carries_iff Etherparse.reference_documented true (fun _ => 0)
    (fun _ => 0)
    ⟨[.ip (.new 1), .udp ⟨7, 9, .auto⟩, .raw ⟨List.replicate 8 67⟩]⟩ []
    [.udp ⟨7, 9, .auto⟩, .raw ⟨List.replicate 8 67⟩] (.new 1) rfl 9 8 (by decide) rfl
      (by decide) _ rfl _
    built _ rfl).mpr ⟨by simp, rfl, by decide, by decide, by simp [SameDraws, Layer.DrawsChecksum]⟩⟩

/-- The fragments of an ICMPv6 payload carry protocol 255, the packet itself 58. -/
theorem fragment_loses_protocol : ¬ ∀ (crate : Etherparse), crate.Documented →
    ∀ (overflowChecks : Bool) (draw draw' : Nat →
      UInt16) (packet : Packet) (before upper : List Layer) (ip : Ip),
      splitAtIp packet.layers = some (before, ip, upper) → ∀ (fuel fragsize : Nat), 0 < fragsize →
        fragsize % 8 = 0 → encodedSize upper ≠ 0 → ∀ (packets : List Packet),
          packet.fragment crate overflowChecks draw fuel fragsize = some (.ok packets) →
            ∀ (outputs : List Bytes), List.Forall₂ (fun fragment bytes => ∃ draw,
              Packet.build crate overflowChecks draw fragment = .ok bytes) packets outputs →
              ∀ (upperBytes : Bytes), buildLayers crate overflowChecks draw' upper =
                .ok upperBytes → ∃ fragments, outputs.map (fun bytes =>
                  readFragment (bytes.drop (encodedSize before))) =
                    fragments.map some ∧
                  Carries fragsize upperBytes (ip.proto.getD (inferIpProto upper)) fragments := by
  intro claim
  obtain ⟨fragments, same, carries⟩ :=
    claim .reference Etherparse.reference_documented true (fun _ => 0) (fun _ => 0)
      ⟨[.ip (.new 1), .icmpv6 ⟨128, 0⟩, .raw ⟨List.replicate 12 67⟩]⟩ []
      [.icmpv6 ⟨128, 0⟩, .raw ⟨List.replicate 12 67⟩] (.new 1) rfl 9 8 (by decide) rfl
        (by decide) _ rfl _
      (.cons ⟨fun _ => 0, rfl⟩ (.cons ⟨fun _ => 0, rfl⟩ .nil)) _ rfl
  cases fragments with
  | nil => cases same
  | cons f rest =>
    have protocol := carries.protocol f List.mem_cons_self
    obtain rfl := Option.some.inj (List.cons.inj same).1
    revert protocol
    decide

end FragglePacket.Fuzzing
