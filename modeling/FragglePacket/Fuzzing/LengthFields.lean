import FragglePacket.Fuzzing.Build

/-! The length fields of built packets. Lengths are cut to 16 bits before they are
written, so they are true exactly while no payload outgrows its field. -/

namespace FragglePacket.Fuzzing

open FragglePacket.Wire

/-- The length field of a header tells the bytes from it (after it, for IPv6) to the
end of the packet. -/
def Layer.TellsLength (bytes : Bytes) : Layer → Prop
  | .ip _ => (wordAt bytes 2).map UInt16.toNat = some bytes.length
  | .ipv6 _ => (wordAt bytes 4).map UInt16.toNat = some (bytes.length - 40)
  | .udp _ => (wordAt bytes 4).map UInt16.toNat = some bytes.length
  | _ => True

/-- Every length field of a built stack is true. -/
def Truthful : List Layer → Bytes → Prop
  | [], _ => True
  | .raw _ :: _, _ => True
  | layer :: upper, bytes => layer.TellsLength bytes ∧ Truthful upper (bytes.drop layer.headerSize)

/-- The machine arithmetic on the payload length gives the exact value. -/
def Layer.LengthExact (size : Nat) : Layer → Prop
  | .ip _ => (UInt16.ofNat size).toNat = size
  | .ipv6 _ => (UInt16.ofNat size).toNat = size
  | .udp _ => (8 + UInt16.ofNat size).toNat = 8 + size
  | _ => True

/-- No length computation that a build reaches wraps. -/
def LengthsExact (crate : Etherparse) (overflowChecks : Bool)
    (draw : Nat → UInt16) : List Layer → Prop
  | [] => True
  | .raw _ :: _ => True
  | layer :: upper => LengthsExact crate overflowChecks draw upper ∧
      ∀ rest, buildLayers crate overflowChecks draw upper = .ok rest → layer.LengthExact rest.length

/-- The payload sizes whose length fits the field of the layer. -/
def Layer.SizeFits (size : Nat) : Layer → Prop
  | .ip _ => size ≤ 65535
  | .ipv6 _ => size ≤ 65535
  | .udp _ => size ≤ 65527
  | _ => True

/-- Some IPv4 layer has more payload than a datagram holds. -/
def Oversized : List Layer → Prop
  | [] => False
  | .raw _ :: _ => False
  | .ip _ :: upper => 65515 < encodedSize upper ∨ Oversized upper
  | _ :: upper => Oversized upper

/-- Outwards from the payload, every length fits its field, up to the first IPv4 layer
whose payload a datagram cannot hold. -/
def LengthsFit : List Layer → Prop
  | [] => True
  | .raw _ :: _ => True
  | layer :: upper => LengthsFit upper ∧ (Oversized upper ∨ layer.SizeFits (encodedSize upper))

theorem truthful_cons {layer : Layer} (below : layer.isRaw = false) (upper : List Layer)
    (bytes : Bytes) :
    Truthful (layer :: upper) bytes ↔
      layer.TellsLength bytes ∧ Truthful upper (bytes.drop layer.headerSize) := by
  cases layer with
  | raw r => cases below
  | _ => rfl

theorem lengthsExact_cons {layer : Layer} (below : layer.isRaw = false) (upper : List Layer)
    (crate : Etherparse) (overflowChecks : Bool) (draw : Nat → UInt16) :
    LengthsExact crate overflowChecks draw (layer :: upper) ↔
      LengthsExact crate overflowChecks draw upper ∧
        ∀ rest, buildLayers crate overflowChecks draw upper = .ok rest →
          layer.LengthExact rest.length := by
  cases layer with
  | raw r => cases below
  | _ => rfl

theorem oversized_cons {layer : Layer} (below : layer.isRaw = false) (upper : List Layer) :
    Oversized (layer :: upper) ↔
      ((∃ i, layer = .ip i) ∧ 65515 < encodedSize upper) ∨ Oversized upper := by
  cases layer with
  | raw r => cases below
  | ip i => simp [Oversized]
  | _ => simp [Oversized]

theorem lengthsFit_cons {layer : Layer} (below : layer.isRaw = false) (upper : List Layer) :
    LengthsFit (layer :: upper) ↔
      LengthsFit upper ∧ (Oversized upper ∨ layer.SizeFits (encodedSize upper)) := by
  cases layer with
  | raw r => cases below
  | _ => rfl

theorem lengthExact_iff (layer : Layer) (size : Nat) :
    layer.LengthExact size ↔ layer.SizeFits size := by
  cases layer with
  | ip i =>
    simp only [Layer.LengthExact, Layer.SizeFits, UInt16.toNat_ofNat']
    omega
  | ipv6 i =>
    simp only [Layer.LengthExact, Layer.SizeFits, UInt16.toNat_ofNat']
    omega
  | udp u =>
    simp only [Layer.LengthExact, Layer.SizeFits, UInt16.toNat_add, UInt16.toNat_ofNat',
      UInt16.toNat_ofNat]
    omega
  | _ => simp [Layer.LengthExact, Layer.SizeFits]

/-- The length an accepting layer writes is true exactly when it fits the field. -/
theorem tellsLength_iff {overflowChecks : Bool} {layer : Layer} {rest : Bytes}
    (accepts : layer.Accepts overflowChecks rest.length) (random : UInt16) (upper : List Layer) :
    layer.TellsLength (layer.headerBytes random upper rest.length ++ rest) ↔
      layer.SizeFits rest.length := by
  cases layer with
  | ip i =>
    obtain ⟨checksum, layout⟩ := ip_headerBytes i random upper rest.length
    have field : wordAt ((i.header upper rest.length).layout checksum ++ rest) 2 =
        some (.ofNat rest.length + 20) := by
      simp [wordAt, Ipv4Header.layout, Ip.header, Ipv4Header.fresh, be16]
    simp only [Layer.Accepts] at accepts
    rw [layout]
    simp only [Layer.TellsLength, field, Layer.SizeFits, Option.map_some, Option.some.injEq,
      List.length_append, Ipv4Header.layout_length, UInt16.toNat_add, UInt16.toNat_ofNat',
      UInt16.toNat_ofNat]
    omega
  | ipv6 i =>
    have field : wordAt ((i.header upper rest.length).layout ++ rest) 4 =
        some (.ofNat rest.length) := by
      simp [wordAt, Ipv6Header.layout, Ipv6.header, be16, be32]
    simp only [Layer.headerBytes, Layer.TellsLength, field, Layer.SizeFits, Option.map_some,
      Option.some.injEq, List.length_append, Ipv6Header.layout_length, UInt16.toNat_ofNat']
    omega
  | udp u =>
    have field : wordAt ((u.header random rest.length).layout ++ rest) 4 =
        some (8 + .ofNat rest.length) := by
      simp [wordAt, UdpHeader.layout, Udp.header, be16]
    simp only [Layer.headerBytes, Layer.TellsLength, field, Layer.SizeFits, Option.map_some,
      Option.some.injEq, List.length_append, UdpHeader.layout_length, UInt16.toNat_add,
      UInt16.toNat_ofNat', UInt16.toNat_ofNat]
    omega
  | _ => simp [Layer.TellsLength, Layer.SizeFits]

section Build
variable {crate : Etherparse} (overflowChecks : Bool) (draw : Nat → UInt16)

/-- While lengths fit, a build returns an error exactly for an oversized IPv4 payload,
and truthful bytes otherwise. -/
theorem build_of_lengthsFit (documented : crate.Documented) {layers : List Layer}
    (fit : LengthsFit layers) :
    (Oversized layers ∧
      ∃ message, buildLayers crate overflowChecks draw layers = .error (.build message)) ∨
      (¬ Oversized layers ∧ ∃ bytes, buildLayers crate overflowChecks draw layers = .ok bytes ∧
        Truthful layers bytes) := by
  induction layers using stack_induction with
  | nil => exact .inr ⟨id, [], rfl, trivial⟩
  | raw r upper => exact .inr ⟨id, r.load, rfl, trivial⟩
  | cons layer upper below ih =>
    rw [oversized_cons below]
    obtain ⟨fitUpper, fits⟩ := (lengthsFit_cons below upper).mp fit
    rcases ih fitUpper with ⟨oversized, message, failed⟩ | ⟨held, rest, built, truthful⟩
    · exact .inl ⟨.inr oversized, message, buildLayers_cons_above documented below failed⟩
    · have size : rest.length = encodedSize upper := buildLayers_length documented built
      have sizeFits : layer.SizeFits rest.length := by
        rw [size]
        exact fits.resolve_left held
      by_cases accepts : layer.Accepts overflowChecks rest.length
      · have bytes := buildLayers_cons_accepts documented below built accepts
        have small : ¬ ((∃ i, layer = .ip i) ∧ 65515 < encodedSize upper) := by
          intro ⟨⟨i, same⟩, big⟩
          subst same
          simp only [Layer.Accepts, Layer.SizeFits] at accepts sizeFits
          omega
        refine .inr ⟨fun oversized => oversized.elim small held, _, bytes,
          (truthful_cons below upper _).mpr ⟨?_, ?_⟩⟩
        · exact (tellsLength_iff accepts _ upper).mpr sizeFits
        · rwa [List.drop_left' (layer.headerBytes_length _ _ _)]
      · rcases buildLayers_cons_refuses documented built accepts with ⟨⟨i, same⟩, message, failed⟩ |
          ⟨⟨u, same⟩, _⟩
        · subst same
          simp only [Layer.Accepts, Layer.SizeFits] at accepts sizeFits
          exact .inl ⟨.inl ⟨⟨i, rfl⟩, by omega⟩, message, failed⟩
        · subst same
          simp only [Layer.Accepts, Layer.SizeFits, Classical.not_imp] at accepts sizeFits
          omega

variable {overflowChecks draw} in
/-- A build that reaches a layer while lengths fit has no oversized payload above it. -/
theorem not_oversized_of_build (documented : crate.Documented) {layers : List Layer}
    (fit : LengthsFit layers) {bytes : Bytes}
    (built : buildLayers crate overflowChecks draw layers = .ok bytes) : ¬ Oversized layers := by
  intro oversized
  rcases build_of_lengthsFit overflowChecks draw documented fit with
    ⟨_, message, failed⟩ | ⟨held, _⟩
  · rw [built] at failed
    cases failed
  · exact held oversized

variable {overflowChecks draw} in
/-- The built length fields are true exactly when all lengths fit. -/
theorem truthful_iff_lengthsFit (documented : crate.Documented) {layers : List Layer}
    {bytes : Bytes} (built : buildLayers crate overflowChecks draw layers = .ok bytes) :
    Truthful layers bytes ↔ LengthsFit layers := by
  induction layers using stack_induction generalizing bytes with
  | nil => exact Iff.rfl
  | raw r upper => exact Iff.rfl
  | cons layer upper below ih =>
    obtain ⟨rest, above, accepts, rfl⟩ := (buildLayers_cons documented below bytes).mp built
    have size : rest.length = encodedSize upper := buildLayers_length documented above
    rw [truthful_cons below, lengthsFit_cons below,
      List.drop_left' (layer.headerBytes_length _ _ _), ih above, tellsLength_iff accepts, size,
      and_comm]
    refine and_congr_right fun fitUpper => ?_
    simp [not_oversized_of_build documented fitUpper above]

/-- No reached length computation wraps exactly when all lengths fit. -/
theorem lengthsExact_iff_lengthsFit (documented : crate.Documented) (layers : List Layer) :
    LengthsExact crate overflowChecks draw layers ↔ LengthsFit layers := by
  induction layers using stack_induction with
  | nil => exact Iff.rfl
  | raw r upper => exact Iff.rfl
  | cons layer upper below ih =>
    rw [lengthsExact_cons below, lengthsFit_cons below, ih]
    refine and_congr_right fun fitUpper => ?_
    rcases build_of_lengthsFit overflowChecks draw documented fitUpper with
      ⟨oversized, message, failed⟩ | ⟨held, rest, built, _⟩
    · simp [failed, oversized]
    · have size : rest.length = encodedSize upper := buildLayers_length documented built
      simp [built, held, lengthExact_iff, size]

end Build

/-- A build returns an error or true length fields, and no length on the way wraps,
exactly when the lengths fit; a build that returns bytes tells true lengths under the
same condition. -/
theorem build_lengths_iff {crate : Etherparse} (documented : crate.Documented)
    (overflowChecks : Bool) (draw : Nat → UInt16) (packet : Packet) :
    ((((∃ message, packet.build crate overflowChecks draw = .error (.build message)) ∨
        ∃ bytes, packet.build crate overflowChecks draw = .ok bytes ∧
          Truthful packet.layers bytes) ∧
      LengthsExact crate overflowChecks draw packet.layers) ↔ LengthsFit packet.layers) ∧
    ∀ bytes, packet.build crate overflowChecks draw = .ok bytes →
      (Truthful packet.layers bytes ↔ LengthsFit packet.layers) := by
  refine ⟨?_, fun bytes built => truthful_iff_lengthsFit documented built⟩
  rw [lengthsExact_iff_lengthsFit overflowChecks draw documented]
  refine ⟨And.right, fun fit => ⟨?_, fit⟩⟩
  rcases build_of_lengthsFit overflowChecks draw documented fit with ⟨_, failed⟩ | ⟨_, built⟩
  · exact .inl failed
  · exact .inr built

theorem build_lengths_datagram :
    LengthsExact .reference true (fun _ => 0)
      [.ip (.new 1), .udp ⟨7, 9, .auto⟩, .raw ⟨[1, 2, 3]⟩] :=
  ((build_lengths_iff Etherparse.reference_documented true (fun _ => 0)
    ⟨[.ip (.new 1), .udp ⟨7, 9, .auto⟩, .raw ⟨[1, 2, 3]⟩]⟩).1.mpr
    ⟨⟨trivial, .inr (show 3 ≤ 65527 by omega)⟩, .inr (show 11 ≤ 65535 by omega)⟩).2

/-- An IPv6 packet with 64 KiB of payload is built with payload length zero. -/
theorem build_lies_about_length : ¬ ∀ (crate : Etherparse), crate.Documented →
    ∀ (overflowChecks : Bool) (draw : Nat → UInt16) (layers : List Layer) (r : Raw),
      (∀ layer ∈ layers, layer.isRaw = false) →
        (∃ message, Packet.build crate overflowChecks draw ⟨layers ++ [.raw r]⟩ =
          .error (.build message)) ∨
          ∃ bytes, Packet.build crate overflowChecks draw ⟨layers ++ [.raw r]⟩ = .ok bytes ∧
            Truthful (layers ++ [.raw r]) bytes := by
  intro claim
  have documented := Etherparse.reference_documented
  let layer : Layer := .ipv6 ⟨#v[0, 0, 0, 0, 0, 0, 0, 0, 0, 0, 0, 0, 0, 0, 0, 1],
    #v[0, 0, 0, 0, 0, 0, 0, 0, 0, 0, 0, 0, 0, 0, 0, 2], 64, none, 0⟩
  let load : Raw := ⟨List.replicate 65536 0⟩
  have accepts : layer.Accepts true load.load.length := trivial
  have builds := buildLayers_cons_accepts documented rfl
    (buildLayers_raw .reference true (fun _ => 0) load []) accepts
  rcases claim _ documented true (fun _ => 0) [layer] load (by simp [layer, Layer.isRaw]) with
    ⟨message, failed⟩ | ⟨bytes, built, truthful⟩
  · rw [Packet.build, List.singleton_append, builds] at failed
    cases failed
  · obtain ⟨_, oversized | fits⟩ := (truthful_iff_lengthsFit documented built).mp truthful
    · exact oversized
    · have size : encodedSize [.raw load] = 65536 := List.length_replicate
      have bound : encodedSize [.raw load] ≤ 65535 := fits
      omega

end FragglePacket.Fuzzing
