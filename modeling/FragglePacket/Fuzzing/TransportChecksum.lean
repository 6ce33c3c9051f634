import FragglePacket.Fuzzing.Build

/-! The transport checksums of built packets. The builder leaves the field zero, so
a segment verifies exactly when its other words already sum to a multiple of 65535. -/

namespace FragglePacket.Fuzzing

open FragglePacket.Wire

/-- The IPv4 pseudo-header of a transport segment. -/
def pseudoHeader (src dst : Vector UInt8 4) (proto : UInt8) (size : Nat) : Bytes :=
  src.toList ++ dst.toList ++ [0, proto] ++ be16 (.ofNat size)

/-- What follows the IPv4 header of a packet that starts with one. -/
def transportSegment (bytes : Bytes) : Bytes := bytes.drop 20

def TcpFlags.value (flags : TcpFlags) : Nat :=
  let bit (flag : Bool) (weight : Nat) := if flag then weight else 0
  bit flags.urg 32 + bit flags.ack 16 + bit flags.psh 8 + bit flags.rst 4 + bit flags.syn 2 +
    bit flags.fin 1

/-- The words of a TCP segment and its pseudo-header, the checksum left out. -/
def tcpFieldSum (ip : Ip) (t : Tcp) (r : Raw) : Nat :=
  let opts := serializeTcpOptions t.options
  wordSum ip.src.toList + wordSum ip.dst.toList + 6 + (20 + opts.length + r.load.length) +
    t.sport.toNat + t.dport.toNat + (t.seq.toNat / 65536 + t.seq.toNat % 65536) +
    (t.ack.toNat / 65536 + t.ack.toNat % 65536) + ((5 + opts.length / 4) * 4096 + t.flags.value) +
    t.window.toNat + wordSum opts + wordSum r.load

/-- The words of an ICMP message, the checksum left out. -/
def icmpFieldSum (i : Icmp) (r : Raw) : Nat :=
  i.icmpType.toNat * 256 + i.code.toNat + wordSum i.restOfHeader + wordSum r.load

theorem TcpFlags.value_lt (flags : TcpFlags) : flags.value < 64 := by
  obtain ⟨fin, syn, rst, psh, ack, urg⟩ := flags
  cases fin <;> cases syn <;> cases rst <;> cases psh <;> cases ack <;> cases urg <;> decide

private theorem plainHeader_offsetWord (t : Tcp)
    (fits : (serializeTcpOptions t.options).length ≤ 40) :
    t.plainHeader.offsetWord.toNat =
      (5 + (serializeTcpOptions t.options).length / 4) * 4096 + t.flags.value := by
  have flags := t.flags.value_lt
  simp only [TcpFlags.value] at flags ⊢
  simp only [TcpHeader.offsetWord, Tcp.plainHeader, TcpHeader.fresh, Tcp.optionBytes, fits,
    ↓reduceIte, Bool.false_eq_true, Nat.add_zero, UInt16.toNat_ofNat']
  omega

private theorem wordSum_tcp (t : Tcp) (fits : (serializeTcpOptions t.options).length ≤ 40)
    (payload : Bytes) :
    wordSum (t.plainHeader.layout ++ payload) =
      t.sport.toNat + t.dport.toNat + (t.seq.toNat / 65536 + t.seq.toNat % 65536) +
        (t.ack.toNat / 65536 + t.ack.toNat % 65536) +
        ((5 + (serializeTcpOptions t.options).length / 4) * 4096 + t.flags.value) + t.window.toNat +
        wordSum (serializeTcpOptions t.options) + wordSum payload := by
  have aligned := serializeTcpOptions_aligned t.options
  have options : t.plainHeader.options = serializeTcpOptions t.options := by
    simp [Tcp.plainHeader, Tcp.optionBytes, fits]
  simp only [TcpHeader.layout, List.append_assoc, wordSum_be16_append, wordSum_be32_append,
    plainHeader_offsetWord t fits, options]
  rw [wordSum_append (by omega)]
  simp only [Tcp.plainHeader, TcpHeader.fresh, UInt16.toNat_zero]
  omega

private theorem wordSum_pseudoHeader (src dst : Vector UInt8 4) {size : Nat} (small : size < 65536)
    (segment : Bytes) :
    wordSum (pseudoHeader src dst 6 size ++ segment) =
      wordSum src.toList + wordSum dst.toList + 6 + size + wordSum segment := by
  simp only [pseudoHeader, List.append_assoc]
  rw [wordSum_append (by simp), wordSum_append (by simp)]
  simp only [List.cons_append, List.nil_append, wordSum_cons, wordSum_be16_append,
    UInt16.toNat_ofNat']
  simp
  omega

section Segments
variable {crate : Etherparse} (overflowChecks : Bool) (draw : Nat → UInt16)

/-- The segment behind the IPv4 header is what the layers above it build. -/
theorem transportSegment_build (documented : crate.Documented) (ip : Ip) (upper : List Layer)
    (bytes : Bytes) (built : Packet.build crate overflowChecks draw ⟨.ip ip :: upper⟩ = .ok bytes) :
    buildLayers crate overflowChecks draw upper = .ok (transportSegment bytes) := by
  obtain ⟨rest, above, _, rfl⟩ := (buildLayers_cons documented rfl bytes).mp built
  have size : ((Layer.ip ip).headerBytes (draw upper.length) upper rest.length).length = 20 :=
    Layer.headerBytes_length _ _ _ _
  rw [above, transportSegment, List.drop_left' size]

theorem tcp_segment (documented : crate.Documented) (t : Tcp) (auto : t.checksum = .auto)
    (r : Raw) :
    buildLayers crate overflowChecks draw [.tcp t, .raw r] =
      .ok (t.plainHeader.layout ++ r.load) := by
  have accepts : (Layer.tcp t).Accepts overflowChecks r.load.length := trivial
  rw [buildLayers_cons_accepts documented rfl
    (buildLayers_raw crate overflowChecks draw r []) accepts]
  simp [Layer.headerBytes, overrideChecksum, auto]

theorem icmp_segment (documented : crate.Documented) (i : Icmp) (r : Raw) :
    buildLayers crate overflowChecks draw [.icmp i, .raw r] =
      .ok ([i.icmpType, i.code, 0, 0] ++ i.restOfHeader ++ r.load) := by
  have accepts : (Layer.icmp i).Accepts overflowChecks r.load.length := trivial
  exact buildLayers_cons_accepts documented rfl
    (buildLayers_raw crate overflowChecks draw r []) accepts

theorem tcp_verifies_iff (documented : crate.Documented) (ip : Ip) (t : Tcp) (r : Raw)
    (auto : t.checksum = .auto) (fits : (serializeTcpOptions t.options).length ≤ 40)
    (small : 20 + (serializeTcpOptions t.options).length + r.load.length ≤ 65515) :
    ∃ bytes, Packet.build crate overflowChecks draw ⟨[.ip ip, .tcp t, .raw r]⟩ = .ok bytes ∧
      (onesSum (pseudoHeader ip.src ip.dst 6 (transportSegment bytes).length ++
        transportSegment bytes) = 0xFFFF ↔
        tcpFieldSum ip t r % 65535 = 0) := by
  have options : t.plainHeader.options = serializeTcpOptions t.options := by
    simp [Tcp.plainHeader, Tcp.optionBytes, fits]
  have size : (t.plainHeader.layout ++ r.load).length =
      20 + (serializeTcpOptions t.options).length + r.load.length := by
    simp [options]
  have accepts : (Layer.ip ip).Accepts overflowChecks (t.plainHeader.layout ++ r.load).length := by
    simp only [Layer.Accepts, size]
    omega
  have segment := tcp_segment overflowChecks draw documented t auto r
  have built := buildLayers_cons_accepts documented rfl segment accepts
  refine ⟨_, built, ?_⟩
  have behind := transportSegment_build overflowChecks draw documented ip _ _ built
  rw [segment] at behind
  rw [← Except.ok.inj behind, onesSum_eq_max_iff, size, wordSum_pseudoHeader _ _ (by omega),
    wordSum_tcp t fits, tcpFieldSum]
  omega

theorem icmp_verifies_iff (documented : crate.Documented) (ip : Ip) (i : Icmp) (r : Raw)
    (bytes : Bytes)
    (built : Packet.build crate overflowChecks draw ⟨[.ip ip, .icmp i, .raw r]⟩ = .ok bytes) :
    onesSum (transportSegment bytes) = 0xFFFF ↔
      icmpFieldSum i r ≠ 0 ∧ icmpFieldSum i r % 65535 = 0 := by
  have segment := transportSegment_build overflowChecks draw documented ip _ _ built
  rw [icmp_segment overflowChecks draw documented i r] at segment
  have sum : wordSum (transportSegment bytes) = icmpFieldSum i r := by
    rw [← Except.ok.inj segment, icmpFieldSum, List.append_assoc]
    have even : i.restOfHeader.length % 2 = 0 := by rw [i.restOfHeader_length]
    simp only [List.cons_append, List.nil_append, wordSum_cons, wordSum_append even]
    simp
    omega
  rw [onesSum_eq_max_iff, sum]

end Segments

/-- With automatic checksums a TCP segment verifies exactly when its fields and those
of its pseudo-header sum to a multiple of 65535, and an ICMP message exactly when its
fields do and are not all zero. -/
theorem checksum_verifies_iff {crate : Etherparse} (documented : crate.Documented)
    (overflowChecks : Bool) (draw : Nat → UInt16) :
    (∀ (ip : Ip) (t : Tcp) (r : Raw), t.checksum = .auto →
      (serializeTcpOptions t.options).length ≤ 40 →
      20 + (serializeTcpOptions t.options).length + r.load.length ≤ 65515 →
      ∃ bytes, Packet.build crate overflowChecks draw ⟨[.ip ip, .tcp t, .raw r]⟩ = .ok bytes ∧
        (onesSum (pseudoHeader ip.src ip.dst 6 (transportSegment bytes).length ++
          transportSegment bytes) = 0xFFFF ↔ tcpFieldSum ip t r % 65535 = 0)) ∧
    (∀ (ip : Ip) (i : Icmp) (r : Raw) (bytes : Bytes),
      Packet.build crate overflowChecks draw ⟨[.ip ip, .icmp i, .raw r]⟩ = .ok bytes →
      (onesSum (transportSegment bytes) = 0xFFFF ↔
        icmpFieldSum i r ≠ 0 ∧ icmpFieldSum i r % 65535 = 0)) :=
  ⟨tcp_verifies_iff overflowChecks draw documented,
    icmp_verifies_iff overflowChecks draw documented⟩

theorem checksum_verifies_reference :
    ∃ bytes, Packet.build .reference true (fun _ => 0)
        ⟨[.ip (.new 1), .tcp (.new 49152 0), .raw ⟨[]⟩]⟩ = .ok bytes ∧
      (onesSum (pseudoHeader #v[10, 0, 0, 1] #v[10, 0, 0, 2] 6 (transportSegment bytes).length ++
        transportSegment bytes) = 0xFFFF ↔ tcpFieldSum (.new 1) (.new 49152 0) ⟨[]⟩ % 65535 = 0) :=
  (checksum_verifies_iff Etherparse.reference_documented true fun _ => 0).1
    (.new 1) (.new 49152 0) ⟨[]⟩ rfl (by decide) (by decide)

/-- A plain segment with an automatic checksum does not verify. -/
theorem auto_checksum_invalid : ¬ ∀ (crate : Etherparse), crate.Documented →
    ∀ (overflowChecks : Bool) (draw : Nat → UInt16) (ip : Ip) (t : Tcp) (r : Raw),
      t.checksum = .auto → (serializeTcpOptions t.options).length ≤ 40 →
      20 + (serializeTcpOptions t.options).length + r.load.length ≤ 65515 →
      ∃ bytes, Packet.build crate overflowChecks draw ⟨[.ip ip, .tcp t, .raw r]⟩ = .ok bytes ∧
        onesSum (pseudoHeader ip.src ip.dst 6 (transportSegment bytes).length ++
          transportSegment bytes) = 0xFFFF := by
  intro claim
  have documented := Etherparse.reference_documented
  obtain ⟨bytes, built, verifies⟩ :=
    claim _ documented true (fun _ => 0) (.new 1) (.new 49152 0) ⟨[]⟩
      rfl (by decide) (by decide)
  obtain ⟨bytes', built', criterion⟩ :=
    tcp_verifies_iff true (fun _ => 0) documented (.new 1) (.new 49152 0) ⟨[]⟩
      rfl (by decide) (by decide)
  obtain rfl : bytes = bytes' := Except.ok.inj (built.symm.trans built')
  have divisible := criterion.mp verifies
  revert divisible
  decide

end FragglePacket.Fuzzing
