import FragglePacket.NetworkTests.StunFraming

/-! What the STUN parser reads off messages that were built. -/

namespace FragglePacket.NetworkTests

open FragglePacket.Net FragglePacket.Wire

def AttrBuilder.pushAll (builder : AttrBuilder) (attrs : List Attribute) : AttrBuilder :=
  attrs.foldl (fun built attr => built.push attr.1 attr.2) builder

theorem AttrBuilder.pushAll_bytes (builder : AttrBuilder) (attrs : List Attribute) :
    (builder.pushAll attrs).bytes = builder.bytes ++ attrs.flatMap Attribute.bytes := by
  induction attrs generalizing builder with
  | nil => simp [AttrBuilder.pushAll]
  | cons attr rest ih =>
    have step : builder.pushAll (attr :: rest) = (builder.push attr.1 attr.2).pushAll rest := rfl
    rw [step, ih, List.flatMap_cons, AttrBuilder.push, Attribute.bytes, pad4, padding]
    simp only [List.append_assoc]

theorem buildMessage_eq (msgType : UInt16) (txn : Vector UInt8 12) (attrs : Bytes) :
    buildMessage msgType txn attrs =
      message msgType (.ofNat attrs.length) magicCookie txn attrs := by
  simp only [buildMessage, message, List.append_assoc]

theorem value_lt_of_encoded {attrs : List Attribute}
    (small : (attrs.flatMap Attribute.bytes).length < 65536) :
    ∀ attr ∈ attrs, attr.2.length < 65536 := by
  intro attr member
  have own : attr.2.length ≤ attr.bytes.length := by
    simp only [Attribute.bytes, List.length_append]
    omega
  have part :=
    (List.sublist_flatten_of_mem (List.mem_map_of_mem (f := Attribute.bytes) member)).length_le
  exact Nat.lt_of_le_of_lt (Nat.le_trans own part) small

/-- What is built from attributes is parsed into them. -/
theorem parseMessage_build (msgType : UInt16) (txn : Vector UInt8 12) (attrs : List Attribute)
    (small : (AttrBuilder.new.pushAll attrs).bytes.length < 65536) :
    parseMessage (buildMessage msgType txn (AttrBuilder.new.pushAll attrs).bytes) =
      .ok ⟨msgType, txn, attrs⟩ := by
  have encoded : (AttrBuilder.new.pushAll attrs).bytes = attrs.flatMap Attribute.bytes :=
    AttrBuilder.pushAll_bytes .new attrs
  rw [encoded] at small ⊢
  have whole := Whole.of_bytes attrs (value_lt_of_encoded small)
  rw [buildMessage_eq, parseMessage_message, if_neg (not_not_intro rfl),
    UInt16.toNat_ofNat_of_lt' small, List.take_length, whole.lists.read_eq]

/-- The value of an XOR-MAPPED-ADDRESS attribute as RFC 5389 defines it; its first byte
carries no meaning. -/
def xorMappedValue (reserved : UInt8) (addr : SocketAddr) (txn : Vector UInt8 12) : Bytes :=
  match addr.ip with
  | .v4 ip => [reserved, 0x01] ++ be16 (addr.port ^^^ 0x2112) ++ be32 (ip.toBits ^^^ 0x2112A442)
  | .v6 ip => [reserved, 0x02] ++ be16 (addr.port ^^^ 0x2112) ++
      List.zipWith (· ^^^ ·) ip.octets.toList (be32 0x2112A442 ++ txn.toList)

theorem decodeXorMappedAddress_value (reserved : UInt8) (addr : SocketAddr)
    (txn : Vector UInt8 12) :
    decodeXorMappedAddress (xorMappedValue reserved addr txn) txn = .ok addr := by
  obtain ⟨ip, port⟩ := addr
  have samePort : (port ^^^ 0x2112) ^^^ portMask = port := by
    rw [UInt16.xor_assoc, show (0x2112 : UInt16) ^^^ portMask = 0 by decide, UInt16.xor_zero]
  cases ip with
  | v4 ip =>
    have sameBits : (ip.toBits ^^^ 0x2112A442) ^^^ magicCookie = ip.toBits := by
      rw [UInt32.xor_assoc, show (0x2112A442 : UInt32) ^^^ magicCookie = 0 by decide,
        UInt32.xor_zero]
    have readPort : readBe16 ((xorMappedValue reserved ⟨.v4 ip, port⟩ txn).getD 2 0)
        ((xorMappedValue reserved ⟨.v4 ip, port⟩ txn).getD 3 0) = port ^^^ 0x2112 :=
          readBe16_bytes _
    have readBits : readBe32 ((xorMappedValue reserved ⟨.v4 ip, port⟩ txn).getD 4 0)
        ((xorMappedValue reserved ⟨.v4 ip, port⟩ txn).getD 5 0)
        ((xorMappedValue reserved ⟨.v4 ip, port⟩ txn).getD 6 0)
        ((xorMappedValue reserved ⟨.v4 ip, port⟩ txn).getD 7 0) = ip.toBits ^^^ 0x2112A442 :=
          readBe32_bytes _
    have size : (xorMappedValue reserved ⟨.v4 ip, port⟩ txn).length = 8 := rfl
    have family : (xorMappedValue reserved ⟨.v4 ip, port⟩ txn).getD 1 0 = familyIpv4 := rfl
    simp only [decodeXorMappedAddress, size, family, readPort, readBits, samePort, sameBits,
      Ipv4Addr.ofBits_toBits]
    rfl
  | v6 ip =>
    have size : (xorMappedValue reserved ⟨.v6 ip, port⟩ txn).length = 20 := by simp [xorMappedValue]
    have readPort : readBe16 ((xorMappedValue reserved ⟨.v6 ip, port⟩ txn).getD 2 0)
        ((xorMappedValue reserved ⟨.v6 ip, port⟩ txn).getD 3 0) = port ^^^ 0x2112 :=
          readBe16_bytes _
    have octets : Vector.ofFn (fun i : Fin 16 => (xorMappedValue reserved ⟨.v6 ip, port⟩ txn).getD
        (4 + i.val) 0 ^^^
        (be32 magicCookie ++ txn.toList).getD i.val 0) = ip.octets := by
      apply Vector.ext
      intro i inside
      have behind : (xorMappedValue reserved ⟨.v6 ip, port⟩ txn).getD (4 + i) 0 =
          (List.zipWith (· ^^^ ·) ip.octets.toList (be32 magicCookie ++ txn.toList)).getD i 0 := by
        rw [Nat.add_comm]
        rfl
      have long : i < (be32 magicCookie ++ txn.toList).length := by simpa using inside
      have both : i < (List.zipWith (· ^^^ ·) ip.octets.toList
          (be32 magicCookie ++ txn.toList)).length := by
        simpa using inside
      rw [Vector.getElem_ofFn, behind, List.getD_eq_getElem _ _ both, List.getD_eq_getElem _ _ long,
        List.getElem_zipWith, UInt8.xor_assoc, UInt8.xor_self, UInt8.xor_zero,
          Vector.getElem_toList]
    have family : (xorMappedValue reserved ⟨.v6 ip, port⟩ txn).getD 1 0 = familyIpv6 := rfl
    simp only [decodeXorMappedAddress, size, family, readPort, samePort, octets]
    rfl

theorem firstOf_append {attrType : UInt16} {before : List Attribute}
    (others : ∀ attr ∈ before, attr.1 ≠ attrType) (value : Bytes) (after : List Attribute) :
    firstOf attrType (before ++ (attrType, value) :: after) = some value := by
  have skipped : before.find? (fun attr => decide (attr.1 = attrType)) = none := by
    rw [List.find?_eq_none]
    intro attr member
    simpa using others attr member
  rw [firstOf, List.find?_append, skipped, Option.none_or, List.find?_cons_of_pos (by simp)]
  rfl

/-- A success message whose first XOR-MAPPED-ADDRESS encodes an address yields it. -/
theorem parseBindingResponse_value (addr : SocketAddr) (reserved : UInt8) (txn : Vector UInt8 12)
    {length : UInt16} {body : Bytes} {before after : List Attribute}
    (lists : Lists (body.take length.toNat)
      (before ++ (attrXorMappedAddress, xorMappedValue reserved addr txn) :: after))
    (others : ∀ attr ∈ before, attr.1 ≠ attrXorMappedAddress) :
    parseBindingResponse (message bindingSuccess length magicCookie txn body) txn = .ok addr := by
  rw [parseBindingResponse_message, lists.read_eq, mappedAddress, firstOf_append others]
  exact ⟨rfl, rfl, decodeXorMappedAddress_value reserved addr txn⟩

/-- Decoding undoes encoding, for whole messages and for the address of a response. -/
theorem stun_decoding_undoes_encoding :
    (∀ msgType txn attrs, (AttrBuilder.new.pushAll attrs).bytes.length < 65536 →
      parseMessage (buildMessage msgType txn (AttrBuilder.new.pushAll attrs).bytes) =
        .ok ⟨msgType, txn, attrs⟩) ∧
    (∀ addr reserved txn length body before after,
      Lists (body.take length.toNat)
        (before ++ (attrXorMappedAddress, xorMappedValue reserved addr txn) :: after) →
      (∀ attr ∈ before, attr.1 ≠ attrXorMappedAddress) →
      parseBindingResponse (message bindingSuccess length magicCookie txn body) txn = .ok addr) :=
  ⟨parseMessage_build, fun addr reserved txn _ _ _ _ lists others =>
    parseBindingResponse_value addr reserved txn lists others⟩

theorem stun_decoding_undoes_encoding_mixed :
    parseMessage (buildMessage bindingSuccess (.replicate 12 7)
        (AttrBuilder.new.pushAll [(0x8022, [1, 2, 3]), (attrMappedAddress, [])]).bytes) =
      .ok ⟨bindingSuccess, .replicate 12 7, [(0x8022, [1, 2, 3]), (attrMappedAddress, [])]⟩ ∧
    parseBindingResponse (message bindingSuccess 32 magicCookie (.replicate 12 7)
        ([(0x8022, [1, 2, 3]), (attrXorMappedAddress,
          xorMappedValue 0 ⟨.v6 ⟨.replicate 16 0xFD⟩, 3478⟩ (.replicate 12 7))].flatMap
            Attribute.bytes))
      (.replicate 12 7) = .ok ⟨.v6 ⟨.replicate 16 0xFD⟩, 3478⟩ := by
  have whole := Whole.of_bytes [(0x8022, [1, 2, 3]), (attrXorMappedAddress,
    xorMappedValue 0 ⟨.v6 ⟨.replicate 16 0xFD⟩, 3478⟩ (.replicate 12 7))] (by decide)
  exact ⟨stun_decoding_undoes_encoding.1 _ _ _ (by decide),
    stun_decoding_undoes_encoding.2 _ 0 _ 32 _ [(0x8022, [1, 2, 3])] [] whole.lists (by decide)⟩

end FragglePacket.NetworkTests
