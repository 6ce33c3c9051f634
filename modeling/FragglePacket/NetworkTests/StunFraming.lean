import FragglePacket.NetworkTests.Stun

/-! How a STUN datagram is framed, and what the parser accepts of it. -/

namespace FragglePacket.NetworkTests

open FragglePacket.Net FragglePacket.Wire

def attrType (body : Bytes) (i : Nat) : UInt16 := readBe16 (body.getD i 0) (body.getD (i + 1) 0)

/-- The offset behind the attribute at offset `i`, as the loop advances. -/
def nextOffset (body : Bytes) (i : Nat) : Nat := valEnd body i + pad4 (attrLen body i)

/-- The offsets of the attributes that the loop walks from offset `i` on. -/
def attrOffsets (body : Bytes) (i : Nat) : List Nat :=
  if i + 4 ≤ body.length then i :: attrOffsets body (nextOffset body i) else []
termination_by body.length - i
decreasing_by
  simp only [nextOffset, valEnd]
  omega

section Header
variable {body : Bytes} {i : Nat}

theorem drop_header (opened : i + 4 ≤ body.length) :
    body.drop i = be16 (attrType body i) ++
      (be16 (.ofNat (attrLen body i)) ++ body.drop (i + 4)) := by
  have header : body.drop i = body.getD i 0 :: body.getD (i + 1) 0 :: body.getD (i + 2) 0 ::
      body.getD (i + 3) 0 :: body.drop (i + 4) := by
    rw [List.getD_eq_getElem _ _ (by omega), List.getD_eq_getElem _ _ (by omega),
      List.getD_eq_getElem _ _ (by omega), List.getD_eq_getElem _ _ (by omega),
      List.drop_eq_getElem_cons (by omega), List.drop_eq_getElem_cons (by omega),
      List.drop_eq_getElem_cons (by omega), List.drop_eq_getElem_cons (by omega)]
  rw [header, attrType, attrLen, UInt16.ofNat_toNat, be16_readBe16, be16_readBe16]
  rfl

theorem attrLen_lt (body : Bytes) (i : Nat) : attrLen body i < 65536 := UInt16.toNat_lt _

theorem attrLen_toNat (body : Bytes) (i : Nat) :
    (UInt16.ofNat (attrLen body i)).toNat = attrLen body i :=
  UInt16.toNat_ofNat_of_lt' (attrLen_lt body i)

/-- The value of an attribute, cut off where the body ends. -/
theorem attrAt_value (body : Bytes) (i : Nat) :
    (body.take (valEnd body i)).drop (i + 4) = (body.drop (i + 4)).take (attrLen body i) := by
  rw [List.drop_take, List.take_eq_take_iff, List.length_drop, valEnd]
  omega

theorem drop_nextOffset (body : Bytes) (i : Nat) :
    body.drop (nextOffset body i) =
      (body.drop (i + 4)).drop (attrLen body i + padding (attrLen body i)) := by
  rw [List.drop_drop, nextOffset, valEnd, pad4, padding]
  by_cases cut : i + 4 + attrLen body i ≤ body.length
  · rw [Nat.min_eq_left cut, Nat.add_assoc]
  · rw [List.drop_eq_nil_of_le (by omega), List.drop_eq_nil_of_le (by omega)]

end Header

/-- The loop lists the attributes, the last one cut off where the body ends. -/
theorem attrLoop_eq (body : Bytes) (i : Nat) (attrs : List Attribute) :
    attrLoop body i attrs = attrs ++ readAttributes (body.drop i) := by
  induction i, attrs using attrLoop.induct body with
  | case1 i attrs opened _ _ _ ih =>
    rw [attrLoop, if_pos opened, ih, List.append_assoc, drop_header opened, readAttributes_append,
      attrLen_toNat]
    have next := drop_nextOffset body i
    rw [nextOffset] at next
    rw [next, ← attrAt_value]
    rfl
  | case2 i attrs closed =>
    have short : (body.drop i).length < 4 := by
      rw [List.length_drop]
      omega
    rw [attrLoop, if_neg closed, readAttributes_short short, List.append_nil]

/-- The attribute at offset `i` lies inside the body, with its value and its padding. -/
def AttrInside (body : Bytes) (i : Nat) : Prop :=
  i + 4 + attrLen body i + pad4 (attrLen body i) ≤ body.length

section Whole
variable {body : Bytes} {i : Nat}

theorem nextOffset_inside (inside : AttrInside body i) :
    nextOffset body i = i + 4 + attrLen body i + pad4 (attrLen body i) := by
  simp only [AttrInside] at inside
  rw [nextOffset, valEnd, Nat.min_eq_left (by omega)]

/-- The offsets walked are of attributes that lie inside the body just when the body is
whole attributes. -/
theorem attrOffsets_inside_iff (body : Bytes) (i : Nat) (start : i ≤ body.length)
    (aligned : (body.length - i) % 4 = 0) :
    (∀ j ∈ attrOffsets body i, AttrInside body j) ↔ ∃ attrs, Whole (body.drop i) attrs := by
  induction i using attrOffsets.induct body with
  | case1 i opened ih =>
    have walk : attrOffsets body i = i :: attrOffsets body (nextOffset body i) := by
      rw [attrOffsets, if_pos opened]
    rw [walk, List.forall_mem_cons]
    rw [drop_header opened]
    have room : AttrInside body i ↔
        attrLen body i + padding (attrLen body i) ≤ (body.drop (i + 4)).length := by
      rw [AttrInside, pad4, padding, List.length_drop]
      omega
    have fill := padding_aligned (attrLen body i)
    constructor
    · intro inside
      obtain ⟨here, later⟩ := inside
      have next := nextOffset_inside here
      simp only [AttrInside, pad4] at here
      rw [pad4] at next
      rw [padding] at fill
      obtain ⟨attrs, tail⟩ := (ih (by omega) (by omega)).mp later
      rw [drop_nextOffset] at tail
      exact ⟨_, Whole.cons (attrType body i) (attrLen_lt body i)
        (room.mp (by rw [AttrInside, pad4]; omega)) tail⟩
    · intro listed
      obtain ⟨attrs, whole⟩ := listed
      obtain ⟨fits, rest, tail⟩ := whole.uncons
      rw [attrLen_toNat] at fits tail
      have here := room.mpr fits
      have next := nextOffset_inside here
      refine ⟨here, ?_⟩
      simp only [AttrInside, pad4] at here
      rw [pad4] at next
      rw [padding] at fill
      rw [← drop_nextOffset] at tail
      exact (ih (by omega) (by omega)).mpr ⟨rest, tail⟩
  | case2 i closed =>
    have empty : body.drop i = [] := by
      apply List.drop_eq_nil_of_le
      omega
    rw [attrOffsets, if_neg closed, empty]
    exact ⟨fun _ => ⟨[], .done⟩, fun _ _ member => absurd member List.not_mem_nil⟩

end Whole

/-- The layout of a message: twenty bytes of header and a body. -/
def message (msgType length : UInt16) (cookie : UInt32) (txn : Vector UInt8 12)
    (body : Bytes) : Bytes :=
  be16 msgType ++ (be16 length ++ (be32 cookie ++ (txn.toList ++ body)))

section Message
variable (msgType length : UInt16) (cookie : UInt32) (txn : Vector UInt8 12) (body : Bytes)

theorem message_length : (message msgType length cookie txn body).length = 20 + body.length := by
  simp only [message, List.length_append, be16_length, be32_length, Vector.length_toList]
  omega

theorem message_drop : (message msgType length cookie txn body).drop 20 = body := by
  have header : (be16 msgType ++ (be16 length ++ (be32 cookie ++ txn.toList))).length =
      20 := by simp
  have split : message msgType length cookie txn body =
      (be16 msgType ++ (be16 length ++ (be32 cookie ++ txn.toList))) ++ body := by
    simp only [message, List.append_assoc]
  rw [split, List.drop_left' header]

/-- The bytes that the header leaves of the body. -/
theorem message_body : ((message msgType length cookie txn body).take
    (min (20 + length.toNat) (message msgType length cookie txn body).length)).drop 20 =
      body.take length.toNat := by
  rw [List.drop_take, message_drop, message_length, List.take_eq_take_iff]
  omega

theorem message_txn :
    Vector.ofFn (fun i : Fin 12 => (message msgType length cookie txn body).getD (8 + i.val) 0) =
      txn := by
  apply Vector.ext
  intro i inside
  have behind : (message msgType length cookie txn body).getD (8 + i) 0 =
      (txn.toList ++ body).getD i 0 := by
    rw [Nat.add_comm]
    rfl
  rw [Vector.getElem_ofFn, behind, List.getD_append _ _ _ _ (by simpa using inside)]
  simp [inside]

theorem parseMessage_message : parseMessage (message msgType length cookie txn body) =
    if cookie ≠ magicCookie then .error .badMagicCookie
    else .ok ⟨msgType, txn, readAttributes (body.take length.toNat)⟩ := by
  have long : ¬ (message msgType length cookie txn body).length < 20 := by
    rw [message_length]
    omega
  have readType : readBe16 ((message msgType length cookie txn body).getD 0 0)
      ((message msgType length cookie txn body).getD 1 0) = msgType := readBe16_bytes msgType
  have readLength : readBe16 ((message msgType length cookie txn body).getD 2 0)
      ((message msgType length cookie txn body).getD 3 0) = length := readBe16_bytes length
  have readCookie : readBe32 ((message msgType length cookie txn body).getD 4 0)
      ((message msgType length cookie txn body).getD 5 0)
        ((message msgType length cookie txn body).getD 6 0)
      ((message msgType length cookie txn body).getD 7 0) = cookie := readBe32_bytes cookie
  simp only [parseMessage, if_neg long, readType, readLength, readCookie, message_txn, message_body,
    attrLoop_eq, List.nil_append, List.drop_zero]

end Message

private theorem exists_four {bytes : Bytes} (long : 4 ≤ bytes.length) :
    ∃ a b c d rest, bytes = a :: b :: c :: d :: rest := by
  match bytes, long with
  | a :: b :: c :: d :: rest, _ => exact ⟨a, b, c, d, rest, rfl⟩

/-- Twenty bytes or more are a message, whatever they hold. -/
theorem exists_message {bytes : Bytes} (long : 20 ≤ bytes.length) :
    ∃ msgType length cookie txn body, bytes = message msgType length cookie txn body := by
  obtain ⟨b0, b1, b2, b3, rest, rfl⟩ := exists_four (Nat.le_trans (by decide) long)
  obtain ⟨b4, b5, b6, b7, rest, rfl⟩ := exists_four (show 4 ≤ rest.length by
    simp only [List.length_cons] at long
    omega)
  simp only [List.length_cons] at long
  have size : (rest.take 12).length = 12 := List.length_take_of_le (by omega)
  refine ⟨readBe16 b0 b1, readBe16 b2 b3, readBe32 b4 b5 b6 b7, ⟨(rest.take 12).toArray, size⟩,
    rest.drop 12, ?_⟩
  have parts : rest.take 12 ++ rest.drop 12 = rest := List.take_append_drop 12 rest
  simp only [message, be16_readBe16, be32_readBe32, Vector.toList_mk, parts]
  rfl

def Usable (value : Bytes) : Prop :=
  (value[1]? = some familyIpv4 ∧ 8 ≤ value.length) ∨
    (value[1]? = some familyIpv6 ∧ 20 ≤ value.length)

/-- The first XOR-MAPPED-ADDRESS is usable, or there is none and the first
MAPPED-ADDRESS is. -/
def Reveals (attrs : List Attribute) : Prop :=
  match firstOf attrXorMappedAddress attrs with
  | some value => Usable value
  | none => ∃ value, firstOf attrMappedAddress attrs = some value ∧ Usable value

/-- The datagram is a success message for this transaction whose attributes, the last
one cut off where the datagram or the declared length ends, reveal an address. -/
def Answers (bytes : Bytes) (txn : Vector UInt8 12) : Prop :=
  ∃ length body attrs, bytes = message bindingSuccess length magicCookie txn body ∧
    Lists (body.take length.toNat) attrs ∧ Reveals attrs

private theorem usable_iff {value : Bytes} (long : 4 ≤ value.length) : Usable value ↔
    (value.getD 1 0 = familyIpv4 ∧ 8 ≤ value.length) ∨
      (value.getD 1 0 = familyIpv6 ∧ 20 ≤ value.length) := by
  have inside : 1 < value.length := Nat.lt_of_lt_of_le (by decide) long
  rw [Usable, List.getElem?_eq_getElem inside, List.getD_eq_getElem _ _ inside, Option.some.injEq,
    Option.some.injEq]

private theorem usable_long {value : Bytes} (usable : Usable value) : 4 ≤ value.length := by
  rcases usable with ⟨_, long⟩ | ⟨_, long⟩
  · exact Nat.le_trans (by decide) long
  · exact Nat.le_trans (by decide) long

/-- The checks that both kinds of address pass. -/
private theorem decode_ok (value : Bytes) (ipv4 ipv6 : SocketAddr) (error : StunError) :
    (∃ addr, (if value.length < 4 then .error error
      else if value.getD 1 0 = familyIpv4 then if value.length < 8 then .error error else .ok ipv4
      else if value.getD 1 0 = familyIpv6 then if value.length < 20 then .error error else .ok ipv6
      else .error error : Except StunError SocketAddr) = .ok addr) ↔ Usable value := by
  by_cases short : value.length < 4
  · rw [if_pos short]
    constructor
    · intro ⟨_, accepted⟩
      cases accepted
    · intro usable
      exact absurd (usable_long usable) (Nat.not_le.mpr short)
  · rw [if_neg short, usable_iff (Nat.not_lt.mp short)]
    have differ : familyIpv6 ≠ familyIpv4 := by decide
    generalize value.getD 1 0 = family
    by_cases isIpv4 : family = familyIpv4
    · subst isIpv4
      by_cases cut : value.length < 8
      · simp [cut, differ.symm, Nat.not_le.mpr cut]
      · simp [cut, Nat.not_lt.mp cut]
    · by_cases isIpv6 : family = familyIpv6
      · subst isIpv6
        by_cases cut : value.length < 20
        · simp [cut, differ, Nat.not_le.mpr cut]
        · simp [cut, differ, Nat.not_lt.mp cut]
      · simp [isIpv4, isIpv6]

theorem decodeXorMappedAddress_ok (value : Bytes) (txn : Vector UInt8 12) :
    (∃ addr, decodeXorMappedAddress value txn = .ok addr) ↔ Usable value :=
  decode_ok value _ _ _

theorem decodeMappedAddress_ok (value : Bytes) :
    (∃ addr, decodeMappedAddress value = .ok addr) ↔ Usable value :=
  decode_ok value _ _ _

theorem mappedAddress_ok (attrs : List Attribute) (txn : Vector UInt8 12) :
    (∃ addr, mappedAddress attrs txn = .ok addr) ↔ Reveals attrs := by
  rw [mappedAddress, Reveals]
  cases firstOf attrXorMappedAddress attrs with
  | some value => exact decodeXorMappedAddress_ok value txn
  | none =>
    cases firstOf attrMappedAddress attrs with
    | some value => simpa using decodeMappedAddress_ok value
    | none => simp

theorem parseBindingResponse_message (msgType length : UInt16) (txn : Vector UInt8 12)
    (body : Bytes) (expectedTxn : Vector UInt8 12) (addr : SocketAddr) :
    parseBindingResponse (message msgType length magicCookie txn body) expectedTxn = .ok addr ↔
      txn = expectedTxn ∧ msgType = bindingSuccess ∧
        mappedAddress (readAttributes (body.take length.toNat)) expectedTxn = .ok addr := by
  have parsed := parseMessage_message msgType length magicCookie txn body
  rw [if_neg (not_not_intro rfl)] at parsed
  simp only [parseBindingResponse, parsed, bind, Except.bind]
  by_cases sameTxn : txn = expectedTxn
  · by_cases success : msgType = bindingSuccess
    · simp [sameTxn, success]
    · by_cases failure : msgType = bindingError
      · have differ : bindingError ≠ bindingSuccess := by decide
        simp [sameTxn, failure, differ]
      · simp [sameTxn, success, failure]
  · simp [sameTxn]

/-- What the parser accepts. -/
theorem parseBindingResponse_accepts (bytes : Bytes) (txn : Vector UInt8 12) :
    (∃ addr, parseBindingResponse bytes txn = .ok addr) ↔ Answers bytes txn := by
  constructor
  · intro ⟨addr, accepted⟩
    by_cases long : 20 ≤ bytes.length
    · obtain ⟨msgType, length, cookie, sent, body, rfl⟩ := exists_message long
      by_cases known : cookie = magicCookie
      · subst known
        obtain ⟨rfl, rfl, revealed⟩ := (parseBindingResponse_message _ _ _ _ _ _).mp accepted
        exact ⟨length, body, _, rfl, lists_read _, (mappedAddress_ok _ _).mp ⟨addr, revealed⟩⟩
      · rw [parseBindingResponse, parseMessage_message, if_pos known] at accepted
        cases accepted
    · rw [parseBindingResponse, parseMessage, if_pos (Nat.not_le.mp long)] at accepted
      cases accepted
  · intro ⟨length, body, attrs, layout, lists, reveals⟩
    subst layout
    obtain ⟨addr, revealed⟩ := (mappedAddress_ok attrs txn).mpr reveals
    exact ⟨addr, (parseBindingResponse_message _ _ _ _ _ _).mpr
      ⟨rfl, rfl, lists.read_eq.symm ▸ revealed⟩⟩

def declaredLength (bytes : Bytes) : Nat := (readBe16 (bytes.getD 2 0) (bytes.getD 3 0)).toNat

/-- The declared length is that of the body, and no attribute that is walked reaches
beyond it. -/
structure WellFramed (bytes : Bytes) : Prop where
  declared : 20 + declaredLength bytes = bytes.length
  aligned : declaredLength bytes % 4 = 0
  inside : ∀ i ∈ attrOffsets (bytes.drop 20) 0, AttrInside (bytes.drop 20) i

/-- A header and whole attributes, as many bytes as the header says. -/
def Framed (bytes : Bytes) : Prop :=
  ∃ msgType cookie txn body attrs, Whole body attrs ∧ body.length < 65536 ∧
    bytes = message msgType (.ofNat body.length) cookie txn body

theorem wellFramed_message (msgType length : UInt16) (cookie : UInt32) (txn : Vector UInt8 12)
    (body : Bytes) :
    WellFramed (message msgType length cookie txn body) ↔
      length.toNat = body.length ∧ ∃ attrs, Whole body attrs := by
  have readLength : declaredLength (message msgType length cookie txn body) = length.toNat :=
    congrArg UInt16.toNat (readBe16_bytes length)
  have whole := attrOffsets_inside_iff body 0 (Nat.zero_le _)
  constructor
  · intro ⟨declared, aligned, inside⟩
    rw [readLength, message_length] at declared
    rw [readLength] at aligned
    rw [message_drop] at inside
    have same : length.toNat = body.length := Nat.add_left_cancel declared
    exact ⟨same, (whole (same ▸ aligned)).mp inside⟩
  · intro ⟨same, attrs, complete⟩
    have aligned := complete.aligned
    refine ⟨?_, ?_, ?_⟩
    · rw [readLength, message_length, same]
    · rw [readLength, same]
      exact aligned
    · rw [message_drop]
      exact (whole aligned).mpr ⟨attrs, complete⟩

theorem wellFramed_iff (bytes : Bytes) : WellFramed bytes ↔ Framed bytes := by
  constructor
  · intro framed
    have long : 20 ≤ bytes.length := framed.declared ▸ Nat.le_add_right 20 _
    obtain ⟨msgType, length, cookie, txn, body, rfl⟩ := exists_message long
    obtain ⟨same, attrs, whole⟩ := (wellFramed_message _ _ _ _ _).mp framed
    refine ⟨msgType, cookie, txn, body, attrs, whole, same ▸ length.toNat_lt, ?_⟩
    rw [← same, UInt16.ofNat_toNat]
  · intro ⟨msgType, cookie, txn, body, attrs, whole, small, layout⟩
    rw [layout, wellFramed_message]
    exact ⟨UInt16.toNat_ofNat_of_lt' small, attrs, whole⟩

/-- An accepted response is well framed exactly where the datagram is a header and whole
attributes, or does not answer the request. -/
theorem binding_response_framed_iff (bytes : Bytes) (txn : Vector UInt8 12) :
    (∀ addr, parseBindingResponse bytes txn = .ok addr → WellFramed bytes) ↔
      Framed bytes ∨ ¬ Answers bytes txn := by
  rw [← wellFramed_iff, ← parseBindingResponse_accepts]
  constructor
  · intro framed
    by_cases accepted : ∃ addr, parseBindingResponse bytes txn = .ok addr
    · obtain ⟨addr, ok⟩ := accepted
      exact .inl (framed addr ok)
    · exact .inr accepted
  · intro condition addr ok
    rcases condition with framed | rejected
    · exact framed
    · exact absurd ⟨addr, ok⟩ rejected

/-- An XOR-MAPPED-ADDRESS with the eight bytes of an IPv4 address, of any declared length. -/
def shortAddress (length : UInt16) : Bytes :=
  be16 attrXorMappedAddress ++ (be16 length ++ [0, 1, 0xF5, 0x23, 0xEA, 0x12, 0xD5, 0x45])

/-- A datagram that ends before the declared length, and an attribute that claims more
than is there. -/
theorem truncated_response_accepted :
    (parseBindingResponse
        (message bindingSuccess 100 magicCookie (.replicate 12 0) (shortAddress 8))
        (.replicate 12 0) = .ok ⟨.v4 ⟨203, 0, 113, 7⟩, 54321⟩ ∧
      ¬ WellFramed (message bindingSuccess 100 magicCookie (.replicate 12 0) (shortAddress 8))) ∧
    (parseBindingResponse
        (message bindingSuccess 12 magicCookie (.replicate 12 0) (shortAddress 100))
        (.replicate 12 0) = .ok ⟨.v4 ⟨203, 0, 113, 7⟩, 54321⟩ ∧
      ¬ WellFramed
        (message bindingSuccess 12 magicCookie (.replicate 12 0) (shortAddress 100))) := by
  have early : readAttributes ((shortAddress 8).take (100 : UInt16).toNat) = _ :=
    readAttributes_last attrXorMappedAddress 8 (by decide)
  have claimed : readAttributes ((shortAddress 100).take (12 : UInt16).toNat) = _ :=
    readAttributes_last attrXorMappedAddress 100 (by decide)
  refine ⟨⟨?_, ?_⟩, ?_, ?_⟩
  · rw [parseBindingResponse_message, early]
    exact ⟨rfl, rfl, by decide⟩
  · rw [wellFramed_message]
    intro ⟨same, _⟩
    exact absurd same (by decide)
  · rw [parseBindingResponse_message, claimed]
    exact ⟨rfl, rfl, by decide⟩
  · rw [wellFramed_message]
    intro ⟨_, attrs, whole⟩
    exact absurd whole.uncons.1 (by decide)

end FragglePacket.NetworkTests
