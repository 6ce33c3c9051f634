import FragglePacket.NetworkTests.TurnTrust

/-! The authenticated ALLOCATE request: what a server reads in it, and what its integrity
value covers. -/

namespace FragglePacket.NetworkTests

open FragglePacket.Wire

/-- The attributes in front of the integrity value. -/
def credentialAttrs (username realm : String) (nonce : Bytes) : List Attribute :=
  [(attrRequestedTransport, [17, 0, 0, 0]), (attrUsername, asBytes username),
    (attrRealm, asBytes realm), (attrNonce, nonce)]

def attrsBytes (attrs : List Attribute) : Bytes := attrs.flatMap Attribute.bytes

/-- A request that a server can parse and verify: the declared length is that of the body,
the attributes are the given ones with MESSAGE-INTEGRITY behind them, and that is the MAC
of every byte in front of it. -/
structure Verifiable (txn : Vector UInt8 12) (attrs : List Attribute)
    (key request : Bytes) : Prop where
  declared : 20 + declaredLength request = request.length
  parsed : ∃ preceding mac, request = preceding ++ Attribute.bytes (attrMessageIntegrity, mac) ∧
    mac = hmacSha1 key preceding ∧
    parseMessage request = .ok ⟨allocateRequest, txn, attrs ++ [(attrMessageIntegrity, mac)]⟩

/-- The size of the body of a request with these attributes in front of the integrity value. -/
def requestSize (attrs : List Attribute) : Nat := (attrsBytes attrs).length + 24

theorem attrsBytes_append (front back : List Attribute) :
    attrsBytes (front ++ back) = attrsBytes front ++ attrsBytes back := List.flatMap_append

theorem integrity_bytes_length (key preceding : Bytes) :
    (Attribute.bytes (attrMessageIntegrity, hmacSha1 key preceding)).length = 24 := by
  have mac := hmacSha1_length key preceding
  simp only [Attribute.bytes, List.length_append, be16_length, List.length_replicate, mac]
  rfl

theorem push_bytes (builder : AttrBuilder) (attrType : UInt16) (value : Bytes) :
    (builder.push attrType value).bytes = builder.bytes ++ Attribute.bytes (attrType, value) := by
  simp only [AttrBuilder.push, Attribute.bytes, pad4, padding, List.append_assoc]

/-- The bytes that the integrity value is computed over. -/
def macInput (txn : Vector UInt8 12) (attrs : List Attribute) : Bytes :=
  message allocateRequest (.ofNat (requestSize attrs)) magicCookie txn (attrsBytes attrs)

/-- The attributes of the request, the integrity value among them. -/
def requestAttrs (txn : Vector UInt8 12) (attrs : List Attribute) (key : Bytes) : List Attribute :=
  attrs ++ [(attrMessageIntegrity, hmacSha1 key (macInput txn attrs))]

theorem requestAttrs_bytes (txn : Vector UInt8 12) (attrs : List Attribute) (key : Bytes) :
    attrsBytes (requestAttrs txn attrs key) =
      attrsBytes attrs ++ Attribute.bytes
        (attrMessageIntegrity, hmacSha1 key (macInput txn attrs)) := by
  rw [requestAttrs, attrsBytes_append, attrsBytes, attrsBytes, List.flatMap_singleton]

theorem requestAttrs_size (txn : Vector UInt8 12) (attrs : List Attribute) (key : Bytes) :
    (attrsBytes (requestAttrs txn attrs key)).length = requestSize attrs := by
  rw [requestAttrs_bytes, List.length_append, integrity_bytes_length, requestSize]

/-- The header under the MAC is the header on the wire. -/
theorem sealed_request (txn : Vector UInt8 12) (attrs : List Attribute) (key : Bytes)
    {builder : AttrBuilder} (pushed : builder.bytes = attrsBytes attrs) :
    buildMessage allocateRequest txn
      (builder.push attrMessageIntegrity (hmacSha1 key (be16 allocateRequest ++
        be16 (.ofNat (builder.bytes.length + 24)) ++ be32 magicCookie ++ txn.toList ++
          builder.bytes))).bytes =
      message allocateRequest (.ofNat (requestSize attrs)) magicCookie txn
        (attrsBytes (requestAttrs txn attrs key)) := by
  have header : be16 allocateRequest ++ be16 (.ofNat (requestSize attrs)) ++ be32 magicCookie ++
      txn.toList ++ attrsBytes attrs = macInput txn attrs := by
    simp only [macInput, message, List.append_assoc]
  rw [push_bytes, pushed, ← requestSize, header, ← requestAttrs_bytes, buildMessage_eq,
    requestAttrs_size]

theorem buildAuthenticatedAllocateRequest_eq (txn : Vector UInt8 12) (username realm : String)
    (nonce key : Bytes) :
    buildAuthenticatedAllocateRequest txn username realm nonce key =
      message allocateRequest (.ofNat (requestSize (credentialAttrs username realm nonce)))
        magicCookie txn
        (attrsBytes (requestAttrs txn (credentialAttrs username realm nonce) key)) := by
  rw [buildAuthenticatedAllocateRequest]
  exact sealed_request txn _ key
    (AttrBuilder.pushAll_bytes .new (credentialAttrs username realm nonce))

section Request
variable (txn : Vector UInt8 12) (attrs : List Attribute) (key : Bytes)

/-- The request is the MAC's input with the integrity value behind it. -/
theorem message_macInput : message allocateRequest (.ofNat (requestSize attrs)) magicCookie txn
    (attrsBytes (requestAttrs txn attrs key)) =
      macInput txn attrs ++ Attribute.bytes
        (attrMessageIntegrity, hmacSha1 key (macInput txn attrs)) := by
  rw [requestAttrs_bytes, macInput]
  simp only [message, List.append_assoc]

theorem verifiable_message_iff : Verifiable txn attrs key
    (message allocateRequest (.ofNat (requestSize attrs)) magicCookie txn
      (attrsBytes (requestAttrs txn attrs key))) ↔
      requestSize attrs < 65536 := by
  have size := requestAttrs_size txn attrs key
  have declared : declaredLength
      (message allocateRequest (.ofNat (requestSize attrs)) magicCookie txn
      (attrsBytes (requestAttrs txn attrs key))) = requestSize attrs % 65536 := by
    rw [← UInt16.toNat_ofNat']
    exact congrArg UInt16.toNat (readBe16_bytes (.ofNat (requestSize attrs)))
  constructor
  · intro verifiable
    have same := verifiable.declared
    rw [declared, message_length, size] at same
    omega
  · intro small
    have built : (AttrBuilder.new.pushAll (requestAttrs txn attrs key)).bytes =
        attrsBytes (requestAttrs txn attrs key) :=
      AttrBuilder.pushAll_bytes .new (requestAttrs txn attrs key)
    have parsed := parseMessage_build allocateRequest txn (requestAttrs txn attrs key)
    rw [built, buildMessage_eq, size] at parsed
    refine ⟨?_, _, _, message_macInput txn attrs key, rfl, parsed small⟩
    rw [declared, message_length, size, Nat.mod_eq_of_lt small]

end Request

/-- The authenticated request is well formed and verifiable exactly when its body fits the
16-bit length. -/
theorem authenticated_request_verifiable_iff (txn : Vector UInt8 12) (username realm : String)
    (nonce key : Bytes) :
    Verifiable txn (credentialAttrs username realm nonce) key
        (buildAuthenticatedAllocateRequest txn username realm nonce key) ↔
      requestSize (credentialAttrs username realm nonce) < 65536 := by
  rw [buildAuthenticatedAllocateRequest_eq, verifiable_message_iff]

/-- A stream delivers a message whose declared length is that of its body. -/
theorem readOneStunMessage_message (msgType : UInt16) {length : UInt16} (cookie : UInt32)
    (txn : Vector UInt8 12) {body : Bytes} (same : length.toNat = body.length) :
    readOneStunMessage (message msgType length cookie txn body) =
      some (message msgType length cookie txn body, []) := by
  have long : ¬ (message msgType length cookie txn body).length < 20 := by
    rw [message_length]
    omega
  have readLength : readBe16 (((message msgType length cookie txn body).take 20).getD 2 0)
      (((message msgType length cookie txn body).take 20).getD 3 0) = length :=
        readBe16_bytes length
  have whole := List.take_append_drop 20 (message msgType length cookie txn body)
  rw [message_drop] at whole
  simp only [readOneStunMessage, readExact, if_neg long, Option.bind_eq_bind, Option.bind_some,
    readLength, same, message_drop, Nat.lt_irrefl, if_false, List.take_length,
    List.drop_length, whole]

/-- A challenge whose nonce nearly fills the length of a message. -/
def largeAttrs (nonce : Bytes) : List Attribute :=
  [(attrErrorCode, [0, 0, 4, 1]), (attrRealm, [0x72]), (attrNonce, nonce)]

def largeChallenge (nonce : Bytes) : Bytes :=
  buildMessage allocateError (.replicate 12 0) (AttrBuilder.new.pushAll (largeAttrs nonce)).bytes

theorem attribute_bytes_length (attr : Attribute) :
    attr.bytes.length = 4 + attr.2.length + padding attr.2.length := by
  simp only [Attribute.bytes, List.length_append, be16_length, List.length_replicate]

section Large
variable {nonce : Bytes} (size : nonce.length = 65512)
include size

theorem largeAttrs_size : (AttrBuilder.new.pushAll (largeAttrs nonce)).bytes.length = 65532 := by
  have bytes : (AttrBuilder.new.pushAll (largeAttrs nonce)).bytes =
      (largeAttrs nonce).flatMap Attribute.bytes :=
    AttrBuilder.pushAll_bytes .new (largeAttrs nonce)
  rw [bytes]
  simp only [largeAttrs, List.flatMap_cons, List.flatMap_nil, List.length_append,
    attribute_bytes_length, size, List.length_cons, List.length_nil, padding]

theorem largeAttrs_small : (AttrBuilder.new.pushAll (largeAttrs nonce)).bytes.length < 65536 := by
  rw [largeAttrs_size size]
  decide

theorem largeChallenge_taken : challengeOf (largeChallenge nonce) =
    some (⟨allocateError, .replicate 12 0, largeAttrs nonce⟩, "r", nonce) := by
  have parsed : parseMessage (largeChallenge nonce) =
      .ok ⟨allocateError, .replicate 12 0, largeAttrs nonce⟩ :=
    parseMessage_build allocateError (.replicate 12 0) (largeAttrs nonce) (largeAttrs_small size)
  have realm : fromUtf8 [0x72] = some "r" := by decide
  have fields : extractRealmNonce (largeAttrs nonce) = (fromUtf8 [0x72], some nonce) := rfl
  rw [realm] at fields
  simp only [challengeOf, parsed, fields]
  rfl

theorem largeChallenge_delivered :
    (⟨2, largeChallenge nonce⟩ : TcpStream).firstMessage = some (largeChallenge nonce) := by
  have read := readOneStunMessage_message allocateError magicCookie (.replicate 12 0)
    (UInt16.toNat_ofNat_of_lt' (largeAttrs_small size))
  rw [← buildMessage_eq] at read
  exact congrArg (Option.map Prod.fst) read

theorem large_request_size : requestSize (credentialAttrs "user" "r" nonce) = 65564 := by
  have user : (asBytes "user").length = 4 := by decide
  have realm : (asBytes "r").length = 1 := by decide
  rw [requestSize, attrsBytes]
  simp only [credentialAttrs, List.flatMap_cons, List.flatMap_nil, List.length_append,
    attribute_bytes_length, size, user, realm]
  rfl

end Large

/-- A challenge over a stream can draw a request that no server can parse. -/
theorem authenticated_request_overflows :
    ¬ ∀ (creds : TurnCredentials) (txn2 : Vector UInt8 12) (stream : TcpStream)
    (first : Bytes) (parsed : ParsedMessage) (realm : String) (nonce : Bytes), stream.firstMessage =
      some first →
    challengeOf first = some (parsed, realm, nonce) →
      Verifiable txn2 (credentialAttrs creds.username realm nonce)
        (longTermKey creds.username realm creds.password)
        (authenticatedRequest creds realm nonce txn2) := by
  intro claim
  have size : (List.replicate 65512 (0 : UInt8)).length = 65512 := List.length_replicate
  have verifiable :=
    claim ⟨"user", "pass"⟩ (.replicate 12 1) _ _ _ _ _ (largeChallenge_delivered size)
      (largeChallenge_taken size)
  rw [authenticatedRequest, buildAuthenticatedAllocateRequest_eq, verifiable_message_iff,
    large_request_size size]
    at verifiable
  exact absurd verifiable (by decide)

end FragglePacket.NetworkTests
