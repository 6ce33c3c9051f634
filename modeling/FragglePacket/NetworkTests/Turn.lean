import FragglePacket.NetworkTests.CryptoMin
import FragglePacket.NetworkTests.Stun

/-! TURN allocation with long-term credentials, over datagrams and over a stream. -/

namespace FragglePacket.NetworkTests

open FragglePacket.Net FragglePacket.Wire

def allocateRequest : UInt16 := 0x0003
def allocateSuccess : UInt16 := 0x0103
def allocateError : UInt16 := 0x0113

def attrUsername : UInt16 := 0x0006
def attrMessageIntegrity : UInt16 := 0x0008
def attrRealm : UInt16 := 0x0014
def attrNonce : UInt16 := 0x0015
def attrXorRelayedAddress : UInt16 := 0x0016
def attrRequestedTransport : UInt16 := 0x0019
def attrLifetime : UInt16 := 0x000D

/-- The digits of a number, with zeros in front up to a width. -/
def zeroPadded (width base number : Nat) : String :=
  let digits := Nat.toDigits base number
  .ofList (List.replicate (width - digits.length) '0' ++ digits)

/-- The `Display` text of an error. -/
def StunError.text : StunError → String
  | .tooShort => "response shorter than a STUN header"
  | .badMagicCookie => "response magic cookie does not match RFC 5389"
  | .transactionIdMismatch => "response transaction ID does not match the request"
  | .unexpectedMessageType msgType =>
    "unexpected STUN message type 0x" ++ zeroPadded 4 16 msgType.toNat
  | .errorResponse errorClass number =>
    "STUN error response " ++ toString errorClass.toNat ++ zeroPadded 2 10 number.toNat
  | .missingMappedAddress => "success response carried no (XOR-)MAPPED-ADDRESS"
  | .malformedAddressAttribute => "(XOR-)MAPPED-ADDRESS attribute was malformed"

structure TurnCredentials where
  username : String
  password : String

inductive TurnOutcome where
  | allocated (lifetimeSecs : UInt32) (relayed : SocketAddr)
  | unauthorized
  | credentialsRejected
  | noCredentialsSupplied
  | unreachable
  | invalid (reason : String)
deriving DecidableEq

/-- `str::as_bytes`. -/
def asBytes (text : String) : Bytes := text.toUTF8.data.toList

/-- `String::from_utf8`. -/
def fromUtf8 (bytes : Bytes) : Option String := String.fromUTF8? ⟨bytes.toArray⟩

def buildAllocateRequest (txn : Vector UInt8 12) : Bytes :=
  let attrs := AttrBuilder.new.push attrRequestedTransport [17, 0, 0, 0]
  buildMessage allocateRequest txn attrs.bytes

def longTermKey (username realm password : String) : Bytes :=
  md5 (asBytes (username ++ ":" ++ realm ++ ":" ++ password))

def buildAuthenticatedAllocateRequest (txn : Vector UInt8 12) (username realm : String)
    (nonce key : Bytes) : Bytes :=
  let attrs := AttrBuilder.new.push attrRequestedTransport [17, 0, 0, 0]
  let attrs := attrs.push attrUsername (asBytes username)
  let attrs := attrs.push attrRealm (asBytes realm)
  let attrs := attrs.push attrNonce nonce
  -- the length that counts the MESSAGE-INTEGRITY attribute still to come
  let miLenPlaceholder := attrs.bytes.length + 24
  let headerForMi := be16 allocateRequest ++ be16 (.ofNat miLenPlaceholder) ++ be32 magicCookie ++
    txn.toList ++ attrs.bytes
  let mac := hmacSha1 key headerForMi
  let attrs := attrs.push attrMessageIntegrity mac
  buildMessage allocateRequest txn attrs.bytes

/-- One round of the loop of `extract_realm_nonce`: the last of each kind counts. -/
def noteRealmNonce (found : Option String × Option Bytes) (attr : Attribute) :
    Option String × Option Bytes :=
  if attr.1 = attrRealm then (fromUtf8 attr.2, found.2)
  else if attr.1 = attrNonce then (found.1, some attr.2)
  else found

def extractRealmNonce (attrs : List Attribute) : Option String × Option Bytes :=
  attrs.foldl noteRealmNonce (none, none)

/-- One round of the loop of `parse_allocate_response` over a success response. -/
def noteAllocation (txn : Vector UInt8 12) (found : Option UInt32 × Option SocketAddr)
    (attr : Attribute) :
    Option UInt32 × Option SocketAddr :=
  if attr.1 = attrLifetime ∧ 4 ≤ attr.2.length then
    (some (readBe32 (attr.2.getD 0 0) (attr.2.getD 1 0) (attr.2.getD 2 0)
      (attr.2.getD 3 0)), found.2)
  else if attr.1 = attrXorRelayedAddress then
    (found.1, (decodeXorMappedAddress attr.2 txn).toOption)
  else found

/-- What an error response says of the credentials. The second test is the source's:
its `number == 1` has been answered by the first. -/
def errorOutcome (errorClass number : UInt8) : Except String TurnOutcome :=
  if errorClass = 4 ∧ number = 1 then .ok .unauthorized
  else if errorClass = 4 ∧ (number = 1 ∨ number = 41) then .ok .credentialsRejected
  else if errorClass = 4 ∧ number = 38 then .ok .credentialsRejected
  else .error ("TURN error response " ++ toString errorClass.toNat ++ zeroPadded 2 10 number.toNat)

def parseAllocateResponse (bytes : Bytes) (expectedTxn : Vector UInt8 12) :
    Except String TurnOutcome := do
  let parsed ← (parseMessage bytes).mapError StunError.text
  if parsed.transactionId ≠ expectedTxn then .error "TURN response transaction ID mismatch"
  else if parsed.msgType = allocateSuccess then
    match parsed.attrs.foldl (noteAllocation expectedTxn) (none, none) with
    | (some lifetime, some relayed) => .ok (.allocated lifetime relayed)
    | _ => .error "ALLOCATE success carried no LIFETIME/XOR-RELAYED-ADDRESS"
  else if parsed.msgType = allocateError then
    let (errorClass, number) := extractErrorCode parsed.attrs
    errorOutcome errorClass number
  else .error ("unexpected TURN message type 0x" ++ zeroPadded 4 16 parsed.msgType.toNat)

/-- `Ok(o) => o, Err(e) => TurnOutcome::Invalid(e)`. -/
def outcomeOf : Except String TurnOutcome → TurnOutcome
  | .ok outcome => outcome
  | .error reason => .invalid reason

/-- The two calls of the exchange that reach the network; `none` is an error. -/
structure Transport (σ : Type) where
  send : σ → Bytes → Option σ
  receive : σ → Option (Bytes × σ)

/-- The messages that went out, the ones that were delivered, and what is reported. -/
structure Exchange where
  sent : List Bytes
  received : List Bytes
  outcome : TurnOutcome

section Allocate
variable {σ : Type} (transport : Transport σ)

/-- The exchange from the challenge on, of which `first` is the message. -/
def authenticate (socket : σ) (creds : TurnCredentials) (realm : String) (nonce : Bytes)
    (txn2 : Vector UInt8 12) (req1 first : Bytes) : Exchange :=
  let key := longTermKey creds.username realm creds.password
  let req2 := buildAuthenticatedAllocateRequest txn2 creds.username realm nonce key
  match transport.send socket req2 with
  | none => ⟨[req1], [first], .unreachable⟩
  | some socket =>
    match transport.receive socket with
    | none => ⟨[req1, req2], [first], .unreachable⟩
    | some (second, _) =>
      ⟨[req1, req2], [first, second], outcomeOf (parseAllocateResponse second txn2)⟩

/-- The exchange from the first answer on. -/
def answerFirst (socket : σ) (creds : TurnCredentials) (txn1 txn2 : Vector UInt8 12)
    (req1 first : Bytes) :
    Exchange :=
  match parseMessage first with
  | .error e => ⟨[req1], [first], .invalid e.text⟩
  | .ok parsed1 =>
    if parsed1.msgType ≠ allocateError then
      ⟨[req1], [first], outcomeOf (parseAllocateResponse first txn1)⟩
    else
      match extractRealmNonce parsed1.attrs with
      | (some realm, some nonce) => authenticate transport socket creds realm nonce txn2 req1 first
      | _ => ⟨[req1], [first], .invalid "401 challenge carried no REALM/NONCE"⟩

/-- `turn_allocate_udp` and `turn_allocate_tcp` with the transaction ids they draw. -/
def turnAllocate (socket : σ) (credentials : Option TurnCredentials)
    (txn1 txn2 : Vector UInt8 12) : Exchange :=
  match credentials with
  | none => ⟨[], [], .noCredentialsSupplied⟩
  | some creds =>
    let req1 := buildAllocateRequest txn1
    match transport.send socket req1 with
    | none => ⟨[], [], .unreachable⟩
    | some socket =>
      match transport.receive socket with
      | none => ⟨[req1], [], .unreachable⟩
      | some (first, socket) => answerFirst transport socket creds txn1 txn2 req1 first

end Allocate

/-- A datagram socket: how many sends go through before one fails, and the datagrams that
arrive, from whomever, before a wait runs out of time. -/
structure UdpSocket where
  sends : Nat
  datagrams : List Bytes

/-- `send_to`, and `recv_from` into a buffer of 1024 bytes. -/
def UdpSocket.transport : Transport UdpSocket where
  send socket _ := if socket.sends = 0 then none else some { socket with sends := socket.sends - 1 }
  receive socket :=
    match socket.datagrams with
    | [] => none
    | datagram :: rest => some (datagram.take 1024, { socket with datagrams := rest })

def turnAllocateUdp (socket : UdpSocket) (credentials : Option TurnCredentials)
    (txn1 txn2 : Vector UInt8 12) :
    Exchange :=
  turnAllocate UdpSocket.transport socket credentials txn1 txn2

/-- A stream: how many writes go through before one fails, and the bytes the peer delivers
before the stream ends. -/
structure TcpStream where
  writes : Nat
  incoming : Bytes

/-- `read_exact` on what a stream delivers. -/
def readExact (incoming : Bytes) (n : Nat) : Option (Bytes × Bytes) :=
  if incoming.length < n then none else some (incoming.take n, incoming.drop n)

def readOneStunMessage (incoming : Bytes) : Option (Bytes × Bytes) := do
  let (header, rest) ← readExact incoming 20
  let length := (readBe16 (header.getD 2 0) (header.getD 3 0)).toNat
  let (body, rest) ← readExact rest length
  some (header ++ body, rest)

def TcpStream.transport : Transport TcpStream where
  send stream _ :=
    if stream.writes = 0 then none else some { stream with writes := stream.writes - 1 }
  receive stream := (readOneStunMessage stream.incoming).map fun (message, rest) =>
    (message, { stream with incoming := rest })

def turnAllocateTcp (stream : TcpStream) (credentials : Option TurnCredentials)
    (txn1 txn2 : Vector UInt8 12) :
    Exchange :=
  turnAllocate TcpStream.transport stream credentials txn1 txn2

end FragglePacket.NetworkTests
