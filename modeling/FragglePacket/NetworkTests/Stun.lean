import FragglePacket.Net.IpAddr
import FragglePacket.Wire.Attributes

/-! STUN binding messages: building them, parsing them, and the address a binding
response reveals. -/

namespace FragglePacket.NetworkTests

open FragglePacket.Net FragglePacket.Wire

def magicCookie : UInt32 := 0x2112A442

def bindingRequest : UInt16 := 0x0001
def bindingSuccess : UInt16 := 0x0101
def bindingError : UInt16 := 0x0111

def attrMappedAddress : UInt16 := 0x0001
def attrErrorCode : UInt16 := 0x0009
def attrXorMappedAddress : UInt16 := 0x0020

def familyIpv4 : UInt8 := 0x01
def familyIpv6 : UInt8 := 0x02

def pad4 (len : Nat) : Nat := (4 - len % 4) % 4

/-- `AttrBuilder`: the attributes written so far. -/
structure AttrBuilder where
  bytes : Bytes

def AttrBuilder.new : AttrBuilder := ⟨[]⟩

def AttrBuilder.push (builder : AttrBuilder) (attrType : UInt16) (value : Bytes) : AttrBuilder :=
  ⟨builder.bytes ++ be16 attrType ++ be16 (.ofNat value.length) ++ value ++
    List.replicate (pad4 value.length) 0⟩

def buildMessage (msgType : UInt16) (transactionId : Vector UInt8 12) (attrs : Bytes) : Bytes :=
  be16 msgType ++ be16 (.ofNat attrs.length) ++ be32 magicCookie ++ transactionId.toList ++ attrs

/-- `build_binding_request` with the transaction id it draws. -/
def buildBindingRequest (txn : Vector UInt8 12) : Bytes × Vector UInt8 12 :=
  (buildMessage bindingRequest txn [], txn)

inductive StunError where
  | tooShort
  | badMagicCookie
  | transactionIdMismatch
  | unexpectedMessageType (msgType : UInt16)
  | errorResponse (errorClass number : UInt8)
  | missingMappedAddress
  | malformedAddressAttribute
deriving DecidableEq

structure ParsedMessage where
  msgType : UInt16
  transactionId : Vector UInt8 12
  attrs : List Attribute

/-- The declared length of the attribute at offset `i`. -/
def attrLen (body : Bytes) (i : Nat) : Nat :=
  (readBe16 (body.getD (i + 2) 0) (body.getD (i + 3) 0)).toNat

/-- Where the value of the attribute at offset `i` ends: the body cuts it off. -/
def valEnd (body : Bytes) (i : Nat) : Nat := min (i + 4 + attrLen body i) body.length

/-- The loop of `parse_message` from offset `i` on. The source also leaves it when
`val_start` is behind the body, where the loop condition never lets it get. -/
def attrLoop (body : Bytes) (i : Nat) (attrs : List Attribute) : List Attribute :=
  if i + 4 ≤ body.length then
    let attrType := readBe16 (body.getD i 0) (body.getD (i + 1) 0)
    let valStart := i + 4
    let value := (body.take (valEnd body i)).drop valStart
    attrLoop body (valEnd body i + pad4 (attrLen body i)) (attrs ++ [(attrType, value)])
  else attrs
termination_by body.length - i
decreasing_by
  simp only [valEnd]
  omega

def parseMessage (bytes : Bytes) : Except StunError ParsedMessage :=
  if bytes.length < 20 then .error .tooShort
  else
    let msgType := readBe16 (bytes.getD 0 0) (bytes.getD 1 0)
    let length := (readBe16 (bytes.getD 2 0) (bytes.getD 3 0)).toNat
    let cookie := readBe32 (bytes.getD 4 0) (bytes.getD 5 0) (bytes.getD 6 0) (bytes.getD 7 0)
    if cookie ≠ magicCookie then .error .badMagicCookie
    else
      let transactionId : Vector UInt8 12 := .ofFn fun i => bytes.getD (8 + i.val) 0
      let bodyEnd := min (20 + length) bytes.length
      let body := (bytes.take bodyEnd).drop 20
      .ok { msgType := msgType, transactionId := transactionId, attrs := attrLoop body 0 [] }

/-- `(MAGIC_COOKIE >> 16) as u16`, the mask of a port. -/
def portMask : UInt16 := (magicCookie >>> 16).toUInt16

def decodeXorMappedAddress (value : Bytes) (txn : Vector UInt8 12) : Except StunError SocketAddr :=
  if value.length < 4 then .error .malformedAddressAttribute
  else
    let family := value.getD 1 0
    let xport := readBe16 (value.getD 2 0) (value.getD 3 0)
    let port := xport ^^^ portMask
    if family = familyIpv4 then
      if value.length < 8 then .error .malformedAddressAttribute
      else
        let xaddr := readBe32 (value.getD 4 0) (value.getD 5 0) (value.getD 6 0) (value.getD 7 0)
        .ok ⟨.v4 (.ofBits (xaddr ^^^ magicCookie)), port⟩
    else if family = familyIpv6 then
      if value.length < 20 then .error .malformedAddressAttribute
      else
        let mask := be32 magicCookie ++ txn.toList
        .ok ⟨.v6 ⟨.ofFn fun i => value.getD (4 + i.val) 0 ^^^ mask.getD i.val 0⟩, port⟩
    else .error .malformedAddressAttribute

def decodeMappedAddress (value : Bytes) : Except StunError SocketAddr :=
  if value.length < 4 then .error .malformedAddressAttribute
  else
    let family := value.getD 1 0
    let port := readBe16 (value.getD 2 0) (value.getD 3 0)
    if family = familyIpv4 then
      if value.length < 8 then .error .malformedAddressAttribute
      else .ok ⟨.v4 ⟨value.getD 4 0, value.getD 5 0, value.getD 6 0, value.getD 7 0⟩, port⟩
    else if family = familyIpv6 then
      if value.length < 20 then .error .malformedAddressAttribute
      else .ok ⟨.v6 ⟨.ofFn fun i => value.getD (4 + i.val) 0⟩, port⟩
    else .error .malformedAddressAttribute

/-- The class and number of the first error code that is long enough. -/
def extractErrorCode (attrs : List Attribute) : UInt8 × UInt8 :=
  match attrs.find? fun attr => attr.1 = attrErrorCode ∧ 4 ≤ attr.2.length with
  | some attr => (attr.2.getD 2 0 &&& 0x07, attr.2.getD 3 0)
  | none => (0, 0)

/-- The value of the first attribute of a type. -/
def firstOf (attrType : UInt16) (attrs : List Attribute) : Option Bytes :=
  (attrs.find? fun attr => attr.1 = attrType).map (·.2)

/-- The address the attributes of a success response reveal. -/
def mappedAddress (attrs : List Attribute) (txn : Vector UInt8 12) : Except StunError SocketAddr :=
  match firstOf attrXorMappedAddress attrs with
  | some value => decodeXorMappedAddress value txn
  | none =>
    match firstOf attrMappedAddress attrs with
    | some value => decodeMappedAddress value
    | none => .error .missingMappedAddress

/-- Validates a binding response against the request it answers. -/
def parseBindingResponse (bytes : Bytes) (expectedTxn : Vector UInt8 12) :
    Except StunError SocketAddr := do
  let parsed ← parseMessage bytes
  if parsed.transactionId ≠ expectedTxn then .error .transactionIdMismatch
  else if parsed.msgType = bindingSuccess then mappedAddress parsed.attrs expectedTxn
  else if parsed.msgType = bindingError then
    let (errorClass, number) := extractErrorCode parsed.attrs
    .error (.errorResponse errorClass number)
  else .error (.unexpectedMessageType parsed.msgType)

end FragglePacket.NetworkTests
