import FragglePacket.Text.Pattern
import FragglePacket.Text.Tokens

/-! The lease that a packet dump of `ipconfig` shows. -/

namespace FragglePacket.NetworkTests

open FragglePacket.Text

inductive DhcpMessageType where
  | offer
  | ack
  | nak
  | unknown
  deriving DecidableEq

structure DhcpLease where
  messageType : Option DhcpMessageType
  leaseSeconds : Option Nat
  serverIdentifier : Option Str
  router : Option Str
  domainNameServers : List Str
  domainName : Option Str
  deriving DecidableEq

def DhcpLease.default : DhcpLease where
  messageType := none
  leaseSeconds := none
  serverIdentifier := none
  router := none
  domainNameServers := []
  domainName := none

def parseIpList (value : Str) : List Str :=
  (((trimMatches (fun c => c == '{' || c == '}') value).splitOn ',').map trim).filter fun s =>
    !s.isEmpty

def messageTypeOf (v : Str) : DhcpMessageType :=
  if "OFFER".toList.isPrefixOf v then .offer
  else if "ACK".toList.isPrefixOf v then .ack
  else if "NAK".toList.isPrefixOf v then .nak
  else .unknown

/-- `u32::from_str_radix` of radix 16. -/
def parseHexU32 (text : Str) : Option Nat :=
  let digits :=
    match text with
    | '+' :: rest => rest
    | _ => text
  if digits.isEmpty || !digits.all isAsciiHexdigit then none
  else (some (digitsValue 16 digits)).filter fun value => decide (value < 2 ^ 32)

def leaseSecondsOf (v : Str) : Option Nat :=
  let hex := (splitWhitespace v).getLast?.getD []
  (stripPrefix "0x".toList hex).bind parseHexU32

/-- The trimmed text between the first colon and the next. -/
def valueOf (rest : Str) : Option Str := (rest.splitOn ':')[1]?.map trim

/-- A line that begins with the name of an option sets its field, if the line has a value. -/
def readOption (name : Str) (set : DhcpLease → Str → DhcpLease) (lease : DhcpLease)
    (line : Str) : Option DhcpLease :=
  (stripPrefix name line).map fun rest => (valueOf rest).elim lease (set lease)

def readMessageType :=
  readOption "dhcp_message_type".toList fun lease v =>
    { lease with messageType := some (messageTypeOf v) }

def readLeaseTime :=
  readOption "lease_time".toList fun lease v => { lease with leaseSeconds := leaseSecondsOf v }

def readServerIdentifier :=
  readOption "server_identifier".toList fun lease v => { lease with serverIdentifier := some v }

def readRouter :=
  readOption "router".toList fun lease v => { lease with router := (parseIpList v).head? }

def readDomainNameServers :=
  readOption "domain_name_server".toList fun lease v =>
    { lease with domainNameServers := parseIpList v }

def readDomainName :=
  readOption "domain_name ".toList fun lease v => if v.isEmpty then lease else
    { lease with domainName := some v }

/-- The first option whose name a line begins with. -/
def readLine (lease : DhcpLease) (line : Str) : DhcpLease :=
  let line := trim line
  ((readMessageType lease line).or <| (readLeaseTime lease line).or <|
    (readServerIdentifier lease line).or <|
    (readRouter lease line).or <| (readDomainNameServers lease line).or
      (readDomainName lease line)).getD lease

def parseGetpacket (text : Str) : DhcpLease := (lines text).foldl readLine .default

end FragglePacket.NetworkTests
