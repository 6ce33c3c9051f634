import FragglePacket.NetworkTests.Stun
import Mathlib.Algebra.Order.Ring.Rat

/-! Buckets of one flow each, the sockets they are sent from, and what a split of
their outcomes is taken for. -/

namespace FragglePacket.NetworkTests

open FragglePacket.Net FragglePacket.Wire

inductive BucketOutcome where
  | succeeded
  | failed
  deriving DecidableEq

structure BucketResult where
  localPort : UInt16
  outcome : BucketOutcome
  bytesSent : Nat
  bytesAckedOrEchoed : Nat
  rttMs : Option ℚ
  midFlowRebindDetected : Option Bool

inductive BimodalityVerdict where
  | bimodalSplitDetected
  | noSplitDetected
  | insufficientBuckets
  deriving DecidableEq

def classifyBimodality (results : List BucketResult) : BimodalityVerdict :=
  if results.length < 2 then .insufficientBuckets
  else
    let succeeded := results.any (·.outcome = .succeeded)
    let failed := results.any (·.outcome = .failed)
    if succeeded && failed then .bimodalSplitDetected else .noSplitDetected

/-- What was asked of the sockets of a host, and what came of it. A socket goes by the number
of events before its own. -/
inductive SocketEvent where
  | bind (socket : Nat) (localPort : UInt16) (bound : Bool)
  | sendTo (socket : Nat) (payload : Bytes) (target : SocketAddr) (sent : Bool)
  | recvFrom (socket : Nat) (datagram : Option Bytes)
  | bindTcp (socket : Nat) (localPort : UInt16) (bound : Bool)
  | connect (socket : Nat) (target : SocketAddr) (connected : Bool)
  | writeAll (socket : Nat) (payload : Bytes) (written : Bool)
  | read (socket : Nat) (bytes : Option Bytes)
  | close (socket : Nat)
  deriving DecidableEq

abbrev SocketHistory := List SocketEvent

/-- How a host and the network behind it answer, after all that went before. A datagram is
sent whole or not at all. -/
structure SocketHost where
  bind : SocketHistory → (v6 : Bool) → (localPort : UInt16) → Bool
  sendTo : SocketHistory → (socket : Nat) → Bytes → SocketAddr → Bool
  recvFrom : SocketHistory → (socket : Nat) → (timeout : Nat) → Option Bytes
  newTcp : SocketHistory → (v6 : Bool) → Bool
  setReuseAddress : SocketHistory → Bool
  bindTcp : SocketHistory → (v6 : Bool) → (localPort : UInt16) → Bool
  connect : SocketHistory → (socket : Nat) → SocketAddr → (timeout : Nat) → Bool
  writeAll : SocketHistory → (socket : Nat) → Bytes → Bool
  read : SocketHistory → (socket : Nat) → (timeout : Nat) → Option Bytes
  transactionId : SocketHistory → Vector UInt8 12
  clock : SocketHistory → ℚ

def isV6 (target : SocketAddr) : Bool :=
  match target.ip with
  | .v4 _ => false
  | .v6 _ => true

def failedBucket (localPort : UInt16) : BucketResult where
  localPort
  outcome := .failed
  bytesSent := 0
  bytesAckedOrEchoed := 0
  rttMs := none
  midFlowRebindDetected := none

section Stun

inductive BindingOutcome where
  | mapped (addr : SocketAddr)
  | unreachable
  | invalid (e : StunError)

structure BindingAttempt where
  outcome : BindingOutcome
  rttMs : Option ℚ

variable (host : SocketHost)

/-- Milliseconds from one point of a history to a later one. -/
def SocketHost.elapsedMs (start now : SocketHistory) : ℚ :=
  (host.clock now - host.clock start) * 1000

def bindingRequestOnce (past : SocketHistory) (socket : Nat) (server : SocketAddr) (timeout : Nat) :
    BindingAttempt × SocketHistory :=
  let (request, txn) := buildBindingRequest (host.transactionId past)
  let sent := host.sendTo past socket request server
  let asked := past ++ [.sendTo socket request server sent]
  if sent = false then (⟨.unreachable, none⟩, asked)
  else
    let datagram := host.recvFrom asked socket timeout
    let answered := asked ++ [.recvFrom socket datagram]
    match datagram with
    | none => (⟨.unreachable, none⟩, answered)
    | some bytes =>
      match parseBindingResponse (bytes.take 512) txn with
      | .ok addr => (⟨.mapped addr, some (host.elapsedMs past answered)⟩, answered)
      | .error e => (⟨.invalid e, some (host.elapsedMs past answered)⟩, answered)

end Stun

section Buckets
variable (host : SocketHost)

/-- What one exchange of a bucket comes to. -/
structure EchoResult where
  sent : Bool
  outcome : BucketOutcome
  echoed : Nat
  rttMs : Option ℚ

def udpPayload (payloadLen : Nat) : Bytes := List.replicate (max payloadLen 1) 0xAB

/-- The payload is sent, and any reply counts. -/
def exchangeOnce (past : SocketHistory) (socket : Nat) (payload : Bytes) (target : SocketAddr)
    (timeout : Nat) :
    EchoResult × SocketHistory :=
  let sent := host.sendTo past socket payload target
  let asked := past ++ [.sendTo socket payload target sent]
  if sent = false then (⟨false, .failed, 0, none⟩, asked)
  else
    let datagram := host.recvFrom asked socket timeout
    let answered := asked ++ [.recvFrom socket datagram]
    match datagram with
    | some bytes =>
      (⟨true, .succeeded, (bytes.take 1500).length, some (host.elapsedMs past answered)⟩, answered)
    | none => (⟨true, .succeeded, 0, none⟩, answered)

def runUdpBucket (past : SocketHistory) (localPort : UInt16) (target : SocketAddr)
    (payloadLen timeout : Nat) :
    BucketResult × SocketHistory :=
  let socket := past.length
  let bound := host.bind past (isV6 target) localPort
  let opened := past ++ [.bind socket localPort bound]
  if bound = false then (failedBucket localPort, opened)
  else
    let payload := udpPayload payloadLen
    let (echo, answered) := exchangeOnce host opened socket payload target timeout
    ({ localPort
       outcome := echo.outcome
       bytesSent := if echo.sent then payload.length else 0
       bytesAckedOrEchoed := echo.echoed
       rttMs := echo.rttMs
       midFlowRebindDetected := none }, answered ++ [.close socket])

def runUdpBucketWithStunBracket (past : SocketHistory) (localPort : UInt16)
    (target stunServer : SocketAddr) (payloadLen timeout : Nat) : BucketResult × SocketHistory :=
  let socket := past.length
  let bound := host.bind past false localPort
  let opened := past ++ [.bind socket localPort bound]
  if bound = false then (failedBucket localPort, opened)
  else
    let (before, sampled) := bindingRequestOnce host opened socket stunServer timeout
    let (result, rebound) := runUdpBucket host sampled localPort target payloadLen timeout
    let (echo, answered) := exchangeOnce host rebound socket (udpPayload payloadLen) target timeout
    let (after, resampled) := bindingRequestOnce host answered socket stunServer timeout
    ({ result with
       outcome := echo.outcome
       bytesAckedOrEchoed := echo.echoed
       rttMs := echo.rttMs
       midFlowRebindDetected :=
        match before.outcome, after.outcome with
        | .mapped b, .mapped a => some (b ≠ a)
        | _, _ => none }, resampled ++ [.close socket])

def tcpPayload (payloadLen : Nat) : Bytes := List.replicate (max payloadLen 1) 0xCD

def tcpBucketFromStream (past : SocketHistory) (socket : Nat) (localPort : UInt16)
    (payloadLen timeout : Nat) :
    BucketResult × SocketHistory :=
  let payload := tcpPayload payloadLen
  let written := host.writeAll past socket payload
  let tried := past ++ [.writeAll socket payload written]
  if written = false then (failedBucket localPort, tried ++ [.close socket])
  else
    let bytes := host.read tried socket timeout
    let answered := tried ++ [.read socket bytes]
    ({ localPort
       outcome := .succeeded
       bytesSent := payload.length
       bytesAckedOrEchoed := (bytes.elim 0 fun bytes => (bytes.take 4096).length)
       rttMs := some (host.elapsedMs past answered)
       midFlowRebindDetected := none }, answered ++ [.close socket])

def runTcpBucket (past : SocketHistory) (localPort : UInt16) (target : SocketAddr)
    (payloadLen timeout : Nat) :
    BucketResult × SocketHistory :=
  let socket := past.length
  if host.newTcp past (isV6 target) = false then (failedBucket localPort, past)
  else if host.setReuseAddress past = false then (failedBucket localPort, past)
  else
    let bound := host.bindTcp past (isV6 target) localPort
    let opened := past ++ [.bindTcp socket localPort bound]
    if bound = false then (failedBucket localPort, opened)
    else
      let connected := host.connect opened socket target timeout
      let tried := opened ++ [.connect socket target connected]
      if connected = false then (failedBucket localPort, tried ++ [.close socket])
      else tcpBucketFromStream host tried socket localPort payloadLen timeout

/-- The ways to run a bucket. -/
inductive BucketKind where
  | udp
  | udpWithStun (stunServer : SocketAddr)
  | tcp

def BucketKind.payload (payloadLen : Nat) : BucketKind → Bytes
  | udp => udpPayload payloadLen
  | udpWithStun _ => udpPayload payloadLen
  | tcp => tcpPayload payloadLen

def runBucket (past : SocketHistory) (kind : BucketKind) (localPort : UInt16) (target : SocketAddr)
    (payloadLen timeout : Nat) : BucketResult × SocketHistory :=
  match kind with
  | .udp => runUdpBucket host past localPort target payloadLen timeout
  | .udpWithStun stunServer =>
    runUdpBucketWithStunBracket host past localPort target stunServer payloadLen timeout
  | .tcp => runTcpBucket host past localPort target payloadLen timeout

end Buckets

end FragglePacket.NetworkTests
