import FragglePacket.Fuzzing.Build
import FragglePacket.Search.Loop

/-! The active probe engine: one crafted packet out, the first matching frame back,
and the path MTU search built on it. -/

namespace FragglePacket.Fuzzing

open FragglePacket.Wire FragglePacket.Search

/-- `Ether::new()` with the addresses it draws; both are made locally administered. -/
def Ether.new (src dst : Vector UInt8 6) : Ether where
  src := src.set 0 2
  dst := dst.set 0 2
  etherType := none

def Ip.dstAddr (ip : Ip) (target : Vector UInt8 4) : Ip := { ip with dst := target }

def Ip.df (ip : Ip) : Ip := { ip with dontFragment := true }

def Raw.ofSize (size : Nat) (byte : UInt8) : Raw := ⟨List.replicate size byte⟩

inductive ProbeError where
  | capture (message : String)
  | replay (message : String)
  | dsl (message : String)
  | io (message : String)
  | pcap (message : String)

/-- How a probe ends early: with an error, or in 16-bit arithmetic that leaves its
range. A debug build panics there and a release build wraps; a run that gets there
is not followed any further. -/
inductive Halt where
  | error (e : ProbeError)
  | overflow

/-- The `pcap-file` crate: the longest frame it takes through a capture file of a given
snapshot length, and what it says of a longer one. It is at least that length. -/
structure PcapFile where
  longest : Nat → Nat
  refusal : String
  carries : ∀ snaplen, snaplen ≤ longest snaplen

/-- What one probe draws at random. -/
structure Draws where
  src : Vector UInt8 6
  dst : Vector UInt8 6
  ipId : UInt16
  icmpId : UInt16
  words : Nat → UInt16

/-- What a probe runs on: the crates, the profile, the random draws of each round, and
the network, which answers a round's frame with the frames captured until the timeout. -/
structure Rig where
  crate : Etherparse
  pcap : PcapFile
  overflowChecks : Bool
  draws : Nat → Draws
  network : Nat → Bytes → Except ProbeError (List Bytes)

/-- The capture file of the frame to send, whose snapshot length is 65535. -/
def writeTmpPcap (pcap : PcapFile) (frame : Bytes) : Except ProbeError Unit :=
  if frame.length ≤ pcap.longest 65535 then .ok () else .error (.pcap pcap.refusal)

def buildProbe (rig : Rig) (round : Nat) (packet : Packet) : Except Halt Bytes :=
  (packet.build rig.crate rig.overflowChecks (rig.draws round).words).mapError fun
    | .build message => .error (.dsl message)
    | .overflow => .overflow

/-- Sends one packet and waits for the first matching frame; the frame sent is
returned with it. -/
def sendAndWait (rig : Rig) (round : Nat) (packet : Packet) (filter : Bytes → Bool) :
    Except Halt (Bytes × Option Bytes) := do
  let bytes ← buildProbe rig round packet
  (writeTmpPcap rig.pcap bytes).mapError .error
  let captured ← (rig.network round bytes).mapError .error
  return (bytes, captured.find? filter)

structure PmtuProbeResult where
  estimatedMtu : Option UInt16
  fragNeededReported : Bool
  samplesTried : List UInt16

def probePacket (draws : Draws) (target : Vector UInt8 4) (payloadSize : Nat) : Packet where
  layers := [
    .ether (Ether.new draws.src draws.dst),
    .ip ((Ip.new draws.ipId).dstAddr target).df,
    .icmp (Icmp.echoRequest draws.icmpId),
    .raw (Raw.ofSize payloadSize 81)]

/-- The bytes of the IPv4 header at the start of `ip`, by its IHL. -/
def ihlBytes (ip : Bytes) : Nat := (ip.getD 0 0 &&& 0x0F).toNat * 4

/-- The capture filter of the search. -/
def probeFilter (target : Vector UInt8 4) (buf : Bytes) : Bool :=
  if buf.length < 14 + 20 + 8 then false
  else if readBe16 (buf.getD 12 0) (buf.getD 13 0) ≠ 0x0800 then false
  else
    let ip := buf.drop 14
    if ip.getD 9 0 ≠ 1 then false
    else if ip.length < ihlBytes ip + 8 then false
    else
      let icmp := ip.drop (ihlBytes ip)
      if icmp.getD 0 0 = 0 then #v[ip.getD 12 0, ip.getD 13 0, ip.getD 14 0, ip.getD 15 0] = target
      else icmp.getD 0 0 = 3 && icmp.getD 1 0 = 4

/-- The search between rounds, with the frames sent so far. -/
structure ProbeState where
  lo : UInt16
  hi : UInt16
  result : PmtuProbeResult
  sent : List Bytes

def raiseBound (mid : UInt16) : Except Halt UInt16 :=
  if mid = 65535 then .error .overflow else .ok (mid + 1)

def lowerBound (mid : UInt16) : Except Halt UInt16 :=
  if mid = 0 then .error .overflow else .ok (mid - 1)

def ProbeState.mid (state : ProbeState) : UInt16 := state.lo + (state.hi - state.lo) / 2

/-- One round of the search. -/
def probeRound (rig : Rig) (target : Vector UInt8 4) (state : ProbeState) :
    Except Halt ProbeState := do
  let mid := state.mid
  let samplesTried := state.result.samplesTried ++ [mid]
  let round := state.sent.length
  let (sent, reply) ←
    sendAndWait rig round (probePacket (rig.draws round) target (mid.toNat - 28))
      (probeFilter target)
  let trace := state.sent ++ [sent]
  match reply with
  | some frame =>
    let ip := frame.drop 14
    let icmp := ip.drop (ihlBytes ip)
    if icmp.getD 0 0 = 0 then
      let lo ← raiseBound mid
      return {
        lo := lo
        hi := state.hi
        result := { state.result with estimatedMtu := some mid, samplesTried := samplesTried }
        sent := trace }
    else
      let hi ← lowerBound mid
      return {
        lo := state.lo
        hi := hi
        result := { state.result with fragNeededReported := true, samplesTried := samplesTried }
        sent := trace }
  | none =>
    let hi ← lowerBound mid
    return {
      lo := state.lo
      hi := hi
      result := { state.result with samplesTried := samplesTried }
      sent := trace }

def ProbeState.start (minMtu maxMtu : UInt16) : ProbeState where
  lo := minMtu
  hi := maxMtu
  result := ⟨none, false, []⟩
  sent := []

/-- Binary-search the path MTU with echo requests that must not be fragmented; the
frames sent are returned with the result. `none` when the loop is still running after
`fuel` rounds. -/
def activePmtuProbe (rig : Rig) (target : Vector UInt8 4) (minMtu maxMtu : UInt16) (fuel : Nat) :
    Option (Except Halt (PmtuProbeResult × List Bytes)) :=
  (loopWhile (fun state => state.lo ≤ state.hi) (probeRound rig target) fuel
    (.start minMtu maxMtu)).map
    (·.map fun state => (state.result, state.sent))

end FragglePacket.Fuzzing
