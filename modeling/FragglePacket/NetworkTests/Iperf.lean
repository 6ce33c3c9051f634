import Mathlib.Data.Rat.Cast.Order

/-! The reader of `iperf3 -J` documents. -/

namespace FragglePacket.NetworkTests

/-- A JSON value. Rates are exact rationals. -/
inductive Json where
  | null
  | bool (value : Bool)
  | posInt (value : UInt64)
  | negInt (value : Int)
  | float (value : ℚ)
  | string (value : String)
  | array (items : List Json)
  | object (fields : List (String × Json))

namespace Json

def get (key : String) : Json → Option Json
  | object fields => fields.lookup key
  | _ => none

def asStr : Json → Option String
  | string value => some value
  | _ => none

def asU64 : Json → Option Nat
  | posInt value => some value.toNat
  | _ => none

def asF64 : Json → Option ℚ
  | posInt value => some value.toNat
  | negInt value => some value
  | float value => some value
  | _ => none

def asArray : Json → Option (List Json)
  | array items => some items
  | _ => none

end Json

/-- One directional rate measurement. `packets` is absent for TCP. -/
structure RateSample where
  bitsPerSecond : ℚ
  bytes : Nat
  seconds : ℚ
  packets : Option Nat
  lostPercent : Option ℚ

/-- A block that measured nothing. -/
def RateSample.isHollow (sample : RateSample) : Bool :=
  match sample.packets with
  | some packets => packets == 0
  | none => sample.bytes == 0

def parseRateSample (block : Json) : Option RateSample := do
  let bitsPerSecond ← (← block.get "bits_per_second").asF64
  let bytes ← (← block.get "bytes").asU64
  return {
    bitsPerSecond := bitsPerSecond
    bytes := bytes
    seconds := ((block.get "seconds").bind Json.asF64).getD 0
    packets := (block.get "packets").bind Json.asU64
    lostPercent := (block.get "lost_percent").bind Json.asF64 }

/-- The rates of one direction. Absent and hollow blocks are `none`. -/
structure RateEvidence where
  offeredBps : Option ℚ
  sent : Option RateSample
  received : Option RateSample
  estimatedReceived : Option RateSample

inductive TestDirection where
  | forward
  | reverse
  | bidirectional
deriving DecidableEq

structure IperfResult where
  protocol : String
  direction : TestDirection
  forward : RateEvidence
  bidirReverse : Option RateEvidence
  requiredFieldsMissing : List String

inductive IperfParseError where
  | invalidJson (detail : String)
  | serverError (detail : String)
  | missingField (field : String)

def IperfParseError.text : IperfParseError → String
  | .invalidJson detail => "invalid JSON: " ++ detail
  | .serverError detail => "iperf3 reported an error before any result was produced: " ++ detail
  | .missingField field => "missing required field: " ++ field

/-- The rate of a summary block that measured something. -/
def measuredBlock (summary : Json) (key : String) : Option RateSample :=
  ((summary.get key).bind parseRateSample).filter (! ·.isHollow)

def missingBlocks (summary : Json) (keys : List String) : List String :=
  keys.filter fun key => (summary.get key).isNone

/-- Reads a document that the JSON reader has accepted: the error comes first. -/
def readIperfDocument (document : Json) : Except IperfParseError IperfResult :=
  match (document.get "error").bind Json.asStr with
  | some detail => .error (.serverError detail)
  | none =>
    let testStart := (document.get "start").bind (·.get "test_start")
    let flag key := ((testStart.bind (·.get key)).bind Json.asU64).getD 0 != 0
    let bidir := flag "bidir"
    match document.get "end" with
    | none => .error (.missingField "end")
    | some summary =>
      let offeredBps := ((testStart.bind (·.get "target_bitrate")).bind Json.asF64).filter (0 < ·)
      .ok {
        protocol := ((testStart.bind (·.get "protocol")).bind Json.asStr).getD "unknown"
        direction := if bidir then .bidirectional else if flag "reverse" then .reverse else .forward
        forward := {
          offeredBps := offeredBps
          sent := measuredBlock summary "sum_sent"
          received := measuredBlock summary "sum_received"
          estimatedReceived := (summary.get "sum").bind parseRateSample }
        bidirReverse :=
          if bidir then
            some {
              offeredBps := offeredBps
              sent := measuredBlock summary "sum_sent_bidir_reverse"
              received := measuredBlock summary "sum_received_bidir_reverse"
              estimatedReceived := none }
          else none
        requiredFieldsMissing :=
          missingBlocks summary ["sum_sent", "sum_received"] ++
            if bidir then missingBlocks summary
              ["sum_sent_bidir_reverse", "sum_received_bidir_reverse"] else [] }

/-- `fromStr` is the JSON reader. -/
def parseIperfJson (fromStr : String → Except String Json) (text : String) :
    Except IperfParseError IperfResult := do
  readIperfDocument (← (fromStr text).mapError .invalidJson)

end FragglePacket.NetworkTests
