import Mathlib.Algebra.GroupWithZero.Nat
import Mathlib.Data.Rat.Floor
import FragglePacket.Load.Budget
import FragglePacket.Load.Netstat
import FragglePacket.Load.Radio
import FragglePacket.Lists.Extremum

/-! The guard around a load phase: its loop, what it samples, and what it attests.
Times are exact rationals in seconds. -/

namespace FragglePacket.Load

open FragglePacket.Lists

def durationOverrunTolerance : ℚ := 5 / 4
def minTargetFraction : ℚ := 1 / 10

structure RadioTimeline where
  before : RadioSnapshot
  during : List RadioSnapshot
  after : RadioSnapshot

namespace RadioTimeline

def roamed (timeline : RadioTimeline) : Bool :=
  let baseline := timeline.before.associationFingerprint
  (timeline.during ++ [timeline.after]).any fun snap => snap.associationFingerprint != baseline

def bandChanged (timeline : RadioTimeline) : Bool :=
  (timeline.during.map (·.band) ++ [timeline.after.band]).any fun band =>
    band != timeline.before.band

/-- The key by which the weakest quality is the largest. -/
def weakness : RfQuality → Nat
  | .strong => 0
  | .unknown => 1
  | .unstable => 2
  | .weak => 3

def weakestRf (timeline : RadioTimeline) : RfQuality :=
  (maxByKey weakness ((timeline.during ++ [timeline.before, timeline.after]).map classifyRf)).getD
    .unknown

end RadioTimeline

inductive InvalidReason where
  | roamed
  | bandChanged
  | weakRf
  | unstableRf
  | countersUnusable
  | radioUnavailable
  | phaseDurationExceeded
  | phaseTargetUndershoot
  | syntheticRadioSource
deriving DecidableEq

inductive Validity where
  | valid
  | invalid (reason : InvalidReason)
deriving DecidableEq

inductive StopReason where
  | completed
  | abortGatewayLatency (observedMs thresholdMs : UInt64)
  | abortLoss (observedPctX100 thresholdPctX100 : UInt64)
  | abortAssociationChange
  | abortEndpointError (detail : String)
  | operatorCancelled
deriving DecidableEq

structure PhaseTick where
  gatewayLatencyMs : Option ℚ
  lossPct : Option ℚ
  endpointError : Option String
  bytesSentDelta : UInt64

structure RawMetrics where
  bytesTransferred : UInt64
  elapsedSecs : ℚ
  targetBytes : UInt64

structure DerivedMetrics where
  retainedCapacityPct : ℚ
  collapseRatio : ℚ
deriving DecidableEq

structure GuardReport where
  interface : String
  mode : RunMode
  stopReason : StopReason
  validity : Validity
  radio : RadioTimeline
  countersBefore : InterfaceCounters
  countersAfter : InterfaceCounters
  countersUsable : Bool
  raw : RawMetrics
  derived : Option DerivedMetrics
  defaultRouteIsTunnel : Bool
  radioSource : String
  rfCheckCoverageCaveat : String

def rfCheckCoverageCaveat : String :=
  "weak/unstable RF is checked only at the before/after boundary " ++
    "snapshots, not via a continuous mid-phase time series; a weak-RF episode confined entirely to mid-phase could go undetected"

def computeDerivedRatio (validity : Validity) (raw : RawMetrics) : Option DerivedMetrics :=
  match validity with
  | .invalid _ => none
  | .valid =>
    if raw.targetBytes = 0 then none
    else
      let retained := (raw.bytesTransferred.toNat : ℚ) / (raw.targetBytes.toNat : ℚ)
      some { retainedCapacityPct := retained * 100, collapseRatio := 1 - retained }

/-- `RadioSource::sample`. -/
def sampleRadio (reading : Except String RadioSnapshot) : RadioSnapshot :=
  match reading with
  | .ok snap => snap
  | .error _ => .unavailable

/-- `CounterSource::sample`. -/
def sampleCounters (reading : Except String InterfaceCounters) : InterfaceCounters :=
  match reading with
  | .ok counters => counters
  | .error _ => .zero

/-- `as u64`, which saturates. -/
def asU64 (x : ℚ) : UInt64 := .ofNat (min ⌊x⌋.toNat (2 ^ 64 - 1))

/-- A guard, whose budget has passed the check. -/
structure LoadGuard where
  budget : LoadBudget
  accepted : budget.validate = .ok ()
  interface : String
  defaultRouteIsTunnel : Bool
  radioSourceIsSynthetic : Bool

/-- One round of the phase loop as the world answers it: the time in the step when the loop
tests it, the cancel flag, what the phase reports, and the time in the step when the rest of
it is slept away. -/
structure Round where
  tested : ℚ
  cancelled : Bool
  tick : PhaseTick
  spent : ℚ

/-- The sampler thread stores a reading, or the phase loop goes round. -/
inductive Event where
  | sampled (reading : Except String RadioSnapshot)
  | round (round : Round)

/-- Where the phase loop is: in the step of a rate, with the rates of the later ones, or
behind the last one. -/
inductive Control where
  | step (rate : ℚ) (later : List ℚ)
  | ended (stopReason : StopReason)
deriving DecidableEq

/-- The state of a phase. `calls` lists what the phase was handed and what it answered. -/
structure PhaseState where
  control : Control
  bytesTransferred : UInt64
  during : List RadioSnapshot
  calls : List (ℚ × PhaseTick)

def nextStep : List ℚ → Control
  | [] => .ended .completed
  | rate :: later => .step rate later

def endpointAbort (tick : PhaseTick) : Option StopReason :=
  tick.endpointError.map .abortEndpointError

def latencyAbort (abort : AbortThresholds) (tick : PhaseTick) : Option StopReason :=
  match tick.gatewayLatencyMs with
  | some ms =>
    if abort.maxGatewayLatencyMs < ms then
      some (.abortGatewayLatency (asU64 ms) (asU64 abort.maxGatewayLatencyMs))
    else none
  | none => none

def lossAbort (abort : AbortThresholds) (tick : PhaseTick) : Option StopReason :=
  match tick.lossPct with
  | some pct =>
    if abort.maxLossPct < pct then
      some (.abortLoss (asU64 (pct * 100)) (asU64 (abort.maxLossPct * 100)))
    else none
  | none => none

/-- The latest sample has another fingerprint than the one before the phase. -/
def associationAbort (beforeRadio : RadioSnapshot) (during : List RadioSnapshot) :
    Option StopReason :=
  match during.getLast? with
  | some latest =>
    if latest.associationFingerprint ≠ beforeRadio.associationFingerprint then
      some .abortAssociationChange else none
  | none => none

/-- The checks of a round, in the order of the source. -/
def abortReason (abort : AbortThresholds) (beforeRadio : RadioSnapshot)
    (during : List RadioSnapshot) (tick : PhaseTick) : Option StopReason :=
  ((endpointAbort tick).or (latencyAbort abort tick)).or
    ((lossAbort abort tick).or (associationAbort beforeRadio during))

/-- What the world answers during one run: two readings of each source, the events of the
phase up to the end of the sampler thread, and the time the phase took. -/
structure World where
  radioBefore : Except String RadioSnapshot
  countersBefore : Except String InterfaceCounters
  events : List Event
  elapsedSecs : ℚ
  radioAfter : Except String RadioSnapshot
  countersAfter : Except String InterfaceCounters

namespace LoadGuard

def new (budget : LoadBudget) (interface : String) (defaultRouteIsTunnel : Bool) :
    Except BudgetError LoadGuard :=
  match accepted : budget.validate with
  | .error refused => .error refused
  | .ok () => .ok ⟨budget, accepted, interface, defaultRouteIsTunnel, false⟩

def withSyntheticRadioMarker (guard : LoadGuard) (isSynthetic : Bool) : LoadGuard :=
  { guard with radioSourceIsSynthetic := isSynthetic }

def targetBytes (guard : LoadGuard) : UInt64 :=
  asU64 (guard.budget.targetRateMbps * 1000000 / 8 * (guard.budget.maxDurationSecs.toNat : ℚ))

def stepDuration (guard : LoadGuard) : ℚ :=
  ((max guard.budget.maxDurationSecs.toNat 1 : Nat) : ℚ) /
    ((max guard.budget.rampSchedule.length 1 : Nat) : ℚ)

def start (guard : LoadGuard) : PhaseState where
  control := nextStep guard.budget.rampSchedule
  bytesTransferred := 0
  during := []
  calls := []

/-- One round in the step of a rate. -/
def advanceRound (guard : LoadGuard) (beforeRadio : RadioSnapshot) (state : PhaseState) (rate : ℚ)
    (later : List ℚ) (round : Round) : PhaseState :=
  if guard.stepDuration ≤ round.tested then { state with control := nextStep later }
  else if round.cancelled then { state with control := .ended .operatorCancelled }
  else
    let state := { state with
      bytesTransferred := state.bytesTransferred + round.tick.bytesSentDelta
      calls := state.calls ++ [(rate, round.tick)] }
    match abortReason guard.budget.abort beforeRadio state.during round.tick with
    | some stopReason => { state with control := .ended stopReason }
    | none =>
      if guard.stepDuration ≤ round.spent then { state with control := nextStep later } else state

def advance (guard : LoadGuard) (beforeRadio : RadioSnapshot)
    (state : PhaseState) : Event → PhaseState
  | .sampled reading => { state with during := state.during ++ [sampleRadio reading] }
  | .round round =>
    match state.control with
    | .step rate later => guard.advanceRound beforeRadio state rate later round
    | .ended _ => state

/-- The phase loop over the events of a run. -/
def phase (guard : LoadGuard) (beforeRadio : RadioSnapshot) (events : List Event) : PhaseState :=
  events.foldl (guard.advance beforeRadio) guard.start

def durationExceeded (guard : LoadGuard) (stopReason : StopReason) (raw : RawMetrics) : Bool :=
  let budgetedSecs := (guard.budget.maxDurationSecs.toNat : ℚ)
  decide (stopReason = .completed) &&
    (decide (0 < budgetedSecs) && decide (budgetedSecs * durationOverrunTolerance <
      raw.elapsedSecs))

def targetUndershoot (stopReason : StopReason) (raw : RawMetrics) : Bool :=
  decide (stopReason = .completed) && decide (0 < raw.targetBytes) &&
    decide ((raw.bytesTransferred.toNat : ℚ) < (raw.targetBytes.toNat : ℚ) * minTargetFraction)

def validity (guard : LoadGuard) (stopReason : StopReason) (timeline : RadioTimeline)
    (countersUsable : Bool) (raw : RawMetrics) : Validity :=
  if !timeline.before.associated || !timeline.after.associated then .invalid .radioUnavailable
  else if timeline.roamed then .invalid .roamed
  else if timeline.bandChanged then .invalid .bandChanged
  else if !countersUsable then .invalid .countersUnusable
  else if guard.durationExceeded stopReason raw then .invalid .phaseDurationExceeded
  else if targetUndershoot stopReason raw then .invalid .phaseTargetUndershoot
  else
    match timeline.weakestRf with
    | .weak => .invalid .weakRf
    | .unstable => .invalid .unstableRf
    | _ => if guard.radioSourceIsSynthetic then .invalid .syntheticRadioSource else .valid

/-- What `run` reports of a phase that has ended. -/
def report (guard : LoadGuard) (stopReason : StopReason) (timeline : RadioTimeline)
    (countersBefore countersAfter : InterfaceCounters) (raw : RawMetrics) : GuardReport :=
  let countersUsable := countersAfter.usableDeltaFrom countersBefore
  let validity := guard.validity stopReason timeline countersUsable raw
  { interface := guard.interface
    mode := guard.budget.mode
    stopReason := stopReason
    validity := validity
    radio := timeline
    countersBefore := countersBefore
    countersAfter := countersAfter
    countersUsable := countersUsable
    raw := raw
    derived := computeDerivedRatio validity raw
    defaultRouteIsTunnel := guard.defaultRouteIsTunnel
    radioSource := if guard.radioSourceIsSynthetic then "synthetic" else "live"
    rfCheckCoverageCaveat := rfCheckCoverageCaveat }

/-- `LoadGuard::run`; there is no report while the phase goes on. -/
def run (guard : LoadGuard) (world : World) : Option GuardReport :=
  let beforeRadio := sampleRadio world.radioBefore
  let countersBefore := sampleCounters world.countersBefore
  let state := guard.phase beforeRadio world.events
  match state.control with
  | .step _ _ => none
  | .ended stopReason =>
    let afterRadio := sampleRadio world.radioAfter
    let countersAfter := sampleCounters world.countersAfter
    let raw := ⟨state.bytesTransferred, world.elapsedSecs, guard.targetBytes⟩
    some (guard.report stopReason ⟨beforeRadio, state.during, afterRadio⟩ countersBefore
      countersAfter raw)

end LoadGuard

end FragglePacket.Load
