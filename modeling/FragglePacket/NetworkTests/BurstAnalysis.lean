import Mathlib.Data.Finset.Insert
import Mathlib.Data.Finset.Card
import Mathlib.Algebra.BigOperators.Group.List.Basic
import Mathlib.Algebra.GroupWithZero.Nat
import Mathlib.Data.Rat.Floor

/-! Loss bursts, reordering, duplication and jitter of a bounded sample. Times are exact
rationals in milliseconds. -/

namespace FragglePacket.NetworkTests

structure Arrival where
  seq : Nat
  sentAtMs : ℚ
  receivedAtMs : ℚ

def Arrival.oneWayDelayMs (arrival : Arrival) : ℚ := arrival.receivedAtMs - arrival.sentAtMs

structure BoundedSample where
  sentCount : Nat
  arrivals : List Arrival

structure LossBurst where
  startSeq : Nat
  runLength : Nat
  gapDurationMs : Option ℚ
deriving DecidableEq

structure BurstDistribution where
  bursts : List LossBurst
  totalLost : Nat
  burstCount : Nat
  maxRunLength : Nat
  meanRunLength : Option ℚ
deriving DecidableEq

structure ReorderEvent where
  seq : Nat
  depth : Nat
deriving DecidableEq

/-- The reported deviation is the square root of `varianceMs`. -/
structure JitterStats where
  meanMs : Option ℚ
  varianceMs : Option ℚ
  maxMs : Option ℚ
deriving DecidableEq

structure QueueDelayCorrelation where
  burstStartSeq : Nat
  delayRisingBeforeBurst : Option Bool
  preBurstMeanDelayMs : Option ℚ
  baselineMeanDelayMs : Option ℚ
deriving DecidableEq

structure BurstAnalysisReport where
  sentCount : Nat
  receivedCount : Nat
  lossPercent : ℚ
  burst : BurstDistribution
  reordering : List ReorderEvent
  maxReorderDepth : Nat
  duplicateCount : Nat
  jitter : JitterStats
  queueDelayCorrelation : List QueueDelayCorrelation
  captureQualification : Option String
  notes : List String
deriving DecidableEq

def preBurstWindowMs : ℚ := 15

structure SplitState where
  seen : Finset Nat
  distinct : List Arrival
  duplicates : Nat

namespace SplitState

def initial : SplitState := ⟨∅, [], 0⟩

def insert (state : SplitState) (arrival : Arrival) : SplitState :=
  if arrival.seq ∈ state.seen then { state with duplicates := state.duplicates + 1 }
  else { state with seen := Insert.insert arrival.seq state.seen,
                    distinct := state.distinct ++ [arrival] }

end SplitState

def splitDuplicates (arrivals : List Arrival) : List Arrival × Nat :=
  let state := arrivals.foldl SplitState.insert .initial
  (state.distinct, state.duplicates)

structure ReorderState where
  events : List ReorderEvent
  highestSeqSeen : Option Nat
  seenSeqs : List Nat

namespace ReorderState

def initial : ReorderState := ⟨[], none, []⟩

def observe (state : ReorderState) (arrival : Arrival) : ReorderState where
  events :=
    match state.highestSeqSeen with
    | some highest =>
      if arrival.seq < highest then
        state.events ++ [⟨arrival.seq, state.seenSeqs.countP (arrival.seq < ·)⟩]
      else state.events
    | none => state.events
  highestSeqSeen := some (state.highestSeqSeen.elim arrival.seq (max · arrival.seq))
  seenSeqs := state.seenSeqs ++ [arrival.seq]

end ReorderState

def computeReordering (arrivals : List Arrival) : List ReorderEvent :=
  (arrivals.foldl ReorderState.observe .initial).events

/-- The bursts closed so far and the run of losses that is open. -/
structure RunState where
  bursts : List LossBurst
  runStart : Option Nat
  runLen : Nat

section Distribution
variable (present : Finset Nat) (seqSendTime : Nat → Option ℚ)

def gapDuration (start length : Nat) : Option ℚ :=
  match seqSendTime start, seqSendTime (start + length - 1) with
  | some first, some last => some (max (last - first) 0)
  | _, _ => none

def closeRun (start : Option Nat) (length : Nat) (bursts : List LossBurst) : List LossBurst :=
  match start with
  | none => bursts
  | some start =>
    if 0 < length then bursts ++ [⟨start, length, gapDuration seqSendTime start length⟩] else bursts

namespace RunState

def initial : RunState := ⟨[], none, 0⟩

def close (state : RunState) : List LossBurst :=
  closeRun seqSendTime state.runStart state.runLen state.bursts

def visit (state : RunState) (seq : Nat) : RunState :=
  if seq ∈ present then ⟨state.close seqSendTime, none, 0⟩
  else { state with runStart := some (state.runStart.getD seq), runLen := state.runLen + 1 }

end RunState

def lossBursts (sentCount : Nat) : List LossBurst :=
  ((List.range sentCount).foldl (RunState.visit present seqSendTime) .initial).close seqSendTime

def computeBurstDistribution (sentCount : Nat) : BurstDistribution :=
  let bursts := lossBursts present seqSendTime sentCount
  let totalLost := (bursts.map (·.runLength)).sum
  { bursts
    totalLost
    burstCount := bursts.length
    maxRunLength := (bursts.map (·.runLength)).max?.getD 0
    meanRunLength := if bursts = [] then none else some (totalLost / bursts.length) }

end Distribution

/-- The arithmetic mean of a list that is not empty. -/
def meanOf (values : List ℚ) : ℚ := values.sum / values.length

/-- The magnitude of each step from one value to the next. -/
def successiveDeltas : List ℚ → List ℚ
  | before :: after :: rest => |after - before| :: successiveDeltas (after :: rest)
  | _ => []

def computeJitter (arrivals : List Arrival) : JitterStats :=
  let delays := arrivals.map Arrival.oneWayDelayMs
  if delays.length < 2 then ⟨none, none, none⟩
  else
    let deltas := successiveDeltas delays
    let mean := meanOf deltas
    { meanMs := some mean
      varianceMs := some (meanOf (deltas.map fun delta => (delta - mean) ^ 2))
      maxMs := deltas.foldl (fun highest delta => some (highest.elim delta (max · delta))) none }

/-- The value a map collected from the arrivals holds under a sequence number: the last
arrival's. -/
def bySeq (arrivals : List Arrival) (seq : Nat) : Option Arrival :=
  arrivals.reverse.find? (·.seq = seq)

def burstSendTime (arrivals : List Arrival) (startSeq : Nat) : Option ℚ :=
  ((bySeq arrivals (startSeq - 1)).map (·.sentAtMs)).or
    ((List.range startSeq).reverse.findSome? fun seq => (bySeq arrivals seq).map (·.sentAtMs))

def preBurstDelays (arrivals : List Arrival) : Option ℚ → List ℚ
  | some time =>
    (arrivals.filter fun arrival => arrival.sentAtMs ≤ time ∧
      time - preBurstWindowMs ≤ arrival.sentAtMs).map
      Arrival.oneWayDelayMs
  | none => []

def computeQueueDelayCorrelation (sample : BoundedSample) (bursts : List LossBurst) :
    List QueueDelayCorrelation :=
  let allDelays := sample.arrivals.map Arrival.oneWayDelayMs
  let baselineMean := if allDelays = [] then none else some (meanOf allDelays)
  bursts.map fun burst =>
    let delays := preBurstDelays sample.arrivals (burstSendTime sample.arrivals burst.startSeq)
    let preBurstMean := if 2 ≤ delays.length then some (meanOf delays) else none
    { burstStartSeq := burst.startSeq
      delayRisingBeforeBurst :=
        match preBurstMean, baselineMean with
        | some pre, some base => some (base * (5 / 4) < pre)
        | _, _ => none
      preBurstMeanDelayMs := preBurstMean
      baselineMeanDelayMs := baselineMean }

/-- The percentage lost; `none` when more is received than sent, where the unsigned
subtraction overflows. -/
def lossPercentOf (sentCount receivedCount : Nat) : Option ℚ :=
  if sentCount = 0 then some 0
  else if receivedCount ≤ sentCount then some ((sentCount - receivedCount : Nat) / sentCount * 100)
  else none

def duplicateNote (duplicateCount : Nat) : List String :=
  if 0 < duplicateCount then
    [toString duplicateCount ++
      " duplicate arrival(s) observed; counted separately, not folded into loss or reordering"]
  else []

def reorderingNote (reordering : List ReorderEvent) (maxReorderDepth : Nat) : List String :=
  if reordering = [] then []
  else
    [toString reordering.length ++ " reordering event(s), max depth " ++ toString maxReorderDepth ++
      "; reordering is arrival-order displacement, not loss"]

def risingNote (correlation : List QueueDelayCorrelation) : List String :=
  let risingCount := correlation.countP (·.delayRisingBeforeBurst = some true)
  if 0 < risingCount then
    [toString risingCount ++ "/" ++ toString correlation.length ++
      " loss burst(s) preceded by rising one-way delay -- consistent with queueing pressure rather than a hard drop policy"]
  else []

def qualificationNote : Option String → List String
  | some qualification => ["capture-derived figures inherit qualification: " ++ qualification]
  | none => []

/-- `none` when the subtraction of the losses overflows. -/
def analyze (sample : BoundedSample) (captureQualification : Option String) :
    Option BurstAnalysisReport :=
  let (distinct, duplicateCount) := splitDuplicates sample.arrivals
  let present := (distinct.map (·.seq)).toFinset
  let receivedCount := present.card
  (lossPercentOf sample.sentCount receivedCount).map fun lossPercent =>
    let burst := computeBurstDistribution present (fun seq => (bySeq distinct seq).map (·.sentAtMs))
      sample.sentCount
    let reordering := computeReordering distinct
    let maxReorderDepth := (reordering.map (·.depth)).max?.getD 0
    let correlation :=
      computeQueueDelayCorrelation { sample with arrivals := distinct } burst.bursts
    { sentCount := sample.sentCount
      receivedCount
      lossPercent
      burst
      reordering
      maxReorderDepth
      duplicateCount
      jitter := computeJitter distinct
      queueDelayCorrelation := correlation
      captureQualification
      notes := duplicateNote duplicateCount ++ reorderingNote reordering maxReorderDepth ++
        risingNote correlation ++ qualificationNote captureQualification }

end FragglePacket.NetworkTests
