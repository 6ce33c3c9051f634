import Mathlib.Algebra.GroupWithZero.Nat
import FragglePacket.NocMetrics.Window

/-! Threshold profiles and the hysteresis of their repeated evaluation. -/

namespace FragglePacket.NocMetrics

inductive CompareOp where
  | lt
  | le
  | ge
  | gt
deriving DecidableEq

def CompareOp.Matches (op : CompareOp) (value threshold : ℚ) : Prop :=
  match op with
  | .lt => value < threshold
  | .le => value ≤ threshold
  | .ge => threshold ≤ value
  | .gt => threshold < value

instance (op : CompareOp) (value threshold : ℚ) : Decidable (op.Matches value threshold) :=
  match op with
  | .lt => inferInstanceAs (Decidable (value < threshold))
  | .le => inferInstanceAs (Decidable (value ≤ threshold))
  | .ge => inferInstanceAs (Decidable (threshold ≤ value))
  | .gt => inferInstanceAs (Decidable (threshold < value))

/-- One severity rung: an open condition and a looser clear condition. -/
structure ThresholdConfig where
  label : String
  op : CompareOp
  value : ℚ
  clearOp : CompareOp
  clearValue : ℚ
deriving DecidableEq

def ThresholdConfig.IsOpenMatch (rung : ThresholdConfig) (value : ℚ) : Prop :=
  rung.op.Matches value rung.value

def ThresholdConfig.IsClearMatch (rung : ThresholdConfig) (value : ℚ) : Prop :=
  rung.clearOp.Matches value rung.clearValue

instance (rung : ThresholdConfig) (value : ℚ) : Decidable (rung.IsOpenMatch value) :=
  inferInstanceAs (Decidable (rung.op.Matches value rung.value))

instance (rung : ThresholdConfig) (value : ℚ) : Decidable (rung.IsClearMatch value) :=
  inferInstanceAs (Decidable (rung.clearOp.Matches value rung.clearValue))

inductive WindowType where
  | measurements
  | time
deriving DecidableEq

/-- The rungs are ordered from the most severe one on. -/
structure ThresholdProfile where
  name : String
  windowType : WindowType
  window : Int
  windowFunction : String
  thresholds : List ThresholdConfig

/-- Why an evaluation has no answer: its error, an `i64` subtraction that overflows, or a rung
that the profile does not have. -/
inductive ThresholdHalt where
  | error (message : String)
  | overflow
  | outOfBounds
deriving DecidableEq

def i64Sub (first second : Int) : Except ThresholdHalt Int :=
  if -2 ^ 63 ≤ first - second ∧ first - second < 2 ^ 63 then .ok (first - second)
  else .error .overflow

namespace ThresholdProfile

def selectWindow (profile : ThresholdProfile) (samples : List Sample) :
    Except ThresholdHalt (List Sample) :=
  let sorted := sortedValues samples
  match profile.windowType with
  | .measurements => .ok (sorted.drop (sorted.length - (max profile.window 1).toNat))
  | .time =>
    match sorted.getLast? with
    | some newest => do
      let floor ← i64Sub newest.1 (max profile.window 0)
      return sorted.filter fun sample => floor ≤ sample.1
    | none => .ok []

def aggregate (profile : ThresholdProfile) (samples : List Sample) :
    Except ThresholdHalt (Option ℚ) := do
  let window ← profile.selectWindow samples
  (Window.apply profile.windowFunction window).mapError .error

/-- The stateless check of the current window. -/
def evaluate (profile : ThresholdProfile) (samples : List Sample) :
    Except ThresholdHalt (Option (ℚ × ThresholdConfig)) := do
  match ← profile.aggregate samples with
  | none => return none
  | some value =>
    return (profile.thresholds.find? (·.IsOpenMatch value)).map fun rung => (value, rung)

end ThresholdProfile

structure ThresholdState where
  openIndex : Option Nat
deriving DecidableEq

namespace ThresholdState

def new : ThresholdState := ⟨none⟩

def isOpen (state : ThresholdState) : Bool := state.openIndex.isSome

/-- What a value makes of the state, and the answer. -/
def judge (state : ThresholdState) (thresholds : List ThresholdConfig) (value : ℚ) :
    ThresholdState × Except ThresholdHalt (Option (ℚ × ThresholdConfig)) :=
  match state.openIndex with
  | some index =>
    match thresholds[index]? with
    | none => (state, .error .outOfBounds)
    | some rung =>
      if rung.IsClearMatch value then (⟨none⟩, .ok none) else (state, .ok (some (value, rung)))
  | none =>
    match thresholds.zipIdx.find? fun entry => entry.1.IsOpenMatch value with
    | some entry => (⟨some entry.2⟩, .ok (some (value, entry.1)))
    | none => (state, .ok none)

/-- Feeds a window through the profile. -/
def evaluate (state : ThresholdState) (profile : ThresholdProfile) (samples : List Sample) :
    ThresholdState × Except ThresholdHalt (Option (ℚ × ThresholdConfig)) :=
  match profile.aggregate samples with
  | .error halt => (state, .error halt)
  | .ok none => (state, .ok none)
  | .ok (some value) => state.judge profile.thresholds value

end ThresholdState

def packetLossProfile : ThresholdProfile where
  name := "packet_loss"
  windowType := .measurements
  window := 5
  windowFunction := "avg"
  thresholds := [⟨"high", .ge, 10, .lt, 8⟩, ⟨"medium", .ge, 1, .lt, 1 / 2⟩]

end FragglePacket.NocMetrics
