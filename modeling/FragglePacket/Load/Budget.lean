import Mathlib.Data.Rat.Defs
import Mathlib.Algebra.Order.Ring.Unbundled.Rat

/-! Load budgets: rates and thresholds as exact rationals. -/

namespace FragglePacket.Load

inductive RunMode where
  | maintenance
  | liveEvent
deriving DecidableEq

structure AbortThresholds where
  maxGatewayLatencyMs : ℚ
  maxLossPct : ℚ

structure LoadBudget where
  mode : RunMode
  targetRateMbps : ℚ
  maxDurationSecs : UInt64
  maxConcurrency : UInt32
  rampSteps : UInt32
  abort : AbortThresholds

def liveEventMaxRateMbps : ℚ := 50
def liveEventMaxDurationSecs : UInt64 := 30
def liveEventMaxConcurrency : UInt32 := 2

def maintenanceMaxRateMbps : ℚ := 1000
def maintenanceMaxDurationSecs : UInt64 := 300
def maintenanceMaxConcurrency : UInt32 := 16

/-- The rates of an error are the numbers that the source prints with one decimal. -/
inductive BudgetError where
  | rateExceedsCap (requested cap : ℚ) (mode : RunMode)
  | durationExceedsCap (requested cap : UInt64) (mode : RunMode)
  | concurrencyExceedsCap (requested cap : UInt32) (mode : RunMode)
  | zeroRamp

namespace LoadBudget

def liveEvent (targetRateMbps : ℚ) (maxDurationSecs : UInt64)
    (maxConcurrency : UInt32) : LoadBudget where
  mode := .liveEvent
  targetRateMbps := targetRateMbps
  maxDurationSecs := maxDurationSecs
  maxConcurrency := maxConcurrency
  rampSteps := 4
  abort := ⟨50, 2⟩

def maintenance (targetRateMbps : ℚ) (maxDurationSecs : UInt64)
    (maxConcurrency : UInt32) : LoadBudget where
  mode := .maintenance
  targetRateMbps := targetRateMbps
  maxDurationSecs := maxDurationSecs
  maxConcurrency := maxConcurrency
  rampSteps := 4
  abort := ⟨200, 10⟩

def caps (budget : LoadBudget) : ℚ × UInt64 × UInt32 :=
  match budget.mode with
  | .liveEvent => (liveEventMaxRateMbps, liveEventMaxDurationSecs, liveEventMaxConcurrency)
  | .maintenance => (maintenanceMaxRateMbps, maintenanceMaxDurationSecs, maintenanceMaxConcurrency)

def validate (budget : LoadBudget) : Except BudgetError Unit :=
  let (rateCap, durCap, concCap) := budget.caps
  if rateCap < budget.targetRateMbps then
    .error (.rateExceedsCap budget.targetRateMbps rateCap budget.mode)
  else if durCap < budget.maxDurationSecs then
    .error (.durationExceedsCap budget.maxDurationSecs durCap budget.mode)
  else if concCap < budget.maxConcurrency then
    .error (.concurrencyExceedsCap budget.maxConcurrency concCap budget.mode)
  else if budget.rampSteps = 0 then .error .zeroRamp
  else .ok ()

def rampSchedule (budget : LoadBudget) : List ℚ :=
  (List.range' 1 budget.rampSteps.toNat).map fun (step : Nat) =>
    budget.targetRateMbps * ((step : ℚ) / (budget.rampSteps.toNat : ℚ))

theorem caps_rate (budget : LoadBudget) : budget.caps.1 ≤ 1000 := by
  rw [caps]
  cases budget.mode with
  | liveEvent => decide
  | maintenance => decide

theorem caps_duration (budget : LoadBudget) : budget.caps.2.1 ≤ 300 := by
  rw [caps]
  cases budget.mode with
  | liveEvent => decide
  | maintenance => decide

/-- What a budget that passes the check is bounded by. -/
theorem validate_ok {budget : LoadBudget} (accepted : budget.validate = .ok ()) :
    budget.targetRateMbps ≤ budget.caps.1 ∧ budget.maxDurationSecs ≤ budget.caps.2.1 ∧
      budget.maxConcurrency ≤ budget.caps.2.2 ∧ budget.rampSteps ≠ 0 := by
  simp only [validate] at accepted
  split at accepted
  · cases accepted
  · next rate =>
    split at accepted
    · cases accepted
    · next duration =>
      split at accepted
      · cases accepted
      · next concurrency =>
        split at accepted
        · cases accepted
        · next ramp => exact ⟨not_lt.mp rate, UInt64.not_lt.mp duration,
                         UInt32.not_lt.mp concurrency, ramp⟩

end LoadBudget

end FragglePacket.Load
