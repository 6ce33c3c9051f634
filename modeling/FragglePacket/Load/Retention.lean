import Mathlib.Algebra.BigOperators.Ring.Finset
import Mathlib.Algebra.BigOperators.Ring.List
import Mathlib.Data.List.Nodup
import Mathlib.Algebra.Order.BigOperators.Group.List
import Mathlib.Tactic.FieldSimp
import Mathlib.Tactic.Linarith
import FragglePacket.Lists.Regroup
import FragglePacket.Load.Attestation

/-! What the guard makes of a phase that delivers its whole ramp. -/

namespace FragglePacket.Load

open FragglePacket.Lists

def callBytes (call : ℚ × PhaseTick) : Nat := call.2.bytesSentDelta.toNat

/-- What the phase has been handed are rates of the schedule, and what it has moved in
answer is counted. -/
structure Ramped (guard : LoadGuard) (state : PhaseState) : Prop where
  counted : state.bytesTransferred.toNat = (state.calls.map callBytes).sum % 2 ^ 64
  handed : ∀ call ∈ state.calls, call.1 ∈ guard.budget.rampSchedule
  ahead : ∀ rate later, state.control = .step rate later →
    ∀ next ∈ rate :: later, next ∈ guard.budget.rampSchedule

section Phase
variable {guard : LoadGuard} {state : PhaseState}

private theorem nextStep_ahead {rates later schedule : List ℚ} {rate : ℚ}
    (scheduled : ∀ next ∈ rates, next ∈ schedule) (control : nextStep rates = .step rate later) :
    ∀ next ∈ rate :: later, next ∈ schedule := by
  cases rates with
  | nil => cases control
  | cons head rest =>
    cases control
    exact scheduled

theorem start_ramped (guard : LoadGuard) : Ramped guard guard.start where
  counted := rfl
  handed := by simp [LoadGuard.start]
  ahead := fun _ _ control => nextStep_ahead (fun _ member => member) control

/-- Moving on to another step, or stopping, keeps what is counted. -/
theorem Ramped.turn (ramped : Ramped guard state) {control : Control}
    (ahead : ∀ rate later, control = .step rate later →
      ∀ next ∈ rate :: later, next ∈ guard.budget.rampSchedule) :
    Ramped guard { state with control := control } :=
  ⟨ramped.counted, ramped.handed, ahead⟩

theorem Ramped.call (ramped : Ramped guard state) {rate : ℚ}
    (scheduled : rate ∈ guard.budget.rampSchedule) (tick : PhaseTick) : Ramped guard { state with
      bytesTransferred := state.bytesTransferred + tick.bytesSentDelta
      calls := state.calls ++ [(rate, tick)] } where
  counted := by
    simp only [UInt64.toNat_add, ramped.counted, List.map_append, List.sum_append, List.map_cons,
      List.map_nil, List.sum_cons, List.sum_nil, callBytes]
    omega
  handed := by
    intro call member
    rcases List.mem_append.mp member with earlier | last
    · exact ramped.handed call earlier
    · rw [List.mem_singleton.mp last]
      exact scheduled
  ahead := ramped.ahead

theorem Ramped.advanceRound (ramped : Ramped guard state) {rate : ℚ} {later : List ℚ}
    (control : state.control = .step rate later) (beforeRadio : RadioSnapshot) (round : Round) :
    Ramped guard (guard.advanceRound beforeRadio state rate later round) := by
  have scheduled := ramped.ahead rate later control
  have onward : ∀ rate' later', nextStep later = .step rate' later' →
      ∀ next ∈ rate' :: later', next ∈ guard.budget.rampSchedule :=
    fun _ _ moved => nextStep_ahead
      (fun next member => scheduled next (List.mem_cons_of_mem rate member)) moved
  have called := ramped.call (scheduled rate List.mem_cons_self) round.tick
  simp only [LoadGuard.advanceRound]
  split
  · exact ramped.turn onward
  · split
    · exact ramped.turn fun _ _ stopped => by cases stopped
    · split
      · exact called.turn fun _ _ stopped => by cases stopped
      · split
        · exact called.turn onward
        · exact called

theorem Ramped.advance (ramped : Ramped guard state) (beforeRadio : RadioSnapshot) (event : Event) :
    Ramped guard (guard.advance beforeRadio state event) := by
  cases event with
  | sampled reading => exact ⟨ramped.counted, ramped.handed, ramped.ahead⟩
  | round round =>
    rw [LoadGuard.advance]
    split
    · next control => exact ramped.advanceRound control beforeRadio round
    · exact ramped

theorem phase_ramped (guard : LoadGuard) (beforeRadio : RadioSnapshot) (events : List Event) :
    Ramped guard (guard.phase beforeRadio events) := by
  have run : ∀ state, Ramped guard state →
      Ramped guard (events.foldl (guard.advance beforeRadio) state) := by
    induction events with
    | nil => exact fun _ ramped => ramped
    | cons event rest ih => exact fun state ramped => ih _ (ramped.advance beforeRadio event)
  exact run _ (start_ramped guard)

end Phase

/-- The phase moves in the step of each rate what the rate comes to over the whole step. -/
def DeliversRamp (guard : LoadGuard) (world : World) : Prop :=
  ∀ rate ∈ guard.budget.rampSchedule,
    ((groupSum Prod.fst callBytes (guard.phase (sampleRadio world.radioBefore) world.events).calls
      rate : Nat) : ℚ) =
      rate * 1000000 / 8 * guard.stepDuration

section Schedule
variable {budget : LoadBudget}

theorem rampSchedule_length (budget : LoadBudget) :
    budget.rampSchedule.length = budget.rampSteps.toNat := by
  simp [LoadBudget.rampSchedule]

private theorem cast_steps_ne_zero (steps : budget.rampSteps ≠ 0) :
    (budget.rampSteps.toNat : ℚ) ≠ 0 := by
  rw [Nat.cast_ne_zero]
  intro zero
  exact steps (UInt32.toNat_inj.mp zero)

theorem rampSchedule_nodup (steps : budget.rampSteps ≠ 0) (positive : 0 < budget.targetRateMbps) :
    budget.rampSchedule.Nodup := by
  have some := cast_steps_ne_zero steps
  refine List.Nodup.map ?_ List.nodup_range'
  intro first second same
  have target : budget.targetRateMbps ≠ 0 := ne_of_gt positive
  field_simp at same
  exact_mod_cast same

/-- The rates of the schedule come to half of `n + 1` full rates. -/
theorem rampSchedule_sum (budget : LoadBudget) (steps : budget.rampSteps ≠ 0) :
    budget.rampSchedule.sum = budget.targetRateMbps * ((budget.rampSteps.toNat + 1 : ℚ) / 2) := by
  have some := cast_steps_ne_zero steps
  have gauss : ∀ n : Nat, ((List.range' 1 n).map fun (step : Nat) => (step : ℚ)).sum =
      n * (n + 1) / 2 := by
    intro n
    induction n with
    | zero => simp
    | succ n ih =>
      rw [List.range'_concat, List.map_append, List.sum_append, ih]
      simp
      ring
  have scaled : budget.rampSchedule =
      ((List.range' 1 budget.rampSteps.toNat).map fun (step : Nat) => (step : ℚ)).map
      fun step => budget.targetRateMbps / budget.rampSteps.toNat * step := by
    rw [LoadBudget.rampSchedule, List.map_map]
    apply List.map_congr_left
    intro step _
    simp only [Function.comp]
    ring
  rw [scaled, List.sum_map_mul_left, List.map_id', gauss]
  field_simp

end Schedule

section Retained
variable {guard : LoadGuard} {world : World}

/-- The bytes of the target rate over the whole duration. -/
def LoadGuard.volume (guard : LoadGuard) : ℚ :=
  guard.budget.targetRateMbps * 1000000 / 8 * (guard.budget.maxDurationSecs.toNat : ℚ)

theorem volume_le (guard : LoadGuard) : guard.volume ≤ 37500000000 := by
  obtain ⟨rate, duration, _⟩ := LoadBudget.validate_ok guard.accepted
  have rateCap := le_trans rate guard.budget.caps_rate
  have durationCap : (guard.budget.maxDurationSecs.toNat : ℚ) ≤ 300 := by
    have bound := UInt64.le_iff_toNat_le.mp (UInt64.le_trans duration guard.budget.caps_duration)
    exact_mod_cast bound
  have seconds : (0 : ℚ) ≤ (guard.budget.maxDurationSecs.toNat : ℚ) := Nat.cast_nonneg _
  rw [LoadGuard.volume]
  nlinarith

theorem steps_ne_zero (guard : LoadGuard) : guard.budget.rampSteps ≠ 0 :=
  (LoadBudget.validate_ok guard.accepted).2.2.2

/-- The share of the volume that the whole ramp comes to. -/
def LoadGuard.rampShare (guard : LoadGuard) : ℚ :=
  (guard.budget.rampSteps.toNat + 1) / (2 * guard.budget.rampSteps.toNat)

theorem steps_pos (guard : LoadGuard) : 0 < guard.budget.rampSteps.toNat := by
  rw [Nat.pos_iff_ne_zero]
  intro zero
  exact steps_ne_zero guard (UInt32.toNat_inj.mp zero)

theorem stepDuration_eq (duration : 0 < guard.budget.maxDurationSecs) :
    guard.stepDuration = (guard.budget.maxDurationSecs.toNat : ℚ) /
      (guard.budget.rampSteps.toNat : ℚ) := by
  have seconds : 1 ≤ guard.budget.maxDurationSecs.toNat := UInt64.lt_iff_toNat_lt.mp duration
  rw [LoadGuard.stepDuration, rampSchedule_length, Nat.max_eq_left seconds,
    Nat.max_eq_left (steps_pos guard)]

/-- What a phase that delivers the ramp has moved in the end. -/
theorem delivered_total (delivers : DeliversRamp guard world)
    (positive : 0 < guard.budget.targetRateMbps) (duration : 0 < guard.budget.maxDurationSecs) :
    ((((guard.phase
      (sampleRadio world.radioBefore) world.events).calls.map callBytes).sum : Nat) : ℚ) =
      guard.volume * guard.rampShare := by
  have ramped := phase_ramped guard (sampleRadio world.radioBefore) world.events
  have nodup := rampSchedule_nodup (steps_ne_zero guard) positive
  have steps := cast_steps_ne_zero (steps_ne_zero guard)
  rw [sum_eq_sum_groups Prod.fst callBytes nodup ramped.handed, Nat.cast_list_sum, List.map_map,
    Function.comp_def, List.map_congr_left delivers]
  have scaled : guard.budget.rampSchedule.map
      (fun rate => rate * 1000000 / 8 * guard.stepDuration) =
      guard.budget.rampSchedule.map fun rate => 1000000 / 8 * guard.stepDuration * rate := by
    apply List.map_congr_left
    intro rate _
    ring
  rw [scaled, List.sum_map_mul_left, List.map_id', rampSchedule_sum _ (steps_ne_zero guard),
    stepDuration_eq duration, LoadGuard.volume, LoadGuard.rampShare]
  field_simp

/-- What the first step delivers are whole bytes. -/
theorem volume_whole (delivers : DeliversRamp guard world)
    (duration : 0 < guard.budget.maxDurationSecs) :
    ∃ unit : Nat, guard.volume = (unit * guard.budget.rampSteps.toNat ^ 2 : Nat) := by
  have steps := cast_steps_ne_zero (steps_ne_zero guard)
  have first : guard.budget.targetRateMbps * ((1 : Nat) / (guard.budget.rampSteps.toNat : ℚ)) ∈
      guard.budget.rampSchedule :=
    List.mem_map.mpr ⟨1, List.mem_range'_1.mpr
      ⟨Nat.le_refl 1, Nat.add_lt_add_left (steps_pos guard) 1⟩, rfl⟩
  have moved := delivers _ first
  refine ⟨groupSum Prod.fst callBytes
    (guard.phase (sampleRadio world.radioBefore) world.events).calls
    (guard.budget.targetRateMbps * ((1 : Nat) / (guard.budget.rampSteps.toNat : ℚ))), ?_⟩
  rw [Nat.cast_mul, moved, stepDuration_eq duration, LoadGuard.volume, Nat.cast_pow]
  field_simp
  simp

theorem asU64_natCast {n : Nat} (small : n < 2 ^ 64) : (asU64 (n : ℚ)).toNat = n := by
  rw [asU64, Int.floor_natCast, Int.toNat_natCast, Nat.min_eq_left (Nat.le_sub_one_of_lt small)]
  exact UInt64.toNat_ofNat_of_lt' small

theorem rampShare_le_one (guard : LoadGuard) : guard.rampShare ≤ 1 := by
  have steps : (1 : ℚ) ≤ guard.budget.rampSteps.toNat := by exact_mod_cast steps_pos guard
  rw [LoadGuard.rampShare, div_le_one (by linarith)]
  linarith

theorem volume_pos (positive : 0 < guard.budget.targetRateMbps)
    (duration : 0 < guard.budget.maxDurationSecs) :
    0 < guard.volume := by
  have seconds : (0 : ℚ) < guard.budget.maxDurationSecs.toNat := by
    exact_mod_cast UInt64.lt_iff_toNat_lt.mp duration
  rw [LoadGuard.volume]
  positivity

/-- The target of a phase that delivers the ramp is a whole number of bytes, and small. -/
theorem delivered_target (delivers : DeliversRamp guard world)
    (duration : 0 < guard.budget.maxDurationSecs) :
    (guard.targetBytes.toNat : ℚ) = guard.volume := by
  obtain ⟨unit, whole⟩ := volume_whole delivers duration
  have bound := volume_le guard
  have small : unit * guard.budget.rampSteps.toNat ^ 2 < 2 ^ 64 := by
    rw [whole] at bound
    exact Nat.lt_of_le_of_lt (by exact_mod_cast bound) (by norm_num : 37500000000 < 2 ^ 64)
  have same : guard.targetBytes = asU64 guard.volume := rfl
  rw [same, whole, asU64_natCast small]

/-- What the phase has moved is small enough for the counter. -/
theorem delivered_moved (delivers : DeliversRamp guard world)
    (positive : 0 < guard.budget.targetRateMbps) (duration : 0 < guard.budget.maxDurationSecs) :
    ((guard.raw world).bytesTransferred.toNat : ℚ) = guard.volume * guard.rampShare := by
  have total := delivered_total delivers positive duration
  have counted := (phase_ramped guard (sampleRadio world.radioBefore) world.events).counted
  rw [LoadGuard.raw, counted, Nat.mod_eq_of_lt, total]
  have few :
      ((((guard.phase
        (sampleRadio world.radioBefore) world.events).calls.map callBytes).sum : Nat) : ℚ) ≤
      37500000000 := by
    have bound := volume_le guard
    have share := rampShare_le_one guard
    have someVolume := volume_pos positive duration
    rw [total]
    nlinarith
  exact Nat.lt_of_le_of_lt (by exact_mod_cast few) (by norm_num : 37500000000 < 2 ^ 64)

/-- The ratio that the guard reports of a phase that delivers the whole ramp. -/
theorem delivered_derived {report : GuardReport} (reported : guard.run world = some report)
    (delivers : DeliversRamp guard world) (positive : 0 < guard.budget.targetRateMbps)
    (duration : 0 < guard.budget.maxDurationSecs) (valid : report.validity = .valid) :
    report.derived = some ⟨guard.rampShare * 100, 1 - guard.rampShare⟩ := by
  obtain ⟨stopReason, _, rfl⟩ := (guard.run_eq_some world report).mp reported
  have someVolume := volume_pos positive duration
  have target : ((guard.raw world).targetBytes.toNat : ℚ) = guard.volume :=
    delivered_target delivers duration
  have aimed : (guard.raw world).targetBytes ≠ 0 := by
    intro empty
    rw [empty] at target
    exact ne_of_lt someVolume target
  have retained : ((guard.raw world).bytesTransferred.toNat : ℚ) /
      ((guard.raw world).targetBytes.toNat : ℚ) =
      guard.rampShare := by
    rw [delivered_moved delivers positive duration, target]
    exact mul_div_cancel_left₀ _ (ne_of_gt someVolume)
  have derived : (guard.report stopReason world.timeline (sampleCounters world.countersBefore)
      (sampleCounters world.countersAfter) (guard.raw world)).derived =
        computeDerivedRatio .valid (guard.raw world) := by
    rw [← valid]
    rfl
  rw [derived, computeDerivedRatio, if_neg aimed]
  simp only [retained]

/-- A phase that delivers its whole ramp is scored as fully retained just when the ramp has
one step. -/
theorem delivered_ramp_retained_iff {report : GuardReport}
    (reported : guard.run world = some report) (delivers : DeliversRamp guard world)
    (positive : 0 < guard.budget.targetRateMbps) (duration : 0 < guard.budget.maxDurationSecs)
    (valid : report.validity = .valid) :
    report.derived = some ⟨100, 0⟩ ↔ guard.budget.rampSteps = 1 := by
  have steps := cast_steps_ne_zero (steps_ne_zero guard)
  have one : guard.budget.rampSteps = 1 ↔ (guard.budget.rampSteps.toNat : ℚ) = 1 := by
    rw [← UInt32.toNat_inj, Nat.cast_eq_one]
    rfl
  rw [delivered_derived reported delivers positive duration valid, one, Option.some.injEq,
    DerivedMetrics.mk.injEq, LoadGuard.rampShare]
  constructor
  · intro full
    have half := full.2
    field_simp at half
    linarith
  · intro single
    rw [single]
    norm_num

end Retained

theorem delivered_ramp_retained_iff_second :
    ∃ report, secondGuard.run (steadyWorld [.round megabitRound] 1) = some report ∧
      (report.derived = some ⟨100, 0⟩ ↔ secondGuard.budget.rampSteps = 1) := by
  have reported :=
    (secondGuard.run_eq_some (steadyWorld [.round megabitRound] 1) _).mpr ⟨_, secondGuard_over, rfl⟩
  have delivers : DeliversRamp secondGuard (steadyWorld [.round megabitRound] 1) := by
    unfold DeliversRamp
    decide +kernel
  exact ⟨_, reported, delivered_ramp_retained_iff reported delivers (by decide) (by decide)
    (by decide +kernel)⟩

/-- One Mbps for two seconds, in the four steps of the default ramp. -/
def rampedGuard : LoadGuard := ⟨LoadBudget.maintenance 1 2 1, rfl, "en0", false, false⟩

/-- Half a second for each step, and the bytes of its rate. -/
def rampRounds : List Event :=
  [15625, 31250, 46875, 62500].map fun bytes => .round ⟨0, false, ⟨none, none, none, bytes⟩, 1 / 2⟩

/-- A run that delivers its whole ramp is reported to retain less than two thirds. -/
theorem ramped_run_scored_short :
    DeliversRamp rampedGuard (steadyWorld rampRounds 2) ∧
      ∃ report, rampedGuard.run (steadyWorld rampRounds 2) = some report ∧
        report.stopReason = .completed ∧
        report.validity = .valid ∧ report.derived = some ⟨125 / 2, 3 / 8⟩ := by
  have ended : (rampedGuard.phase strongSnapshot rampRounds).control = .ended .completed := by
    decide +kernel
  constructor
  · unfold DeliversRamp
    decide +kernel
  · refine ⟨_, (rampedGuard.run_eq_some (steadyWorld rampRounds 2) _).mpr ⟨_, ended, rfl⟩,
      rfl, ?_, ?_⟩
    · decide +kernel
    · decide +kernel

end FragglePacket.Load
