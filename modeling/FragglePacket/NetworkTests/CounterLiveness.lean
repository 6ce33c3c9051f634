import FragglePacket.Text.Decimal
import Mathlib.Algebra.Order.Field.Rat

/-! Whether a counter moved by a known stimulus. Arithmetic is that of an `i128`, and
checked; ratios are exact. -/

namespace FragglePacket.NetworkTests

open FragglePacket.Text

inductive LivenessVerdict where
  | live
  | frozen
  | reset
  | wrapped
  | unattributable
  deriving DecidableEq

structure LivenessBracket where
  sourceName : String
  stimulusPacketsSent : UInt64
  counterBefore : UInt64
  counterAfter : UInt64
  verdict : LivenessVerdict
  detail : String
  deriving DecidableEq

/-- A result of `i128` arithmetic; there is none where it overflows. -/
def i128 (value : Int) : Option Int :=
  if -2 ^ 127 ≤ value ∧ value < 2 ^ 127 then some value else none

def u32Boundary : Int := 2 ^ 32
def u64Boundary : Int := 2 ^ 64

def liveMinFraction : ℚ := 1 / 2
def liveMaxFraction : ℚ := 20
def resetMaxMagnitudeVsStimulus : ℚ := 50
def wrapTolerancePackets : Int := 10000

def matchesStimulus (stimulus reconstructed : Int) : Option Bool :=
  if 0 < reconstructed then do
    let off ← i128 (reconstructed - stimulus)
    let distance ← i128 |off|
    pure (decide (distance ≤ wrapTolerancePackets))
  else pure false

/-- A counter that went backwards was reset, or ran over the boundary of its register. -/
def classifyBackwards (stimulus delta : Int) : Option LivenessVerdict := do
  let magnitude ← i128 (-delta)
  if (magnitude : ℚ) ≤ stimulus * resetMaxMagnitudeVsStimulus then pure .reset
  else
    let reconstructed32 ← i128 (u32Boundary - magnitude)
    let reconstructed64 ← i128 (u64Boundary - magnitude)
    let matches32 ← matchesStimulus stimulus reconstructed32
    let wraps ← if matches32 then pure true else matchesStimulus stimulus reconstructed64
    pure (if wraps then .wrapped else .unattributable)

def livenessVerdict (stimulus delta : Int) : Option LivenessVerdict :=
  if stimulus = 0 then pure .unattributable
  else if delta = 0 then pure .frozen
  else if 0 < delta then
    let frac : ℚ := delta / stimulus
    pure (if liveMinFraction ≤ frac ∧ frac ≤ liveMaxFraction then .live else .unattributable)
  else classifyBackwards stimulus delta

def magnitudeOrZero (delta : Int) : Option Int := if delta < 0 then i128 (-delta) else pure delta

def classifyDelta (sourceName : String) (stimulusPacketsSent before after : UInt64) :
    Option LivenessBracket := do
  let delta ← i128 (after.toNat - before.toNat)
  let verdict ← livenessVerdict stimulusPacketsSent.toNat delta
  let magnitude ← magnitudeOrZero delta
  let jump := "counter went backwards by " ++ toString magnitude ++ " (" ++ toString before ++
    " -> " ++ toString after ++ ")"
  let detail := match verdict with
    | .live =>
      "counter advanced by " ++ toString delta ++ " against a stimulus of " ++
        toString stimulusPacketsSent ++
        " packets -- within the " ++ fixed 0 liveMinFraction ++ "x-" ++ fixed 0 liveMaxFraction ++ "x expected range"
    | .frozen =>
      "counter did not move at all (" ++ toString before ++ " -> " ++ toString after ++
        ") despite a " ++
        toString stimulusPacketsSent ++ "-packet stimulus -- this source is not usable as evidence"
    | .reset =>
      jump ++ ", a small jump relative to the stimulus -- consistent with a counter reset, not real traffic"
    | .wrapped => jump ++ ", consistent with wraparound past a register boundary"
    | .unattributable =>
      "counter changed by " ++ toString delta ++ " against a stimulus of " ++
        toString stimulusPacketsSent ++
        ", outside the range attributable to this bracket alone"
  pure ⟨sourceName, stimulusPacketsSent, before, after, verdict, detail⟩

section Verdicts

/-- A register of that width ran over by exactly the stimulus. -/
structure RanOver (width : Nat) (stimulus before after : UInt64) : Prop where
  register : width = 32 ∨ width = 64
  within : before.toNat < 2 ^ width
  stimulated : 1 ≤ stimulus.toNat
  fits : stimulus.toNat < 2 ^ width
  advanced : after.toNat + 2 ^ width = before.toNat + stimulus.toNat

theorem i128_of_fits {value : Int} (low : -2 ^ 127 ≤ value) (high : value < 2 ^ 127) :
    i128 value = some value :=
  if_pos ⟨low, high⟩

variable {stimulus delta : Int}

/-- The widest counters and stimuli are far within the arithmetic. -/
structure Counted (stimulus delta : Int) : Prop where
  stimulated : 0 ≤ stimulus
  stimulus_lt : stimulus < 2 ^ 64
  low : -2 ^ 64 < delta
  high : delta < 2 ^ 64

theorem matchesStimulus_eq (counted : Counted stimulus delta) (boundary : Int)
    (positive : 0 ≤ boundary) (widest : boundary ≤ 2 ^ 64) (backwards : delta < 0) :
    matchesStimulus stimulus (boundary + delta) =
      some
        (decide (0 < boundary + delta ∧ |boundary + delta - stimulus| ≤ wrapTolerancePackets)) := by
  obtain ⟨stimulated, stimulusLt, low, -⟩ := counted
  unfold matchesStimulus
  by_cases climbed : 0 < boundary + delta
  · have off : i128 (boundary + delta - stimulus) = some (boundary + delta - stimulus) :=
      i128_of_fits (by omega) (by omega)
    have distance : i128 |boundary + delta - stimulus| = some |boundary + delta - stimulus| :=
      i128_of_fits (by have := abs_nonneg (boundary + delta - stimulus); omega)
        (by rw [abs_lt]; omega)
    rw [if_pos climbed, off, Option.bind_eq_bind, Option.bind_some, distance]
    simp [climbed]
  · rw [if_neg climbed]
    simp [climbed]

/-- What a counter must have climbed by to wrap at a boundary. -/
theorem climb_eq (counted : Counted stimulus delta) (boundary : Int) (positive : 0 ≤ boundary)
    (widest : boundary ≤ 2 ^ 64) :
    i128 (boundary - -delta) = some (boundary + delta) := by
  obtain ⟨-, -, low, high⟩ := counted
  rw [sub_neg_eq_add]
  exact i128_of_fits (by omega) (by omega)

/-- Every intermediate figure of a backwards counter fits. -/
theorem classifyBackwards_eq (counted : Counted stimulus delta) (backwards : delta < 0) :
    classifyBackwards stimulus delta = some (
      if -delta ≤ stimulus * 50 then .reset
      else if (0 < u32Boundary + delta ∧ |u32Boundary + delta - stimulus| ≤ wrapTolerancePackets) ∨
          (0 < u64Boundary + delta ∧ |u64Boundary + delta - stimulus| ≤ wrapTolerancePackets)
            then .wrapped
      else .unattributable) := by
  have low := counted.low
  have magnitude : i128 (-delta) = some (-delta) := i128_of_fits (by omega) (by omega)
  have ratio : (((-delta : Int) : ℚ) ≤ stimulus * resetMaxMagnitudeVsStimulus) ↔
      -delta ≤ stimulus * 50 := by
    unfold resetMaxMagnitudeVsStimulus
    norm_cast
  have climb32 := climb_eq counted u32Boundary (by decide) (by decide)
  have climb64 := climb_eq counted u64Boundary (by decide) (by decide)
  have match32 := matchesStimulus_eq counted u32Boundary (by decide) (by decide) backwards
  have match64 := matchesStimulus_eq counted u64Boundary (by decide) (by decide) backwards
  rw [classifyBackwards, magnitude, Option.bind_eq_bind, Option.bind_some]
  simp only [ratio]
  by_cases small : -delta ≤ stimulus * 50
  · rw [if_pos small, if_pos small]
    rfl
  · rw [if_neg small, if_neg small, climb32, Option.bind_some, climb64, Option.bind_some, match32,
      Option.bind_eq_bind, Option.bind_some]
    by_cases wraps32 : 0 < u32Boundary + delta ∧
      |u32Boundary + delta - stimulus| ≤ wrapTolerancePackets
    · simp [wraps32]
    · rw [decide_eq_false wraps32, match64]
      simp [wraps32]

theorem livenessVerdict_eq (counted : Counted stimulus delta) :
    ∃ verdict, livenessVerdict stimulus delta = some verdict ∧
    (verdict = .live → 0 < delta) ∧ (verdict = .frozen ↔ delta = 0 ∧ 0 < stimulus) := by
  have stimulated := counted.stimulated
  unfold livenessVerdict
  by_cases none : stimulus = 0
  · exact ⟨.unattributable, if_pos none, by simp, by simp [none]⟩
  · rw [if_neg none]
    by_cases still : delta = 0
    · exact ⟨.frozen, if_pos still, by simp, by simp [still, stimulated.lt_of_ne' none]⟩
    · rw [if_neg still]
      by_cases forwards : 0 < delta
      · rw [if_pos forwards]
        refine ⟨_, rfl, fun _ => forwards, ?_⟩
        refine iff_of_false ?_ fun both => still both.1
        split <;> simp
      · rw [if_neg forwards, classifyBackwards_eq counted (by omega)]
        refine ⟨_, rfl, ?_, iff_of_false ?_ fun both => still both.1⟩
        all_goals split_ifs <;> simp

end Verdicts

section Registers
variable {width : Nat} {stimulus before after : UInt64}

theorem counted_of_readings (stimulus before after : UInt64) :
    Counted stimulus.toNat ((after.toNat : Int) - before.toNat) := by
  have stimulusLt := stimulus.toNat_lt
  have beforeLt := before.toNat_lt
  have afterLt := after.toNat_lt
  exact ⟨by omega, by omega, by omega, by omega⟩

/-- A bracket is always computed, with the verdict on its readings. -/
theorem classifyDelta_eq (sourceName : String) {verdict : LivenessVerdict}
    (found : livenessVerdict stimulus.toNat ((after.toNat : Int) - before.toNat) = some verdict) :
    ∃ bracket, classifyDelta sourceName stimulus before after = some bracket ∧
      bracket.verdict = verdict := by
  obtain ⟨-, -, low, high⟩ := counted_of_readings stimulus before after
  have delta : i128 ((after.toNat : Int) - before.toNat) =
      some ((after.toNat : Int) - before.toNat) :=
    i128_of_fits (by omega) (by omega)
  obtain ⟨magnitude, reads⟩ : ∃ magnitude, magnitudeOrZero ((after.toNat : Int) - before.toNat) =
      some magnitude := by
    unfold magnitudeOrZero
    split
    · have fits : i128 (-((after.toNat : Int) - before.toNat)) =
          some (-((after.toNat : Int) - before.toNat)) :=
        i128_of_fits (by omega) (by omega)
      exact ⟨_, fits⟩
    · exact ⟨_, rfl⟩
  simp only [classifyDelta, delta, found, reads, Option.bind_eq_bind, Option.bind_some]
  exact ⟨_, rfl, rfl⟩

/-- A register that ran over is told from one that was reset by how far the
stimulus is below its size. -/
theorem livenessVerdict_ranOver (ran : RanOver width stimulus before after) :
    livenessVerdict stimulus.toNat ((after.toNat : Int) - before.toNat) =
      some (if 51 * stimulus.toNat < 2 ^ width then .wrapped else .reset) := by
  obtain ⟨register, within, stimulated, fits, advanced⟩ := ran
  have counted := counted_of_readings stimulus before after
  have climbed : (after.toNat : Int) - before.toNat = stimulus.toNat - 2 ^ width := by
    have exact : (after.toNat : Int) + 2 ^ width = before.toNat + stimulus.toNat := by
      exact_mod_cast advanced
    omega
  have bound : ((2 ^ width : Nat) : Int) = 2 ^ width := by push_cast; rfl
  have backwards : (after.toNat : Int) - before.toNat < 0 := by omega
  have moves : (stimulus.toNat : Int) ≠ 0 := by omega
  rw [livenessVerdict, if_neg moves, if_neg backwards.ne, if_neg backwards.not_gt,
    classifyBackwards_eq counted backwards]
  by_cases far : 51 * stimulus.toNat < 2 ^ width
  · have beyond : ¬ -((after.toNat : Int) - before.toNat) ≤ stimulus.toNat * 50 := by omega
    have wraps : 0 < 2 ^ width + ((after.toNat : Int) - before.toNat) ∧
        |2 ^ width + ((after.toNat : Int) - before.toNat) - stimulus.toNat| ≤
          wrapTolerancePackets := by
      unfold wrapTolerancePackets
      rw [climbed, abs_le]
      omega
    rw [if_pos far, if_neg beyond, if_pos]
    rcases register with rfl | rfl
    · exact .inl wraps
    · exact .inr wraps
  · have near : -((after.toNat : Int) - before.toNat) ≤ stimulus.toNat * 50 := by omega
    rw [if_neg far, if_pos near]

/-- What a bracket says of its readings: a counter that stood still, or went back, is not live,
and one that ran over its register by exactly the stimulus was reset only if it went back by no
more than fifty times that. -/
structure Attributed (stimulus before after : UInt64) (verdict : LivenessVerdict) : Prop where
  live : after ≤ before → verdict ≠ .live
  frozen : verdict = .frozen ↔ after = before ∧ 0 < stimulus
  ranOver : ∀ width, RanOver width stimulus before after →
    verdict = if 51 * stimulus.toNat < 2 ^ width then .wrapped else .reset

/-- Every bracket is computed without overflow, and attributed so. -/
theorem classifyDelta_attributed (sourceName : String) (stimulus before after : UInt64) :
    ∃ bracket, classifyDelta sourceName stimulus before after = some bracket ∧
      Attributed stimulus before after bracket.verdict := by
  obtain ⟨verdict, found, live, frozen⟩ :=
    livenessVerdict_eq (counted_of_readings stimulus before after)
  obtain ⟨bracket, computed, rfl⟩ := classifyDelta_eq sourceName found
  refine ⟨bracket, computed, ?_, ?_, ?_⟩
  · intro still isLive
    have forwards := live isLive
    have behind := UInt64.le_iff_toNat_le.mp still
    omega
  · have same : (after.toNat : Int) - before.toNat = 0 ↔ after = before := by
      rw [← UInt64.toNat_inj]
      omega
    have stimulated : (0 : Int) < stimulus.toNat ↔ 0 < stimulus := by
      rw [UInt64.lt_iff_toNat_lt, UInt64.toNat_zero]
      omega
    rw [frozen, same, stimulated]
  · intro width ran
    exact Option.some.inj (found.symm.trans (livenessVerdict_ranOver ran))

/-- A register of 32 bits that ran over by 2000. -/
theorem classifyDelta_attributed_wrapped : ∃ bracket,
    classifyDelta "iw-station" 2000 4294966296 1000 = some bracket ∧
      bracket.verdict = .wrapped := by
  obtain ⟨bracket, computed, attributed⟩ :=
    classifyDelta_attributed "iw-station" 2000 4294966296 1000
  have ran : RanOver 32 2000 4294966296 1000 :=
    ⟨.inl rfl, by decide, by decide, by decide, by decide⟩
  exact ⟨bracket, computed, attributed.ranOver 32 ran⟩

/-- A register of 32 bits that ran over by half its size is called reset. -/
theorem half_register_called_reset : RanOver 32 2147483648 2147483648 0 ∧ ∃ bracket,
    classifyDelta "iw-station" 2147483648 2147483648 0 = some bracket ∧
      bracket.verdict = .reset := by
  have ran : RanOver 32 2147483648 2147483648 0 :=
    ⟨.inl rfl, by decide, by decide, by decide, by decide⟩
  have near : ¬ 51 * (2147483648 : UInt64).toNat < 2 ^ 32 := by decide
  have found := livenessVerdict_ranOver ran
  rw [if_neg near] at found
  exact ⟨ran, classifyDelta_eq "iw-station" found⟩

end Registers

end FragglePacket.NetworkTests
