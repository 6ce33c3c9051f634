import FragglePacket.Load.Radio
import FragglePacket.NetworkTests.Freshness
import Mathlib.Algebra.Field.Rat

/-! An offered load as a fraction of the client's own radio capacity, and when that
capacity is known to be current. -/

namespace FragglePacket.NetworkTests

open FragglePacket.Load

inductive PhyGeneration where
  | ht
  | vht
  | he
  | eht
  | unknown
  deriving DecidableEq

structure NodeProfile where
  nodeId : String
  phyGeneration : PhyGeneration
  driver : String
  kernel : String
  phyCapacityMbps : ℚ
  rfQuality : RfQuality
  directionalControl : Bool

/-- The times are in seconds from the start of the run, where the caller recorded them. -/
structure PhaseMeasurement where
  node : NodeProfile
  offeredMbps : ℚ
  lossPercent : ℚ
  phySampledAtElapsedSecs : Option ℚ
  measuredAtElapsedSecs : Option ℚ

structure NormalizedMeasurement where
  nodeId : String
  phyGeneration : PhyGeneration
  driver : String
  kernel : String
  offeredMbps : ℚ
  phyCapacityMbps : ℚ
  offeredPhyFraction : Option ℚ
  lossPercent : ℚ
  rfQuality : RfQuality
  directionalControl : Bool
  freshness : Freshness

/-- The horizon of radio observations, `horizons::RADIO_SECS`. -/
def radioSecs : ℚ := 30

/-- A caller that recorded no times has a fresh capacity. -/
def PhaseMeasurement.freshness (m : PhaseMeasurement) : Freshness :=
  match m.phySampledAtElapsedSecs, m.measuredAtElapsedSecs with
  | some sampled, some now => checkFreshness [⟨"phy_capacity_mbps", sampled, radioSecs⟩] now
  | _, _ => .fresh

def normalize (m : PhaseMeasurement) : NormalizedMeasurement where
  nodeId := m.node.nodeId
  phyGeneration := m.node.phyGeneration
  driver := m.node.driver
  kernel := m.node.kernel
  offeredMbps := m.offeredMbps
  phyCapacityMbps := m.node.phyCapacityMbps
  offeredPhyFraction :=
    if !m.freshness.permitsDerivedFigure then none
    else if 0 < m.node.phyCapacityMbps then some (m.offeredMbps / m.node.phyCapacityMbps)
    else none
  lossPercent := m.lossPercent
  rfQuality := m.node.rfQuality
  directionalControl := m.node.directionalControl
  freshness := m.freshness

section Fraction
variable {m : PhaseMeasurement} {fraction sampled now : ℚ}

theorem permitsDerivedFigure_iff {freshness : Freshness} :
    freshness.permitsDerivedFigure = true ↔ freshness = .fresh := by
  cases freshness <;> simp [Freshness.permitsDerivedFigure]

/-- One input is fresh inside its horizon; a sample of the future has no age. -/
theorem checkFreshness_single {name : String} {horizon : ℚ} (nonneg : 0 ≤ horizon) :
    checkFreshness [⟨name, sampled, horizon⟩] now = .fresh ↔ now - sampled ≤ horizon := by
  have current := isFreshAt_iff now ⟨name, sampled, horizon⟩
  have aged : Current now ⟨name, sampled, horizon⟩ ↔ now - sampled ≤ horizon := by
    rw [Current, and_iff_right nonneg, max_le_iff, and_iff_left nonneg]
  rw [checkFreshness_eq, staleOf, List.filter_singleton, ← aged, ← current]
  cases (InputTiming.mk name sampled horizon).observation.isFreshAt now with
  | true => exact iff_of_true rfl rfl
  | false => exact iff_of_false (by simp) Bool.false_ne_true

theorem freshness_recorded (sampledAt : m.phySampledAtElapsedSecs = some sampled)
    (measuredAt : m.measuredAtElapsedSecs = some now) :
    m.freshness = .fresh ↔ now - sampled ≤ radioSecs := by
  rw [PhaseMeasurement.freshness, sampledAt, measuredAt]
  exact checkFreshness_single (by decide)

theorem freshness_unrecorded
    (missing : m.phySampledAtElapsedSecs = none ∨ m.measuredAtElapsedSecs = none) :
    m.freshness = .fresh := by
  rcases missing with missing | missing
  · rw [PhaseMeasurement.freshness, missing]
  · rw [PhaseMeasurement.freshness, missing]
    cases m.phySampledAtElapsedSecs <;> rfl

theorem normalize_fraction : (normalize m).offeredPhyFraction = some fraction ↔
    m.freshness = .fresh ∧ 0 < m.node.phyCapacityMbps ∧
      fraction = m.offeredMbps / m.node.phyCapacityMbps := by
  change (if !m.freshness.permitsDerivedFigure then none
    else if 0 < m.node.phyCapacityMbps then some (m.offeredMbps / m.node.phyCapacityMbps)
      else none) = some fraction ↔ _
  rw [← permitsDerivedFigure_iff]
  cases m.freshness.permitsDerivedFigure with
  | false => simp
  | true =>
    by_cases usable : 0 < m.node.phyCapacityMbps
    · simp [usable, eq_comm]
    · simp [usable]

/-- The fraction is over a capacity that was sampled no later than the measurement and inside the
horizon, and is withheld otherwise; without both times nothing counts as fresh. -/
structure FractionJustified (m : PhaseMeasurement) : Prop where
  current : ∀ fraction, (normalize m).offeredPhyFraction = some fraction ↔
    ∃ sampled now, m.phySampledAtElapsedSecs = some sampled ∧ m.measuredAtElapsedSecs = some now ∧
      sampled ≤ now ∧ now - sampled ≤ 30 ∧ 0 < m.node.phyCapacityMbps ∧
        fraction = m.offeredMbps / m.node.phyCapacityMbps
  judged : m.phySampledAtElapsedSecs = none ∨ m.measuredAtElapsedSecs = none →
    (normalize m).freshness ≠ .fresh

/-- Fractions are justified exactly where both times are recorded, and a sample of the future
meets no usable capacity. -/
theorem normalize_justified_iff (m : PhaseMeasurement) : FractionJustified m ↔
    ∃ sampled now, m.phySampledAtElapsedSecs = some sampled ∧ m.measuredAtElapsedSecs = some now ∧
      (sampled ≤ now ∨ m.node.phyCapacityMbps ≤ 0) := by
  constructor
  · intro justified
    rcases sampledAt : m.phySampledAtElapsedSecs with _ | sampled
    · exact absurd (freshness_unrecorded (Or.inl sampledAt)) (justified.judged (Or.inl sampledAt))
    rcases measuredAt : m.measuredAtElapsedSecs with _ | now
    · exact absurd (freshness_unrecorded (Or.inr measuredAt)) (justified.judged (Or.inr measuredAt))
    refine ⟨sampled, now, rfl, rfl, ?_⟩
    by_contra future
    obtain ⟨late, usable⟩ := not_or.mp future
    -- the sample has no age, so a fraction is reported
    have fresh : m.freshness = .fresh := (freshness_recorded sampledAt measuredAt).mpr (by
      have radio : radioSecs = 30 := rfl
      linarith [not_le.mp late])
    have reported := normalize_fraction.mpr ⟨fresh, not_le.mp usable, rfl⟩
    obtain ⟨sampled', now', same, same', ordered, _⟩ := (justified.current _).mp reported
    rw [sampledAt] at same
    rw [measuredAt] at same'
    exact late (Option.some.inj same ▸ Option.some.inj same' ▸ ordered)
  · rintro ⟨sampled, now, sampledAt, measuredAt, timed⟩
    refine ⟨fun fraction => ?_, ?_⟩
    · rw [normalize_fraction, freshness_recorded sampledAt measuredAt]
      constructor
      · rintro ⟨within, usable, same⟩
        exact ⟨sampled, now, sampledAt, measuredAt, timed.resolve_right (not_le.mpr usable), within,
          usable, same⟩
      · rintro ⟨sampled', now', same, same', _, within, usable, divided⟩
        rw [sampledAt] at same
        rw [measuredAt] at same'
        obtain rfl := Option.some.inj same
        obtain rfl := Option.some.inj same'
        exact ⟨within, usable, divided⟩
    · rintro (missing | missing)
      · rw [sampledAt] at missing
        cases missing
      · rw [measuredAt] at missing
        cases missing

/-- A phase at half of the capacity, with no times recorded. -/
def untimedPhase : PhaseMeasurement :=
  ⟨⟨"PV10", .he, "ath11k", "5.15", 800, .strong, true⟩, 400, 1, none, none⟩

theorem untimed_fraction_reported : (normalize untimedPhase).freshness = .fresh ∧
    (normalize untimedPhase).offeredPhyFraction = some (400 / 800) ∧
      ¬ FractionJustified untimedPhase := by
  have fresh : untimedPhase.freshness = .fresh := rfl
  refine ⟨fresh, normalize_fraction.mpr ⟨fresh, by decide, rfl⟩, fun justified => ?_⟩
  exact justified.judged (Or.inl rfl) fresh

end Fraction

end FragglePacket.NetworkTests
