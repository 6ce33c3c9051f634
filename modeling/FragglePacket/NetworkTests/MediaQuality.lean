import FragglePacket.Lists.Extremum
import FragglePacket.NetworkTests.BurstSafety
import Mathlib.Tactic.Positivity

/-! What the loss bursts of a call say of its sound and picture, and that
losing more never looks better. -/

namespace FragglePacket.NetworkTests

open FragglePacket.Lists

inductive MediaProfile where
  | audio
  | video
  deriving DecidableEq

def MediaProfile.packetsPerSec : MediaProfile → ℚ
  | audio => 50
  | video => 30

inductive ConcealmentEstimate where
  | likelyConcealed
  | likelyAudibleArtifact
  | indeterminate
  deriving DecidableEq

inductive FreezeRisk where
  | low
  | elevated
  | high
  deriving DecidableEq

/-- The risks in their order. -/
def FreezeRisk.rank : FreezeRisk → Nat
  | low => 0
  | elevated => 1
  | high => 2

def packetIntervalMs (profile : MediaProfile) : ℚ := 1000 / profile.packetsPerSec

def plcMaskableRunLength : Nat := 1
def freezeRiskElevatedMs : ℚ := 100
def freezeRiskHighMs : ℚ := 300

def estimateConcealment (report : BurstAnalysisReport) : ConcealmentEstimate :=
  if report.burst.burstCount = 0 then .indeterminate
  else if report.burst.maxRunLength ≤ plcMaskableRunLength then .likelyConcealed
  else .likelyAudibleArtifact

/-- The measured duration of a burst, or its length in packet intervals. -/
def burstGapMs (profile : MediaProfile) (b : LossBurst) : ℚ :=
  b.gapDurationMs.getD (b.runLength * packetIntervalMs profile)

def worstGapMs (report : BurstAnalysisReport) (profile : MediaProfile) : ℚ :=
  (report.burst.bursts.map (burstGapMs profile)).foldl max 0

def freezeRiskOf (worstGapMs : ℚ) : FreezeRisk :=
  if freezeRiskHighMs ≤ worstGapMs then .high
  else if freezeRiskElevatedMs ≤ worstGapMs then .elevated
  else .low

def estimateFreezeRisk (report : BurstAnalysisReport) (profile : MediaProfile) : FreezeRisk :=
  if report.burst.burstCount = 0 then .low else freezeRiskOf (worstGapMs report profile)

section Bursts
variable {sample first second : BoundedSample} {captureQualification : Option String}
  {report : BurstAnalysisReport}

theorem analyze_bursts (analyzed : analyze sample captureQualification = some report) :
    report.burst.bursts = lossBursts sample.present sample.sendTime sample.sentCount := by
  rw [(analyze_eq_some analyzed).2.2]
  rfl

/-- No burst of an analysed sample is measured, so each counts by its length. -/
theorem burstGapMs_analyzed (analyzed : analyze sample captureQualification = some report)
    (profile : MediaProfile) :
    ∀ b ∈ report.burst.bursts, burstGapMs profile b = b.runLength * packetIntervalMs profile := by
  intro b member
  rw [analyze_bursts analyzed] at member
  rw [burstGapMs, gapDurationMs_eq_none sample b member]
  rfl

/-- Each burst of the sample that received more lies in one of the sample that received less. -/
theorem exists_longer_burst (fewer : first.arrivals ⊆ second.arrivals)
    (sent : first.sentCount = second.sentCount) :
    ∀ b ∈ lossBursts second.present second.sendTime second.sentCount,
      ∃ longer ∈ lossBursts first.present first.sendTime first.sentCount, b.runLength ≤
        longer.runLength := by
  have received : ∀ seq, first.Received seq → second.Received seq := by
    rintro seq ⟨arrival, member, same⟩
    exact ⟨arrival, fewer member, same⟩
  have cover := received_cover first
  rw [sent] at cover
  intro b member
  have span : (b.startSeq, b.runLength) ∈
      spans (lossBursts second.present second.sendTime second.sentCount) :=
    List.mem_map.mpr ⟨b, member, rfl⟩
  obtain ⟨wider, listed, shorter⟩ := cover.exists_wider (received_cover second) received _ span
  obtain ⟨longer, present, rfl⟩ := List.mem_map.mp listed
  rw [sent]
  exact ⟨longer, present, shorter⟩

theorem freezeRiskOf_mono {gap wider : ℚ} (less : gap ≤ wider) :
    (freezeRiskOf gap).rank ≤ (freezeRiskOf wider).rank := by
  simp only [freezeRiskOf]
  by_cases high : freezeRiskHighMs ≤ gap
  · rw [if_pos high, if_pos (high.trans less)]
  · rw [if_neg high]
    by_cases elevated : freezeRiskElevatedMs ≤ gap
    · rw [if_pos elevated, if_pos (elevated.trans less)]
      split <;> decide
    · rw [if_neg elevated]
      exact Nat.zero_le _

theorem packetIntervalMs_nonneg (profile : MediaProfile) : 0 ≤ packetIntervalMs profile := by
  cases profile <;> rw [packetIntervalMs, MediaProfile.packetsPerSec] <;> positivity

end Bursts

section Monotone
variable {first second : BoundedSample} {captureQualification captureQualification' : Option String}
  {report report' : BurstAnalysisReport} (sent : first.sentCount = second.sentCount)
  (fewer : first.arrivals ⊆ second.arrivals)
  (analyzed : analyze first captureQualification = some report)
  (analyzed' : analyze second captureQualification' = some report')
include sent fewer analyzed analyzed'

theorem exists_longer_reported :
    ∀ b ∈ report'.burst.bursts, ∃ longer ∈ report.burst.bursts, b.runLength ≤ longer.runLength := by
  rw [analyze_bursts analyzed, analyze_bursts analyzed']
  exact exists_longer_burst fewer sent

theorem burstCount_ne_zero (some : report'.burst.burstCount ≠ 0) : report.burst.burstCount ≠ 0 := by
  have longer := exists_longer_reported sent fewer analyzed analyzed'
  have count : report.burst.burstCount = report.burst.bursts.length := by
    rw [(analyze_eq_some analyzed).2.2]; rfl
  have count' : report'.burst.burstCount = report'.burst.bursts.length := by
    rw [(analyze_eq_some analyzed').2.2]; rfl
  rw [count'] at some
  obtain ⟨b, member⟩ := List.exists_mem_of_length_pos (Nat.pos_of_ne_zero some)
  obtain ⟨other, listed, _⟩ := longer b member
  rw [count]
  exact (List.length_pos_of_mem listed).ne'

theorem maxRunLength_mono : report'.burst.maxRunLength ≤ report.burst.maxRunLength := by
  have longer := exists_longer_reported sent fewer analyzed analyzed'
  obtain ⟨above, _⟩ :=
    computeBurstDistribution_maxRunLength first.present first.sendTime first.sentCount
  obtain ⟨_, attained⟩ :=
    computeBurstDistribution_maxRunLength second.present second.sendTime second.sentCount
  rw [← (analyze_eq_some analyzed).2.2] at above
  rw [← (analyze_eq_some analyzed').2.2] at attained
  by_cases none : report'.burst.bursts = []
  · have zero : report'.burst.maxRunLength =
        (report'.burst.bursts.map (·.runLength)).max?.getD 0 := by
      rw [(analyze_eq_some analyzed').2.2]
      rfl
    rw [zero, none]
    exact Nat.zero_le _
  · obtain ⟨longest, member, length⟩ := attained none
    obtain ⟨other, listed, shorter⟩ := longer longest member
    rw [← length]
    exact shorter.trans (above other listed)

theorem worstGapMs_mono (profile : MediaProfile) :
    worstGapMs report' profile ≤ worstGapMs report profile := by
  have longer := exists_longer_reported sent fewer analyzed analyzed'
  refine foldl_max_mono fun gap member => ?_
  obtain ⟨b, listed, rfl⟩ := List.mem_map.mp member
  obtain ⟨other, present, shorter⟩ := longer b listed
  refine ⟨_, List.mem_map_of_mem present, ?_⟩
  rw [burstGapMs_analyzed analyzed' profile b listed,
    burstGapMs_analyzed analyzed profile other present]
  exact mul_le_mul_of_nonneg_right (Nat.cast_le.mpr shorter) (packetIntervalMs_nonneg profile)

theorem estimateFreezeRisk_mono (profile : MediaProfile) :
    (estimateFreezeRisk report' profile).rank ≤ (estimateFreezeRisk report profile).rank := by
  rw [estimateFreezeRisk, estimateFreezeRisk]
  by_cases none : report'.burst.burstCount = 0
  · rw [if_pos none]
    exact Nat.zero_le _
  · rw [if_neg none, if_neg (burstCount_ne_zero sent fewer analyzed analyzed' none)]
    exact freezeRiskOf_mono (worstGapMs_mono sent fewer analyzed analyzed' profile)

theorem estimateConcealment_mono (audible : estimateConcealment report' = .likelyAudibleArtifact) :
    estimateConcealment report = .likelyAudibleArtifact := by
  have longer := maxRunLength_mono sent fewer analyzed analyzed'
  rw [estimateConcealment] at audible ⊢
  split at audible
  · cases audible
  case isFalse some =>
    split at audible
    · cases audible
    case isFalse unmasked =>
      rw [if_neg (burstCount_ne_zero sent fewer analyzed analyzed' some), if_neg fun short =>
        unmasked (longer.trans short)]

end Monotone

theorem exists_report {sample : BoundedSample}
    (inRange : ∀ arrival ∈ sample.arrivals, arrival.seq < sample.sentCount)
    (captureQualification : Option String) :
    ∃ report, analyze sample captureQualification = some report := by
  obtain ⟨report, analyzed, _⟩ := analyze_partitions sample captureQualification inRange
  exact ⟨report, analyzed⟩

/-- Of two samples of as many packets, the one that received only what the other did is analysed
with a risk, a longest run and an artifact at least as bad. -/
theorem losing_more_is_no_better (profile : MediaProfile) (first second : BoundedSample)
    (captureQualification captureQualification' : Option String)
    (sent : first.sentCount = second.sentCount)
    (inRange : ∀ arrival ∈ first.arrivals, arrival.seq < first.sentCount)
    (inRange' : ∀ arrival ∈ second.arrivals, arrival.seq < second.sentCount)
    (fewer : first.arrivals ⊆ second.arrivals) :
    ∃ report report', analyze first captureQualification = some report ∧
      analyze second captureQualification' = some report' ∧
      (estimateFreezeRisk report' profile).rank ≤ (estimateFreezeRisk report profile).rank ∧
      report'.burst.maxRunLength ≤ report.burst.maxRunLength ∧
      (estimateConcealment report' = .likelyAudibleArtifact →
        estimateConcealment report = .likelyAudibleArtifact) := by
  obtain ⟨report, analyzed⟩ := exists_report inRange captureQualification
  obtain ⟨report', analyzed'⟩ := exists_report inRange' captureQualification'
  exact ⟨report, report', analyzed, analyzed',
    estimateFreezeRisk_mono sent fewer analyzed analyzed' profile, maxRunLength_mono sent fewer
      analyzed analyzed', estimateConcealment_mono sent fewer analyzed analyzed'⟩

/-- One packet of three received, and two. -/
theorem losing_more_is_no_better_three :
    ∃ report report', analyze ⟨3, [⟨0, 0, 5⟩]⟩ none = some report ∧
    analyze ⟨3, [⟨0, 0, 5⟩, ⟨1, 20, 25⟩]⟩ none = some report' ∧
    (estimateFreezeRisk report' .audio).rank ≤ (estimateFreezeRisk report .audio).rank ∧
    report'.burst.maxRunLength ≤ report.burst.maxRunLength ∧
    (estimateConcealment report' = .likelyAudibleArtifact →
      estimateConcealment report = .likelyAudibleArtifact) :=
  losing_more_is_no_better .audio ⟨3, [⟨0, 0, 5⟩]⟩ ⟨3, [⟨0, 0, 5⟩, ⟨1, 20, 25⟩]⟩ none none rfl
    (by decide) (by decide)
    (List.cons_subset_cons _ (List.nil_subset _))

end FragglePacket.NetworkTests
