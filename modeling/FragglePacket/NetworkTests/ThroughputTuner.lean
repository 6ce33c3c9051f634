import FragglePacket.Lists.SortByKey
import FragglePacket.NetworkTests.Iperf
import FragglePacket.Text.Decimal
import Mathlib.Algebra.Order.Field.Basic
import Mathlib.Order.Bounds.Basic
import Mathlib.Tactic.Linarith

/-! Trials of throughput candidates, and the verdict that rests on the valid ones. -/

namespace FragglePacket.NetworkTests

open FragglePacket.Lists FragglePacket.Text

structure Candidate where
  streams : Nat
  blockSizeKib : Nat
  zeroCopy : Bool
  deriving DecidableEq

structure TrialResult where
  candidate : Candidate
  requestedDurationSecs : ℚ
  reportedDurationSecs : Option ℚ
  receiverBitsPerSecond : Option ℚ
  rejectedReason : Option String

def durationToleranceFraction : ℚ := 1 / 5

/-- `display` writes a float. -/
def evaluateTrial (display : ℚ → String) (candidate : Candidate) (requestedDurationSecs : ℚ)
    (parsed : Except IperfParseError IperfResult) : TrialResult :=
  match parsed with
  | .error e =>
    { candidate
      requestedDurationSecs
      reportedDurationSecs := none
      receiverBitsPerSecond := none
      rejectedReason := some e.text }
  | .ok result =>
    match result.forward.received with
    | none =>
      { candidate
        requestedDurationSecs
        reportedDurationSecs := none
        receiverBitsPerSecond := none
        rejectedReason := some "session admitted but no receiver rate evidence" }
    | some received =>
      if 0 < requestedDurationSecs ∧
          |received.seconds - requestedDurationSecs| / requestedDurationSecs ≤
            durationToleranceFraction then
        { candidate
          requestedDurationSecs
          reportedDurationSecs := some received.seconds
          receiverBitsPerSecond := some received.bitsPerSecond
          rejectedReason := none }
      else
        { candidate
          requestedDurationSecs
          reportedDurationSecs := some received.seconds
          receiverBitsPerSecond := none
          rejectedReason :=
            some ("receiver duration " ++ fixed 2 received.seconds ++
              "s inconsistent with requested " ++
              display requestedDurationSecs ++ "s") }

structure DriftBracket where
  samplesBps : List ℚ

def DriftBracket.spreadFraction (drift : DriftBracket) : Option ℚ :=
  if drift.samplesBps.length < 2 then none
  else
    match drift.samplesBps.max?, drift.samplesBps.min? with
    | some max, some min => if max ≤ 0 then none else some ((max - min) / max)
    | _, _ => none

def severeDrift : ℚ := 1 / 4

def DriftBracket.isSevere (drift : DriftBracket) : Bool :=
  (drift.spreadFraction.map fun f => decide (severeDrift < f)).getD false

structure CohortProfile where
  cohortLabel : String
  bestCandidate : Option Candidate
  bestReceiverBps : Option ℚ
  drift : Option DriftBracket

structure TunerVerdict where
  cohort : CohortProfile
  syntheticMaximumBps : Option ℚ
  syntheticMaximumCandidate : Option Candidate
  representativeApplicationBps : Option ℚ
  representativeCandidate : Option Candidate
  rejectedTrials : List TrialResult
  driftProvisional : Bool

def TrialResult.rate (t : TrialResult) : ℚ := t.receiverBitsPerSecond.getD 0

/-- The accepted trials, in the order they were run. -/
def acceptedTrials (trials : List TrialResult) : List TrialResult :=
  trials.filter (·.rejectedReason.isNone)

/-- The accepted trials, the fastest first. -/
def rankedTrials (trials : List TrialResult) : List TrialResult :=
  sortByKey (fun t => -t.rate) (acceptedTrials trials)

def buildVerdict (cohortLabel : String) (trials : List TrialResult) (representative : Candidate)
    (drift : Option DriftBracket) : TunerVerdict :=
  let accepted := rankedTrials trials
  let best := accepted.head?
  let representativeTrial := accepted.find? fun t => t.candidate = representative
  { cohort := {
      cohortLabel
      bestCandidate := best.map (·.candidate)
      bestReceiverBps := best.bind (·.receiverBitsPerSecond)
      drift }
    syntheticMaximumBps := best.bind (·.receiverBitsPerSecond)
    syntheticMaximumCandidate := best.map (·.candidate)
    representativeApplicationBps := representativeTrial.bind (·.receiverBitsPerSecond)
    representativeCandidate := some representative
    rejectedTrials := trials.filter (·.rejectedReason.isSome)
    driftProvisional := (drift.map (·.isSevere)).getD false }

section Trials
variable {display : ℚ → String} {candidate : Candidate} {requested : ℚ}
  {parsed : Except IperfParseError IperfResult}

/-- A trial of the duration that was requested. -/
structure TrialResult.Valid (t : TrialResult) : Prop where
  positive : 0 < t.requestedDurationSecs
  measured : ∃ bps, t.receiverBitsPerSecond = some bps
  timely : ∃ secs, t.reportedDurationSecs = some secs ∧
    |secs - t.requestedDurationSecs| ≤ t.requestedDurationSecs * durationToleranceFraction

/-- What is not rejected is valid. -/
theorem evaluateTrial_valid
    (accepted : (evaluateTrial display candidate requested parsed).rejectedReason = none) :
    (evaluateTrial display candidate requested parsed).Valid := by
  cases parsed with
  | error e => cases accepted
  | ok result =>
    cases received : result.forward.received with
    | none => simp [evaluateTrial, received] at accepted
    | some sample =>
      simp only [evaluateTrial, received] at accepted ⊢
      split at accepted
      · rename_i within
        rw [if_pos within]
        refine ⟨within.1, ⟨_, rfl⟩, _, rfl, ?_⟩
        have bound := (div_le_iff₀ within.1).mp within.2
        rwa [mul_comm] at bound
      · cases accepted

end Trials

section Ranking
variable {trials shuffled : List TrialResult} {p : TrialResult → Bool}

/-- The rates of the accepted trials of a kind. -/
def ratesOf (p : TrialResult → Bool) (trials : List TrialResult) : Set ℚ :=
  { bps | ∃ t ∈ acceptedTrials trials, p t = true ∧ t.receiverBitsPerSecond = some bps }

/-- The first of a kind in the ranking. -/
def topRate (p : TrialResult → Bool) (trials : List TrialResult) : Option ℚ :=
  ((rankedTrials trials).find? p).bind (·.receiverBitsPerSecond)

/-- The accepted trials all have a rate. -/
def AllMeasured (trials : List TrialResult) : Prop :=
  ∀ t ∈ acceptedTrials trials, ∃ bps, t.receiverBitsPerSecond = some bps

theorem mem_rankedTrials {t : TrialResult} : t ∈ rankedTrials trials ↔ t ∈ acceptedTrials trials :=
  (sortByKey_perm _).mem_iff

theorem topRate_eq_none_iff (measured : AllMeasured trials) :
    topRate p trials = none ↔ ∀ t ∈ acceptedTrials trials, p t = false := by
  rw [topRate]
  cases found : (rankedTrials trials).find? p with
  | none =>
    refine iff_of_true rfl fun t member => ?_
    simpa using List.find?_eq_none.mp found t (mem_rankedTrials.mpr member)
  | some t =>
    have member := mem_rankedTrials.mp (List.mem_of_find?_eq_some found)
    obtain ⟨bps, rate⟩ := measured t member
    refine iff_of_false (by simp [rate]) fun unlike => ?_
    have kept := List.find?_some found
    rw [unlike t member] at kept
    cases kept

/-- The first of a kind in the ranking is the fastest of them. -/
theorem topRate_isGreatest {bps : ℚ} (top : topRate p trials = some bps) :
    IsGreatest (ratesOf p trials) bps := by
  obtain ⟨t, found, rate⟩ := Option.bind_eq_some_iff.mp top
  obtain ⟨kept, before, after, split, earlier⟩ := List.find?_eq_some_iff_append.mp found
  refine ⟨⟨t, mem_rankedTrials.mp (List.mem_of_find?_eq_some found), kept, rate⟩, ?_⟩
  rintro other ⟨u, accepted, alike, otherRate⟩
  have ranked := mem_rankedTrials.mpr accepted
  rw [split] at ranked
  rcases List.mem_append.mp ranked with early | late
  · have different := earlier u early
    rw [alike] at different
    cases different
  · rcases List.mem_cons.mp late with rfl | behind
    · exact le_of_eq (Option.some.inj (otherRate.symm.trans rate))
    · have sorted : (rankedTrials trials).Pairwise (-TrialResult.rate · ≤ -TrialResult.rate ·) :=
        sortByKey_sorted _
      rw [split] at sorted
      have slower := (List.pairwise_cons.mp (List.pairwise_append.mp sorted).2.1).1 u behind
      simp only [TrialResult.rate, rate, otherRate, Option.getD_some] at slower
      linarith

theorem topRate_perm (measured : AllMeasured trials) (perm : shuffled.Perm trials) :
    topRate p shuffled = topRate p trials := by
  have accepted : (acceptedTrials shuffled).Perm (acceptedTrials trials) := perm.filter _
  have measuredToo : AllMeasured shuffled := fun t member => measured t (accepted.mem_iff.mp member)
  have rates : ratesOf p shuffled = ratesOf p trials := by
    ext bps
    simp only [ratesOf, accepted.mem_iff]
  cases top : topRate p trials with
  | none =>
    rw [topRate_eq_none_iff measured] at top
    exact (topRate_eq_none_iff measuredToo).mpr fun t member => top t (accepted.mem_iff.mp member)
  | some bps =>
    cases topToo : topRate p shuffled with
    | none =>
      obtain ⟨⟨t, member, kept, -⟩, -⟩ := topRate_isGreatest top
      have unlike := (topRate_eq_none_iff measuredToo).mp topToo t (accepted.mem_iff.mpr member)
      rw [unlike] at kept
      cases kept
    | some other =>
      have greatest := topRate_isGreatest topToo
      rw [rates] at greatest
      rw [greatest.unique (topRate_isGreatest top)]

end Ranking

section Drift
variable {drift : DriftBracket}

theorem exists_max?_min? {samples : List ℚ} (two : ¬ samples.length < 2) :
    ∃ max min, samples.max? = some max ∧ samples.min? = some min := by
  have nonempty : samples ≠ [] := by
    rintro rfl
    exact two (by decide)
  cases most : samples.max? with
  | none => exact absurd (List.max?_eq_none_iff.mp most) nonempty
  | some max =>
    cases least : samples.min? with
    | none => exact absurd (List.min?_eq_none_iff.mp least) nonempty
    | some min => exact ⟨max, min, rfl, rfl⟩

/-- A spread is measured of two samples or more, if one of them is above zero. -/
theorem spreadFraction_isSome_iff : drift.spreadFraction.isSome = true ↔
    2 ≤ drift.samplesBps.length ∧ ∃ sample ∈ drift.samplesBps, 0 < sample := by
  rw [DriftBracket.spreadFraction]
  by_cases few : drift.samplesBps.length < 2
  · rw [if_pos few]
    exact iff_of_false (by decide) fun all => absurd all.1 (by omega)
  · obtain ⟨max, min, most, least⟩ := exists_max?_min? few
    obtain ⟨listed, bound⟩ := List.max?_eq_some_iff.mp most
    rw [if_neg few, most, least, and_iff_right (Nat.not_lt.mp few)]
    by_cases flat : max ≤ 0
    · simp only [if_pos flat]
      refine iff_of_false (by decide) ?_
      rintro ⟨sample, member, positive⟩
      exact absurd positive (not_lt.mpr ((bound sample member).trans flat))
    · simp only [if_neg flat]
      exact iff_of_true rfl ⟨max, listed, not_le.mp flat⟩

theorem isSevere_eq_false_iff :
    drift.isSevere = false ↔ ∀ spread, drift.spreadFraction = some spread →
      spread ≤ severeDrift := by
  rw [DriftBracket.isSevere]
  cases drift.spreadFraction with
  | none => simp
  | some spread => simp

end Drift

section Verdict
variable {cohortLabel : String} {trials shuffled : List TrialResult} {representative : Candidate}
  {drift : Option DriftBracket}

/-- A trial that was run: the candidate, the duration asked for, and what the client printed. -/
structure TrialRun where
  candidate : Candidate
  requestedDurationSecs : ℚ
  parsed : Except IperfParseError IperfResult

def TrialRun.evaluate (display : ℚ → String) (run : TrialRun) : TrialResult :=
  evaluateTrial display run.candidate run.requestedDurationSecs run.parsed

/-- Two baseline samples were measured, one of them above zero. -/
def DriftMeasured (drift : Option DriftBracket) : Prop :=
  ∃ bracket, drift = some bracket ∧ 2 ≤ bracket.samplesBps.length ∧ ∃ sample ∈ bracket.samplesBps,
    0 < sample

/-- A verdict that rests on the valid trials alone. -/
structure RestsOnValid (cohortLabel : String) (trials : List TrialResult)
    (representative : Candidate) (drift : Option DriftBracket) : Prop where
  valid : ∀ t ∈ acceptedTrials trials, t.Valid
  maximum : ∀ bps, (buildVerdict cohortLabel trials representative drift).syntheticMaximumBps =
    some bps →
    IsGreatest { rate | ∃ t ∈ acceptedTrials trials, t.receiverBitsPerSecond = some rate } bps
  noMaximum : (buildVerdict cohortLabel trials representative drift).syntheticMaximumBps = none ↔
    acceptedTrials trials = []
  application : ∀ bps,
    (buildVerdict cohortLabel trials representative drift).representativeApplicationBps = some bps →
    ∃ t ∈ acceptedTrials trials, t.candidate = representative ∧ t.receiverBitsPerSecond = some bps
  noApplication :
    (buildVerdict cohortLabel trials representative drift).representativeApplicationBps = none ↔
    ∀ t ∈ acceptedTrials trials, t.candidate ≠ representative
  partition : (acceptedTrials trials ++
    (buildVerdict cohortLabel trials representative drift).rejectedTrials).Perm trials ∧
    ∀ t ∈ (buildVerdict cohortLabel trials representative drift).rejectedTrials,
      t.rejectedReason ≠ none
  ordered : ∀ shuffled, shuffled.Perm trials →
    (buildVerdict cohortLabel shuffled representative drift).syntheticMaximumBps =
        (buildVerdict cohortLabel trials representative drift).syntheticMaximumBps ∧
      (buildVerdict cohortLabel shuffled representative drift).cohort.bestReceiverBps =
        (buildVerdict cohortLabel trials representative drift).cohort.bestReceiverBps ∧
      (buildVerdict cohortLabel shuffled representative drift).representativeApplicationBps =
        (buildVerdict cohortLabel trials representative drift).representativeApplicationBps
  provisional : (buildVerdict cohortLabel trials representative drift).driftProvisional = false →
    ∃ bracket spread, drift = some bracket ∧ 2 ≤ bracket.samplesBps.length ∧
      bracket.spreadFraction = some spread ∧
      spread ≤ 1 / 4

theorem syntheticMaximumBps_eq :
    (buildVerdict cohortLabel trials representative drift).syntheticMaximumBps =
      topRate (fun _ => true) trials := by
  have first : (rankedTrials trials).head? = (rankedTrials trials).find? fun _ => true := by
    cases rankedTrials trials <;> rfl
  rw [topRate, ← first]
  rfl

theorem driftProvisional_eq_false_iff :
    (buildVerdict cohortLabel trials representative drift).driftProvisional = false ↔
    ∀ bracket spread, drift = some bracket → bracket.spreadFraction = some spread →
      spread ≤ severeDrift := by
  change (drift.map (·.isSevere)).getD false = false ↔ _
  cases drift with
  | none => simp
  | some bracket =>
    rw [Option.map_some, Option.getD_some, isSevere_eq_false_iff]
    simp only [Option.some_inj, forall_eq', forall_comm (α := DriftBracket)]

/-- Where no spread is measured, no drift counts as none. -/
theorem driftMeasured_iff :
    ((buildVerdict cohortLabel trials representative drift).driftProvisional = false →
      ∃ bracket spread, drift = some bracket ∧ 2 ≤ bracket.samplesBps.length ∧
        bracket.spreadFraction = some spread ∧
        spread ≤ 1 / 4) ↔ DriftMeasured drift := by
  rw [driftProvisional_eq_false_iff]
  constructor
  · intro provisional
    by_contra unmeasured
    have unspread (bracket : DriftBracket) (given : drift = some bracket) : bracket.spreadFraction =
        none := by
      rw [← Option.not_isSome_iff_eq_none, spreadFraction_isSome_iff]
      exact fun measured => unmeasured ⟨bracket, given, measured⟩
    obtain ⟨bracket, spread, given, -, found, -⟩ := provisional fun bracket spread given found => by
      rw [unspread bracket given] at found
      cases found
    rw [unspread bracket given] at found
    cases found
  · rintro ⟨bracket, given, two, positive⟩ steady
    obtain ⟨spread, found⟩ :=
      Option.isSome_iff_exists.mp (spreadFraction_isSome_iff.mpr ⟨two, positive⟩)
    exact ⟨bracket, spread, given, two, found, steady bracket spread given found⟩

/-- A verdict on trials that were run rests on the valid ones exactly
where the drift was measured. -/
theorem restsOnValid_iff (display : ℚ → String) (cohortLabel : String) (runs : List TrialRun)
    (representative : Candidate) (drift : Option DriftBracket) :
    RestsOnValid cohortLabel (runs.map (TrialRun.evaluate display)) representative drift ↔
      DriftMeasured drift := by
  have valid : ∀ t ∈ acceptedTrials (runs.map (TrialRun.evaluate display)), t.Valid := by
    intro t accepted
    obtain ⟨listed, unrejected⟩ := List.mem_filter.mp accepted
    obtain ⟨run, -, rfl⟩ := List.mem_map.mp listed
    exact evaluateTrial_valid (Option.isNone_iff_eq_none.mp unrejected)
  have measured : AllMeasured (runs.map (TrialRun.evaluate display)) :=
    fun t accepted => (valid t accepted).measured
  constructor
  · intro rests
    exact driftMeasured_iff.mp rests.provisional
  · intro drifted
    exact {
      valid := valid
      maximum := by
        intro bps maximum
        rw [syntheticMaximumBps_eq] at maximum
        simpa only [ratesOf, true_and] using topRate_isGreatest maximum
      noMaximum := by
        rw [syntheticMaximumBps_eq, topRate_eq_none_iff measured, List.eq_nil_iff_forall_not_mem]
        exact forall_congr' fun t => by simp
      application := by
        intro bps application
        obtain ⟨⟨t, accepted, alike, rate⟩, -⟩ := topRate_isGreatest application
        exact ⟨t, accepted, of_decide_eq_true alike, rate⟩
      noApplication := by
        refine (topRate_eq_none_iff measured).trans
          (forall_congr' fun t => imp_congr_right fun _ => ?_)
        exact decide_eq_false_iff_not
      partition := by
        refine ⟨?_, fun t member => ?_⟩
        · have halves := List.filter_append_perm (fun t : TrialResult => t.rejectedReason.isNone)
            (runs.map (TrialRun.evaluate display))
          simp only [Option.not_isNone] at halves
          exact halves
        · exact Option.isSome_iff_ne_none.mp (List.mem_filter.mp member).2
      ordered := by
        intro shuffled perm
        have fastest :
            (buildVerdict cohortLabel shuffled representative drift).syntheticMaximumBps =
            (buildVerdict cohortLabel (runs.map (TrialRun.evaluate display))
              representative drift).syntheticMaximumBps := by
          rw [syntheticMaximumBps_eq, syntheticMaximumBps_eq, topRate_perm measured perm]
        exact ⟨fastest, fastest, topRate_perm measured perm⟩
      provisional := driftMeasured_iff.mpr drifted }

/-- One pass without a baseline: a trial of ten seconds that received at 454 Mbit/s. -/
def onePass : List TrialRun :=
  [{ candidate := { streams := 8, blockSizeKib := 512, zeroCopy := true }
     requestedDurationSecs := 10
     parsed := .ok {
       protocol := "TCP"
       direction := .forward
       forward := {
         offeredBps := none
         sent := none
         received :=
           some { bitsPerSecond := 454000000, bytes := 1000, seconds := 10, packets := none,
                  lostPercent := none }
         estimatedReceived := none }
       bidirReverse := none
       requiredFieldsMissing := [] } }]

/-- A profile from one pass is not called provisional. -/
theorem onePass_restsOnValid :
    ¬ RestsOnValid "PV03" (onePass.map (TrialRun.evaluate (fixed 0)))
      { streams := 8, blockSizeKib := 512, zeroCopy := true } none := by
  intro rests
  obtain ⟨bracket, -, given, -⟩ := rests.provisional rfl
  cases given

end Verdict

end FragglePacket.NetworkTests
