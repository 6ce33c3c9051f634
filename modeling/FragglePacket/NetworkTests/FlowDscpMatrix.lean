import Mathlib.Algebra.Order.Ring.Rat

/-! Whether the marks of a DSCP class are proven to have survived the path. -/

namespace FragglePacket.NetworkTests

/-- What was sent, and what the captures at both sides show of it. -/
structure DscpCaptureSample where
  sentDscp : UInt8
  observedAtSource : Option UInt8
  observedAtDestination : Option UInt8

inductive DscpSurvival where
  | survived
  | alteredOnPath
  | unverified
  deriving DecidableEq

structure DscpClassResult where
  dscpClass : UInt8
  samples : List DscpCaptureSample
  survival : DscpSurvival
  lossPercentIfSurvived : Option ℚ

/-- The loop over the samples, with what it has found so far. -/
def survivalFrom (anyPair allMatched : Bool) : List DscpCaptureSample → DscpSurvival
  | [] => if !anyPair then .unverified else if allMatched then .survived else .alteredOnPath
  | sample :: rest =>
    match sample.observedAtSource, sample.observedAtDestination with
    | some src, some dst => survivalFrom true (if src ≠ dst then false else allMatched) rest
    | _, _ => .unverified

def classifyDscpSurvival (samples : List DscpCaptureSample) : DscpSurvival :=
  if samples.isEmpty then .unverified else survivalFrom false true samples

def buildDscpResult (dscpClass : UInt8) (samples : List DscpCaptureSample)
    (lossPercent : Option ℚ) : DscpClassResult :=
  let survival := classifyDscpSurvival samples
  { dscpClass
    samples
    survival
    lossPercentIfSurvived := if survival = .survived then lossPercent else none }

namespace DscpCaptureSample

/-- Both sides were captured. -/
def Captured (sample : DscpCaptureSample) : Prop :=
  sample.observedAtSource.isSome = true ∧ sample.observedAtDestination.isSome = true

/-- What left the host is what arrived. -/
def Kept (sample : DscpCaptureSample) : Prop :=
  sample.observedAtSource = sample.observedAtDestination

/-- The mark that was sent left the host, and arrived. -/
def Arrived (sample : DscpCaptureSample) : Prop :=
  sample.observedAtSource = some sample.sentDscp ∧
    sample.observedAtDestination = some sample.sentDscp

instance (sample : DscpCaptureSample) : Decidable sample.Captured :=
  inferInstanceAs (Decidable (_ ∧ _))

instance (sample : DscpCaptureSample) : Decidable sample.Kept :=
  inferInstanceAs (Decidable (_ = _))

end DscpCaptureSample

section Survival
variable {samples shuffled : List DscpCaptureSample}

/-- What the loop comes to from where it stands. -/
theorem survivalFrom_eq (anyPair allMatched : Bool) (samples : List DscpCaptureSample) :
    survivalFrom anyPair allMatched samples =
      if (∀ sample ∈ samples, sample.Captured) ∧ (anyPair = true ∨ samples ≠ []) then
        if allMatched = true ∧ ∀ sample ∈ samples, sample.Kept then .survived else .alteredOnPath
      else .unverified := by
  induction samples generalizing anyPair allMatched with
  | nil => cases anyPair <;> cases allMatched <;> simp [survivalFrom]
  | cons sample rest ih =>
    rw [survivalFrom]
    cases left : sample.observedAtSource with
    | none => simp [DscpCaptureSample.Captured, left]
    | some src =>
      cases came : sample.observedAtDestination with
      | none => simp [DscpCaptureSample.Captured, left, came]
      | some dst =>
        have captured : sample.Captured := by simp [DscpCaptureSample.Captured, left, came]
        have kept : sample.Kept ↔ src = dst := by simp [DscpCaptureSample.Kept, left, came]
        by_cases same : src = dst
        · simp [ih, captured, kept.mpr same, same]
        · simp [ih, captured, kept, same]

theorem classifyDscpSurvival_eq (samples : List DscpCaptureSample) :
    classifyDscpSurvival samples =
      if (∀ sample ∈ samples, sample.Captured) ∧ samples ≠ [] then
        if ∀ sample ∈ samples, sample.Kept then .survived else .alteredOnPath
      else .unverified := by
  cases samples with
  | nil => rfl
  | cons sample rest => simp [classifyDscpSurvival, survivalFrom_eq]

theorem classifyDscpSurvival_survived_iff : classifyDscpSurvival samples = .survived ↔
    samples ≠ [] ∧ ∀ sample ∈ samples, sample.Captured ∧ sample.Kept := by
  rw [classifyDscpSurvival_eq]
  by_cases captured : (∀ sample ∈ samples, sample.Captured) ∧ samples ≠ []
  · rw [if_pos captured]
    by_cases kept : ∀ sample ∈ samples, sample.Kept
    · rw [if_pos kept]
      exact iff_of_true rfl ⟨captured.2, fun sample member =>
        ⟨captured.1 sample member, kept sample member⟩⟩
    · rw [if_neg kept]
      exact iff_of_false (by decide) fun all => kept fun sample member => (all.2 sample member).2
  · rw [if_neg captured]
    exact iff_of_false (by decide) fun all =>
      captured ⟨fun sample member => (all.2 sample member).1, all.1⟩

theorem classifyDscpSurvival_altered_iff : classifyDscpSurvival samples = .alteredOnPath ↔
    (∀ sample ∈ samples, sample.Captured) ∧ ∃ sample ∈ samples, ¬ sample.Kept := by
  rw [classifyDscpSurvival_eq]
  by_cases captured : (∀ sample ∈ samples, sample.Captured) ∧ samples ≠ []
  · rw [if_pos captured]
    by_cases kept : ∀ sample ∈ samples, sample.Kept
    · rw [if_pos kept]
      exact iff_of_false (by decide) fun ⟨_, sample, member, differs⟩ =>
        differs (kept sample member)
    · rw [if_neg kept]
      simp only [not_forall, exists_prop] at kept
      exact iff_of_true rfl ⟨captured.1, kept⟩
  · rw [if_neg captured]
    exact iff_of_false (by decide) fun ⟨all, _, member, _⟩ =>
      captured ⟨all, List.ne_nil_of_mem member⟩

theorem classifyDscpSurvival_unverified {sample : DscpCaptureSample} (member : sample ∈ samples)
    (gap : ¬ sample.Captured) : classifyDscpSurvival samples = .unverified := by
  rw [classifyDscpSurvival_eq, if_neg]
  exact fun all => gap (all.1 sample member)

theorem classifyDscpSurvival_perm (perm : shuffled.Perm samples) :
    classifyDscpSurvival shuffled = classifyDscpSurvival samples := by
  have same (holds : DscpCaptureSample → Prop) : (∀ sample ∈ shuffled, holds sample) ↔
      ∀ sample ∈ samples, holds sample :=
    forall_congr' fun sample => imp_congr_left perm.mem_iff
  have empty : shuffled = [] ↔ samples = [] := by
    constructor
    · rintro rfl
      exact List.nil_perm.mp perm
    · rintro rfl
      exact List.perm_nil.mp perm
  simp only [classifyDscpSurvival_eq, same, Ne, empty]

end Survival

section Proof
variable {dscpClass : UInt8} {samples shuffled : List DscpCaptureSample} {lossPercent : Option ℚ}

/-- Where all marks are captured and arrive as they left, they left as they were sent. -/
def LeftAsSent (samples : List DscpCaptureSample) : Prop :=
  (∀ sample ∈ samples, sample.Captured ∧ sample.Kept) →
    ∀ sample ∈ samples, sample.observedAtSource = some sample.sentDscp

/-- What a result may say of its samples. -/
structure SurvivalProven (dscpClass : UInt8) (samples : List DscpCaptureSample)
    (lossPercent : Option ℚ) : Prop where
  survived : (buildDscpResult dscpClass samples lossPercent).survival = .survived →
    samples ≠ [] ∧ ∀ sample ∈ samples, sample.Arrived
  loss : (buildDscpResult dscpClass samples lossPercent).lossPercentIfSurvived ≠ none →
    samples ≠ [] ∧ ∀ sample ∈ samples, sample.Arrived
  altered : (buildDscpResult dscpClass samples lossPercent).survival = .alteredOnPath →
    (∀ sample ∈ samples, sample.Captured) ∧
      ∃ sample ∈ samples, sample.observedAtSource ≠ sample.observedAtDestination
  unverified :
    (∃ sample ∈ samples, sample.observedAtSource = none ∨ sample.observedAtDestination = none) →
    (buildDscpResult dscpClass samples lossPercent).survival = .unverified
  ordered : ∀ shuffled, shuffled.Perm samples →
    buildDscpResult dscpClass shuffled lossPercent =
      { buildDscpResult dscpClass samples lossPercent with samples := shuffled }

theorem buildDscpResult_loss
    (measured : (buildDscpResult dscpClass samples lossPercent).lossPercentIfSurvived ≠ none) :
    (buildDscpResult dscpClass samples lossPercent).survival = .survived := by
  by_contra other
  exact measured (if_neg other)

theorem buildDscpResult_perm (perm : shuffled.Perm samples) :
    buildDscpResult dscpClass shuffled lossPercent =
      { buildDscpResult dscpClass samples lossPercent with samples := shuffled } := by
  rw [buildDscpResult, buildDscpResult, classifyDscpSurvival_perm perm]

/-- A class is called surviving on the sent mark exactly where no capture at the
source shows another one. -/
theorem survivalProven_iff (dscpClass : UInt8) (samples : List DscpCaptureSample)
    (lossPercent : Option ℚ) :
    SurvivalProven dscpClass samples lossPercent ↔ LeftAsSent samples := by
  constructor
  · intro proven kept sample member
    have survives := classifyDscpSurvival_survived_iff.mpr ⟨List.ne_nil_of_mem member, kept⟩
    exact ((proven.survived survives).2 sample member).1
  · intro asSent
    have arrives (survives : classifyDscpSurvival samples = .survived) :
        samples ≠ [] ∧ ∀ sample ∈ samples, sample.Arrived := by
      obtain ⟨nonempty, kept⟩ := classifyDscpSurvival_survived_iff.mp survives
      refine ⟨nonempty, fun sample member => ?_⟩
      have left := asSent kept sample member
      exact ⟨left, (kept sample member).2.symm.trans left⟩
    exact {
      survived := arrives
      loss := fun measured => arrives (buildDscpResult_loss measured)
      altered := classifyDscpSurvival_altered_iff.mp
      unverified := by
        rintro ⟨sample, member, gap⟩
        refine classifyDscpSurvival_unverified member fun captured => ?_
        rcases gap with source | destination
        · simp [DscpCaptureSample.Captured, source] at captured
        · simp [DscpCaptureSample.Captured, destination] at captured
      ordered := fun _ perm => buildDscpResult_perm perm }

/-- A mark that was cleared before it left the host counts as one that survived. -/
theorem cleared_survivalProven : ¬ SurvivalProven 46 [⟨46, some 0, some 0⟩] (some 5) := by
  intro proven
  have arrived := (proven.survived (by decide)).2 _ List.mem_cons_self
  exact absurd arrived.1 (by decide)

end Proof

end FragglePacket.NetworkTests
