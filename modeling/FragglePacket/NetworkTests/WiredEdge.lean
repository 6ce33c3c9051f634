import FragglePacket.Lists.Readings
import FragglePacket.Text.Decimal
import Mathlib.Algebra.Order.Ring.Unbundled.Rat

/-! The health of a wired edge over a bracket of its telemetry, and when it is
called healthy on evidence. -/

namespace FragglePacket.NetworkTests

open FragglePacket.Lists FragglePacket.Text

inductive PoeClass where
  | poe
  | poePlus
  | poePlusPlus
  | notPoweredByPoe
  deriving DecidableEq

inductive LinkDuplex where
  | full
  | half
  deriving DecidableEq

/-- A field that was not retrieved is absent, which is not zero. -/
structure WiredEdgeSnapshot where
  hashedChassisLabel : Option String
  poeClass : Option PoeClass
  poeRequestedWatts : Option ℚ
  poeNegotiatedWatts : Option ℚ
  reducedPowerState : Option Bool
  linkSpeedMbps : Option UInt64
  linkDuplex : Option LinkDuplex
  crcErrors : Option UInt64
  inputDiscards : Option UInt64
  outputDiscards : Option UInt64
  pauseFramesRx : Option UInt64
  pauseFramesTx : Option UInt64
  queueDrops : Option UInt64
  linkFlapCount : Option UInt32

def WiredEdgeSnapshot.missingFields (snapshot : WiredEdgeSnapshot) : List String :=
  (if snapshot.hashedChassisLabel.isNone then ["hashed_chassis_label"] else []) ++
  (if snapshot.poeClass.isNone then ["poe_class"] else []) ++
  (if snapshot.poeNegotiatedWatts.isNone then ["poe_negotiated_watts"] else []) ++
  (if snapshot.reducedPowerState.isNone then ["reduced_power_state"] else []) ++
  (if snapshot.linkSpeedMbps.isNone then ["link_speed_mbps"] else []) ++
  (if snapshot.linkDuplex.isNone then ["link_duplex"] else []) ++
  (if snapshot.crcErrors.isNone then ["crc_errors"] else []) ++
  (if snapshot.inputDiscards.isNone then ["input_discards"] else []) ++
  (if snapshot.outputDiscards.isNone then ["output_discards"] else []) ++
  (if snapshot.queueDrops.isNone then ["queue_drops"] else []) ++
  if snapshot.linkFlapCount.isNone then ["link_flap_count"] else []

structure WiredEdgeBracket where
  before : WiredEdgeSnapshot
  after : WiredEdgeSnapshot

structure CounterDelta where
  crcErrors : Option UInt64
  inputDiscards : Option UInt64
  outputDiscards : Option UInt64
  pauseFramesRx : Option UInt64
  pauseFramesTx : Option UInt64
  queueDrops : Option UInt64
  linkFlapCount : Option UInt32

/-- A counter that went backwards has no delta. -/
def counterDelta {α : Type} [LE α] [DecidableLE α] [Sub α] (before after : Option α) : Option α :=
  match before, after with
  | some b, some a => if b ≤ a then some (a - b) else none
  | _, _ => none

def deltaU64 (before after : Option UInt64) : Option UInt64 := counterDelta before after

def deltaU32 (before after : Option UInt32) : Option UInt32 := counterDelta before after

def computeDelta (bracket : WiredEdgeBracket) : CounterDelta where
  crcErrors := deltaU64 bracket.before.crcErrors bracket.after.crcErrors
  inputDiscards := deltaU64 bracket.before.inputDiscards bracket.after.inputDiscards
  outputDiscards := deltaU64 bracket.before.outputDiscards bracket.after.outputDiscards
  pauseFramesRx := deltaU64 bracket.before.pauseFramesRx bracket.after.pauseFramesRx
  pauseFramesTx := deltaU64 bracket.before.pauseFramesTx bracket.after.pauseFramesTx
  queueDrops := deltaU64 bracket.before.queueDrops bracket.after.queueDrops
  linkFlapCount := deltaU32 bracket.before.linkFlapCount bracket.after.linkFlapCount

inductive PoeRiskVerdict where
  | reducedFunctionalityFromPoe (requestedWatts negotiatedWatts : ℚ)
  | fullPowerNegotiated
  | withheld (missing : List String)
  deriving DecidableEq

def assessPoeRisk (snapshot : WiredEdgeSnapshot) : PoeRiskVerdict :=
  match snapshot.poeRequestedWatts, snapshot.poeNegotiatedWatts, snapshot.reducedPowerState with
  | some requested, some negotiated, some reduced =>
    if reduced && decide (negotiated < requested) then
      .reducedFunctionalityFromPoe requested negotiated
    else .fullPowerNegotiated
  | requested, negotiated, reduced =>
    let m := (if requested.isNone then ["poe_requested_watts"] else []) ++
      (if negotiated.isNone then ["poe_negotiated_watts"] else []) ++
      if reduced.isNone then ["reduced_power_state"] else []
    .withheld (if m.isEmpty then snapshot.missingFields else m)

inductive WiredEdgeVerdict where
  | healthy
  | degraded (detail : String)
  | refused (missing : List String)
  deriving DecidableEq

/-- The problem with a counter that moved. -/
def counterProblem (delta : Option Nat) (text : String) : List String :=
  match delta with
  | some count => if 0 < count then [toString count ++ text] else []
  | none => []

def WiredEdgeBracket.missing (bracket : WiredEdgeBracket) : List String :=
  bracket.before.missingFields.map ("before:" ++ ·) ++
    bracket.after.missingFields.map ("after:" ++ ·)

def WiredEdgeBracket.problems (bracket : WiredEdgeBracket) : List String :=
  let delta := computeDelta bracket
  counterProblem (delta.crcErrors.map (·.toNat)) " new CRC errors" ++
  counterProblem (delta.inputDiscards.map (·.toNat)) " new input discards" ++
  counterProblem (delta.outputDiscards.map (·.toNat)) " new output discards" ++
  counterProblem (delta.queueDrops.map (·.toNat)) " new queue drops" ++
  counterProblem (delta.linkFlapCount.map (·.toNat)) " link flap(s)" ++
  match assessPoeRisk bracket.after with
  | .reducedFunctionalityFromPoe requestedWatts negotiatedWatts =>
    ["AP negotiated only " ++ fixed 1 negotiatedWatts ++ "W of " ++ fixed 1 requestedWatts ++
      "W requested and reports reduced-power state"]
  | _ => []

def judgeWiredEdge (bracket : WiredEdgeBracket) : WiredEdgeVerdict :=
  if !bracket.missing.isEmpty then .refused bracket.missing
  else if bracket.problems.isEmpty then .healthy
  else .degraded ("; ".intercalate bracket.problems)

section Evidence

/-- The counters that tell the health of an edge. -/
inductive EdgeCounter where
  | crcErrors
  | inputDiscards
  | outputDiscards
  | queueDrops
  | linkFlapCount
  deriving DecidableEq

def WiredEdgeSnapshot.reading (snapshot : WiredEdgeSnapshot) : EdgeCounter → Option Nat
  | .crcErrors => snapshot.crcErrors.map (·.toNat)
  | .inputDiscards => snapshot.inputDiscards.map (·.toNat)
  | .outputDiscards => snapshot.outputDiscards.map (·.toNat)
  | .queueDrops => snapshot.queueDrops.map (·.toNat)
  | .linkFlapCount => snapshot.linkFlapCount.map (·.toNat)

def CounterDelta.of (delta : CounterDelta) : EdgeCounter → Option Nat
  | .crcErrors => delta.crcErrors.map (·.toNat)
  | .inputDiscards => delta.inputDiscards.map (·.toNat)
  | .outputDiscards => delta.outputDiscards.map (·.toNat)
  | .queueDrops => delta.queueDrops.map (·.toNat)
  | .linkFlapCount => delta.linkFlapCount.map (·.toNat)

/-- The edge is called healthy only where every delta was computed and is zero, and full power was
negotiated; where one of these was withheld it is refused or degraded. -/
structure HealthyOnEvidence (bracket : WiredEdgeBracket) : Prop where
  still : judgeWiredEdge bracket = .healthy → ∀ counter, (computeDelta bracket).of counter = some 0
  powered : judgeWiredEdge bracket = .healthy → assessPoeRisk bracket.after = .fullPowerNegotiated
  withheld : (∃ counter, (computeDelta bracket).of counter = none) ∨
    (∃ missing, assessPoeRisk bracket.after = .withheld missing) →
    (∃ missing, judgeWiredEdge bracket = .refused missing) ∨
      ∃ detail, judgeWiredEdge bracket = .degraded detail

namespace WiredEdgeBracket
variable (bracket : WiredEdgeBracket)

def Grew (counter : EdgeCounter) : Prop :=
  ∃ b a, bracket.before.reading counter = some b ∧ bracket.after.reading counter = some a ∧ b < a

def WentBack (counter : EdgeCounter) : Prop :=
  ∃ b a, bracket.before.reading counter = some b ∧ bracket.after.reading counter = some a ∧ a < b

/-- The AP runs on less than it asked for, and says so. -/
def Starved : Prop :=
  bracket.after.reducedPowerState = some true ∧ ∃ requested negotiated,
    bracket.after.poeRequestedWatts = some requested ∧
      bracket.after.poeNegotiatedWatts = some negotiated ∧
      negotiated < requested

end WiredEdgeBracket

/-- An edge that is not called healthy needs no evidence; one that may be has it where no counter
went back and the AP's request is known. -/
def Evidenced (bracket : WiredEdgeBracket) : Prop :=
  bracket.before.missingFields ≠ [] ∨ bracket.after.missingFields ≠ [] ∨
    (∃ counter, bracket.Grew counter) ∨
    bracket.Starved ∨ ((∀ counter, ¬ bracket.WentBack counter) ∧
      bracket.after.poeRequestedWatts.isSome = true)

variable {snapshot : WiredEdgeSnapshot} {bracket : WiredEdgeBracket}

theorem counterDelta_toNat {α : Type} [LE α] [DecidableLE α] [Sub α] (toNat : α → Nat)
    (le_iff : ∀ b a, b ≤ a ↔ toNat b ≤ toNat a)
    (sub : ∀ b a, b ≤ a → toNat (a - b) = toNat a - toNat b) (before after : Option α) :
    (counterDelta before after).map toNat = counterDelta (before.map toNat) (after.map toNat) := by
  cases before with
  | none => rfl
  | some b =>
    cases after with
    | none => rfl
    | some a =>
      by_cases forwards : b ≤ a
      · simp [counterDelta, forwards, (le_iff b a).mp forwards, sub b a forwards]
      · simp [counterDelta, forwards, (le_iff b a).not.mp forwards]

theorem computeDelta_of (counter : EdgeCounter) : (computeDelta bracket).of counter =
    counterDelta (bracket.before.reading counter) (bracket.after.reading counter) := by
  have wide (before after : Option UInt64) :=
    counterDelta_toNat UInt64.toNat (fun _ _ => UInt64.le_iff_toNat_le)
      (fun b a le => UInt64.toNat_sub_of_le a b le) before after
  have narrow (before after : Option UInt32) :=
    counterDelta_toNat UInt32.toNat (fun _ _ => UInt32.le_iff_toNat_le)
      (fun b a le => UInt32.toNat_sub_of_le a b le) before after
  cases counter with
  | crcErrors => exact wide _ _
  | inputDiscards => exact wide _ _
  | outputDiscards => exact wide _ _
  | queueDrops => exact wide _ _
  | linkFlapCount => exact narrow _ _

/-- A complete snapshot reads every counter and holds what it was powered with. -/
theorem complete (full : snapshot.missingFields = []) :
    (∀ counter, (snapshot.reading counter).isSome = true) ∧
    snapshot.poeNegotiatedWatts.isSome = true ∧ snapshot.reducedPowerState.isSome = true := by
  simp only [WiredEdgeSnapshot.missingFields, List.append_eq_nil_iff, entry_eq_nil_iff,
    Bool.not_eq_true, Option.isNone_eq_false_iff] at full
  refine ⟨fun counter => ?_, by simp [full], by simp [full]⟩
  cases counter <;> simp [WiredEdgeSnapshot.reading, full]

theorem counterProblem_eq_nil_iff {delta : Option Nat} {text : String} :
    counterProblem delta text = [] ↔ ∀ count, delta = some count → count = 0 := by
  unfold counterProblem
  cases delta with
  | none => simp
  | some count =>
    refine entry_eq_nil_iff.trans ?_
    simp

theorem assessPoeRisk_reduced_iff : (∃ requested negotiated, assessPoeRisk bracket.after =
    .reducedFunctionalityFromPoe requested negotiated) ↔ bracket.Starved := by
  unfold assessPoeRisk WiredEdgeBracket.Starved
  cases bracket.after.poeRequestedWatts <;> cases bracket.after.poeNegotiatedWatts <;>
    cases bracket.after.reducedPowerState with
    | none => simp
    | some reduced => cases reduced with
      | false => simp
      | true => simp [ite_eq_iff]

theorem assessPoeRisk_withheld_iff : (∃ missing, assessPoeRisk snapshot = .withheld missing) ↔
    snapshot.poeRequestedWatts = none ∨ snapshot.poeNegotiatedWatts = none ∨
      snapshot.reducedPowerState = none := by
  unfold assessPoeRisk
  cases snapshot.poeRequestedWatts <;> cases snapshot.poeNegotiatedWatts <;>
    cases snapshot.reducedPowerState with
    | none => simp
    | some reduced => simp [ite_eq_iff]

theorem problems_eq_nil_iff : bracket.problems = [] ↔
    (∀ counter count, (computeDelta bracket).of counter = some count → count = 0) ∧
      ¬ bracket.Starved := by
  have starved : (match assessPoeRisk bracket.after with
      | .reducedFunctionalityFromPoe requestedWatts negotiatedWatts =>
        ["AP negotiated only " ++ fixed 1 negotiatedWatts ++ "W of " ++ fixed 1 requestedWatts ++
          "W requested and reports reduced-power state"]
      | _ => []) = [] ↔ ¬ bracket.Starved := by
    rw [← assessPoeRisk_reduced_iff]
    cases assessPoeRisk bracket.after <;> simp
  rw [WiredEdgeBracket.problems, List.append_eq_nil_iff, starved]
  simp only [List.append_eq_nil_iff, counterProblem_eq_nil_iff]
  constructor
  · rintro ⟨⟨⟨⟨⟨crc, input⟩, output⟩, queue⟩, flaps⟩, fed⟩
    refine ⟨fun counter => ?_, fed⟩
    cases counter with
    | crcErrors => exact crc
    | inputDiscards => exact input
    | outputDiscards => exact output
    | queueDrops => exact queue
    | linkFlapCount => exact flaps
  · rintro ⟨still, fed⟩
    exact ⟨⟨⟨⟨⟨still .crcErrors, still .inputDiscards⟩, still .outputDiscards⟩, still .queueDrops⟩,
      still .linkFlapCount⟩, fed⟩

theorem judgeWiredEdge_healthy_iff : judgeWiredEdge bracket = .healthy ↔
    bracket.before.missingFields = [] ∧ bracket.after.missingFields = [] ∧
      bracket.problems = [] := by
  have missing : bracket.missing = [] ↔
      bracket.before.missingFields = [] ∧ bracket.after.missingFields = [] := by
    rw [WiredEdgeBracket.missing, List.append_eq_nil_iff, List.map_eq_nil_iff, List.map_eq_nil_iff]
  rw [← and_assoc, ← missing, judgeWiredEdge]
  cases bracket.missing <;> cases bracket.problems <;> simp

/-- A counter that grew has a delta, and it is not zero. -/
theorem grew_iff {counter : EdgeCounter} : bracket.Grew counter ↔
    ∃ count, (computeDelta bracket).of counter = some count ∧ count ≠ 0 := by
  rw [computeDelta_of]
  unfold WiredEdgeBracket.Grew counterDelta
  cases bracket.before.reading counter with
  | none => simp
  | some b =>
    cases bracket.after.reading counter with
    | none => simp
    | some a =>
      simp only [Option.some.injEq]
      split
      case isTrue forwards => simp; omega
      case isFalse backwards => simp; omega

/-- A counter read on both sides that has no delta went back. -/
theorem wentBack_iff {counter : EdgeCounter}
    (before : (bracket.before.reading counter).isSome = true)
    (after : (bracket.after.reading counter).isSome = true) :
    bracket.WentBack counter ↔ (computeDelta bracket).of counter = none := by
  obtain ⟨b, readBefore⟩ := Option.isSome_iff_exists.mp before
  obtain ⟨a, readAfter⟩ := Option.isSome_iff_exists.mp after
  rw [computeDelta_of]
  unfold WiredEdgeBracket.WentBack counterDelta
  simp [readBefore, readAfter]

theorem healthyOnEvidence_iff_of_healthy :
    HealthyOnEvidence bracket ↔ (judgeWiredEdge bracket = .healthy →
    (∀ counter, (computeDelta bracket).of counter = some 0) ∧
      assessPoeRisk bracket.after = .fullPowerNegotiated) := by
  constructor
  · intro evidence healthy
    exact ⟨evidence.still healthy, evidence.powered healthy⟩
  · intro evidence
    refine ⟨fun healthy => (evidence healthy).1, fun healthy => (evidence healthy).2,
      fun withheld => ?_⟩
    cases verdict : judgeWiredEdge bracket with
    | refused missing => exact .inl ⟨missing, rfl⟩
    | degraded detail => exact .inr ⟨detail, rfl⟩
    | healthy =>
      obtain ⟨still, powered⟩ := evidence verdict
      rcases withheld with ⟨counter, none⟩ | ⟨missing, withholds⟩
      · exact absurd ((still counter).symm.trans none) (by simp)
      · exact absurd (powered.symm.trans withholds) (by simp)

theorem healthy_iff_nothing_seen :
    judgeWiredEdge bracket = .healthy ↔ bracket.before.missingFields = [] ∧
    bracket.after.missingFields = [] ∧ (∀ counter, ¬ bracket.Grew counter) ∧ ¬ bracket.Starved := by
  rw [judgeWiredEdge_healthy_iff, problems_eq_nil_iff]
  simp only [grew_iff, not_exists, not_and, not_not]

/-- What a healthy edge rests on, of which the verdict does not ask. -/
theorem evidence_of_healthy_iff (healthy : judgeWiredEdge bracket = .healthy) :
    ((∀ counter, (computeDelta bracket).of counter = some 0) ∧
      assessPoeRisk bracket.after = .fullPowerNegotiated) ↔
      (∀ counter, ¬ bracket.WentBack counter) ∧ bracket.after.poeRequestedWatts.isSome = true := by
  obtain ⟨before, after, still, fed⟩ := healthy_iff_nothing_seen.mp healthy
  have readBefore := (complete before).1
  obtain ⟨readAfter, negotiated, reduced⟩ := complete after
  have counters (counter : EdgeCounter) : (computeDelta bracket).of counter = some 0 ↔
      ¬ bracket.WentBack counter := by
    rw [wentBack_iff (readBefore counter) (readAfter counter)]
    cases delta : (computeDelta bracket).of counter with
    | none => simp
    | some count =>
      by_cases zero : count = 0
      · simp [zero]
      · exact absurd (grew_iff.mpr ⟨count, delta, zero⟩) (still counter)
  have power : assessPoeRisk bracket.after = .fullPowerNegotiated ↔
      bracket.after.poeRequestedWatts.isSome = true := by
    have withheld := @assessPoeRisk_withheld_iff bracket.after
    have starved := assessPoeRisk_reduced_iff.not.mpr fed
    rw [Option.isSome_iff_ne_none] at negotiated reduced ⊢
    simp only [negotiated, reduced, or_false] at withheld
    rw [Ne, ← withheld]
    cases verdict : assessPoeRisk bracket.after with
    | reducedFunctionalityFromPoe requested given =>
      exact absurd ⟨requested, given, verdict⟩ starved
    | fullPowerNegotiated => simp
    | withheld missing => simp
  rw [power]
  exact and_congr_left fun _ => forall_congr' counters

/-- An edge is called healthy on evidence exactly where the evidence is there, or
something else speaks against it. -/
theorem healthyOnEvidence_iff (bracket : WiredEdgeBracket) :
    HealthyOnEvidence bracket ↔ Evidenced bracket := by
  rw [healthyOnEvidence_iff_of_healthy]
  have healthy := @healthy_iff_nothing_seen bracket
  constructor
  · intro evidence
    by_cases seen : judgeWiredEdge bracket = .healthy
    · exact .inr (.inr (.inr (.inr ((evidence_of_healthy_iff seen).mp (evidence seen)))))
    · rw [healthy] at seen
      unfold Evidenced
      by_contra! unseen
      exact seen ⟨unseen.1, unseen.2.1, unseen.2.2.1, unseen.2.2.2.1⟩
  · intro evidenced seen
    obtain ⟨before, after, still, fed⟩ := healthy.mp seen
    rcases evidenced with missing | missing | ⟨counter, grew⟩ | starved | evidence
    · exact absurd before missing
    · exact absurd after missing
    · exact absurd grew (still counter)
    · exact absurd starved fed
    · exact (evidence_of_healthy_iff seen).mpr evidence

def fullSnapshot : WiredEdgeSnapshot :=
  ⟨some "AP-8b464c93", some .poePlus, some 40, some 40, some false, some 5000, some .full, some 0,
    some 0, some 0, some 0, some 0, some 0, some 0⟩

/-- A counter that was reset under the bracket leaves the edge healthy. -/
theorem reset_counter_called_healthy :
    ¬ HealthyOnEvidence ⟨{ fullSnapshot with crcErrors := some 500 },
    { fullSnapshot with crcErrors := some 3 }⟩ := by
  intro evidence
  have still := evidence.still (by decide) .crcErrors
  exact absurd still (by decide)

end Evidence

end FragglePacket.NetworkTests
