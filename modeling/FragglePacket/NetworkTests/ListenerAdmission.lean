import Mathlib.Algebra.BigOperators.Group.List.Basic
import Mathlib.Data.Rat.Floor
import FragglePacket.NetworkTests.Iperf

/-! Admission of a fan-out of sessions, and the capacity that an admission cohort reports. -/

namespace FragglePacket.NetworkTests

structure ListenerTarget where
  host : String
  port : UInt16
  poolLabel : String
deriving DecidableEq

inductive AdmissionOutcome where
  | fullyAdmitted (streamsEstablished : Nat)
  | partiallyAdmitted (streamsEstablished streamsRequested : Nat)
  | neverAdmitted (detail : String)
  | safetyTimeout (elapsedSecs : ℚ)
deriving DecidableEq

namespace AdmissionOutcome

def isAdmitted : AdmissionOutcome → Bool
  | fullyAdmitted _ => true
  | _ => false

def reason : AdmissionOutcome → String
  | fullyAdmitted _ => "fully admitted"
  | partiallyAdmitted _ _ => "partial stream admission"
  | neverAdmitted _ => "connection never admitted"
  | safetyTimeout _ => "safety timeout before completion"

end AdmissionOutcome

structure SessionResult where
  target : ListenerTarget
  outcome : AdmissionOutcome
  startSkewMs : Int64
  receiverBitsPerSecond : Option ℚ
deriving DecidableEq

section Fanout
variable (fromStr : String → Except String Json)

def streamsEstablished (rawJson : String) : Nat :=
  match fromStr rawJson with
  | .error _ => 0
  | .ok document =>
    ((((document.get "start").bind (·.get "connected")).bind Json.asArray).map List.length).getD 0

def classifyResult (rawJson : String) (requestedStreams : Nat) : AdmissionOutcome :=
  let established := streamsEstablished fromStr rawJson
  match parseIperfJson fromStr rawJson with
  | .error (.serverError detail) => .neverAdmitted detail
  | .error error => .neverAdmitted error.text
  | .ok _ =>
    if established = 0 then .neverAdmitted "no streams reported in start.connected"
    else if established < requestedStreams then .partiallyAdmitted established requestedStreams
    else .fullyAdmitted established

def receiverBps (rawJson : String) : Option ℚ :=
  match parseIperfJson fromStr rawJson with
  | .error _ => none
  | .ok result => result.forward.received.map (·.bitsPerSecond)

/-- One session of the fan-out: when it was released, and what its runner answered before the
safety timeout, if it answered. -/
structure SessionRun where
  target : ListenerTarget
  startSkewMs : Int64
  answer : Option (Except String String)
  elapsedSecs : ℚ

def SessionRun.result (requestedStreams : Nat) (session : SessionRun) : SessionResult :=
  match session.answer with
  | some (.ok rawJson) =>
    let outcome := classifyResult fromStr rawJson requestedStreams
    ⟨session.target, outcome, session.startSkewMs,
      if outcome.isAdmitted then receiverBps fromStr rawJson else none⟩
  | some (.error detail) => ⟨session.target, .neverAdmitted detail, session.startSkewMs, none⟩
  | none => ⟨session.target, .safetyTimeout session.elapsedSecs, session.startSkewMs, none⟩

def runAdmissionFanout (requestedStreams : Nat) (sessions : List SessionRun) : List SessionResult :=
  sessions.map (·.result fromStr requestedStreams)

end Fanout

structure AdmissionCohort where
  requestedStreams : Nat
  results : List SessionResult
  minimumValidCohort : Nat
  maxStartSkewMs : Int64

/-- `i64::unsigned_abs`. -/
def unsignedAbs (value : Int64) : UInt64 := UInt64.ofNat value.toInt.natAbs

namespace AdmissionCohort

def sessionIsValid (cohort : AdmissionCohort) (session : SessionResult) : Bool :=
  session.outcome.isAdmitted && decide ((unsignedAbs session.startSkewMs).toInt64 ≤
    cohort.maxStartSkewMs)

def fullyAdmittedCount (cohort : AdmissionCohort) : Nat :=
  (cohort.results.filter cohort.sessionIsValid).length

def validThroughputResults (cohort : AdmissionCohort) : List SessionResult :=
  cohort.results.filter cohort.sessionIsValid

def aggregateReceiverBps (cohort : AdmissionCohort) : Option ℚ :=
  if cohort.fullyAdmittedCount < cohort.minimumValidCohort then none
  else some (cohort.validThroughputResults.filterMap (·.receiverBitsPerSecond)).sum

def excludedWithReason (cohort : AdmissionCohort) : List (ListenerTarget × String) :=
  (cohort.results.filter (! cohort.sessionIsValid ·)).map fun session =>
    (session.target, if session.outcome.isAdmitted then "start skew exceeded fanout tolerance"
      else session.outcome.reason)

end AdmissionCohort

/-- The magnitude of `i64::MIN` wraps to a negative skew. -/
theorem unsignedAbs_le_iff (skew allowed : Int64) :
    (unsignedAbs skew).toInt64 ≤ allowed ↔
      skew = Int64.minValue ∨ |skew.toInt| ≤ allowed.toInt := by
  by_cases least : skew = Int64.minValue
  · have wrapped : (unsignedAbs skew).toInt64 = Int64.minValue := by
      rw [least]
      decide
    rw [wrapped, Int64.le_iff_toInt_le]
    exact iff_of_true allowed.minValue_le_toInt (Or.inl least)
  · have above : skew.toInt ≠ -2 ^ 63 := fun same => least (Int64.toInt.inj same)
    have lower := skew.le_toInt
    have upper := skew.toInt_lt
    have small : skew.toInt.natAbs < 2 ^ 63 := by omega
    rw [Int64.le_iff_toInt_le, unsignedAbs, UInt64.toInt64_ofNat', Int64.toInt_ofNat_of_lt small,
      Int.natCast_natAbs]
    simp [least]

namespace AdmissionCohort

/-- Fully admitted, and released within the allowed skew. -/
def WithinSkew (cohort : AdmissionCohort) (session : SessionResult) : Prop :=
  session.outcome.isAdmitted ∧ |session.startSkewMs.toInt| ≤ cohort.maxStartSkewMs.toInt

/-- Fully admitted, with the skew whose magnitude an `i64` does not hold. -/
def OfLeastSkew (session : SessionResult) : Prop :=
  session.outcome.isAdmitted ∧ session.startSkewMs = Int64.minValue

instance (cohort : AdmissionCohort) : DecidablePred cohort.WithinSkew :=
  fun session => inferInstanceAs (Decidable (session.outcome.isAdmitted ∧ _))

instance : DecidablePred OfLeastSkew :=
  fun session => inferInstanceAs (Decidable (session.outcome.isAdmitted ∧ _))

variable {cohort : AdmissionCohort}

theorem sessionIsValid_iff {session : SessionResult} :
    cohort.sessionIsValid session ↔ OfLeastSkew session ∨ cohort.WithinSkew session := by
  simp [sessionIsValid, OfLeastSkew, WithinSkew, unsignedAbs_le_iff, and_or_left]

theorem fullyAdmittedCount_eq (cohort : AdmissionCohort) : cohort.fullyAdmittedCount =
    cohort.results.countP fun session => OfLeastSkew session ∨ cohort.WithinSkew session := by
  rw [fullyAdmittedCount, ← List.countP_eq_length_filter]
  exact List.countP_congr fun session _ => by simp [sessionIsValid_iff]

theorem not_withinSkew_of_least (cohort : AdmissionCohort) {session : SessionResult}
    (least : OfLeastSkew session) : ¬ cohort.WithinSkew session := by
  rintro ⟨-, within⟩
  have upper := cohort.maxStartSkewMs.toInt_lt
  rw [least.2, Int64.toInt_minValue] at within
  norm_num at within
  omega

/-- What the measured rates of a list of sessions come to. -/
def rateSum (sessions : List SessionResult) : ℚ :=
  (sessions.filterMap (·.receiverBitsPerSecond)).sum

theorem rateSum_cons (session : SessionResult) (rest : List SessionResult) :
    rateSum (session :: rest) = session.receiverBitsPerSecond.getD 0 + rateSum rest := by
  cases rate : session.receiverBitsPerSecond with
  | none => simp [rateSum, rate]
  | some measured => simp [rateSum, rate]

theorem rateSum_valid (sessions : List SessionResult) :
    rateSum (sessions.filter cohort.sessionIsValid) =
      rateSum (sessions.filter cohort.WithinSkew) + rateSum (sessions.filter OfLeastSkew) := by
  induction sessions with
  | nil => simp [rateSum]
  | cons session rest ih =>
    by_cases least : OfLeastSkew session
    · have without := not_withinSkew_of_least cohort least
      have valid : cohort.sessionIsValid session := sessionIsValid_iff.mpr (Or.inl least)
      rw [List.filter_cons_of_pos valid, List.filter_cons_of_neg (by simpa using without),
        List.filter_cons_of_pos (by simpa using least), rateSum_cons, rateSum_cons, ih]
      exact add_left_comm _ _ _
    · by_cases within : cohort.WithinSkew session
      · have valid : cohort.sessionIsValid session := sessionIsValid_iff.mpr (Or.inr within)
        rw [List.filter_cons_of_pos valid, List.filter_cons_of_pos (by simpa using within),
          List.filter_cons_of_neg (by simpa using least), rateSum_cons, rateSum_cons, ih]
        exact (add_assoc _ _ _).symm
      · have invalid : ¬ cohort.sessionIsValid session :=
          fun valid => (sessionIsValid_iff.mp valid).elim least within
        rw [List.filter_cons_of_neg invalid, List.filter_cons_of_neg (by simpa using within),
          List.filter_cons_of_neg (by simpa using least), ih]

/-- Every result is either valid or excluded. -/
def Partitioned (cohort : AdmissionCohort) : Prop :=
  ∃ excluded, cohort.excludedWithReason.map (·.1) = excluded.map (·.target) ∧
    (cohort.validThroughputResults ++ excluded).Perm cohort.results ∧
    ∀ session ∈ cohort.validThroughputResults, session ∉ excluded

/-- The aggregate is the sum of the measured rates of enough sessions within the skew. -/
structure ReportsMeasured (cohort : AdmissionCohort) : Prop where
  measured : ∀ total, cohort.aggregateReceiverBps = some total →
    max 1 cohort.minimumValidCohort ≤ (cohort.results.filter cohort.WithinSkew).length ∧
      (∀ session ∈ cohort.results, cohort.WithinSkew session →
        session.receiverBitsPerSecond.isSome) ∧
      total = rateSum (cohort.results.filter cohort.WithinSkew)
  partitioned : cohort.Partitioned

theorem valid_excluded_partition (cohort : AdmissionCohort) : cohort.Partitioned := by
  refine ⟨cohort.results.filter (! cohort.sessionIsValid ·), ?_, ?_, ?_⟩
  · simp [excludedWithReason, Function.comp_def]
  · exact List.filter_append_perm cohort.sessionIsValid cohort.results
  · intro session valid excluded
    have accepted := (List.mem_filter.mp valid).2
    have rejected := (List.mem_filter.mp excluded).2
    simp [accepted] at rejected

/-- A cohort reports measured capacity exactly when too few sessions are within the skew or of the
least skew, or enough are within the skew, all with a rate, and those of the least skew add
nothing. -/
theorem reports_measured_iff (cohort : AdmissionCohort) :
    cohort.ReportsMeasured ↔
      (cohort.results.countP fun session => OfLeastSkew session ∨ cohort.WithinSkew session) <
          cohort.minimumValidCohort ∨
        max 1 cohort.minimumValidCohort ≤ (cohort.results.filter cohort.WithinSkew).length ∧
          (∀ session ∈ cohort.results, cohort.WithinSkew session →
            session.receiverBitsPerSecond.isSome) ∧
          rateSum (cohort.results.filter OfLeastSkew) = 0 := by
  rw [← fullyAdmittedCount_eq]
  by_cases few : cohort.fullyAdmittedCount < cohort.minimumValidCohort
  · refine iff_of_true ⟨?_, cohort.valid_excluded_partition⟩ (Or.inl few)
    intro total reported
    rw [aggregateReceiverBps, if_pos few] at reported
    cases reported
  · have reported : cohort.aggregateReceiverBps =
        some (rateSum (cohort.results.filter cohort.WithinSkew) +
          rateSum (cohort.results.filter OfLeastSkew)) := by
      rw [aggregateReceiverBps, if_neg few, validThroughputResults, ← rateSum_valid]
      rfl
    constructor
    · intro reports
      obtain ⟨enough, rated, same⟩ := reports.measured _ reported
      exact Or.inr ⟨enough, rated, add_eq_left.mp same⟩
    · rintro (withheld | ⟨enough, rated, nothing⟩)
      · exact absurd withheld few
      · refine ⟨?_, cohort.valid_excluded_partition⟩
        intro total isTotal
        obtain rfl := Option.some.inj (reported.symm.trans isTotal)
        exact ⟨enough, rated, by rw [nothing, add_zero]⟩

end AdmissionCohort

/-- What a runner prints for a session that connected and has no summary. -/
def emptyEnd : String :=
  "\x7b\"start\":\x7b\"connected\":[\x7b\"socket\":5\x7d]\x7d,\"end\":\x7b\x7d\x7d"

def emptyEndReader (text : String) : Except String Json :=
  if text = emptyEnd then
    .ok (.object [("start", .object [("connected", .array [.object [("socket", .posInt 5)]])]),
      ("end", .object [])])
  else .error "expected value at line 1 column 1"

def emptyEndCohort : AdmissionCohort where
  requestedStreams := 1
  results :=
    runAdmissionFanout emptyEndReader 1 [⟨⟨"example.test", 5201, "a"⟩, 0, some (.ok emptyEnd), 1⟩]
  minimumValidCohort := 1
  maxStartSkewMs := 1000

/-- A session without a measured rate makes the aggregate zero, not absent. -/
theorem absent_rate_reported_as_zero :
    emptyEndCohort.aggregateReceiverBps = some 0 ∧ ¬ emptyEndCohort.ReportsMeasured := by
  have reported : emptyEndCohort.aggregateReceiverBps = some 0 := by decide +kernel
  refine ⟨reported, ?_⟩
  intro reports
  obtain ⟨-, rated, -⟩ := reports.measured 0 reported
  have unrated :=
    rated ⟨⟨"example.test", 5201, "a"⟩, .fullyAdmitted 1, 0, none⟩ (by decide +kernel) (by decide)
  cases unrated

end FragglePacket.NetworkTests
