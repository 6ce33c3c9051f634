import FragglePacket.Lists.Readings
import FragglePacket.Text.Decimal
import Mathlib.Algebra.Order.Field.Basic
import Mathlib.Tactic.NormNum

/-! The health of a reference endpoint: when a client's result is accepted
against it, and when rightly. -/

namespace FragglePacket.NetworkTests

open FragglePacket.Lists FragglePacket.Text

/-- What was read of the endpoint during one run of a client. -/
structure ServerHealth where
  cpuUtilizationPct : Option ℚ
  nicDrops : Option UInt64
  nicErrors : Option UInt64
  queueDrops : Option UInt64
  reportedIntervalSecs : Option ℚ
  requestedIntervalSecs : Option ℚ

inductive ResultAcceptance where
  | accepted
  | rejectedServerSide (reasons : List String)
  | undetermined (missing : List String)
  deriving DecidableEq

def cpuSaturationPct : ℚ := 85
def intervalTolerance : ℚ := 1 / 10

def cpuReasons (cpu : ℚ) : List String :=
  if cpuSaturationPct ≤ cpu then
    ["endpoint CPU was " ++ fixed 1 cpu ++ "% during the run (>= " ++ fixed 0 cpuSaturationPct ++
      "%), so the endpoint rather than the path set the ceiling"]
  else []

/-- A counter that is not zero, with the text around its value. -/
def counterReasons (before after : String) (count : UInt64) : List String :=
  if 0 < count then [before ++ toString count ++ after] else []

def intervalReasons (reported requested : ℚ) : List String :=
  if 0 < requested then
    let deviation := |(reported - requested) / requested|
    if intervalTolerance < deviation then
      ["endpoint reported a " ++ fixed 2 reported ++ "s interval for a " ++ fixed 2 requested ++
        "s request (" ++ fixed 0 (deviation * 100) ++
        "% off), so the measurement window is not trustworthy and any rate derived from it is invalid"]
    else []
  else []

namespace ServerHealth

def missing (h : ServerHealth) : List String :=
  (if h.cpuUtilizationPct.isNone then ["cpu_utilization_pct"] else []) ++
  (if h.nicDrops.isNone then ["nic_drops"] else []) ++
  (if h.queueDrops.isNone then ["queue_drops"] else []) ++
  if h.reportedIntervalSecs.isNone || h.requestedIntervalSecs.isNone then
    ["interval_validity"] else []

def reasons (h : ServerHealth) : List String :=
  (h.cpuUtilizationPct.elim [] cpuReasons) ++
  (h.nicDrops.elim [] (counterReasons "endpoint NIC dropped "
    " packets during the run, so observed loss is not attributable to the network under test")) ++
  (h.queueDrops.elim [] (counterReasons "endpoint queue dropped " " packets during the run")) ++
  (h.nicErrors.elim [] (counterReasons "endpoint NIC recorded " " errors during the run")) ++
  match h.reportedIntervalSecs, h.requestedIntervalSecs with
  | some reported, some requested => intervalReasons reported requested
  | _, _ => []

def evaluate (h : ServerHealth) : ResultAcceptance :=
  if !h.missing.isEmpty then .undetermined h.missing
  else if h.reasons.isEmpty then .accepted
  else .rejectedServerSide h.reasons

/-- Everything was read, and it shows an idle endpoint that kept the requested time. -/
structure Healthy (h : ServerHealth) : Prop where
  cpu : ∃ cpu, h.cpuUtilizationPct = some cpu ∧ cpu < 85
  nicDrops : h.nicDrops = some 0
  nicErrors : h.nicErrors = some 0
  queueDrops : h.queueDrops = some 0
  interval : ∃ reported requested, h.reportedIntervalSecs = some reported ∧
    h.requestedIntervalSecs = some requested ∧
    0 < requested ∧ |reported - requested| ≤ 1 / 10 * requested

def Unread (h : ServerHealth) : Prop :=
  h.cpuUtilizationPct = none ∨ h.nicDrops = none ∨ h.nicErrors = none ∨ h.queueDrops = none ∨
    h.reportedIntervalSecs = none ∨ h.requestedIntervalSecs = none

/-- Everything but the errors of the NIC was read. -/
structure Counted (h : ServerHealth) : Prop where
  cpu : h.cpuUtilizationPct.isSome = true
  nicDrops : h.nicDrops.isSome = true
  queueDrops : h.queueDrops.isSome = true
  reported : h.reportedIntervalSecs.isSome = true
  requested : h.requestedIntervalSecs.isSome = true

/-- The endpoint was busy or lost packets. -/
def Strained (h : ServerHealth) : Prop :=
  (∃ cpu ∈ h.cpuUtilizationPct, 85 ≤ cpu) ∨ (∃ count ∈ h.nicDrops, 0 < count) ∨
    (∃ count ∈ h.queueDrops, 0 < count) ∨ ∃ count ∈ h.nicErrors, 0 < count

end ServerHealth

theorem cpuReasons_eq_nil_iff (cpu : ℚ) : cpuReasons cpu = [] ↔ ¬ 85 ≤ cpu := entry_eq_nil_iff

theorem counterReasons_eq_nil_iff (before after : String) (count : UInt64) :
    counterReasons before after count = [] ↔ ¬ 0 < count := entry_eq_nil_iff

/-- A request that takes no time is not compared with the report. -/
theorem intervalReasons_eq_nil_iff (reported requested : ℚ) :
    intervalReasons reported requested = [] ↔
    (0 < requested → |reported - requested| ≤ 1 / 10 * requested) := by
  by_cases positive : 0 < requested
  · rw [intervalReasons, if_pos positive, entry_eq_nil_iff, not_lt, abs_div, abs_of_pos positive,
      div_le_iff₀ positive]
    exact ⟨fun close _ => close, fun close => close positive⟩
  · rw [intervalReasons, if_neg positive]
    exact iff_of_true rfl fun above => absurd above positive

namespace ServerHealth
variable {h : ServerHealth}

theorem missing_eq_nil_iff : h.missing = [] ↔ h.Counted := by
  simp only [missing, List.append_eq_nil_iff, entry_eq_nil_iff, Bool.or_eq_true, not_or,
    Bool.not_eq_true, Option.isNone_eq_false_iff]
  exact ⟨fun ⟨⟨⟨cpu, nicDrops⟩, queueDrops⟩, reported, requested⟩ =>
    ⟨cpu, nicDrops, queueDrops, reported, requested⟩,
    fun all => ⟨⟨⟨all.cpu, all.nicDrops⟩, all.queueDrops⟩, all.reported, all.requested⟩⟩

/-- There is nothing against the endpoint exactly where it was not strained, and kept
a time that was requested. -/
theorem reasons_eq_nil_iff : h.reasons = [] ↔ ¬ h.Strained ∧
    ∀ reported ∈ h.reportedIntervalSecs, ∀ requested ∈ h.requestedIntervalSecs, 0 < requested →
      |reported - requested| ≤ 1 / 10 * requested := by
  have interval : (match h.reportedIntervalSecs, h.requestedIntervalSecs with
      | some reported, some requested => intervalReasons reported requested
      | _, _ =>
        []) = [] ↔ ∀ reported ∈ h.reportedIntervalSecs, ∀ requested ∈ h.requestedIntervalSecs,
        0 < requested →
          |reported - requested| ≤ 1 / 10 * requested := by
    cases h.reportedIntervalSecs with
    | none => simp
    | some reported =>
      cases h.requestedIntervalSecs with
      | none => simp
      | some requested => simpa using intervalReasons_eq_nil_iff reported requested
  simp only [reasons, List.append_eq_nil_iff, elim_eq_nil_iff, cpuReasons_eq_nil_iff,
    counterReasons_eq_nil_iff, interval, Strained, not_or, not_exists, not_and, and_assoc]

/-- A health record that lacks nothing is judged by what speaks against it. -/
theorem evaluate_counted (counted : h.Counted) :
    (h.evaluate = .accepted ↔ h.reasons = []) ∧ ∀ missing, h.evaluate ≠ .undetermined missing := by
  have complete : h.missing.isEmpty = true := List.isEmpty_iff.mpr (missing_eq_nil_iff.mpr counted)
  rw [evaluate, complete]
  cases h.reasons with
  | nil => exact ⟨iff_of_true rfl rfl, fun _ => by simp⟩
  | cons reason reasons => exact ⟨by simp, fun _ => by simp⟩

theorem evaluate_uncounted (uncounted : ¬ h.Counted) : h.evaluate = .undetermined h.missing := by
  have lacking : h.missing.isEmpty = false := by
    rw [← missing_eq_nil_iff] at uncounted
    simpa using uncounted
  rw [evaluate, lacking]
  rfl

/-- What a complete record without reasons shows, where the requested time is positive. -/
theorem healthy_of_unstrained (counted : h.Counted) (errors : h.nicErrors.isSome = true)
    (none : h.reasons = []) (positive : ∃ requested ∈ h.requestedIntervalSecs, 0 < requested) :
    h.Healthy := by
  obtain ⟨unstrained, kept⟩ := reasons_eq_nil_iff.mp none
  simp only [Strained, not_or, not_exists, not_and, not_le] at unstrained
  obtain ⟨cpu, nicDrops, queueDrops, nicErrors⟩ := unstrained
  have zero (field : Option UInt64) (read : field.isSome = true)
      (still : ∀ count ∈ field, ¬ 0 < count) :
      field = some 0 := by
    obtain ⟨count, found⟩ := Option.isSome_iff_exists.mp read
    have idle : count.toNat = 0 := by simpa [UInt64.lt_iff_toNat_lt] using still count found
    rw [found, show count = 0 from UInt64.toNat_inj.mp idle]
  obtain ⟨busy, read⟩ := Option.isSome_iff_exists.mp counted.cpu
  obtain ⟨reported, told⟩ := Option.isSome_iff_exists.mp counted.reported
  obtain ⟨requested, asked, above⟩ := positive
  exact {
    cpu := ⟨busy, read, cpu busy read⟩
    nicDrops := zero _ counted.nicDrops nicDrops
    nicErrors := zero _ errors nicErrors
    queueDrops := zero _ counted.queueDrops queueDrops
    interval := ⟨reported, requested, told, asked, above,
      kept reported told requested asked above⟩ }

end ServerHealth

open ServerHealth in
/-- Only healthy records are accepted, and every record that lacks a field is undetermined, exactly
where a record without gaps in what is asked for has the errors of the NIC too, and a positive
request or a strained endpoint. -/
theorem evaluate_sound_iff (h : ServerHealth) :
    ((h.evaluate = .accepted → h.Healthy) ∧
      (h.Unread → ∃ missing, h.evaluate = .undetermined missing)) ↔
      (h.Counted → h.nicErrors.isSome = true ∧ (h.Strained ∨ ∃ requested ∈ h.requestedIntervalSecs,
        0 < requested)) := by
  by_cases counted : h.Counted
  · obtain ⟨accepted, determined⟩ := evaluate_counted counted
    have gap : h.Unread ↔ ¬ h.nicErrors.isSome = true := by
      obtain ⟨cpu, nicDrops, queueDrops, reported, requested⟩ := counted
      simp only [Unread, ← Option.not_isSome_iff_eq_none, cpu, nicDrops, queueDrops, reported,
        requested, not_true_eq_false, false_or, or_false]
    rw [imp_iff_right counted, accepted, gap]
    constructor
    · rintro ⟨sound, undetermined⟩
      have errors : h.nicErrors.isSome = true := by
        by_contra unread
        obtain ⟨missing, same⟩ := undetermined unread
        exact determined missing same
      refine ⟨errors, or_iff_not_imp_left.mpr fun unstrained => ?_⟩
      by_contra instant
      have none : h.reasons = [] :=
        reasons_eq_nil_iff.mpr ⟨unstrained, fun _ _ requested asked above =>
          absurd ⟨requested, asked, above⟩ instant⟩
      obtain ⟨_, requested, _, asked, above, _⟩ := (sound none).interval
      exact instant ⟨requested, asked, above⟩
    · rintro ⟨errors, strained | positive⟩
      · exact ⟨fun none => absurd strained (reasons_eq_nil_iff.mp none).1,
          fun unread => absurd errors unread⟩
      · exact ⟨fun none => healthy_of_unstrained counted errors none positive,
          fun unread => absurd errors unread⟩
  · have undetermined := evaluate_uncounted counted
    refine iff_of_true ⟨fun accepted => ?_, fun _ => ⟨h.missing, undetermined⟩⟩ fun read =>
      absurd read counted
    rw [undetermined] at accepted
    cases accepted

/-- Records that are accepted: one whose NIC errors were never read, and one
whose request takes no time. -/
theorem unhealthy_accepted : (∃ h : ServerHealth, h.Unread ∧ h.evaluate = .accepted) ∧
    ∃ h : ServerHealth, ¬ h.Unread ∧ h.requestedIntervalSecs = some 0 ∧ h.evaluate = .accepted := by
  have idle (errors : Option UInt64) (still : ∀ count ∈ errors, ¬ 0 < count) (requested : ℚ)
      (kept : 0 < requested → |10 - requested| ≤ 1 / 10 * requested) :
      ServerHealth.evaluate ⟨some 12, some 0, errors, some 0, some 10, some requested⟩ =
        .accepted := by
    refine (ServerHealth.evaluate_counted ⟨rfl, rfl, rfl, rfl, rfl⟩).1.mpr
      (ServerHealth.reasons_eq_nil_iff.mpr ⟨?_, ?_⟩)
    · rintro (⟨cpu, read, busy⟩ | ⟨count, read, lost⟩ | ⟨count, read, lost⟩ | ⟨count, read, lost⟩)
      · cases read
        norm_num at busy
      · cases read
        exact absurd lost (by decide)
      · cases read
        exact absurd lost (by decide)
      · exact still count read lost
    · rintro reported told asked read above
      cases told
      cases read
      exact kept above
  refine ⟨⟨_, .inr (.inr (.inl rfl)), idle none (by simp) 10 (by norm_num)⟩,
    ⟨_, ?_, rfl, idle (some 0) ?_ 0 (by simp)⟩⟩
  · simp [ServerHealth.Unread]
  · simp

end FragglePacket.NetworkTests
