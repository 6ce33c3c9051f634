import FragglePacket.Load.Attestation

/-! What a guard makes of counters it could not read. A failed reading is replaced by zero
counters, which nothing has gone backwards from. -/

namespace FragglePacket.Load

/-- At least one of the two readings of the counters failed. -/
def World.MissesCounters (world : World) : Prop :=
  (∃ reason, world.countersBefore = .error reason) ∨ ∃ reason, world.countersAfter = .error reason

/-- The report takes the counters for no evidence. -/
structure GuardReport.Distrusts (report : GuardReport) : Prop where
  unusable : report.countersUsable = false
  invalid : report.validity ≠ .valid
  underived : report.derived = none

/-- A packet or a byte has been counted. -/
def InterfaceCounters.Counted (counters : InterfaceCounters) : Prop :=
  counters.rxPackets ≠ 0 ∨ counters.txPackets ≠ 0 ∨ counters.rxBytes ≠ 0 ∨ counters.txBytes ≠ 0

theorem InterfaceCounters.usable_from_zero (after : InterfaceCounters) :
    after.usableDeltaFrom .zero = true :=
  (usableDeltaFrom_iff after .zero).mpr
    ⟨UInt64.zero_le, UInt64.zero_le, UInt64.zero_le, UInt64.zero_le⟩

theorem InterfaceCounters.zero_unusable_iff (before : InterfaceCounters) :
    InterfaceCounters.zero.usableDeltaFrom before = false ↔ before.Counted := by
  have least (count : UInt64) : count ≤ 0 ↔ count = 0 := UInt64.le_zero_iff
  rw [← Bool.not_eq_true, usableDeltaFrom_iff, Counted]
  change ¬ (before.rxPackets ≤ 0 ∧ before.txPackets ≤ 0 ∧ before.rxBytes ≤ 0 ∧
    before.txBytes ≤ 0) ↔ _
  rw [least, least, least, least]
  rw [not_and_or, not_and_or, not_and_or]

section Run
variable {guard : LoadGuard} {world : World} {report : GuardReport}

theorem run_countersUsable (reported : guard.run world = some report) : report.countersUsable =
    (sampleCounters world.countersAfter).usableDeltaFrom (sampleCounters world.countersBefore) := by
  obtain ⟨stopReason, _, rfl⟩ := (guard.run_eq_some world report).mp reported
  rfl

/-- Counters that are found unusable make the report invalid and take its ratio away. -/
theorem run_distrusts_iff (reported : guard.run world = some report) :
    report.Distrusts ↔ report.countersUsable = false := by
  refine ⟨fun distrusts => distrusts.unusable, fun unusable => ?_⟩
  have invalid : report.validity ≠ .valid := by
    intro valid
    have forward := ((run_validity reported).mp valid).1.forward
    rw [← InterfaceCounters.usableDeltaFrom_iff, ← run_countersUsable reported, unusable] at forward
    cases forward
  have underived : report.derived = none := by
    rw [← Option.not_isSome_iff_eq_none, run_derived reported]
    exact fun ratio => invalid ratio.1
  exact ⟨unusable, invalid, underived⟩

/-- A failed reading is taken for no evidence exactly where it is the one after the phase,
and the one before had counted something. -/
theorem missing_counters_distrusted_iff (reported : guard.run world = some report)
    (missed : world.MissesCounters) :
    report.Distrusts ↔ ∃ before, world.countersBefore = .ok before ∧ before.Counted := by
  rw [run_distrusts_iff reported, run_countersUsable reported]
  cases first : world.countersBefore with
  | error reason =>
    have usable := InterfaceCounters.usable_from_zero (sampleCounters world.countersAfter)
    constructor
    · intro unusable
      rw [sampleCounters, usable] at unusable
      cases unusable
    · intro ⟨before, read, _⟩
      cases read
  | ok before =>
    have failed : ∃ reason, world.countersAfter = .error reason := by
      rcases missed with ⟨reason, earlier⟩ | later
      · rw [first] at earlier
        cases earlier
      · exact later
    obtain ⟨reason, failure⟩ := failed
    rw [failure]
    change InterfaceCounters.zero.usableDeltaFrom before = false ↔ _
    rw [InterfaceCounters.zero_unusable_iff]
    constructor
    · intro counted
      exact ⟨before, rfl, counted⟩
    · intro ⟨read, same, counted⟩
      cases same
      exact counted

end Run

/-- A megabit phase between two readings of the counters. -/
def megabitWorld (countersBefore countersAfter : Except String InterfaceCounters) : World :=
  { steadyWorld [.round megabitRound] 1 with
    countersBefore := countersBefore, countersAfter := countersAfter }

/-- Some traffic in both directions. -/
def someTraffic : InterfaceCounters := ⟨10, 10, 640, 640, 0, 0⟩

theorem megabitWorld_run (countersBefore countersAfter : Except String InterfaceCounters) :
    ∃ report, secondGuard.run (megabitWorld countersBefore countersAfter) = some report :=
  ⟨_, (secondGuard.run_eq_some _ _).mpr ⟨_, secondGuard_over, rfl⟩⟩

theorem missing_counters_distrusted_after :
    ∃ report, secondGuard.run (megabitWorld (.ok someTraffic) (.error "netstat failed")) =
      some report ∧ (report.Distrusts ↔ ∃ before, (megabitWorld (.ok someTraffic)
        (.error "netstat failed")).countersBefore =
        .ok before ∧ before.Counted) := by
  obtain ⟨report, reported⟩ := megabitWorld_run (.ok someTraffic) (.error "netstat failed")
  exact ⟨report, reported, missing_counters_distrusted_iff reported (.inr ⟨_, rfl⟩)⟩

/-- Counters that could not be read before the phase pass for evidence after it. -/
theorem missing_counters_trusted : ¬ ∀ (guard : LoadGuard) (world : World) (report : GuardReport),
    guard.run world = some report → world.MissesCounters → report.Distrusts := by
  intro claim
  obtain ⟨report, reported⟩ := megabitWorld_run (.error "netstat failed") (.ok someTraffic)
  have distrusts := claim secondGuard _ report reported (.inl ⟨_, rfl⟩)
  have usable := run_countersUsable reported
  rw [distrusts.unusable] at usable
  exact absurd (InterfaceCounters.usable_from_zero someTraffic) (usable ▸ Bool.false_ne_true)

end FragglePacket.Load
