import FragglePacket.Load.Guard

/-! What a valid report vouches for, over every run of the guard. -/

namespace FragglePacket.Load

open FragglePacket.Lists

def Event.sample : Event → Option RadioSnapshot
  | .sampled reading => some (sampleRadio reading)
  | .round _ => none

/-- The samples of a run: before the phase, during it, and after it. -/
def World.timeline (world : World) : RadioTimeline :=
  ⟨sampleRadio world.radioBefore, world.events.filterMap Event.sample, sampleRadio world.radioAfter⟩

namespace LoadGuard
variable (guard : LoadGuard)

@[simp] theorem advanceRound_during (beforeRadio : RadioSnapshot) (state : PhaseState) (rate : ℚ)
    (later : List ℚ) (round : Round) :
    (guard.advanceRound beforeRadio state rate later round).during = state.during := by
  simp only [advanceRound]
  split
  · rfl
  · split
    · rfl
    · split
      · rfl
      · split <;> rfl

theorem advance_during (beforeRadio : RadioSnapshot) (state : PhaseState) (event : Event) :
    (guard.advance beforeRadio state event).during = state.during ++ event.sample.toList := by
  cases event with
  | sampled reading => rfl
  | round round =>
    rw [advance]
    split
    · simp [Event.sample]
    · simp [Event.sample]

theorem foldl_advance_during (beforeRadio : RadioSnapshot) (state : PhaseState)
    (events : List Event) :
    (events.foldl (guard.advance beforeRadio) state).during =
      state.during ++ events.filterMap Event.sample := by
  induction events generalizing state with
  | nil => simp
  | cons event rest ih =>
    rw [List.foldl_cons, ih, advance_during, List.append_assoc]
    cases sampled : event.sample <;> simp [sampled]

/-- Every sample that was stored by the end of the run is in the report. -/
theorem phase_during (beforeRadio : RadioSnapshot) (events : List Event) :
    (guard.phase beforeRadio events).during = events.filterMap Event.sample := by
  simp [phase, foldl_advance_during, start]

/-- What is measured in a run, whatever it ends with. -/
def raw (world : World) : RawMetrics :=
  ⟨(guard.phase (sampleRadio world.radioBefore) world.events).bytesTransferred, world.elapsedSecs,
    guard.targetBytes⟩

/-- A run reports as soon as its phase is over. -/
theorem run_eq_some (world : World) (report : GuardReport) : guard.run world = some report ↔
    ∃ stopReason, (guard.phase (sampleRadio world.radioBefore) world.events).control =
      .ended stopReason ∧
      report = guard.report stopReason world.timeline (sampleCounters world.countersBefore)
        (sampleCounters world.countersAfter) (guard.raw world) := by
  have samples := guard.phase_during (sampleRadio world.radioBefore) world.events
  simp only [run, World.timeline, raw]
  cases control : (guard.phase (sampleRadio world.radioBefore) world.events).control with
  | step rate later => simp
  | ended stopReason => simp [samples, eq_comm]

end LoadGuard

section Timeline
variable (timeline : RadioTimeline)

theorem roamed_iff : timeline.roamed = false ↔ ∀ snap ∈ timeline.during ++ [timeline.after],
    snap.associationFingerprint = timeline.before.associationFingerprint := by
  simp only [RadioTimeline.roamed, List.any_eq_false, bne_iff_ne, ne_eq, not_not]

theorem bandChanged_iff :
    timeline.bandChanged = false ↔ ∀ snap ∈ timeline.during ++ [timeline.after],
    snap.band = timeline.before.band := by
  simp [RadioTimeline.bandChanged, or_imp, forall_and]

private theorem weakness_low (quality : RfQuality) :
    RadioTimeline.weakness quality ≤ 1 ↔ quality ≠ .weak ∧ quality ≠ .unstable := by
  cases quality <;> decide

/-- The weakest quality is harmless just when no sample is weak or unstable. -/
theorem weakestRf_iff : (timeline.weakestRf ≠ .weak ∧ timeline.weakestRf ≠ .unstable) ↔
    ∀ snap ∈ timeline.during ++ [timeline.before, timeline.after],
      classifyRf snap ≠ .weak ∧ classifyRf snap ≠ .unstable := by
  have sampled : (timeline.during ++ [timeline.before, timeline.after]).map classifyRf ≠
      [] := by simp
  obtain ⟨best, member, found, largest⟩ := maxByKey_spec RadioTimeline.weakness sampled
  have weakest : timeline.weakestRf = best := by
    rw [RadioTimeline.weakestRf, found, Option.getD_some]
  obtain ⟨worst, sample, quality⟩ := List.mem_map.mp member
  rw [weakest]
  constructor
  · intro harmless snap present
    rw [← weakness_low] at harmless ⊢
    exact Nat.le_trans (largest _ (List.mem_map_of_mem present)) harmless
  · intro harmless
    rw [← quality]
    exact harmless worst sample

end Timeline

/-- The radio and the counters of a run speak for it. -/
structure Undisturbed (guard : LoadGuard) (timeline : RadioTimeline)
    (before after : InterfaceCounters) : Prop where
  associatedBefore : timeline.before.associated = true
  associatedAfter : timeline.after.associated = true
  sameAssociation : ∀ snap ∈ timeline.during ++ [timeline.after],
    snap.associationFingerprint = timeline.before.associationFingerprint
  sameBand : ∀ snap ∈ timeline.during ++ [timeline.after], snap.band = timeline.before.band
  forward : before.rxPackets ≤ after.rxPackets ∧ before.txPackets ≤ after.txPackets ∧
    before.rxBytes ≤ after.rxBytes ∧ before.txBytes ≤ after.txBytes
  steadyRf : ∀ snap ∈ timeline.during ++ [timeline.before, timeline.after],
    classifyRf snap ≠ .weak ∧ classifyRf snap ≠ .unstable
  live : guard.radioSourceIsSynthetic = false

/-- A phase that ran to its end took its time and moved its bytes. -/
structure Presented (guard : LoadGuard) (raw : RawMetrics) : Prop where
  onTime : 0 < guard.budget.maxDurationSecs →
    raw.elapsedSecs ≤ 5 / 4 * (guard.budget.maxDurationSecs.toNat : ℚ)
  onTarget : (raw.targetBytes.toNat : ℚ) / 10 ≤ (raw.bytesTransferred.toNat : ℚ)

section Validity
variable (guard : LoadGuard) (stopReason : StopReason) (timeline : RadioTimeline) (raw : RawMetrics)

theorem durationExceeded_iff : guard.durationExceeded .completed raw = false ↔
    (0 < guard.budget.maxDurationSecs →
      raw.elapsedSecs ≤ 5 / 4 * (guard.budget.maxDurationSecs.toNat : ℚ)) := by
  have positive : (0 : ℚ) < (guard.budget.maxDurationSecs.toNat : ℚ) ↔
      0 < guard.budget.maxDurationSecs := by
    rw [Nat.cast_pos, UInt64.lt_iff_toNat_lt]
    rfl
  simp [LoadGuard.durationExceeded, durationOverrunTolerance, positive, mul_comm]

theorem targetUndershoot_iff : LoadGuard.targetUndershoot .completed raw = false ↔
    (raw.targetBytes.toNat : ℚ) / 10 ≤ (raw.bytesTransferred.toNat : ℚ) := by
  have nothing : ¬ 0 < raw.targetBytes →
      (raw.targetBytes.toNat : ℚ) / 10 ≤ (raw.bytesTransferred.toNat : ℚ) := by
    intro empty
    have zero : raw.targetBytes.toNat = 0 := by
      rw [UInt64.lt_iff_toNat_lt] at empty
      exact Nat.eq_zero_of_not_pos empty
    rw [zero, Nat.cast_zero, zero_div]
    exact Nat.cast_nonneg _
  by_cases aimed : 0 < raw.targetBytes
  · simp [LoadGuard.targetUndershoot, minTargetFraction, aimed, div_eq_mul_inv]
  · simp [LoadGuard.targetUndershoot, aimed, nothing aimed]

/-- The arms of the validity chain that a valid run has passed. -/
private theorem validity_arms (countersUsable : Bool) :
    guard.validity stopReason timeline countersUsable raw = .valid ↔
      (timeline.before.associated = true ∧ timeline.after.associated = true) ∧
        timeline.roamed = false ∧
      timeline.bandChanged = false ∧ countersUsable = true ∧
        guard.durationExceeded stopReason raw = false ∧
      LoadGuard.targetUndershoot stopReason raw = false ∧
      (timeline.weakestRf ≠ .weak ∧ timeline.weakestRf ≠ .unstable) ∧
        guard.radioSourceIsSynthetic = false := by
  rw [LoadGuard.validity]
  generalize timeline.before.associated = associatedBefore
  generalize timeline.after.associated = associatedAfter
  generalize timeline.roamed = roamed
  generalize timeline.bandChanged = bandChanged
  generalize guard.durationExceeded stopReason raw = exceeded
  generalize LoadGuard.targetUndershoot stopReason raw = undershoot
  cases associatedBefore with
  | false => simp
  | true =>
    cases associatedAfter with
    | false => simp
    | true =>
      cases roamed with
      | true => simp
      | false =>
        cases bandChanged with
        | true => simp
        | false =>
          cases countersUsable with
          | false => simp
          | true =>
            cases exceeded with
            | true => simp
            | false =>
              cases undershoot with
              | true => simp
              | false => cases timeline.weakestRf <;> simp

/-- A run is valid just when its radio and counters speak for it and, if it ran to its
end, it presented its load. -/
theorem validity_valid_iff (before after : InterfaceCounters) :
    guard.validity stopReason timeline (after.usableDeltaFrom before) raw = .valid ↔
      Undisturbed guard timeline before after ∧
        (stopReason = .completed → Presented guard raw) := by
  have presented : (guard.durationExceeded stopReason raw = false ∧
      LoadGuard.targetUndershoot stopReason raw = false) ↔
        (stopReason = .completed → Presented guard raw) := by
    by_cases completed : stopReason = .completed
    · subst completed
      rw [durationExceeded_iff, targetUndershoot_iff]
      exact ⟨fun both _ => ⟨both.1, both.2⟩, fun kept => ⟨(kept rfl).onTime, (kept rfl).onTarget⟩⟩
    · simp [LoadGuard.durationExceeded, LoadGuard.targetUndershoot, completed]
  rw [validity_arms, roamed_iff, bandChanged_iff, InterfaceCounters.usableDeltaFrom_iff,
    weakestRf_iff, ← presented]
  constructor
  · intro arms
    obtain ⟨⟨associatedBefore, associatedAfter⟩, roamed, band, forward, exceeded, undershoot,
        steady, live⟩ := arms
    exact ⟨⟨associatedBefore, associatedAfter, roamed, band, forward, steady, live⟩, exceeded,
      undershoot⟩
  · intro kept
    obtain ⟨undisturbed, exceeded, undershoot⟩ := kept
    exact ⟨⟨undisturbed.associatedBefore, undisturbed.associatedAfter⟩, undisturbed.sameAssociation,
      undisturbed.sameBand, undisturbed.forward, exceeded, undershoot, undisturbed.steadyRf,
        undisturbed.live⟩

end Validity

theorem computeDerivedRatio_isSome_iff (validity : Validity) (raw : RawMetrics) :
    (computeDerivedRatio validity raw).isSome ↔ validity = .valid ∧ raw.targetBytes ≠ 0 := by
  cases validity with
  | invalid reason => simp [computeDerivedRatio]
  | valid => by_cases empty : raw.targetBytes = 0 <;> simp [computeDerivedRatio, empty]

section Run
variable {guard : LoadGuard} {world : World} {report : GuardReport}

/-- The radio and the counters that a run read speak for it. -/
def World.Undisturbed (guard : LoadGuard) (world : World) : Prop :=
  Load.Undisturbed guard world.timeline (sampleCounters world.countersBefore)
    (sampleCounters world.countersAfter)

theorem run_validity (reported : guard.run world = some report) :
    report.validity = .valid ↔
      world.Undisturbed guard ∧ (report.stopReason = .completed → Presented guard report.raw) := by
  obtain ⟨stopReason, _, rfl⟩ := (guard.run_eq_some world report).mp reported
  exact validity_valid_iff guard stopReason world.timeline (guard.raw world) _ _

theorem run_derived (reported : guard.run world = some report) :
    report.derived.isSome ↔ report.validity = .valid ∧ guard.targetBytes ≠ 0 := by
  obtain ⟨stopReason, _, rfl⟩ := (guard.run_eq_some world report).mp reported
  exact computeDerivedRatio_isSome_iff _ _

/-- A valid report vouches for the radio, the counters and, of a completed run, for the
load; only a valid report has a ratio. -/
theorem valid_report_vouches (reported : guard.run world = some report) :
    (report.validity = .valid →
      world.Undisturbed guard ∧ (report.stopReason = .completed → Presented guard report.raw)) ∧
    (report.derived.isSome → report.validity = .valid) :=
  ⟨(run_validity reported).mp, fun ratio => ((run_derived reported).mp ratio).1⟩

end Run

/-- A strong signal on one channel. -/
def strongSnapshot : RadioSnapshot :=
  ⟨true, some "802.11ax", some "6GHz", some 197, some 80, some (-50), some (-90),
    some (.finite 900), some 9⟩

/-- A world in which the radio stays as it is and no counter moves. -/
def steadyWorld (events : List Event) (elapsedSecs : ℚ) : World :=
  ⟨.ok strongSnapshot, .ok .zero, events, elapsedSecs, .ok strongSnapshot, .ok .zero⟩

/-- One Mbps for one second, in one step. -/
def secondGuard : LoadGuard :=
  ⟨{ LoadBudget.maintenance 1 1 1 with rampSteps := 1 }, rfl, "en0", false, false⟩

/-- A round that moves a megabit in a second. -/
def megabitRound : Round := ⟨0, false, ⟨none, none, none, 125000⟩, 1⟩

theorem secondGuard_over :
    (secondGuard.phase strongSnapshot [.round megabitRound]).control = .ended .completed := by
  decide +kernel

/-- The same megabit in two rounds, with readings of a radio that fades a little before, between
and behind them. -/
def sampledEvents : List Event :=
  [.sampled (.ok strongSnapshot), .round ⟨0, false, ⟨some 12, some 0, none, 62500⟩, 1 / 2⟩,
    .sampled (.ok { strongSnapshot with rssiDbm := some (-55) }),
    .round ⟨1 / 2, false, ⟨some 15, some 0, none, 62500⟩, 1⟩,
    .sampled (.ok { strongSnapshot with rssiDbm := some (-52) })]

theorem valid_report_vouches_second :
    ∃ report, secondGuard.run (steadyWorld sampledEvents 1) = some report ∧
      report.validity = .valid ∧
      (steadyWorld sampledEvents 1).Undisturbed secondGuard ∧ Presented secondGuard report.raw := by
  have ended : (secondGuard.phase strongSnapshot sampledEvents).control = .ended .completed := by
    decide +kernel
  have reported := (secondGuard.run_eq_some (steadyWorld sampledEvents 1) _).mpr ⟨_, ended, rfl⟩
  have vouches := (valid_report_vouches reported).1 (by decide +kernel)
  exact ⟨_, reported, by decide +kernel, vouches.1, vouches.2 rfl⟩

/-- A budget without a duration, spent in one step of a second. -/
def timelessGuard : LoadGuard :=
  ⟨{ LoadBudget.maintenance 1 0 1 with rampSteps := 1 }, rfl, "en0", false, false⟩

/-- A round that moves nothing and takes a second. -/
def idleRound : Round := ⟨0, false, ⟨none, none, none, 0⟩, 1⟩

/-- A budget without a duration sets no limit to the time. -/
theorem timeless_run_overruns :
    ∃ report, timelessGuard.run (steadyWorld [.round idleRound] 1) = some report ∧
      report.stopReason = .completed ∧ report.validity = .valid ∧
      ¬ report.raw.elapsedSecs ≤ 5 / 4 * (timelessGuard.budget.maxDurationSecs.toNat : ℚ) := by
  have ended : (timelessGuard.phase strongSnapshot [.round idleRound]).control =
      .ended .completed := by
    decide +kernel
  refine ⟨_, (timelessGuard.run_eq_some _ _).mpr ⟨_, ended, rfl⟩, rfl, ?_, ?_⟩
  · decide +kernel
  · decide +kernel

section Aborted
variable {guard : LoadGuard} {world : World} {report : GuardReport}

theorem asU64_eq_zero (x : ℚ) : asU64 x = 0 ↔ x < 1 := by
  have small : min ⌊x⌋.toNat (2 ^ 64 - 1) < UInt64.size := by
    have bound := Nat.min_le_right ⌊x⌋.toNat (2 ^ 64 - 1)
    exact Nat.lt_of_le_of_lt bound (by decide)
  have zero : asU64 x = 0 ↔ ⌊x⌋.toNat = 0 := by
    rw [asU64, ← UInt64.toNat_inj, UInt64.toNat_ofNat_of_lt' small]
    simp
  rw [zero, Int.toNat_eq_zero, ← Int.lt_add_one_iff, zero_add, Int.floor_lt, Int.cast_one]

end Aborted

/-- The budget of a thousand Mbps for five seconds. -/
def fullGuard : LoadGuard := ⟨LoadBudget.maintenance 1000 5 1, rfl, "en0", false, false⟩

/-- A round in which the endpoint fails. -/
def resetRound : Round := ⟨0, false, ⟨none, none, some "reset", 0⟩, 0⟩

theorem fullGuard_over :
    (fullGuard.phase strongSnapshot [.round resetRound]).control =
      .ended (.abortEndpointError "reset") := by
  decide +kernel

end FragglePacket.Load
