import FragglePacket.NetworkTests.Resilience
import Mathlib.Data.Finset.Card

/-! Every session of a run counted once, and the outage a run reports. -/

namespace FragglePacket.NetworkTests

open FragglePacket.Lists

namespace ResilienceRun
variable (run : ResilienceRun)

/-- The distinct sessions that were sampled. -/
def sessions : Finset (Fin 4294967296) := (run.samples.map (·.sessionId)).toFinset

/-- The last sample of a session whose liveness is known. -/
def lastKnown (session : Fin 4294967296) : Option Bool :=
  lastOf (·.sessionAlive) (run.samples.filter (·.sessionId = session))

end ResilienceRun

/-- Each session is counted once, by its last known liveness, and an outage has a loss behind it. -/
structure CountsWithoutInventing (run : ResilienceRun) : Prop where
  partition : (judgeResilience run).sessionsSurvived + (judgeResilience run).sessionsLost +
    (judgeResilience run).sessionsNeverSampled = run.sessions.card
  lost : (judgeResilience run).sessionsLost =
    (run.sessions.filter fun session => run.lastKnown session = some false).card
  neverSampled : (judgeResilience run).sessionsNeverSampled =
    (run.sessions.filter fun session => run.lastKnown session = none).card
  outage : ∀ duration, (judgeResilience run).outageDurationSecs = some duration →
    (∃ sample ∈ run.samples, sample.sessionAlive = some false) ∧ ∃ started ended,
      run.outageStartedSecs = some started ∧ run.outageEndedSecs = some ended ∧
        duration = ended - started ∧ 0 ≤ duration

section Fates
variable {samples : List SessionSample}

theorem findSome_reverse_eq_lastOf :
    samples.reverse.findSome? (·.sessionAlive) = lastOf (·.sessionAlive) samples := by
  rw [lastOf_eq_firstOf_reverse, firstOf, List.head?_filterMap]

/-- The fate of a session is told by its last known liveness alone. -/
theorem sessionFate_eq : sessionFate samples = match lastOf (·.sessionAlive) samples with
    | none => .neverSampled
    | some false => .lost
    | some true => .survived := by
  unfold sessionFate
  rw [findSome_reverse_eq_lastOf]
  cases last : lastOf (·.sessionAlive) samples with
  | none => rfl
  | some alive =>
    cases alive with
    | true => simp
    | false =>
      obtain ⟨sample, member, down⟩ := exists_mem_of_lastOf last
      have everLost : samples.any (·.sessionAlive = some false) = true :=
        List.any_eq_true.mpr ⟨sample, member, decide_eq_true down⟩
      simp [everLost]

theorem sessionFate_eq_lost_iff :
    sessionFate samples = .lost ↔ lastOf (·.sessionAlive) samples = some false := by
  rw [sessionFate_eq]
  split <;> simp_all

theorem sessionFate_eq_neverSampled_iff :
    sessionFate samples = .neverSampled ↔ lastOf (·.sessionAlive) samples = none := by
  rw [sessionFate_eq]
  split <;> simp_all

theorem count_fates (fates : List SessionFate) :
    fates.count .survived + fates.count .lost + fates.count .neverSampled = fates.length := by
  induction fates with
  | nil => rfl
  | cons fate rest ih =>
    cases fate <;> simp <;> omega

end Fates

section Counts
variable {run : ResilienceRun}

def ResilienceRun.fates (run : ResilienceRun) : List SessionFate :=
  (grouped (·.sessionId) run.samples).map fun session => sessionFate session.2

theorem fates_eq : run.fates = (groupKeys (·.sessionId) run.samples).map fun session =>
    sessionFate (run.samples.filter (·.sessionId = session)) := by
  rw [ResilienceRun.fates, grouped_eq_map, List.map_map]
  rfl

theorem sessions_eq : run.sessions = (groupKeys (·.sessionId) run.samples).toFinset := by
  ext session
  rw [ResilienceRun.sessions, List.mem_toFinset, List.mem_toFinset, mem_groupKeys, List.mem_map]

theorem keys_nodup : (groupKeys (·.sessionId) run.samples).Nodup := groupKeys_ascending.imp ne_of_lt

/-- As many sessions have a fate as are counted under it. -/
theorem count_eq_card {fate : SessionFate} {known : Option Bool}
    (told : ∀ samples, sessionFate samples = fate ↔ lastOf (·.sessionAlive) samples = known) :
    run.fates.count fate = (run.sessions.filter fun session => run.lastKnown session =
      known).card := by
  have filtered : (run.sessions.filter fun session => run.lastKnown session = known) =
      ((groupKeys (·.sessionId) run.samples).filter fun session =>
        decide (run.lastKnown session = known)).toFinset := by
    ext session
    simp [sessions_eq]
  rw [filtered, List.toFinset_card_of_nodup (keys_nodup.filter _), fates_eq, List.count,
    List.countP_map, List.countP_eq_length_filter]
  congr 1
  refine List.filter_congr fun session _ => ?_
  rw [Bool.eq_iff_iff, Function.comp_apply, beq_iff_eq, told, decide_eq_true_eq]
  rfl

theorem partition_sessions :
    (judgeResilience run).sessionsSurvived + (judgeResilience run).sessionsLost +
    (judgeResilience run).sessionsNeverSampled = run.sessions.card := by
  refine (count_fates run.fates).trans ?_
  rw [fates_eq, List.length_map, sessions_eq, List.toFinset_card_of_nodup keys_nodup]

end Counts

section Outage
variable {run : ResilienceRun}

/-- The run holds both bounds of an outage, in order. -/
def ResilienceRun.Bracketed (run : ResilienceRun) : Prop :=
  ∃ started ended, run.outageStartedSecs = some started ∧ run.outageEndedSecs = some ended ∧
    started ≤ ended

theorem outageDurationSecs_eq_some_iff {duration : ℚ} :
    run.outageDurationSecs = some duration ↔ ∃ started ended,
    run.outageStartedSecs = some started ∧ run.outageEndedSecs = some ended ∧ started ≤ ended ∧
      duration = ended - started := by
  unfold ResilienceRun.outageDurationSecs
  cases run.outageStartedSecs with
  | none => simp
  | some started =>
    cases run.outageEndedSecs with
    | none => simp
    | some ended => simp [eq_comm]

/-- A run counts its sessions, and reports no outage of its own, exactly where its
bounds have a loss behind them. -/
theorem countsWithoutInventing_iff (run : ResilienceRun) : CountsWithoutInventing run ↔
    (run.Bracketed → ∃ sample ∈ run.samples, sample.sessionAlive = some false) := by
  constructor
  · rintro counts ⟨started, ended, starts, ends, ordered⟩
    exact (counts.outage _ (outageDurationSecs_eq_some_iff.mpr
      ⟨started, ended, starts, ends, ordered, rfl⟩)).1
  · intro losses
    refine ⟨partition_sessions, count_eq_card fun _ => sessionFate_eq_lost_iff,
      count_eq_card fun _ => sessionFate_eq_neverSampled_iff, fun duration reported => ?_⟩
    obtain ⟨started, ended, starts, ends, ordered, rfl⟩ :=
      outageDurationSecs_eq_some_iff.mp reported
    exact ⟨losses ⟨started, ended, starts, ends, ordered⟩, started, ended, starts, ends, rfl,
      sub_nonneg.mpr ordered⟩

/-- A run in which nothing was sampled, with the bounds of an outage. -/
def unsampledOutage : ResilienceRun := ⟨[], some 10, some 12⟩

theorem unsampled_outage_reported : ¬ CountsWithoutInventing unsampledOutage := by
  intro counts
  have reported : (judgeResilience unsampledOutage).outageDurationSecs = some (12 - 10) :=
    (@outageDurationSecs_eq_some_iff unsampledOutage _).mpr ⟨10, 12, rfl, rfl, by decide, rfl⟩
  obtain ⟨⟨sample, member, -⟩, -⟩ := counts.outage _ reported
  exact absurd member List.not_mem_nil

end Outage

end FragglePacket.NetworkTests
