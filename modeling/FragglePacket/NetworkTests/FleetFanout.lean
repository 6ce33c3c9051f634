import FragglePacket.Lists.Update
import FragglePacket.NetworkTests.FleetOrchestrator

/-! What every interleaving of a fleet fan-out keeps. -/

namespace FragglePacket.NetworkTests

open FragglePacket.Lists FragglePacket.Systems

/-- Everything that an event can do to its thread. -/
inductive Advance (permits : Int) (thread : NodeThread) :
    NodeEvent → Int → NodeThread → List NodeRunResult → Prop
  | slept (phase : thread.phase = .acquiring) (none : permits = 0) :
      Advance permits thread .load permits thread []
  | loaded (phase : thread.phase = .acquiring) (some : permits ≠ 0) :
      Advance permits thread .load permits { thread with phase := .loaded permits } []
  | won (phase : thread.phase = .loaded permits) :
      Advance permits thread .compareExchange (permits - 1) { thread with phase := .admitted } []
  | lost {current : Int} (phase : thread.phase = .loaded current) (stale : permits ≠ current) :
      Advance permits thread .compareExchange permits { thread with phase := .acquiring } []
  | spawned (phase : thread.phase = .admitted) :
      Advance permits thread .spawn permits
        { thread with phase := .receiving, runner := .spawned } []
  | called (runner : thread.runner = .spawned) : Advance permits thread .call permits
      { thread with runner := .running } []
  | finished {result : RunnerResult} (runner : thread.runner = .running) :
      Advance permits thread (.finish result) permits { thread with runner := .returned result } []
  | panicked (runner : thread.runner = .running) : Advance permits thread .panic permits
      { thread with runner := .hungUp } []
  | sent {result : RunnerResult} (runner : thread.runner = .returned result) :
      Advance permits thread .send permits { thread with runner := .sent result } []
  | received {result : RunnerResult} (phase : thread.phase = .receiving)
      (runner : thread.runner = .sent result) :
      Advance permits thread .receive permits
        { thread with phase := .judged (RunnerResult.outcome result) } []
  | disconnected (phase : thread.phase = .receiving) (runner : thread.runner = .hungUp) :
      Advance permits thread .disconnect permits { thread with phase := .judged .timedOut } []
  | elapsed (phase : thread.phase = .receiving) (silent : thread.runner.Silent) :
      Advance permits thread .timeout permits { thread with phase := .judged .timedOut } []
  | released {outcome : NodeOutcome} (phase : thread.phase = .judged outcome) :
      Advance permits thread .release (permits + 1) { thread with phase := .released outcome } []
  | pushed {outcome : NodeOutcome} (phase : thread.phase = .released outcome) :
      Advance permits thread .push permits { thread with phase := .ended outcome }
        [⟨thread.node.label, outcome⟩]

theorem advance_of_some {permits after : Int} {thread advanced : NodeThread} {event : NodeEvent}
    {pushed : List NodeRunResult}
    (advances : thread.advance permits event = some (after, advanced, pushed)) :
    Advance permits thread event after advanced pushed := by
  revert advances
  fun_cases NodeThread.advance permits thread event with
  | case1 phase empty =>
    rintro ⟨⟩
    exact .slept phase empty
  | case2 phase some =>
    rintro ⟨⟩
    exact .loaded phase some
  | case4 phase =>
    rintro ⟨⟩
    exact .won phase
  | case5 current phase stale =>
    rintro ⟨⟩
    exact .lost phase stale
  | case7 phase =>
    rintro ⟨⟩
    exact .spawned phase
  | case9 runner =>
    rintro ⟨⟩
    exact .called runner
  | case11 result runner =>
    rintro ⟨⟩
    exact .finished runner
  | case13 runner =>
    rintro ⟨⟩
    exact .panicked runner
  | case15 result runner =>
    rintro ⟨⟩
    exact .sent runner
  | case17 result runner phase =>
    rintro ⟨⟩
    exact .received phase runner
  | case19 runner phase =>
    rintro ⟨⟩
    exact .disconnected phase runner
  | case21 phase silent =>
    rintro ⟨⟩
    exact .elapsed phase silent
  | case24 outcome phase =>
    rintro ⟨⟩
    exact .released phase
  | case26 outcome phase =>
    rintro ⟨⟩
    exact .pushed phase
  | _ => exact nofun

theorem Fanout.step_cases {fanout next : Fanout} {index : Nat} {event : NodeEvent}
    (stepped : fanout.step (index, event) = some next) :
    ∃ thread permits advanced pushed, fanout.threads[index]? = some thread ∧
      Advance fanout.permits thread event permits advanced pushed ∧
      next = ⟨permits, fanout.threads.set index advanced, fanout.results ++ pushed⟩ := by
  simp only [Fanout.step, Option.bind_eq_bind, Option.bind_eq_some_iff, Option.pure_def,
    Option.some.injEq] at stepped
  obtain ⟨thread, listed, ⟨permits, advanced, pushed⟩, advances, rfl⟩ := stepped
  exact ⟨thread, permits, advanced, pushed, listed, advance_of_some advances, rfl⟩

/-- The thread has taken a permit and not returned it. -/
def NodePhase.holdsPermit : NodePhase → Bool
  | admitted | receiving | judged _ => true
  | acquiring | loaded _ | released _ | ended _ => false

/-- The outcome of a node, from when its thread knows it. -/
def NodePhase.outcome? : NodePhase → Option NodeOutcome
  | judged outcome | released outcome | ended outcome => some outcome
  | acquiring | loaded _ | admitted | receiving => none

/-- The result that the thread has pushed. -/
def NodeThread.pushed? (thread : NodeThread) : Option NodeRunResult :=
  match thread.phase with
  | .ended outcome => some ⟨thread.node.label, outcome⟩
  | _ => none

/-- The counter was above zero when it was read, and a thread that waits has its runner thread. -/
structure NodeThread.Sound (thread : NodeThread) : Prop where
  loaded : ∀ current, thread.phase = .loaded current → 0 < current
  spawned : thread.phase = .receiving → thread.runner ≠ .unspawned

section Advance
variable {permits after : Int} {thread advanced : NodeThread} {event : NodeEvent}
  {pushed : List NodeRunResult}

theorem Advance.permits_kept (advances : Advance permits thread event after advanced pushed) :
    after + (if advanced.phase.holdsPermit then 1 else 0 : Nat) =
      permits + (if thread.phase.holdsPermit then 1 else 0 : Nat) := by
  cases advances <;> simp [NodePhase.holdsPermit, *]

theorem Advance.nonneg (advances : Advance permits thread event after advanced pushed)
    (sound : thread.Sound) (nonneg : 0 ≤ permits) : 0 ≤ after := by
  cases advances with
  | won phase =>
    have positive := sound.loaded permits phase
    omega
  | released phase => omega
  | _ => exact nonneg

theorem Advance.sound (advances : Advance permits thread event after advanced pushed)
    (sound : thread.Sound) (nonneg : 0 ≤ permits) : advanced.Sound := by
  cases advances with
  | slept phase empty => exact sound
  | loaded phase some =>
    refine ⟨?_, nofun⟩
    intro current same
    obtain rfl := NodePhase.loaded.inj same
    omega
  | spawned phase => exact ⟨nofun, fun _ => nofun⟩
  | called runner | finished runner | panicked runner | sent runner =>
    exact ⟨sound.loaded, fun _ => nofun⟩
  | won phase | lost phase stale | received phase runner | disconnected phase runner
  | elapsed phase silent
  | released phase | pushed phase => exact ⟨nofun, nofun⟩

theorem Advance.node (advances : Advance permits thread event after advanced pushed) :
    advanced.node = thread.node := by
  cases advances <;> rfl

theorem Advance.pushed_results (advances : Advance permits thread event after advanced pushed) :
    advanced.pushed?.toList = thread.pushed?.toList ++ pushed := by
  cases advances <;> simp [NodeThread.pushed?, *]

/-- A thread leaves its runner call behind only by a timeout. -/
theorem Advance.waiting (advances : Advance permits thread event after advanced pushed)
    (patient : event = .timeout → ¬ thread.runner.StillRunning)
    (waits : thread.runner.StillRunning → thread.phase = .receiving) :
    advanced.runner.StillRunning → advanced.phase = .receiving := by
  intro running
  cases advances with
  | slept phase empty => exact waits running
  | loaded phase _ | won phase | lost phase _ | released phase | pushed phase =>
    rw [phase] at waits
    cases waits running
  | spawned phase => rfl
  | called runner =>
    rw [runner] at waits
    exact waits trivial
  | finished runner | panicked runner | sent runner => cases running
  | received phase runner | disconnected phase runner =>
    rw [runner] at running
    cases running
  | elapsed phase silent => exact absurd running (patient rfl)

end Advance

namespace Fanout

/-- The permits taken and left add up, and every pushed result is that of an ended thread. -/
structure Sound (plan : FleetPlan) (fanout : Fanout) : Prop where
  permits : fanout.permits + (fanout.threads.countP (·.phase.holdsPermit) : Int) =
    plan.maxConcurrency.toNat
  nonneg : 0 ≤ fanout.permits
  threads : ∀ thread ∈ fanout.threads, thread.Sound
  nodes : fanout.threads.map (·.node) = plan.testNodes
  results : fanout.results.Perm (fanout.threads.filterMap NodeThread.pushed?)

theorem start_sound (plan : FleetPlan) : (start plan).Sound plan where
  permits := by simp [start, NodeThread.new, NodePhase.holdsPermit, List.countP_eq_zero.mpr]
  nonneg := by simp [start]
  threads := by
    intro thread present
    obtain ⟨node, -, rfl⟩ := List.mem_map.mp present
    exact ⟨nofun, nofun⟩
  nodes := by simp [start, NodeThread.new, Function.comp_def]
  results := by simp [start, NodeThread.new, NodeThread.pushed?]

theorem step_sound {plan : FleetPlan} {fanout next : Fanout} {action : Nat × NodeEvent}
    (stepped : fanout.step action = some next) (sound : fanout.Sound plan) : next.Sound plan := by
  obtain ⟨thread, permits, advanced, pushed, listed, advances, rfl⟩ := step_cases stepped
  have threadSound := sound.threads thread (List.mem_of_getElem? listed)
  obtain ⟨rest, before, after⟩ := exists_rest_of_set listed advanced
  refine ⟨?_, advances.nonneg threadSound sound.nonneg, ?_, ?_, ?_⟩
  · have kept := advances.permits_kept
    have total := sound.permits
    rw [before.countP_eq, List.countP_cons, Int.natCast_add] at total
    dsimp only
    rw [after.countP_eq, List.countP_cons, Int.natCast_add]
    omega
  · intro other present
    rcases List.mem_or_eq_of_mem_set present with same | rfl
    · exact sound.threads other same
    · exact advances.sound threadSound sound.nonneg
  · rw [map_set_of_eq listed advances.node]
    exact sound.nodes
  · have earlier := sound.results.trans (before.filterMap NodeThread.pushed?)
    refine .trans ?_ (after.filterMap NodeThread.pushed?).symm
    rw [List.filterMap_eq_flatMap_toList, List.flatMap_cons] at earlier ⊢
    rw [advances.pushed_results, List.append_assoc]
    refine (earlier.append_right pushed).trans ?_
    rw [List.append_assoc]
    exact List.perm_append_comm.append_left _

theorem run_sound {plan : FleetPlan} {events : List (Nat × NodeEvent)} {fanout : Fanout}
    (reached : runFrom step (start plan) events = some fanout) : fanout.Sound plan :=
  state_invariant (start_sound plan) (fun _ _ _ => step_sound) reached

theorem Sound.held_le {plan : FleetPlan} {fanout : Fanout} (sound : fanout.Sound plan) :
    fanout.threads.countP (·.phase.holdsPermit) ≤ plan.maxConcurrency.toNat := by
  have total := sound.permits
  have nonneg := sound.nonneg
  omega

/-- A timeout elapses at a node only when its runner call has returned. -/
def Patient (fanout : Fanout) (action : Nat × NodeEvent) : Prop :=
  action.2 = .timeout → ∀ thread, fanout.threads[action.1]? = some thread →
    ¬ thread.runner.StillRunning

/-- The threads whose runner calls have not returned wait for them. -/
def Waiting (fanout : Fanout) : Prop :=
  ∀ thread ∈ fanout.threads, thread.runner.StillRunning → thread.phase = .receiving

theorem start_waiting (plan : FleetPlan) : (start plan).Waiting := by
  intro thread present running
  obtain ⟨node, -, rfl⟩ := List.mem_map.mp present
  cases running

theorem step_waiting {fanout next : Fanout} {action : Nat × NodeEvent}
    (patient : fanout.Patient action) (stepped : fanout.step action = some next)
    (waiting : fanout.Waiting) : next.Waiting := by
  obtain ⟨thread, permits, advanced, pushed, listed, advances, rfl⟩ := step_cases stepped
  intro other present
  rcases List.mem_or_eq_of_mem_set present with same | rfl
  · exact waiting other same
  · refine advances.waiting ?_ (waiting thread (List.mem_of_getElem? listed))
    intro timeout
    exact patient timeout thread listed

/-- No more runner calls are executing than there are permits, when every timeout waits for
its call. -/
theorem running_calls_le_max_concurrency {plan : FleetPlan} {events : List (Nat × NodeEvent)}
    {fanout : Fanout} (reached : runFrom step (start plan) events = some fanout)
    (patient : Throughout step Patient (start plan) events) :
    fanout.runningCalls ≤ plan.maxConcurrency.toNat := by
  have waiting : fanout.Waiting := invariant_throughout (start_waiting plan)
    (fun _ _ _ _ _ allowed => step_waiting allowed) patient reached
  refine Nat.le_trans ?_ (run_sound reached).held_le
  apply List.countP_mono_left
  intro thread present running
  have receives : thread.phase = .receiving := by
    apply waiting thread present
    cases runner : thread.runner with
    | running => trivial
    | _ => simp [runner] at running
  rw [receives]
  rfl

end Fanout

/-- Two test nodes that share one permit. -/
def sharedPermitPlan : FleetPlan where
  nodes := [⟨"node-slow0001", .testNode⟩, ⟨"node-slow0002", .testNode⟩]
  maxConcurrency := 1
  perNodeTimeoutSecs := 1

def admission (index : Nat) : List (Nat × NodeEvent) :=
  [(index, .load), (index, .compareExchange), (index, .spawn), (index, .call)]

/-- The first call is executing and the other node waits for the permit. -/
def sharedPermitTaken : Fanout where
  permits := 0
  threads :=
    [⟨⟨"node-slow0001", .testNode⟩, .receiving, .running⟩, .new ⟨"node-slow0002", .testNode⟩]
  results := []

/-- The first node has timed out and both calls are executing. -/
def sharedPermitTwice : Fanout where
  permits := 0
  threads := [⟨⟨"node-slow0001", .testNode⟩, .released .timedOut, .running⟩,
    ⟨⟨"node-slow0002", .testNode⟩, .receiving, .running⟩]
  results := []

namespace Fanout

theorem running_calls_le_max_concurrency_shared : sharedPermitTaken.runningCalls ≤ 1 := by
  have reached : runFrom step (start sharedPermitPlan) (admission 0) = some sharedPermitTaken := rfl
  refine running_calls_le_max_concurrency reached ?_
  exact .cons nofun rfl (.cons nofun rfl (.cons nofun rfl (.cons nofun rfl .nil)))

/-- A runner call that outlives its timeout runs on beside the next one. -/
theorem timed_out_call_runs_on :
    sharedPermitPlan.validate = .ok () ∧
      runFrom step (start sharedPermitPlan)
        (admission 0 ++ [(0, .timeout), (0, .release)] ++ admission 1) =
        some sharedPermitTwice ∧
      ¬ sharedPermitTwice.runningCalls ≤ sharedPermitPlan.maxConcurrency.toNat :=
  ⟨rfl, rfl, by decide⟩

end Fanout

end FragglePacket.NetworkTests
