import Mathlib.Algebra.BigOperators.Group.List.Basic
import Mathlib.Algebra.GroupWithZero.Nat
import FragglePacket.NetworkTests.FleetFanout

/-! What a fleet fan-out returns: one result for each test node, and why a node timed out. -/

namespace FragglePacket.NetworkTests

open FragglePacket.Lists FragglePacket.Systems

/-- Why an outcome is excluded from the aggregates, if it is. -/
def NodeOutcome.reason? : NodeOutcome → Option String
  | completed _ _ => none
  | timedOut => some "timed out"
  | connectionFailed detail => some ("connection failed: " ++ detail)
  | quarantined reason => some ("quarantined: " ++ reason)

def NodeRunResult.isCompleted (result : NodeRunResult) : Bool := result.outcome.reason?.isNone

theorem foldl_record (results : List NodeRunResult) (summary : FleetSummary) :
    results.foldl FleetSummary.record summary =
      ⟨summary.totalNodes, summary.completed + results.countP NodeRunResult.isCompleted,
        summary.excludedWithReason ++ results.filterMap fun result =>
          result.outcome.reason?.map fun reason =>
          (result.label, reason)⟩ := by
  induction results generalizing summary with
  | nil => simp
  | cons result rest ih =>
    rw [List.foldl_cons, ih]
    cases outcome : result.outcome <;>
      simp [FleetSummary.record, NodeRunResult.isCompleted, NodeOutcome.reason?, outcome,
        Nat.add_comm, Nat.add_left_comm]

/-- Completed and excluded results make up the total, and exactly those that did not complete
are excluded. -/
structure FleetSummary.Accounts (summary : FleetSummary) (results : List NodeRunResult) : Prop where
  total : summary.totalNodes = results.length
  adds : summary.completed + summary.excludedWithReason.length = summary.totalNodes
  excluded : summary.excludedWithReason.map (·.1) = (results.filter (! ·.isCompleted)).map (·.label)

theorem summarizeFleetRun_accounts (results : List NodeRunResult) :
    (summarizeFleetRun results).Accounts results := by
  have excluded : (results.filterMap fun result => result.outcome.reason?.map fun reason =>
      (result.label, reason)).map
      (·.1) = (results.filter (! ·.isCompleted)).map (·.label) := by
    induction results with
    | nil => rfl
    | cons result rest ih =>
      cases reason : result.outcome.reason? <;> simp_all [NodeRunResult.isCompleted]
  refine ⟨by simp [summarizeFleetRun, foldl_record], ?_, ?_⟩
  · have counted := congrArg List.length excluded
    rw [List.length_map, List.length_map] at counted
    rw [summarizeFleetRun, foldl_record, List.nil_append, counted, ← List.countP_eq_length_filter,
      Nat.zero_add]
    simpa using (List.length_eq_countP_add_countP NodeRunResult.isCompleted (l := results)).symm
  · rw [summarizeFleetRun, foldl_record, List.nil_append, excluded]

namespace Fanout
variable {plan : FleetPlan} {fanout next : Fanout} {events : List (Nat × NodeEvent)}

theorem Sound.permits_le (sound : fanout.Sound plan) :
    fanout.permits ≤ plan.maxConcurrency.toNat := by
  have total := sound.permits
  omega

theorem Sound.permits_of_ended (sound : fanout.Sound plan) (ended : fanout.Ended) :
    fanout.permits = plan.maxConcurrency.toNat := by
  have none_held : fanout.threads.countP (·.phase.holdsPermit) = 0 := by
    rw [List.countP_eq_zero]
    intro thread present
    obtain ⟨outcome, phase⟩ := ended thread present
    simp [phase, NodePhase.holdsPermit]
  have total := sound.permits
  rw [none_held] at total
  simpa using total

/-- The results of ended threads, as their nodes and outcomes. -/
theorem exists_outcomes {threads : List NodeThread}
    (ended : ∀ thread ∈ threads, ∃ outcome, thread.phase = .ended outcome) :
    ∃ outcomes, threads.map (·.phase) = outcomes.map .ended ∧
      threads.filterMap NodeThread.pushed? =
        List.zipWith (fun node outcome => ⟨node.label, outcome⟩)
          (threads.map (·.node)) outcomes := by
  induction threads with
  | nil => exact ⟨[], rfl, rfl⟩
  | cons thread rest ih =>
    obtain ⟨outcome, phase⟩ := ended thread List.mem_cons_self
    obtain ⟨outcomes, phases, results⟩ :=
      ih fun other later => ended other (List.mem_cons_of_mem thread later)
    have own : thread.pushed? = some ⟨thread.node.label, outcome⟩ := by
      simp [NodeThread.pushed?, phase]
    refine ⟨outcome :: outcomes, ?_, ?_⟩
    · rw [List.map_cons, List.map_cons, phase, phases]
    · rw [List.filterMap_cons_some own, results, List.map_cons, List.zipWith_cons_cons]

/-- The node's timeout elapsed while its runner call had not returned. -/
def ElapsedWhileRunning (plan : FleetPlan) (events : List (Nat × NodeEvent)) (index : Nat) : Prop :=
  ∃ past later mid thread, events = past ++ (index, .timeout) :: later ∧
    runFrom step (start plan) past = some mid ∧
    mid.threads[index]? = some thread ∧ thread.runner.StillRunning

theorem ElapsedWhileRunning.append {index : Nat} (elapsed : ElapsedWhileRunning plan events index)
    (action : Nat × NodeEvent) : ElapsedWhileRunning plan (events ++ [action]) index := by
  obtain ⟨past, later, mid, thread, split, reached, listed, running⟩ := elapsed
  exact ⟨past, later ++ [action], mid, thread, by simp [split], reached, listed, running⟩

/-- Every node that has timed out did so while its call was running. -/
def TimedOutTruly (plan : FleetPlan) (events : List (Nat × NodeEvent)) (fanout : Fanout) : Prop :=
  ∀ index thread, fanout.threads[index]? = some thread → thread.phase.outcome? = some .timedOut →
    ElapsedWhileRunning plan events index

/-- No node reads a channel that a panic has closed, and a timeout elapses only before the
runner call returns. -/
def Truthful (fanout : Fanout) (action : Nat × NodeEvent) : Prop :=
  action.2 ≠ .disconnect ∧
    (action.2 = .timeout → ∀ thread, fanout.threads[action.1]? = some thread →
      thread.runner.StillRunning)

end Fanout

/-- How a thread comes to have timed out. -/
theorem Advance.timedOut {permits after : Int} {thread advanced : NodeThread} {event : NodeEvent}
    {pushed : List NodeRunResult} (advances : Advance permits thread event after advanced pushed)
    (timedOut : advanced.phase.outcome? = some .timedOut) :
    thread.phase.outcome? = some .timedOut ∨ event = .disconnect ∨ event = .timeout := by
  cases advances with
  | slept phase empty => exact Or.inl timedOut
  | called runner | finished runner | panicked runner | sent runner => exact Or.inl timedOut
  | loaded phase _ | won phase | lost phase _ | spawned phase => cases timedOut
  | @received result phase runner =>
    obtain same : RunnerResult.outcome result = .timedOut := Option.some.inj timedOut
    cases result <;> cases same
  | disconnected phase runner => exact Or.inr (Or.inl rfl)
  | elapsed phase silent => exact Or.inr (Or.inr rfl)
  | released phase | pushed phase =>
    left
    rw [phase]
    exact timedOut

namespace Fanout
variable {plan : FleetPlan} {fanout next : Fanout} {events : List (Nat × NodeEvent)}

theorem step_timedOutTruly {action : Nat × NodeEvent}
    (reached : runFrom step (start plan) events = some fanout) (truthful : fanout.Truthful action)
    (stepped : fanout.step action = some next) (truly : fanout.TimedOutTruly plan events) :
    next.TimedOutTruly plan (events ++ [action]) := by
  obtain ⟨thread, permits, advanced, pushed, listed, advances, rfl⟩ := step_cases stepped
  intro index other otherListed timedOut
  rcases getElem?_of_set otherListed with ⟨rfl, rfl⟩ | ⟨different, kept⟩
  · rcases advances.timedOut timedOut with before | disconnected | elapsed
    · exact (truly action.1 thread listed before).append action
    · exact absurd disconnected truthful.1
    · refine ⟨events, [], fanout, thread, ?_, reached, listed, truthful.2 elapsed thread listed⟩
      rw [← elapsed]
  · exact (truly index other kept timedOut).append action

theorem run_timedOutTruly (reached : runFrom step (start plan) events = some fanout)
    (truthful : Throughout step Truthful (start plan) events) :
    fanout.TimedOutTruly plan events := by
  refine invariant_throughout ?_ (fun past mid action next => step_timedOutTruly) truthful reached
  intro index thread listed timedOut
  obtain ⟨node, -, rfl⟩ := List.mem_map.mp (List.mem_of_getElem? listed)
  cases timedOut

/-- How far a node's thread is from its end. -/
def phaseRank : NodePhase → Nat
  | .acquiring | .loaded _ => 5
  | .admitted => 4
  | .receiving => 3
  | .judged _ => 2
  | .released _ => 1
  | .ended _ => 0

def remaining (fanout : Fanout) : Nat :=
  (fanout.threads.map fun thread => phaseRank thread.phase).sum

variable {index : Nat} {thread advanced : NodeThread}

/-- The state that a step of one thread leads to. -/
theorem exists_next {event : NodeEvent} {permits : Int} {pushed : List NodeRunResult}
    (listed : fanout.threads[index]? = some thread)
    (advances : thread.advance fanout.permits event = some (permits, advanced, pushed)) :
    ∃ next, runFrom step fanout [(index, event)] = some next ∧ next.permits = permits ∧
      next.threads[index]? = some advanced ∧
      next.remaining + phaseRank thread.phase = fanout.remaining + phaseRank advanced.phase := by
  obtain ⟨inside, -⟩ := List.getElem?_eq_some_iff.mp listed
  obtain ⟨rest, before, after⟩ := exists_rest_of_set listed advanced
  refine ⟨⟨permits, fanout.threads.set index advanced, fanout.results ++ pushed⟩, ?_, rfl, ?_, ?_⟩
  · simp [runFrom, step, listed, advances]
  · exact List.getElem?_set_self inside
  · rw [remaining, remaining, (before.map _).sum_eq, (after.map _).sum_eq, List.map_cons,
      List.map_cons, List.sum_cons, List.sum_cons]
    omega

/-- A thread that has its permit can always take a step of its own. -/
theorem exists_run_of_admitted (sound : thread.Sound)
    (listed : fanout.threads[index]? = some thread) (admitted : phaseRank thread.phase < 5)
    (going : 0 < phaseRank thread.phase) :
    ∃ later next, runFrom step fanout later = some next ∧ next.remaining < fanout.remaining := by
  have single : ∀ event permits advanced pushed,
      thread.advance fanout.permits event = some (permits, advanced, pushed) →
        phaseRank advanced.phase < phaseRank thread.phase →
          ∃ later next, runFrom step fanout later = some next ∧
            next.remaining < fanout.remaining := by
    intro event permits advanced pushed advances lower
    obtain ⟨next, stepped, -, -, size⟩ := exists_next listed advances
    exact ⟨_, next, stepped, by omega⟩
  cases phase : thread.phase with
  | acquiring | loaded current =>
    rw [phase, phaseRank] at admitted
    omega
  | ended outcome =>
    rw [phase, phaseRank] at going
    omega
  | admitted =>
    exact single .spawn fanout.permits { thread with phase := .receiving, runner := .spawned } []
      (by simp [NodeThread.advance, phase]) (by simp [phase, phaseRank])
  | judged outcome =>
    exact single .release (fanout.permits + 1) { thread with phase := .released outcome } []
      (by simp [NodeThread.advance, phase]) (by simp [phase, phaseRank])
  | released outcome =>
    exact single .push fanout.permits { thread with phase := .ended outcome }
      [⟨thread.node.label, outcome⟩]
      (by simp [NodeThread.advance, phase]) (by simp [phase, phaseRank])
  | receiving =>
    -- the wait ends by the message, by the closed channel, or by the timeout
    cases runner : thread.runner with
    | unspawned => exact absurd runner (sound.spawned phase)
    | sent result =>
      exact single .receive fanout.permits
        { thread with phase := .judged (RunnerResult.outcome result) } []
        (by simp [NodeThread.advance, phase, runner]) (by simp [phase, phaseRank])
    | hungUp =>
      exact single .disconnect fanout.permits { thread with phase := .judged .timedOut } []
        (by simp [NodeThread.advance, phase, runner]) (by simp [phase, phaseRank])
    | spawned | running | returned result =>
      exact single .timeout fanout.permits { thread with phase := .judged .timedOut } []
        (by simp [NodeThread.advance, phase, runner, RunnerPhase.Silent])
          (by simp [phase, phaseRank])

/-- With a permit left, a thread at the top of its loop reads the counter and takes it. -/
theorem exists_run_of_acquiring (listed : fanout.threads[index]? = some thread)
    (acquiring : thread.phase = .acquiring) (left : fanout.permits ≠ 0) :
    ∃ later next, runFrom step fanout later = some next ∧ next.remaining < fanout.remaining := by
  have load : thread.advance fanout.permits .load =
      some (fanout.permits, { thread with phase := .loaded fanout.permits }, []) := by
    simp [NodeThread.advance, acquiring, left]
  obtain ⟨mid, loads, kept, reads, size⟩ := exists_next listed load
  have take : NodeThread.advance mid.permits
      { thread with phase := .loaded fanout.permits } .compareExchange =
      some (fanout.permits - 1, { thread with phase := .admitted }, []) := by
    simp [NodeThread.advance, kept]
  obtain ⟨next, takes, -, -, smaller⟩ := exists_next reads take
  refine ⟨_, next, runFrom_append loads takes, ?_⟩
  simp only [acquiring, phaseRank] at size smaller
  omega

theorem exists_run_of_loaded {current : Int} (listed : fanout.threads[index]? = some thread)
    (loaded : thread.phase = .loaded current) (left : fanout.permits ≠ 0) :
    ∃ later next, runFrom step fanout later = some next ∧ next.remaining < fanout.remaining := by
  by_cases same : fanout.permits = current
  · have take : thread.advance fanout.permits .compareExchange =
        some (current - 1, { thread with phase := .admitted }, []) := by
      simp [NodeThread.advance, loaded, same]
    obtain ⟨next, takes, -, -, smaller⟩ := exists_next listed take
    refine ⟨_, next, takes, ?_⟩
    simp only [loaded, phaseRank] at smaller
    omega
  · have lose : thread.advance fanout.permits .compareExchange =
        some (fanout.permits, { thread with phase := .acquiring }, []) := by
      simp [NodeThread.advance, loaded, same]
    obtain ⟨mid, loses, kept, again, size⟩ := exists_next listed lose
    obtain ⟨later, next, takes, smaller⟩ := exists_run_of_acquiring again rfl (kept ▸ left)
    refine ⟨_, next, runFrom_append loses takes, ?_⟩
    simp only [loaded, phaseRank] at size
    omega

/-- From every state of a fan-out with permits, some continuation ends it, whether or not any
runner call ever returns. -/
theorem exists_run_to_end (sound : fanout.Sound plan) (positive : 0 < plan.maxConcurrency.toNat) :
    ∃ later final, runFrom step fanout later = some final ∧ final.Ended := by
  refine exists_run_to remaining (fun _ _ _ => step_sound) ?_ sound
  intro mid sound going
  by_cases stepping : ∃ thread ∈ mid.threads, phaseRank thread.phase < 5 ∧
    0 < phaseRank thread.phase
  · obtain ⟨thread, present, admitted, unfinished⟩ := stepping
    obtain ⟨index, listed⟩ := List.mem_iff_getElem?.mp present
    exact exists_run_of_admitted (sound.threads thread present) listed admitted unfinished
  · -- nobody holds a permit, so all of them are left
    have idle : mid.threads.countP (·.phase.holdsPermit) = 0 := by
      rw [List.countP_eq_zero]
      intro thread present holds
      refine stepping ⟨thread, present, ?_⟩
      cases phase : thread.phase <;> simp_all [NodePhase.holdsPermit, phaseRank]
    have left : mid.permits ≠ 0 := by
      have total := sound.permits
      omega
    rw [Ended] at going
    push Not at going
    obtain ⟨thread, present, unfinished⟩ := going
    obtain ⟨index, listed⟩ := List.mem_iff_getElem?.mp present
    cases phase : thread.phase with
    | acquiring => exact exists_run_of_acquiring listed phase left
    | loaded current => exact exists_run_of_loaded listed phase left
    | ended outcome => exact absurd phase (unfinished outcome)
    | admitted | receiving | judged outcome | released outcome =>
      exact absurd ⟨thread, present, by simp [phase, phaseRank]⟩ stepping

theorem testNode_of_mem {node : FleetNode} (present : node ∈ plan.testNodes) :
    node.role = .testNode := by
  simpa using (List.mem_filter.mp present).2

theorem positive_of_validate (accepted : plan.validate = .ok ()) :
    0 < plan.maxConcurrency.toNat := by
  apply Nat.pos_of_ne_zero
  intro zero
  have none : plan.maxConcurrency = 0 := UInt32.toNat_inj.mp zero
  rw [FleetPlan.validate, if_pos none] at accepted
  cases accepted

/-- Whatever the interleaving, the permits stay in range, the fan-out can end, and it returns one
result for each test node. Where nothing but an elapsed timeout ends a wait early, only nodes
whose calls were running have timed out. -/
theorem fanout_accounts (accepted : plan.validate = .ok ())
    (reached : runFrom step (start plan) events = some fanout) :
    (0 ≤ fanout.permits ∧ fanout.permits ≤ plan.maxConcurrency.toNat) ∧
    (fanout.Ended → fanout.permits = plan.maxConcurrency.toNat ∧
      (∃ outcomes, fanout.threads.map (·.phase) = outcomes.map .ended ∧
        outcomes.length = plan.testNodes.length ∧
        fanout.results.Perm (List.zipWith (fun node outcome => ⟨node.label, outcome⟩) plan.testNodes
          outcomes)) ∧
      (∀ thread ∈ fanout.threads, thread.node.role = .testNode) ∧
      (summarizeFleetRun fanout.results).Accounts fanout.results) ∧
    (∃ later final, runFrom step fanout later = some final ∧ final.Ended) ∧
    (Throughout step Truthful (start plan) events → fanout.TimedOutTruly plan events) := by
  have sound := run_sound reached
  refine ⟨⟨sound.nonneg, sound.permits_le⟩, ?_,
    exists_run_to_end sound (positive_of_validate accepted), run_timedOutTruly reached⟩
  intro ended
  obtain ⟨outcomes, phases, results⟩ := exists_outcomes ended
  have count : outcomes.length = plan.testNodes.length := by
    rw [← sound.nodes, List.length_map, ← List.length_map (fun thread : NodeThread => thread.phase),
      phases, List.length_map]
  refine ⟨sound.permits_of_ended ended, ⟨outcomes, phases, count, ?_⟩, ?_,
    summarizeFleetRun_accounts fanout.results⟩
  · rw [← sound.nodes, ← results]
    exact sound.results
  · intro thread present
    have planned : thread.node ∈ plan.testNodes := sound.nodes ▸ List.mem_map_of_mem present
    exact testNode_of_mem planned

end Fanout

/-- One test node, whose runner call never returns. -/
def loneNodePlan : FleetPlan where
  nodes := [⟨"node-bastion0", .managementBastion⟩, ⟨"node-slow0001", .testNode⟩]
  maxConcurrency := 1
  perNodeTimeoutSecs := 1

def loneNodeEnded (runner : RunnerPhase) : Fanout where
  permits := 1
  threads := [⟨⟨"node-slow0001", .testNode⟩, .ended .timedOut, runner⟩]
  results := [⟨"node-slow0001", .timedOut⟩]

def panickedRun : List (Nat × NodeEvent) :=
  admission 0 ++ [(0, .panic), (0, .disconnect), (0, .release), (0, .push)]

namespace Fanout

/-- The second node gets the permit of the first, which has timed out, and its call returns. -/
def sharedPermitRun : List (Nat × NodeEvent) :=
  admission 0 ++ [(1, .load), (0, .timeout), (0, .release)] ++ admission 1 ++
    [(0, .push), (1, .finish (.ok (none, none))), (1, .send), (1, .receive), (1, .release),
      (1, .push)]

def sharedPermitEnded : Fanout where
  permits := 1
  threads := [⟨⟨"node-slow0001", .testNode⟩, .ended .timedOut, .running⟩,
    ⟨⟨"node-slow0002", .testNode⟩, .ended (.completed none none), .sent (.ok (none, none))⟩]
  results := [⟨"node-slow0001", .timedOut⟩, ⟨"node-slow0002", .completed none none⟩]

theorem fanout_accounts_elapsed :
    sharedPermitEnded.permits = 1 ∧
      (summarizeFleetRun sharedPermitEnded.results).Accounts sharedPermitEnded.results ∧
      sharedPermitEnded.TimedOutTruly sharedPermitPlan sharedPermitRun := by
  have reached : runFrom step (start sharedPermitPlan) sharedPermitRun =
      some sharedPermitEnded := rfl
  obtain ⟨-, returned, -, truly⟩ := fanout_accounts rfl reached
  have ended : sharedPermitEnded.Ended := by
    intro thread present
    rcases List.mem_pair.mp present with rfl | rfl
    · exact ⟨.timedOut, rfl⟩
    · exact ⟨.completed none none, rfl⟩
  refine ⟨(returned ended).1, (returned ended).2.2.2, truly ?_⟩
  have elapses : Truthful
      ⟨0, [⟨⟨"node-slow0001", .testNode⟩, .receiving, .running⟩,
        ⟨⟨"node-slow0002", .testNode⟩, .acquiring, .unspawned⟩], []⟩ (0, .timeout) := by
    refine ⟨nofun, ?_⟩
    intro _ thread listed
    obtain rfl := Option.some.inj listed
    trivial
  -- every other step is neither a timeout nor a closed channel
  iterate 5 refine .cons ⟨nofun, nofun⟩ rfl ?_
  refine .cons elapses rfl ?_
  iterate 11 refine .cons ⟨nofun, nofun⟩ rfl ?_
  exact .nil

/-- A runner call that panics is reported as a timeout. -/
theorem panicked_call_times_out :
    loneNodePlan.validate = .ok () ∧
      runFrom step (start loneNodePlan) panickedRun = some (loneNodeEnded .hungUp) ∧
      (loneNodeEnded .hungUp).Ended ∧
        ¬ (loneNodeEnded .hungUp).TimedOutTruly loneNodePlan panickedRun := by
  refine ⟨rfl, rfl, ?_, ?_⟩
  · intro thread present
    rw [List.mem_singleton.mp present]
    exact ⟨.timedOut, rfl⟩
  · intro truly
    obtain ⟨past, later, -, -, split, -⟩ := truly 0 _ rfl rfl
    have elapsed : (0, NodeEvent.timeout) ∈ panickedRun := by simp [split]
    simp [panickedRun, admission] at elapsed

end Fanout

end FragglePacket.NetworkTests
