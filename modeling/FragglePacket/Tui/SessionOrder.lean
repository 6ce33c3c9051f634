import FragglePacket.Lists.Update
import FragglePacket.Systems.Channel
import FragglePacket.Tui.TestSession
import Mathlib.Data.Rat.Cast.Order
import Mathlib.Tactic.Positivity
import Mathlib.Tactic.FieldSimp

/-! Whatever the order of its threads, a test session tells the interface of one target after
another. -/

namespace FragglePacket.Tui

open FragglePacket.Lists FragglePacket.Systems

/-- How far a session has come that tests one target after another. -/
structure Stage where
  started : Nat
  /-- The targets whose results are in, the earliest first. -/
  done : List Nat
  /-- A target has been counted, and its result is not in. -/
  reporting : Bool
  closed : Bool

def Stage.first : Stage := ⟨0, [], false, false⟩

def Stage.count (stage : Stage) : Nat := stage.done.length + if stage.reporting then 1 else 0

section Protocol
variable (targets : List TargetSpec) (outcome : Nat → Option TestRunnerResult)

/-- The updates that may come at a stage, and what they lead to. -/
inductive Tells (stage : Stage) : TestUpdate → Stage → Prop
  | started {target : TargetSpec} (going : stage.closed = false)
      (listed : targets[stage.started]? = some target) :
      Tells stage (.started target.1) { stage with started := stage.started + 1 }
  | progress {name : String} (going : stage.closed = false) (quiet : stage.reporting = false)
      (room : stage.done.length < targets.length) :
      Tells stage (.progress name ((stage.done.length + 1 : Nat) / targets.length))
        { stage with reporting := true }
  | complete {index : Nat} {result : TestRunnerResult} (going : stage.closed = false)
      (reporting : stage.reporting = true)
      (begun : index < stage.started) (fresh : index ∉ stage.done)
      (resulted : outcome index = some result) :
      Tells stage (.complete index result)
        { stage with done := stage.done ++ [index], reporting := false }
  | allComplete (going : stage.closed = false) (quiet : stage.reporting = false)
      (all : ∀ index < targets.length, index ∈ stage.done ∨ outcome index = none) :
      Tells stage .allComplete { stage with closed := true }

/-- The row of a target, when the results of some are in. -/
def rowAt (done : List Nat) (index : Nat) (target : TargetSpec) : TargetResult :=
  match outcome index with
  | some result =>
    if index ∈ done then (TargetResult.pending target).fill result else .pending target
  | none => .pending target

def rowsAt (done : List Nat) : List TargetResult := targets.mapIdx (rowAt outcome done)

/-- The MTUs that the targets' results have put into the history. -/
def historyMtus (done : List Nat) : List Nat :=
  done.filterMap fun index => (outcome index).bind TestRunnerResult.historyMtu

/-- The interface shows what the stage says. `before` is what it showed when the session began. -/
structure Shows (before app : AppState) (stage : Stage) : Prop where
  results : app.results = rowsAt targets outcome stage.done
  filled : app.results.countP (·.status ≠ .pending) = stage.done.length
  testing : app.testing = !stage.closed
  progress : app.progress = if stage.closed then 1 else (stage.count : ℚ) / targets.length
  target : stage.closed = true → app.currentTarget = ""
  all : stage.closed = true → ∀ index < targets.length, index ∈ stage.done ∨ outcome index = none
  verdict : app.verdict =
    if stage.closed then
      (verdictOf ((rowsAt targets outcome stage.done).filterMap TargetResult.mtu)).or before.verdict
    else before.verdict
  history : app.mtuHistory = (historyMtus outcome stage.done).foldl pushHistory before.mtuHistory
  begun : stage.started ≤ targets.length
  within : stage.count ≤ targets.length

variable {targets outcome}

theorem rowsAt_nil : rowsAt targets outcome [] = targets.map TargetResult.pending := by
  apply List.ext_getElem
  · simp [rowsAt]
  · intro index _ _
    cases resulted : outcome index <;> simp [rowsAt, rowAt, resulted]

theorem rowsAt_append {done : List Nat} {index : Nat} {result : TestRunnerResult}
    (inside : index < targets.length) (fresh : index ∉ done)
    (resulted : outcome index = some result) :
    (rowsAt targets outcome done)[index]? = some (.pending targets[index]) ∧
      (rowsAt targets outcome done).set index ((TargetResult.pending targets[index]).fill result) =
        rowsAt targets outcome (done ++ [index]) := by
  constructor
  · simp [rowsAt, rowAt, resulted, fresh, inside]
  · apply List.ext_getElem
    · simp [rowsAt]
    · intro other _ _
      by_cases own : index = other
      · subst own
        simp [rowsAt, rowAt, resulted]
      · simp [rowsAt, rowAt, own, Ne.symm own]

theorem historyMtus_append {done : List Nat} {index : Nat} {result : TestRunnerResult}
    (resulted : outcome index = some result) :
    historyMtus outcome (done ++ [index]) =
      historyMtus outcome done ++ result.historyMtu.toList := by
  rw [historyMtus, List.filterMap_append, historyMtus]
  congr 1
  cases found : result.historyMtu <;> simp [resulted, found]

/-- The interface follows every update of the protocol. -/
theorem Shows.handle {before app : AppState} {stage next : Stage} {update : TestUpdate}
    (told : Tells targets outcome stage update next)
    (shown : Shows targets outcome before app stage) :
    Shows targets outcome before (app.handle update) next := by
  cases told with
  | started going listed =>
    have begun : stage.started < targets.length := (List.getElem?_eq_some_iff.mp listed).1
    exact { shown with target := by simp [going], all := by simp [going], begun := begun }
  | progress going quiet room =>
    exact { shown with
      progress := by simp [AppState.handle, going, Stage.count]
      within := by simpa [Stage.count] using Nat.succ_le_of_lt room }
  | @complete index result going reporting begun fresh resulted =>
    have inside : index < targets.length := Nat.lt_of_lt_of_le begun shown.begun
    obtain ⟨listed, filled⟩ := rowsAt_append inside fresh resulted
    have counted : stage.done.length + 1 = stage.count := by simp [Stage.count, reporting]
    have handled : app.handle (.complete index result) =
        { app with
          results := rowsAt targets outcome (stage.done ++ [index])
          mtuHistory := (result.historyMtu.map (pushHistory app.mtuHistory)).getD
            app.mtuHistory } := by
      rw [AppState.handle, shown.results, listed, ← filled]
    rw [handled]
    refine
      { shown with
        results := rfl, filled := ?_, progress := ?_, all := by
          simp [going], verdict := ?_, history := ?_
        within := ?_ }
    · obtain ⟨rest, earlier, later⟩ :=
        exists_rest_of_set listed ((TargetResult.pending targets[index]).fill result)
      have before := shown.filled
      rw [shown.results, earlier.countP_eq,
        List.countP_cons_of_neg (by simp [TargetResult.pending])] at before
      rw [← filled, later.countP_eq, List.countP_cons_of_pos, before, List.length_append,
        List.length_singleton]
      simp only [TargetResult.fill]
      split_ifs <;> simp
    · rw [shown.progress, ← counted]
      simp [going, Stage.count]
    · simp only [shown.verdict, going, Bool.false_eq_true, if_false]
    · rw [historyMtus_append resulted, List.foldl_append, ← shown.history]
      cases result.historyMtu <;> rfl
    · simpa [Stage.count, reporting] using shown.within
  | allComplete going quiet all =>
    refine { shown with testing := rfl, progress := rfl, target := fun _ => rfl, all := fun _ =>
                          all, verdict := ?_ }
    simp only [AppState.handle, shown.results, shown.verdict, going, Bool.false_eq_true,
      if_false, if_true]

end Protocol

namespace Session

section Moves
variable (targets : List TargetSpec) (outcome : Nat → Option TestRunnerResult)

/-- Everything that an event can do to a session. -/
inductive Moves (session : Session) : SessionEvent → Session → Prop
  | announced {target : TargetSpec} (listed : targets[session.next]? = some target)
      (phase : session.workers[session.next]? = some .unannounced) :
      Moves session .announce { session with
        workers := session.workers.set session.next .announced
        queue := session.queue ++ [.started target.1] }
  | spawned (phase : session.workers[session.next]? = some .announced) :
      Moves session .spawn { session with
        workers := session.workers.set session.next .testing, next := session.next + 1 }
  | counted {index : Nat} {result : TestRunnerResult} (resulted : outcome index = some result)
      (phase : session.workers[index]? = some .testing) (free : session.holder = none) :
      Moves session (.count index) { session with
        workers := session.workers.set index .counted
        completed := session.completed + 1
        holder := some index
        queue := session.queue ++ [.progress result.target
          ((session.completed + 1 : Nat) / targets.length)] }
  | sent {index : Nat} {result : TestRunnerResult} (resulted : outcome index = some result)
      (phase : session.workers[index]? = some .counted) :
      Moves session (.send index) { session with
        workers := session.workers.set index .ended
        holder := none
        queue := session.queue ++ [.complete index result] }
  | panicked {index : Nat} (phase : session.workers[index]? = some .testing)
      (fails : outcome index = none) :
      Moves session (.panic index) { session with workers := session.workers.set index .panicked }
  | joined (all : ∀ phase ∈ session.workers, WorkerPhase.joined phase = true)
      (unsaid : session.allSent = false) :
      Moves session .join { session with allSent := true, queue := session.queue ++ [.allComplete] }
  | received {update : TestUpdate} {rest : List TestUpdate}
      (queued : session.queue = update :: rest) :
      Moves session .receive { session with queue := rest, app := session.app.handle update }

variable {targets outcome}

theorem moves_of_some {session next : Session} {event : SessionEvent}
    (stepped : session.step targets outcome event = some next) :
    Moves targets outcome session event next := by
  cases event with
  | announce =>
    simp only [step, Option.bind_eq_bind, Option.bind_eq_some_iff, Option.ite_none_right_eq_some,
      Option.some.injEq] at stepped
    obtain ⟨target, listed, phase, rfl⟩ := stepped
    exact .announced listed phase
  | spawn =>
    simp only [step, Option.ite_none_right_eq_some, Option.some.injEq] at stepped
    obtain ⟨phase, rfl⟩ := stepped
    exact .spawned phase
  | count index =>
    simp only [step, Option.bind_eq_bind, Option.bind_eq_some_iff, Option.ite_none_right_eq_some,
      Option.some.injEq] at stepped
    obtain ⟨result, resulted, ⟨phase, free⟩, rfl⟩ := stepped
    exact .counted resulted phase free
  | send index =>
    simp only [step, Option.bind_eq_bind, Option.bind_eq_some_iff, Option.ite_none_right_eq_some,
      Option.some.injEq] at stepped
    obtain ⟨result, resulted, phase, rfl⟩ := stepped
    exact .sent resulted phase
  | panic index =>
    simp only [step, Option.ite_none_right_eq_some, Option.some.injEq] at stepped
    obtain ⟨⟨phase, fails⟩, rfl⟩ := stepped
    exact .panicked phase fails
  | join =>
    simp only [step, Option.ite_none_right_eq_some, Option.some.injEq, List.all_eq_true] at stepped
    obtain ⟨⟨all, unsaid⟩, rfl⟩ := stepped
    exact .joined all unsaid
  | receive =>
    cases queued : session.queue with
    | nil => simp [step, queued] at stepped
    | cons update rest =>
      simp only [step, queued, Option.some.injEq] at stepped
      subst stepped
      exact .received queued

/-- A phase that the thread of a target can be in. -/
inductive Fits (outcome : Nat → Option TestRunnerResult) (next : Nat) (holder : Option Nat)
    (index : Nat) : WorkerPhase → Prop
  | unannounced (ahead : next ≤ index) : Fits outcome next holder index .unannounced
  | announced (here : index = next) : Fits outcome next holder index .announced
  | testing (behind : index < next) : Fits outcome next holder index .testing
  | counted (behind : index < next) (resulted : outcome index ≠ none)
      (holds : holder = some index) :
      Fits outcome next holder index .counted
  | ended (behind : index < next) (resulted : outcome index ≠ none) :
      Fits outcome next holder index .ended
  | panicked (behind : index < next) (fails : outcome index = none) :
      Fits outcome next holder index .panicked

theorem Fits.behind {nextTarget index : Nat} {holder : Option Nat} {phase : WorkerPhase}
    (fits : Fits outcome nextTarget holder index phase) (begun : phase ≠ .unannounced)
    (spawned : phase ≠ .announced) :
    index < nextTarget := by
  cases fits with
  | unannounced ahead => exact absurd rfl begun
  | announced here => exact absurd rfl spawned
  | testing behind => exact behind
  | counted behind _ _ => exact behind
  | ended behind _ => exact behind
  | panicked behind _ => exact behind

/-- The threads' phases agree with the coordinator's place, the mutex and the outcomes. -/
structure Sound (targets : List TargetSpec) (outcome : Nat → Option TestRunnerResult)
    (session : Session) :
    Prop where
  length : session.workers.length = targets.length
  fits : ∀ index phase, session.workers[index]? = some phase →
    Fits outcome session.next session.holder index phase
  held : ∀ index, session.holder = some index → session.workers[index]? = some .counted
  closed : session.allSent = true → ∀ phase ∈ session.workers, WorkerPhase.joined phase = true

theorem start_sound (app : AppState) : Sound targets outcome (start targets app) where
  length := by simp [start]
  fits := by
    intro index phase listed
    obtain ⟨target, -, rfl⟩ := List.mem_map.mp (List.mem_of_getElem? listed)
    exact .unannounced (Nat.zero_le index)
  held := by simp [start]
  closed := by simp [start]

/-- A session whose threads are not all joined has not said that they are. -/
theorem Sound.going {session : Session} {index : Nat} {phase : WorkerPhase}
    (sound : Sound targets outcome session) (listed : session.workers[index]? = some phase)
    (busy : WorkerPhase.joined phase = false) : session.allSent = false := by
  by_contra said
  have joined := sound.closed (by simpa using said) phase (List.mem_of_getElem? listed)
  simp [busy] at joined

/-- One thread that is not joined moves on, and what the others' phases rest on is kept. -/
theorem Sound.advance {session : Session} {index nextTarget completed : Nat} {holder : Option Nat}
    {old new : WorkerPhase} {queue : List TestUpdate} (sound : Sound targets outcome session)
    (listed : session.workers[index]? = some old) (busy : WorkerPhase.joined old = false)
    (mine : Fits outcome nextTarget holder index new)
    (others : ∀ other phase, other ≠ index → Fits outcome session.next session.holder other phase →
      Fits outcome nextTarget holder other phase)
    (held : ∀ other, holder = some other →
      other = index ∧ new = .counted ∨ other ≠ index ∧ session.holder = some other) :
    Sound targets outcome
      { session with
        workers := session.workers.set index new
        next := nextTarget
        completed := completed
        holder := holder
        queue := queue } where
  length := by simpa using sound.length
  fits := by
    intro other phase listed
    rcases getElem?_of_set listed with ⟨rfl, rfl⟩ | ⟨different, listed⟩
    · exact mine
    · exact others other phase different (sound.fits other phase listed)
  held := by
    intro other holds
    obtain ⟨inside, -⟩ := List.getElem?_eq_some_iff.mp listed
    rcases held other holds with ⟨rfl, rfl⟩ | ⟨different, before⟩
    · simp [inside]
    · simpa [List.getElem?_set_ne (Ne.symm different)] using sound.held other before
  closed := by simp [sound.going listed busy]

/-- The mutex stays with its holder when another thread moves on. -/
theorem Sound.held_of_ne {session : Session} {index : Nat} {old new : WorkerPhase}
    (sound : Sound targets outcome session) (listed : session.workers[index]? = some old)
    (free : old ≠ .counted) (other : Nat) (holds : session.holder = some other) :
    other = index ∧ new = .counted ∨ other ≠ index ∧ session.holder = some other := by
  refine Or.inr ⟨?_, holds⟩
  rintro rfl
  exact free (Option.some.inj (listed.symm.trans (sound.held other holds)))

theorem Moves.sound {session next : Session} {event : SessionEvent}
    (moves : Moves targets outcome session event next) (sound : Sound targets outcome session) :
    Sound targets outcome next := by
  cases moves with
  | announced listed phase =>
    exact sound.advance phase rfl (.announced rfl) (fun _ _ _ fits => fits)
      (sound.held_of_ne phase (by simp))
  | spawned phase =>
    refine sound.advance phase rfl (.testing (Nat.lt_succ_self session.next)) ?_
      (sound.held_of_ne phase (by simp))
    intro other otherPhase different fits
    cases fits with
    | unannounced ahead => exact .unannounced (Nat.lt_of_le_of_ne ahead (Ne.symm different))
    | announced here => exact absurd here different
    | testing behind => exact .testing (Nat.lt_succ_of_lt behind)
    | counted behind resulted holds => exact .counted (Nat.lt_succ_of_lt behind) resulted holds
    | ended behind resulted => exact .ended (Nat.lt_succ_of_lt behind) resulted
    | panicked behind fails => exact .panicked (Nat.lt_succ_of_lt behind) fails
  | @counted index result resulted phase free =>
    have behind := (sound.fits index _ phase).behind (by simp) (by simp)
    refine sound.advance phase rfl (.counted behind (by simp [resulted]) rfl) ?_ ?_
    · intro other otherPhase different fits
      cases fits with
      | unannounced ahead => exact .unannounced ahead
      | announced here => exact .announced here
      | testing behind => exact .testing behind
      | counted _ _ holds => simp [free] at holds
      | ended behind resulted => exact .ended behind resulted
      | panicked behind fails => exact .panicked behind fails
    · intro other holds
      exact Or.inl ⟨(Option.some.inj holds).symm, rfl⟩
  | @sent index result resulted phase =>
    have fits := sound.fits index _ phase
    have behind := fits.behind (by simp) (by simp)
    refine sound.advance phase rfl (.ended behind (by simp [resulted])) ?_ (by simp)
    intro other otherPhase different otherFits
    cases otherFits with
    | unannounced ahead => exact .unannounced ahead
    | announced here => exact .announced here
    | testing behind => exact .testing behind
    | counted _ _ holds =>
      cases fits with
      | counted _ _ mine => exact absurd (Option.some.inj (holds.symm.trans mine)) different
    | ended behind resulted => exact .ended behind resulted
    | panicked behind fails => exact .panicked behind fails
  | @panicked index phase fails =>
    have behind := (sound.fits index _ phase).behind (by simp) (by simp)
    exact sound.advance phase rfl (.panicked behind fails) (fun _ _ _ fits => fits)
      (sound.held_of_ne phase (by simp))
  | joined all unsaid => exact { sound with closed := fun _ => all }
  | received queued => exact ⟨sound.length, sound.fits, sound.held, sound.closed⟩

/-- The serial session that has come as far as this one has sent. -/
structure Matches (session : Session) (stage : Stage) : Prop where
  started : stage.started = session.next + if session.workers[session.next]? =
    some .announced then 1 else 0
  nodup : stage.done.Nodup
  ended : ∀ index, index ∈ stage.done ↔ session.workers[index]? = some .ended
  reporting : stage.reporting = session.holder.isSome
  count : session.completed = stage.count
  closed : stage.closed = session.allSent

theorem start_matches (app : AppState) : Matches (start targets app) .first := by
  refine ⟨?_, List.nodup_nil, ?_, rfl, rfl, rfl⟩ <;>
    simp [start, Stage.first, List.getElem?_replicate]

theorem ended_set {workers : List WorkerPhase} {index : Nat} {old : WorkerPhase}
    (listed : workers[index]? = some old) (busy : old ≠ .ended) (new : WorkerPhase) (other : Nat) :
    (workers.set index new)[other]? = some .ended ↔
      workers[other]? = some .ended ∨ other = index ∧ new = .ended := by
  obtain ⟨inside, rfl⟩ := List.getElem?_eq_some_iff.mp listed
  rw [List.getElem?_set]
  by_cases same : index = other
  · subst same
    simp [busy, inside]
  · simp [same, Ne.symm same]

/-- A thread that has been spawned moves on without the coordinator. -/
theorem announced_set {session : Session} {index : Nat} (behind : index < session.next)
    (new : WorkerPhase) :
    (session.workers.set index new)[session.next]? = session.workers[session.next]? :=
  List.getElem?_set_ne (Nat.ne_of_lt behind)

theorem Matches.room {session : Session} {stage : Stage} {index : Nat} {phase : WorkerPhase}
    (matched : Matches session stage) (sound : Sound targets outcome session)
    (listed : session.workers[index]? = some phase) (busy : phase ≠ .ended) :
    stage.done.length < targets.length := by
  have inside : ∀ other ∈ index :: stage.done, other < targets.length := by
    intro other present
    rw [← sound.length]
    rcases List.mem_cons.mp present with rfl | done
    · exact (List.getElem?_eq_some_iff.mp listed).1
    · exact (List.getElem?_eq_some_iff.mp ((matched.ended other).mp done)).1
  have distinct : (index :: stage.done).Nodup := by
    refine List.nodup_cons.mpr ⟨?_, matched.nodup⟩
    intro done
    exact busy (Option.some.inj (listed.symm.trans ((matched.ended index).mp done)))
  have within :=
    (List.subperm_of_subset distinct fun other present => List.mem_range.mpr
      (inside other present)).length_le
  exact Nat.lt_of_succ_le (by simpa using within)

/-- What the serial session says of a move, where the interface is told of it. -/
theorem Moves.matched {session next : Session} {event : SessionEvent} {stage : Stage}
    (moves : Moves targets outcome session event next) (sound : Sound targets outcome session)
    (matched : Matches session stage) :
    ∃ nextStage, Matches next nextStage ∧
      (next.queue = session.queue ∧ next.app = session.app ∧ nextStage = stage ∨
        (∃ update, next.queue = session.queue ++ [update] ∧ next.app = session.app ∧
          Tells targets outcome stage update nextStage) ∨
        ∃ update, session.queue = update :: next.queue ∧ next.app = session.app.handle update ∧
          nextStage = stage) := by
  cases moves with
  | @announced target listed phase =>
    have going : stage.closed = false := matched.closed.trans (sound.going phase rfl)
    have started : stage.started = session.next := by simp [matched.started, phase]
    refine ⟨{ stage with started := stage.started + 1 },
      { matched with started := ?_, ended := ?_ },
      Or.inr (Or.inl ⟨_, rfl, rfl, .started going (started ▸ listed)⟩)⟩
    · simp [started, (List.getElem?_eq_some_iff.mp phase).1]
    · intro index
      simpa [ended_set phase] using matched.ended index
  | spawned phase =>
    refine ⟨stage, { matched with started := ?_, ended := ?_ }, Or.inl ⟨rfl, rfl, rfl⟩⟩
    · have later : session.workers[session.next + 1]? ≠ some .announced := by
        intro announced
        cases sound.fits _ _ announced with
        | announced here => omega
      rw [matched.started, if_pos phase, if_neg]
      simpa using later
    · intro index
      simpa [ended_set phase] using matched.ended index
  | @counted index result resulted phase free =>
    have going : stage.closed = false := matched.closed.trans (sound.going phase rfl)
    have quiet : stage.reporting = false := by rw [matched.reporting, free]; rfl
    have counted : session.completed = stage.done.length := by
      simp [matched.count, Stage.count, quiet]
    have behind := (sound.fits index _ phase).behind (by simp) (by simp)
    refine ⟨{ stage with reporting := true },
      { matched with started := ?_, ended := ?_, reporting := rfl, count := ?_ },
      Or.inr (Or.inl ⟨_, rfl, rfl, counted ▸ .progress going quiet
        (matched.room sound phase (by simp))⟩)⟩
    · rw [announced_set behind]
      exact matched.started
    · intro other
      simpa [ended_set phase] using matched.ended other
    · simp [counted, Stage.count]
  | @sent index result resulted phase =>
    have going : stage.closed = false := matched.closed.trans (sound.going phase rfl)
    have behind := (sound.fits index _ phase).behind (by simp) (by simp)
    have reporting : stage.reporting = true := by
      cases sound.fits index _ phase with
      | counted _ _ holds => rw [matched.reporting, holds]; rfl
    have fresh : index ∉ stage.done := by
      intro done
      have already := (matched.ended index).mp done
      simp [phase] at already
    have begun : index < stage.started :=
      Nat.lt_of_lt_of_le behind (matched.started ▸ Nat.le_add_right _ _)
    refine ⟨{ stage with done := stage.done ++ [index], reporting := false },
      { matched with started := ?_, nodup := ?_, ended := ?_, reporting := rfl, count := ?_ },
      Or.inr (Or.inl ⟨_, rfl, rfl, .complete going reporting begun fresh resulted⟩)⟩
    · rw [announced_set behind]
      exact matched.started
    · simpa using matched.nodup.concat fresh
    · intro other
      simp [ended_set phase, matched.ended other]
    · simp [matched.count, Stage.count, reporting]
  | @panicked index phase fails =>
    have behind := (sound.fits index _ phase).behind (by simp) (by simp)
    refine ⟨stage, { matched with started := ?_, ended := ?_ }, Or.inl ⟨rfl, rfl, rfl⟩⟩
    · rw [announced_set behind]
      exact matched.started
    · intro other
      simpa [ended_set phase] using matched.ended other
  | joined all unsaid =>
    have quiet : stage.reporting = false := by
      rw [matched.reporting, Option.isSome_eq_false_iff, Option.isNone_iff_eq_none]
      by_contra held
      obtain ⟨index, holds⟩ := Option.ne_none_iff_exists'.mp held
      have joined := all _ (List.mem_of_getElem? (sound.held index holds))
      cases joined
    refine ⟨{ stage with closed := true }, { matched with closed := rfl },
      Or.inr (Or.inl ⟨_, rfl, rfl, .allComplete (matched.closed.trans unsaid) quiet ?_⟩)⟩
    intro index inside
    rw [← sound.length] at inside
    have listed : session.workers[index]? = some session.workers[index] :=
      List.getElem?_eq_getElem inside
    cases phase : session.workers[index] with
    | ended => exact Or.inl ((matched.ended index).mpr (listed.trans (congrArg some phase)))
    | panicked =>
      cases sound.fits index _ (listed.trans (congrArg some phase)) with
      | panicked _ fails => exact Or.inr fails
    | _ =>
      have joined := all _ (List.mem_of_getElem? (listed.trans (congrArg some phase)))
      cases joined
  | received queued => exact ⟨stage, { matched with }, Or.inr (Or.inr ⟨_, queued, rfl, rfl⟩)⟩

/-- The interface is behind a serial session by the updates in the channel. -/
structure Follows (targets : List TargetSpec) (outcome : Nat → Option TestRunnerResult)
    (before : AppState) (session : Session) : Prop where
  sound : Sound targets outcome session
  serial : ∃ stage, Matches session stage ∧
    InStep (Tells targets outcome) (Shows targets outcome before) session.app session.queue stage

theorem start_follows (before : AppState) :
    Follows targets outcome before (start targets before) where
  sound := start_sound before
  serial := by
    refine ⟨.first, start_matches before, Stage.first, ?_, .nil Stage.first⟩
    refine ⟨?_, ?_, rfl, ?_, ?_, ?_, rfl, rfl, Nat.zero_le _, Nat.zero_le _⟩
    · exact rowsAt_nil.symm
    · simp [start, Stage.first, TargetResult.pending, List.countP_map]
    · simp [start, Stage.first, Stage.count]
    · simp [Stage.first]
    · simp [Stage.first]

theorem Moves.follows {before : AppState} {session next : Session} {event : SessionEvent}
    (moves : Moves targets outcome session event next)
    (follows : Follows targets outcome before session) :
    Follows targets outcome before next := by
  obtain ⟨stage, matched, inStep⟩ := follows.serial
  obtain ⟨nextStage, nextMatched, told⟩ := moves.matched follows.sound matched
  refine ⟨moves.sound follows.sound, nextStage, nextMatched, ?_⟩
  rcases told with ⟨queue, app, rfl⟩ | ⟨update, queue, app, told⟩ | ⟨update, queue, app, rfl⟩
  · rw [queue, app]
    exact inStep
  · rw [queue, app]
    exact inStep.send told
  · rw [queue] at inStep
    rw [app]
    exact inStep.receive fun _ _ told shown => shown.handle told

theorem run_follows {before : AppState} {events : List SessionEvent} {session : Session}
    (reached : runFrom (step targets outcome) (start targets before) events = some session) :
    Follows targets outcome before session :=
  state_invariant (start_follows before)
    (fun _ _ _ stepped follows => (moves_of_some stepped).follows follows) reached

end Moves

end Session

end FragglePacket.Tui
