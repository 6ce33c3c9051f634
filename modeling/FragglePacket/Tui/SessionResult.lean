import FragglePacket.Tui.SessionOrder
import Mathlib.Tactic.Linarith

/-! What every test session comes to: its results, its verdict and its progress, and that it
comes to an end. -/

namespace FragglePacket.Tui

open FragglePacket.Lists FragglePacket.Systems

section Result
variable {targets : List TargetSpec} {outcome : Nat → Option TestRunnerResult}

/-- The row that a session leaves for a target. -/
def finalRow (outcome : Nat → Option TestRunnerResult) (index : Nat)
    (target : TargetSpec) : TargetResult :=
  match outcome index with
  | some result => (TargetResult.pending target).fill result
  | none => .pending target

/-- The targets whose worker does not panic. -/
def delivered (targets : List TargetSpec) (outcome : Nat → Option TestRunnerResult) : List Nat :=
  (List.range targets.length).filter fun index => (outcome index).isSome

theorem rowsAt_of_all {done : List Nat}
    (all : ∀ index < targets.length, index ∈ done ∨ outcome index = none) :
    rowsAt targets outcome done = targets.mapIdx (finalRow outcome) := by
  apply List.ext_getElem
  · simp [rowsAt]
  · intro index inside _
    have listed := all index (by simpa [rowsAt] using inside)
    cases resulted : outcome index with
    | none => simp [rowsAt, rowAt, finalRow, resulted]
    | some result =>
      have done : index ∈ done := by simpa [resulted] using listed
      simp [rowsAt, rowAt, finalRow, resulted, done]

/-- The last 20 of the entries. -/
def lastTwenty (entries : List Nat) : List Nat := entries.drop (entries.length - 20)

theorem pushHistory_lastTwenty (entries : List Nat) (mtu : Nat) :
    pushHistory (lastTwenty entries) mtu = lastTwenty (entries ++ [mtu]) := by
  simp only [pushHistory, lastTwenty, List.length_append, List.length_drop, List.length_singleton,
    List.eraseIdx_zero]
  split_ifs with longer
  · rw [← List.drop_append_of_le_length (by omega), List.tail_drop]
    congr 1
    omega
  · rw [← List.drop_append_of_le_length (by omega)]
    congr 1
    omega

theorem foldl_pushHistory {history : List Nat} (short : history.length ≤ 20) (mtus : List Nat) :
    mtus.foldl pushHistory history = lastTwenty (history ++ mtus) := by
  induction mtus using List.reverseRecOn with
  | nil => simp [lastTwenty, Nat.sub_eq_zero_of_le short]
  | append_singleton mtus mtu ih =>
    rw [List.foldl_concat, ih, pushHistory_lastTwenty, List.append_assoc]

theorem length_lastTwenty (entries : List Nat) : (lastTwenty entries).length ≤ 20 := by
  rw [lastTwenty, List.length_drop]
  omega

end Result

/-- The sparkline of a new app. -/
def newHistory : List Nat := List.replicate 20 1500

/-- The sparkline of the demo mode. -/
def demoHistory : List Nat :=
  [1500, 1500, 1500, 1480, 1500, 1500, 1420, 1500, 1500, 1500, 1500, 1460, 1500, 1500, 1500, 1400,
    1500, 1500, 1500, 1500]

/-- A resolver that answers, and a server whose test panics. -/
def officeTargets : List TargetSpec :=
  [("dns.example", "Resolver", 443), ("web.example", "Web", 443)]

def officeOutcome : Nat → Option TestRunnerResult
  | 0 => some ⟨"dns.example", "Resolver", some 1500, none, none, none, some 1460, none⟩
  | _ => none

def idle : AppState := ⟨officeTargets.map .pending, false, 0, "", none, newHistory⟩

/-- The resolver is counted before the server's thread is spawned. -/
def officeFirst : List SessionEvent := [.announce, .spawn, .announce, .count 0, .spawn]

def officeThen : List SessionEvent :=
  [.panic 1, .receive, .send 0, .receive, .receive, .receive, .join, .receive]

namespace Session

section Run
variable {targets : List TargetSpec} {outcome : Nat → Option TestRunnerResult} {before : AppState}
  {session : Session}

/-- The updates of a finished session are all in. -/
theorem Follows.closed (follows : Follows targets outcome before session)
    (closed : session.app.testing = false) :
    ∃ stage, Matches session stage ∧ Shows targets outcome before session.app stage ∧
      stage.closed = true ∧ session.queue = [] := by
  obtain ⟨stage, matched, shown, shows, path⟩ := follows.serial
  have told : shown.closed = true := by simpa [closed] using shows.testing
  have last : ∀ update next, ¬ Tells targets outcome shown update next := by
    intro update next told
    cases told <;> simp_all
  obtain ⟨empty, rfl⟩ := path.eq_nil_of_last last
  exact ⟨stage, matched, shows, told, empty⟩

theorem Matches.done_perm {stage : Stage} (matched : Matches session stage)
    (sound : Sound targets outcome session)
    (all : ∀ index < targets.length, index ∈ stage.done ∨ outcome index = none) :
    stage.done.Perm (delivered targets outcome) := by
  refine (List.perm_ext_iff_of_nodup matched.nodup (List.nodup_range.filter _)).mpr ?_
  intro index
  simp only [List.mem_filter, List.mem_range]
  constructor
  · intro done
    have phase := (matched.ended index).mp done
    cases sound.fits index _ phase with
    | ended _ resulted =>
      rw [← sound.length]
      exact ⟨(List.getElem?_eq_some_iff.mp phase).1, Option.isSome_iff_ne_none.mpr resulted⟩
  · rintro ⟨inside, resulted⟩
    exact (all index inside).resolve_right (Option.isSome_iff_ne_none.mp resulted)

/-- Once every thread has ended and every update is in, nothing more happens. -/
theorem Sound.stuck (sound : Sound targets outcome session) (said : session.allSent = true)
    (empty : session.queue = []) (event : SessionEvent) :
    session.step targets outcome event = none := by
  have joined : ∀ {index phase}, session.workers[index]? = some phase →
      WorkerPhase.joined phase = true :=
    fun listed => sound.closed said _ (List.mem_of_getElem? listed)
  by_contra moved
  obtain ⟨next, stepped⟩ := Option.ne_none_iff_exists'.mp moved
  cases moves_of_some stepped with
  | announced _ phase => cases joined phase
  | spawned phase => cases joined phase
  | counted _ phase _ => cases joined phase
  | sent _ phase => cases joined phase
  | panicked phase _ => cases joined phase
  | joined _ unsaid => simp [said] at unsaid
  | received queued => simp [empty] at queued

/-- The rows of a session that is over. -/
theorem rows_of_over {events : List SessionEvent}
    (reached : runFrom (step targets outcome) (start targets before) events = some session)
    (closed : session.app.testing = false) :
    session.app.results = targets.mapIdx (finalRow outcome) := by
  obtain ⟨stage, -, shows, said, -⟩ := (run_follows reached).closed closed
  exact shows.results.trans (rowsAt_of_all (shows.all said))

/-- The histories an app can have: the one it begins with, and any that a session comes to from
one of them. -/
inductive Kept : List Nat → Prop
  | new : Kept newHistory
  | demo : Kept demoHistory
  | session {targets : List TargetSpec} {outcome : Nat → Option TestRunnerResult}
      {before : AppState}
      {session : Session} {events : List SessionEvent} (kept : Kept before.mtuHistory)
      (reached : runFrom (step targets outcome) (start targets before) events = some session) :
      Kept session.app.mtuHistory

theorem Kept.length_le {history : List Nat} (kept : Kept history) : history.length ≤ 20 := by
  induction kept with
  | new => decide
  | demo => decide
  | session _ reached short =>
    obtain ⟨stage, -, shown, shows, -⟩ := (run_follows reached).serial
    rw [shows.history, foldl_pushHistory short]
    exact length_lastTwenty _

end Run

def officeMid : Session :=
  (runFrom (step officeTargets officeOutcome) (start officeTargets idle) officeFirst).getD
    (start officeTargets idle)

def officeEnd : Session :=
  (runFrom (step officeTargets officeOutcome) officeMid officeThen).getD officeMid

theorem officeMid_reached :
    runFrom (step officeTargets officeOutcome) (start officeTargets idle) officeFirst =
      some officeMid := by decide +kernel

theorem officeEnd_reached : runFrom (step officeTargets officeOutcome) officeMid officeThen =
    some officeEnd := by decide +kernel

/-- The office's second session. -/
def officeAgain : Session :=
  (runFrom (step officeTargets officeOutcome) (start officeTargets officeEnd.app)
    (officeFirst ++ officeThen)).getD officeEnd

theorem officeAgain_reached : runFrom (step officeTargets officeOutcome)
    (start officeTargets officeEnd.app) (officeFirst ++ officeThen) = some officeAgain := by
  decide +kernel

end Session

/-- The share of the targets that the gauge shows at a stage. -/
def Stage.progress (total : Nat) (stage : Stage) : ℚ :=
  if stage.closed then 1 else (stage.count : ℚ) / total

theorem Stage.progress_le_one {total : Nat} {stage : Stage} (within : stage.count ≤ total) :
    stage.progress total ≤ 1 := by
  unfold Stage.progress
  split_ifs
  · exact le_refl 1
  · exact div_le_one_of_le₀ (by exact_mod_cast within) (by positivity)

theorem Tells.progress_le {targets : List TargetSpec} {outcome : Nat → Option TestRunnerResult}
    {stage next : Stage} {update : TestUpdate} (told : Tells targets outcome stage update next)
    (within : stage.count ≤ targets.length) :
    stage.progress targets.length ≤ next.progress targets.length := by
  cases told with
  | started going listed => exact le_refl _
  | progress going quiet room =>
    simp only [Stage.progress, Stage.count, going, quiet, Bool.false_eq_true, if_false, if_true]
    gcongr
    omega
  | complete going reporting begun fresh resulted =>
    simp [Stage.progress, Stage.count, going, reporting]
  | allComplete going quiet all => exact Stage.progress_le_one within

namespace Session

section Gauge
variable {targets : List TargetSpec} {outcome : Nat → Option TestRunnerResult} {before : AppState}

/-- The rows that a result has come for. -/
def tested (app : AppState) : Nat := app.results.countP (·.status ≠ .pending)

theorem Moves.progress_le {session next : Session} {event : SessionEvent}
    (moves : Moves targets outcome session event next)
    (follows : Follows targets outcome before session) :
    session.app.progress ≤ next.app.progress := by
  obtain ⟨stage, -, shown, shows, path⟩ := follows.serial
  cases moves with
  | received queued =>
    rw [queued] at path
    cases path with
    | @cons _ second _ _ _ told _ =>
      have before_le : shown.progress targets.length ≤ second.progress targets.length :=
        told.progress_le shows.within
      rw [shows.progress, (shows.handle told).progress]
      exact before_le
  | _ => exact le_refl _

theorem Follows.gauge {session : Session} (follows : Follows targets outcome before session) :
    session.app.progress ≤ 1 ∧
      (session.app.testing = true →
        ∃ counted : Nat, session.app.progress = counted / targets.length ∧
          tested session.app ≤ counted ∧ counted ≤ tested session.app + 1) := by
  obtain ⟨stage, -, shown, shows, -⟩ := follows.serial
  refine ⟨shows.progress ▸ Stage.progress_le_one shows.within, ?_⟩
  intro testing
  have going : shown.closed = false := by simpa [testing] using shows.testing
  refine ⟨shown.count, by simpa [going] using shows.progress, ?_⟩
  rw [tested, shows.filled, Stage.count]
  split_ifs <;> omega

/-- The gauge never falls, never passes the whole, and while the session runs it is at most one
target ahead of the rows that are filled. -/
theorem progress_climbs {events later : List SessionEvent} {session final : Session}
    (reached : runFrom (step targets outcome) (start targets before) events = some session)
    (continued : runFrom (step targets outcome) session later = some final) :
    session.app.progress ≤ final.app.progress ∧ final.app.progress ≤ 1 ∧
      (final.app.testing = true →
        ∃ counted : Nat, final.app.progress = counted / targets.length ∧
          tested final.app ≤ counted ∧ counted ≤ tested final.app + 1) := by
  have climbed : Follows targets outcome before final ∧
      session.app.progress ≤ final.app.progress := by
    refine @state_invariant Session SessionEvent _ session final later
      (fun mid => Follows targets outcome before mid ∧ session.app.progress ≤ mid.app.progress)
      ⟨run_follows reached, le_refl _⟩ ?_ continued
    intro mid event next stepped holds
    have moves := moves_of_some stepped
    exact ⟨moves.follows holds.1, holds.2.trans (moves.progress_le holds.1)⟩
  exact ⟨climbed.2, climbed.1.gauge⟩

theorem progress_climbs_office :
    officeMid.app.progress ≤ officeEnd.app.progress ∧ officeEnd.app.progress ≤ 1 := by
  obtain ⟨climbed, within, -⟩ := progress_climbs officeMid_reached officeEnd_reached
  exact ⟨climbed, within⟩

end Gauge

section Ending
variable (targets : List TargetSpec) (outcome : Nat → Option TestRunnerResult)

/-- The events that a spawned worker still brings: its own, and the receipt of its updates. -/
def testCost (index : Nat) : Nat := if (outcome index).isSome then 4 else 1

/-- The events that the thread of a target still brings. -/
def workerCost (index : Nat) : WorkerPhase → Nat
  | .unannounced => 3 + testCost outcome index
  | .announced => 1 + testCost outcome index
  | .testing => testCost outcome index
  | .counted => 2
  | .ended | .panicked => 0

/-- The events that are left. -/
def remaining (session : Session) : Nat :=
  (session.workers.mapIdx (workerCost outcome)).sum + session.queue.length +
    if session.allSent then 0 else 2

/-- The events of a whole session. -/
def sessionEvents : Nat := (targets.mapIdx fun index _ => 3 + testCost outcome index).sum + 2

variable {targets outcome}

theorem workers_set (outcome : Nat → Option TestRunnerResult) {session : Session} {index : Nat}
    {old : WorkerPhase} (listed : session.workers[index]? = some old) (new : WorkerPhase) :
    ((session.workers.set index new).mapIdx (workerCost outcome)).sum +
      workerCost outcome index old =
      (session.workers.mapIdx (workerCost outcome)).sum + workerCost outcome index new := by
  have cost : (session.workers.mapIdx (workerCost outcome))[index]? =
      some (workerCost outcome index old) := by
    simp [listed]
  obtain ⟨rest, earlier, later⟩ := exists_rest_of_set cost (workerCost outcome index new)
  rw [List.mapIdx_set, later.sum_eq, earlier.sum_eq, List.sum_cons, List.sum_cons]
  omega

/-- Every event is one of those that are left. -/
theorem Moves.remaining {session next : Session} {event : SessionEvent}
    (moves : Moves targets outcome session event next) :
    next.remaining outcome + 1 = session.remaining outcome := by
  cases moves with
  | announced listed phase =>
    have cost := workers_set outcome phase .announced
    simp only [Session.remaining, List.length_append, List.length_singleton, workerCost] at cost ⊢
    omega
  | spawned phase =>
    have cost := workers_set outcome phase .testing
    simp only [Session.remaining, workerCost] at cost ⊢
    omega
  | counted resulted phase free =>
    have cost := workers_set outcome phase .counted
    simp only [Session.remaining, List.length_append, List.length_singleton, workerCost, testCost,
      resulted, Option.isSome_some, if_true] at cost ⊢
    omega
  | sent resulted phase =>
    have cost := workers_set outcome phase .ended
    simp only [Session.remaining, List.length_append, List.length_singleton, workerCost] at cost ⊢
    omega
  | panicked phase fails =>
    have cost := workers_set outcome phase .panicked
    simp only [Session.remaining, workerCost, testCost, fails, Option.isSome_none,
      Bool.false_eq_true, if_false] at cost ⊢
    omega
  | joined all unsaid =>
    simp only [Session.remaining, List.length_append, List.length_singleton, unsaid, if_true,
      Bool.false_eq_true, if_false]
    omega
  | received queued =>
    simp only [Session.remaining, queued, List.length_cons]
    omega

theorem remaining_start (before : AppState) :
    (start targets before).remaining outcome = sessionEvents targets outcome := by
  have costs : (targets.map fun _ => WorkerPhase.unannounced).mapIdx (workerCost outcome) =
      targets.mapIdx fun index _ => 3 + testCost outcome index := by
    apply List.ext_getElem
    · simp
    · intro index _ _
      simp [workerCost]
  rw [remaining, start, sessionEvents, costs]
  rfl

/-- A thread that is not joined has a move, or waits for one that has. -/
theorem Sound.exists_move {session : Session} (sound : Sound targets outcome session) {index : Nat}
    {phase : WorkerPhase} (listed : session.workers[index]? = some phase)
    (busy : WorkerPhase.joined phase = false) :
    ∃ event, session.step targets outcome event ≠ none := by
  cases sound.fits index phase listed with
  | unannounced ahead =>
    have inside : session.next < session.workers.length :=
      Nat.lt_of_le_of_lt ahead (List.getElem?_eq_some_iff.mp listed).1
    have inTargets : session.next < targets.length := sound.length ▸ inside
    have here : session.workers[session.next]? = some session.workers[session.next] :=
      List.getElem?_eq_getElem inside
    have fits := sound.fits session.next _ here
    generalize session.workers[session.next] = other at here fits
    cases fits with
    | unannounced _ => exact ⟨.announce, by simp [step, here, inTargets]⟩
    | announced _ => exact ⟨.spawn, by simp [step, here]⟩
    | testing behind => exact absurd behind (Nat.lt_irrefl _)
    | counted behind _ _ => exact absurd behind (Nat.lt_irrefl _)
    | ended behind _ => exact absurd behind (Nat.lt_irrefl _)
    | panicked behind _ => exact absurd behind (Nat.lt_irrefl _)
  | announced here =>
    subst here
    exact ⟨.spawn, by simp [step, listed]⟩
  | testing behind =>
    cases resulted : outcome index with
    | none => exact ⟨.panic index, by simp [step, listed, resulted]⟩
    | some result =>
      cases holds : session.holder with
      | none => exact ⟨.count index, by simp [step, listed, resulted, holds]⟩
      | some other =>
        have counted := sound.held other holds
        cases sound.fits other _ counted with
        | counted _ delivers _ =>
          obtain ⟨result, delivers⟩ := Option.ne_none_iff_exists'.mp delivers
          exact ⟨.send other, by simp [step, counted, delivers]⟩
  | counted behind delivers holds =>
    obtain ⟨result, delivers⟩ := Option.ne_none_iff_exists'.mp delivers
    exact ⟨.send index, by simp [step, listed, delivers]⟩
  | ended _ _ => cases busy
  | panicked _ _ => cases busy

/-- A session that is not over has a move. -/
theorem Follows.exists_move {before : AppState} {session : Session}
    (follows : Follows targets outcome before session) (testing : session.app.testing = true) :
    ∃ event, session.step targets outcome event ≠ none := by
  cases queued : session.queue with
  | cons update rest => exact ⟨.receive, by simp [step, queued]⟩
  | nil =>
    by_cases all : ∀ phase ∈ session.workers, WorkerPhase.joined phase = true
    · have unsaid : session.allSent = false := by
        obtain ⟨stage, matched, shown, shows, path⟩ := follows.serial
        rw [queued] at path
        cases path
        simpa [testing, matched.closed] using shows.testing
      exact ⟨.join, by simpa [step, unsaid] using all⟩
    · simp only [not_forall, Bool.not_eq_true] at all
      obtain ⟨phase, present, busy⟩ := all
      obtain ⟨index, listed⟩ := List.getElem?_of_mem present
      exact follows.sound.exists_move listed busy

theorem Follows.remaining_over {before : AppState} {session : Session}
    (follows : Follows targets outcome before session) (closed : session.app.testing = false) :
    session.remaining outcome = 0 := by
  obtain ⟨stage, matched, -, said, empty⟩ := follows.closed closed
  have sent : session.allSent = true := matched.closed ▸ said
  have free : ∀ cost ∈ session.workers.mapIdx (workerCost outcome), cost = 0 := by
    intro cost present
    obtain ⟨index, inside, rfl⟩ := List.mem_mapIdx.mp present
    have joined := follows.sound.closed sent _ (List.getElem_mem inside)
    cases phase : session.workers[index] with
    | ended | panicked => rfl
    | _ => simp [phase, WorkerPhase.joined] at joined
  simp [remaining, sent, empty, List.sum_eq_zero free]

/-- The events of a run and those that are left are those of the whole session. -/
theorem length_add_remaining {before : AppState} {events : List SessionEvent} {session : Session}
    (reached : runFrom (step targets outcome) (start targets before) events = some session) :
    events.length + session.remaining outcome = sessionEvents targets outcome := by
  refine @invariant Session SessionEvent _ _ session events
    (fun past mid => past.length + mid.remaining outcome =
      sessionEvents targets outcome) ?_ ?_ reached
  · simp [remaining_start]
  · intro past mid event next _ stepped total
    have one := (moves_of_some stepped).remaining
    simp only [List.length_append, List.length_singleton]
    omega

end Ending

end Session

end FragglePacket.Tui
