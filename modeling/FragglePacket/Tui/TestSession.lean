import Mathlib.Algebra.GroupWithZero.Nat
import Mathlib.Data.Rat.Init
import Mathlib.Algebra.Order.Ring.Unbundled.Rat
import FragglePacket.Lists.SortByKey
import FragglePacket.Systems.Runs

/-! The terminal interface's test session: a coordinator thread, one worker thread for each
target and the interface's thread, which share a counter behind a mutex and a channel. -/

namespace FragglePacket.Tui

open FragglePacket.Lists FragglePacket.Systems

/-- A target, its description and its port, as `load_targets` reads them. -/
abbrev TargetSpec := String × String × UInt16

inductive TestStatus where
  | pending
  | testing
  | complete
  | failed
deriving DecidableEq

/-- `TestResult` of the shared test runner. -/
structure TestRunnerResult where
  target : String
  desc : String
  icmpMtu : Option Nat
  tcpMtu : Option Nat
  udpMtu : Option Nat
  quicMtu : Option Nat
  tcpMss : Option Nat
  error : Option String
deriving DecidableEq

structure TargetResult where
  target : String
  desc : String
  icmpMtu : Option Nat
  tcpMtu : Option Nat
  udpMtu : Option Nat
  quicMtu : Option Nat
  tcpMss : Option Nat
  status : TestStatus
deriving DecidableEq

structure Verdict where
  status : String
  recommendedMtu : Option Nat
  recommendedMss : Option Nat
  medianMtu : Nat
  percentOk : ℚ
deriving DecidableEq

inductive TestUpdate where
  | started (target : String)
  | progress (target : String) (progress : ℚ)
  | complete (index : Nat) (result : TestRunnerResult)
  | failed (index : Nat) (target : String)
  | allComplete
deriving DecidableEq

/-- The fields of the state that an update of a test session reads or writes. -/
structure AppState where
  results : List TargetResult
  testing : Bool
  progress : ℚ
  currentTarget : String
  verdict : Option Verdict
  mtuHistory : List Nat
deriving DecidableEq

/-- The row of a target that no result has come for. -/
def TargetResult.pending (target : TargetSpec) : TargetResult where
  target := target.1
  desc := target.2.1
  icmpMtu := none
  tcpMtu := none
  udpMtu := none
  quicMtu := none
  tcpMss := none
  status := .pending

def TestRunnerResult.hasResults (result : TestRunnerResult) : Bool :=
  result.icmpMtu.isSome || result.tcpMtu.isSome || result.udpMtu.isSome || result.quicMtu.isSome

/-- The MTU that the sparkline shows, where any of the three probes found one. -/
def TestRunnerResult.historyMtu (result : TestRunnerResult) : Option Nat :=
  if result.hasResults then (result.icmpMtu.or result.tcpMtu).or result.udpMtu else none

def TargetResult.fill (row : TargetResult) (result : TestRunnerResult) : TargetResult :=
  { row with
    icmpMtu := result.icmpMtu
    tcpMtu := result.tcpMtu
    udpMtu := result.udpMtu
    quicMtu := result.quicMtu
    tcpMss := result.tcpMss
    status := if result.hasResults then .complete else .failed }

/-- The history keeps 20 entries: the oldest goes where a new one makes more. -/
def pushHistory (history : List Nat) (mtu : Nat) : List Nat :=
  let longer := history ++ [mtu]
  if 20 < longer.length then longer.eraseIdx 0 else longer

/-- The MTU of a row that the verdict counts. -/
def TargetResult.mtu (row : TargetResult) : Option Nat := (row.icmpMtu.or row.tcpMtu).or row.udpMtu

/-- The verdict over the MTUs found, where there are any. The subtraction wraps as the
release build's does. -/
def verdictOf (allMtus : List Nat) : Option Verdict :=
  if allMtus = [] then none
  else
    let median := (sortByKey id allMtus).getD (allMtus.length / 2) 0
    let at1500 := allMtus.countP (1500 ≤ ·)
    let pctOk : ℚ := at1500 / allMtus.length * 100
    let (status, recMtu) :=
      if 95 ≤ pctOk ∧ 1400 ≤ median then ("PASS", none)
      else if 80 ≤ pctOk ∧ 1400 ≤ median then ("PASS", none)
      else if 1400 ≤ median then ("REVIEW", some median)
      else ("ACTION_NEEDED", some median)
    some ⟨status, recMtu, recMtu.map fun m => (m + 2 ^ 64 - 40) % 2 ^ 64, median, pctOk⟩

/-- `process_test_updates`, for one update. -/
def AppState.handle (app : AppState) : TestUpdate → AppState
  | .started target => { app with currentTarget := target }
  | .progress _ progress => { app with progress }
  | .complete index result =>
    match app.results[index]? with
    | none => app
    | some row =>
      { app with
        results := app.results.set index (row.fill result)
        mtuHistory := (result.historyMtu.map (pushHistory app.mtuHistory)).getD app.mtuHistory }
  | .failed index _ =>
    match app.results[index]? with
    | none => app
    | some row => { app with results := app.results.set index { row with status := .failed } }
  | .allComplete =>
    { app with
      testing := false
      currentTarget := ""
      progress := 1
      verdict := (verdictOf (app.results.filterMap TargetResult.mtu)).or app.verdict }

/-- Where the thread of a target is. A worker that has counted its target holds the mutex
until it has sent its result. -/
inductive WorkerPhase where
  | unannounced
  | announced
  | testing
  | counted
  | ended
  | panicked
deriving DecidableEq

structure Session where
  /-- One for each target. -/
  workers : List WorkerPhase
  /-- The target that the coordinator's loop has come to. -/
  next : Nat
  /-- The counter behind the mutex. -/
  completed : Nat
  holder : Option Nat
  /-- The coordinator has joined every worker and said so. -/
  allSent : Bool
  /-- The channel, its oldest update first. -/
  queue : List TestUpdate
  app : AppState
deriving DecidableEq

/-- What one of the threads does next. -/
inductive SessionEvent where
  | announce
  | spawn
  | count (index : Nat)
  | send (index : Nat)
  | panic (index : Nat)
  | join
  | receive
deriving DecidableEq

namespace Session

/-- `start_testing`, before the coordinator thread runs. -/
def start (targets : List TargetSpec) (app : AppState) : Session where
  workers := targets.map fun _ => .unannounced
  next := 0
  completed := 0
  holder := none
  allSent := false
  queue := []
  app := { app with results := targets.map TargetResult.pending, testing := true, progress := 0 }

def WorkerPhase.joined : WorkerPhase → Bool
  | .ended | .panicked => true
  | _ => false

section Step
variable (targets : List TargetSpec) (outcome : Nat → Option TestRunnerResult)

/-- One event of a session. `outcome` is what `test_single_target` gives for each target,
`none` where it panics; a panic comes before the mutex is taken. -/
def step (session : Session) : SessionEvent → Option Session
  | .announce => do
    let target ← targets[session.next]?
    if session.workers[session.next]? = some .unannounced then
      some { session with
        workers := session.workers.set session.next .announced
        queue := session.queue ++ [.started target.1] }
    else none
  | .spawn =>
    if session.workers[session.next]? = some .announced then
      some { session with workers := session.workers.set session.next .testing,
                          next := session.next + 1 }
    else none
  | .count index => do
    let result ← outcome index
    if session.workers[index]? = some .testing ∧ session.holder = none then
      some { session with
        workers := session.workers.set index .counted
        completed := session.completed + 1
        holder := some index
        queue := session.queue ++ [.progress result.target
          ((session.completed + 1 : Nat) / targets.length)] }
    else none
  | .send index => do
    let result ← outcome index
    if session.workers[index]? = some .counted then
      some { session with
        workers := session.workers.set index .ended
        holder := none
        queue := session.queue ++ [.complete index result] }
    else none
  | .panic index =>
    if session.workers[index]? = some .testing ∧ outcome index = none then
      some { session with workers := session.workers.set index .panicked }
    else none
  | .join =>
    if session.workers.all WorkerPhase.joined ∧ session.allSent = false then
      some { session with allSent := true, queue := session.queue ++ [.allComplete] }
    else none
  | .receive =>
    match session.queue with
    | [] => none
    | update :: rest => some { session with queue := rest, app := session.app.handle update }

end Step

end Session

end FragglePacket.Tui
