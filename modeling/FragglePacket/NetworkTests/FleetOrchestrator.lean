import FragglePacket.Systems.Runs

/-! The fleet orchestrator: labels, plans, the fan-out of node threads that share permits,
and the summary of a run. -/

namespace FragglePacket.NetworkTests

open FragglePacket.Systems

inductive NodeRole where
  | managementBastion
  | testNode
deriving DecidableEq

structure InventoryEntry where
  address : String
  role : NodeRole
deriving DecidableEq

structure FleetNode where
  label : String
  role : NodeRole
deriving DecidableEq

section Labels
variable (hash : String → String → UInt64)

/-- The low half of what the hasher makes of the salt, the address and the salt again. -/
def labelForNode (address salt : String) : String :=
  "node-" ++ String.ofList ((Nat.toDigits 16 (hash salt address).toUInt32.toNat).leftpad 8 '0')

def buildFleetLabels (entries : List InventoryEntry) (salt : String) : List FleetNode :=
  entries.map fun entry => ⟨labelForNode hash entry.address salt, entry.role⟩

end Labels

structure FleetPlan where
  nodes : List FleetNode
  maxConcurrency : UInt32
  perNodeTimeoutSecs : UInt64

inductive PlanError where
  | bastionAssignedAsTestNode
  | zeroConcurrency
  | zeroTimeout
  | noTestNodes
deriving DecidableEq

namespace FleetPlan

def testNodes (plan : FleetPlan) : List FleetNode := plan.nodes.filter (·.role = .testNode)

def validate (plan : FleetPlan) : Except PlanError Unit :=
  if plan.maxConcurrency = 0 then .error .zeroConcurrency
  else if plan.perNodeTimeoutSecs = 0 then .error .zeroTimeout
  else if plan.testNodes = [] then .error .noTestNodes
  else .ok ()

end FleetPlan

inductive NodeOutcome where
  | completed (radioBeforeFingerprint radioAfterFingerprint : Option String)
  | timedOut
  | connectionFailed (detail : String)
  | quarantined (reason : String)
deriving DecidableEq

structure NodeRunResult where
  label : String
  outcome : NodeOutcome
deriving DecidableEq

/-- What the runner closure returns for a node. -/
abbrev RunnerResult := Except String (Option String × Option String)

def RunnerResult.outcome : RunnerResult → NodeOutcome
  | .ok (before, after) => .completed before after
  | .error detail => .connectionFailed detail

/-- Where a node's own thread is. -/
inductive NodePhase where
  /-- At the top of the permit loop. -/
  | acquiring
  /-- Between the load and the compare-exchange. -/
  | loaded (current : Int)
  | admitted
  /-- In `recv_timeout` on the channel of its runner thread. -/
  | receiving
  /-- The outcome is known, the permit is not returned. -/
  | judged (outcome : NodeOutcome)
  | released (outcome : NodeOutcome)
  | ended (outcome : NodeOutcome)
deriving DecidableEq

/-- Where the detached runner thread of a node is, and its channel. -/
inductive RunnerPhase where
  | unspawned
  | spawned
  | running
  | returned (result : RunnerResult)
  /-- The result was sent and the sender is gone. -/
  | sent (result : RunnerResult)
  /-- The call panicked, which drops the sender with nothing sent. -/
  | hungUp

structure NodeThread where
  node : FleetNode
  phase : NodePhase
  runner : RunnerPhase

def NodeThread.new (node : FleetNode) : NodeThread := ⟨node, .acquiring, .unspawned⟩

/-- One atomic step of a node's thread or of its runner thread. -/
inductive NodeEvent where
  | load
  | compareExchange
  | spawn
  | call
  | finish (result : RunnerResult)
  | panic
  | send
  | receive
  | disconnect
  | timeout
  | release
  | push

/-- The runner call has not returned. -/
def RunnerPhase.StillRunning : RunnerPhase → Prop
  | spawned | running => True
  | _ => False

instance : DecidablePred RunnerPhase.StillRunning
  | .spawned | .running => isTrue trivial
  | .unspawned | .returned _ | .sent _ | .hungUp => isFalse id

/-- The channel is empty and its sender is alive. -/
def RunnerPhase.Silent : RunnerPhase → Prop
  | spawned | running | returned _ => True
  | _ => False

instance : DecidablePred RunnerPhase.Silent
  | .spawned | .running | .returned _ => isTrue trivial
  | .unspawned | .sent _ | .hungUp => isFalse id

/-- What an event makes of the permits and of its thread, and the results it pushes. The
permits are an integer, so that nothing but the code keeps them in range. -/
def NodeThread.advance (permits : Int) (thread : NodeThread) :
    NodeEvent → Option (Int × NodeThread × List NodeRunResult)
  | .load =>
    match thread.phase with
    | .acquiring =>
      -- at zero the thread sleeps and tries again
      if permits = 0 then some (permits, thread, [])
      else some (permits, { thread with phase := .loaded permits }, [])
    | _ => none
  | .compareExchange =>
    match thread.phase with
    | .loaded current =>
      if permits = current then some (current - 1, { thread with phase := .admitted }, [])
      else some (permits, { thread with phase := .acquiring }, [])
    | _ => none
  | .spawn =>
    match thread.phase with
    | .admitted => some (permits, { thread with phase := .receiving, runner := .spawned }, [])
    | _ => none
  | .call =>
    match thread.runner with
    | .spawned => some (permits, { thread with runner := .running }, [])
    | _ => none
  | .finish result =>
    match thread.runner with
    | .running => some (permits, { thread with runner := .returned result }, [])
    | _ => none
  | .panic =>
    match thread.runner with
    | .running => some (permits, { thread with runner := .hungUp }, [])
    | _ => none
  | .send =>
    match thread.runner with
    | .returned result => some (permits, { thread with runner := .sent result }, [])
    | _ => none
  | .receive =>
    match thread.phase, thread.runner with
    | .receiving, .sent result =>
      some (permits, { thread with phase := .judged (RunnerResult.outcome result) }, [])
    | _, _ => none
  | .disconnect =>
    match thread.phase, thread.runner with
    -- every error of the receiver is a timeout
    | .receiving, .hungUp => some (permits, { thread with phase := .judged .timedOut }, [])
    | _, _ => none
  | .timeout =>
    match thread.phase with
    | .receiving =>
      if thread.runner.Silent then some (permits, { thread with phase := .judged .timedOut }, [])
      else none
    | _ => none
  | .release =>
    match thread.phase with
    | .judged outcome => some (permits + 1, { thread with phase := .released outcome }, [])
    | _ => none
  | .push =>
    match thread.phase with
    | .released outcome =>
      some (permits, { thread with phase := .ended outcome }, [⟨thread.node.label, outcome⟩])
    | _ => none

/-- The semaphore, the threads in the order of the test nodes, and the results pushed so far. -/
structure Fanout where
  permits : Int
  threads : List NodeThread
  results : List NodeRunResult

namespace Fanout

/-- A thread that has taken no step may as well not have been spawned yet. -/
def start (plan : FleetPlan) : Fanout :=
  ⟨plan.maxConcurrency.toNat, plan.testNodes.map NodeThread.new, []⟩

def step (fanout : Fanout) (action : Nat × NodeEvent) : Option Fanout := do
  let thread ← fanout.threads[action.1]?
  let (permits, advanced, pushed) ← thread.advance fanout.permits action.2
  return ⟨permits, fanout.threads.set action.1 advanced, fanout.results ++ pushed⟩

/-- Every thread can be joined. The results are what the function returns then. -/
def Ended (fanout : Fanout) : Prop :=
  ∀ thread ∈ fanout.threads, ∃ outcome, thread.phase = .ended outcome

/-- The runner calls that have started and not returned. -/
def runningCalls (fanout : Fanout) : Nat :=
  fanout.threads.countP fun thread => thread.runner matches .running

end Fanout

structure FleetSummary where
  totalNodes : Nat
  completed : Nat
  excludedWithReason : List (String × String)

/-- Counts a completed result, and excludes any other with its reason. -/
def FleetSummary.record (summary : FleetSummary) (result : NodeRunResult) : FleetSummary :=
  match result.outcome with
  | .completed _ _ => { summary with completed := summary.completed + 1 }
  | .timedOut =>
    { summary with excludedWithReason := summary.excludedWithReason ++
                     [(result.label, "timed out")] }
  | .connectionFailed detail =>
    { summary with excludedWithReason := summary.excludedWithReason ++
                     [(result.label, "connection failed: " ++ detail)] }
  | .quarantined reason =>
    { summary with excludedWithReason := summary.excludedWithReason ++
                     [(result.label, "quarantined: " ++ reason)] }

def summarizeFleetRun (results : List NodeRunResult) : FleetSummary :=
  results.foldl FleetSummary.record ⟨results.length, 0, []⟩

end FragglePacket.NetworkTests
