import FragglePacket.Framework.Orchestrator
import Mathlib.Algebra.Order.Ring.Unbundled.Rat
import Mathlib.Data.Rat.Init

/-! The desktop's application state, and what the updates of a test run do to it. -/

namespace FragglePacket.Desktop

open FragglePacket.Framework

inductive ToastType where
  | success
  | warning
  | error
  | info
deriving DecidableEq

structure Toast where
  id : UInt64
  message : String
  toastType : ToastType
deriving DecidableEq

inductive LogLevel where
  | info
  | running
  | success
  | warning
  | error
deriving DecidableEq

structure LogEntry where
  level : LogLevel
  message : String
  cliCommand : Option String
deriving DecidableEq

structure HistoryEntry where
  id : UInt64
  target : String
  categories : List TestCategory
  results : List TestResult

structure AppState where
  selectedCategories : List TestCategory
  results : AList fun _ : String => List TestResult
  testing : Bool
  progress : ℚ
  statusMessage : String
  toasts : List Toast
  toastCounter : UInt64
  logs : List LogEntry
  history : List HistoryEntry
  historyCounter : UInt64
  currentTestName : String
  cancelFlag : Bool

inductive TestUpdate where
  | started (target : String) (category : Option TestCategory)
  | result (target : String) (result : TestResult)
  | completed (target : String)
  | failed (target error : String)
  | progress (target : String) (progress : ℚ)

namespace AppState

/-- `AppState::new`, before anything is logged. -/
def new : AppState where
  selectedCategories := []
  results := ∅
  testing := false
  progress := 0
  statusMessage := "Ready"
  toasts := []
  toastCounter := 0
  logs := []
  history := []
  historyCounter := 0
  currentTestName := ""
  cancelFlag := false

def addToast (state : AppState) (message : String) (toastType : ToastType) : AppState :=
  { state with
    toastCounter := state.toastCounter + 1
    toasts := state.toasts ++ [⟨state.toastCounter, message, toastType⟩] }

def removeToast (state : AppState) (id : UInt64) : AppState :=
  { state with toasts := state.toasts.filter (·.id ≠ id) }

def getTargetResults (state : AppState) (target : String) : List TestResult :=
  (state.results.lookup target).getD []

def storeResult (state : AppState) (target : String) (result : TestResult) : AppState :=
  { state with results := state.results.insert target (state.getTargetResults target ++ [result]) }

def getCategoryResults (state : AppState) (target : String) (category : TestCategory) :
    List TestResult :=
  (state.getTargetResults target).filter (·.category = category)

/-- No category selects them all. -/
def getCategoriesResults (state : AppState) (target : String)
    (categories : List TestCategory) : List TestResult :=
  if categories = [] then state.getTargetResults target
  else (state.getTargetResults target).filter (·.category ∈ categories)

def clearResults (state : AppState) : AppState := { state with results := ∅ }

def successCount (state : AppState) : Nat :=
  (state.results.entries.flatMap (·.2)).countP (·.status = .success)

def totalTests (state : AppState) : Nat := (state.results.entries.map (·.2.length)).sum

def log (state : AppState) (level : LogLevel) (message : String) : AppState :=
  { state with logs := state.logs ++ [⟨level, message, none⟩] }

/-- The oldest 100 entries go when there are more than 500. -/
def logDetailed (state : AppState) (entry : LogEntry) : AppState :=
  let logs := state.logs ++ [entry]
  { state with logs := if 500 < logs.length then logs.drop 100 else logs }

def clearLogs (state : AppState) : AppState := { state with logs := [] }

/-- The newest entry comes first, and 50 are kept. -/
def saveToHistory (state : AppState) (target : String) (categories : List TestCategory) :
    AppState :=
  let results := state.getTargetResults target
  if results.isEmpty then state
  else
    { state with
      historyCounter := state.historyCounter + 1
      history := (⟨state.historyCounter, target, categories, results⟩ :: state.history).take 50 }

def clearHistory (state : AppState) : AppState := { state with history := [] }

def cancelTests (state : AppState) : AppState := { state with cancelFlag := true }

def resetCancel (state : AppState) : AppState := { state with cancelFlag := false }

end AppState

/-- `{:?}` of a status. -/
def statusName : TestStatus → String
  | .pending => "Pending"
  | .running => "Running"
  | .success => "Success"
  | .warning => "Warning"
  | .failed => "Failed"
  | .skipped => "Skipped"

def statusLevel : TestStatus → LogLevel
  | .success => .success
  | .warning => .warning
  | .failed => .error
  | .skipped => .info
  | .pending => .info
  | .running => .running

def startedMessage (target : String) : Option TestCategory → String
  | some category => "Running " ++ category.asStr ++ " test on " ++ target ++ "..."
  | none => "Running all tests on " ++ target ++ "..."

def resultEntry (result : TestResult) : LogEntry where
  level := statusLevel result.status
  message := result.name ++ ": " ++ statusName result.status
  cliCommand := result.metadata.lookup "cli_command"

/-- What the main window's coroutine does with an update. -/
def AppState.handle (state : AppState) : TestUpdate → AppState
  | .started target category =>
    let state := { state with testing := true, progress := 0 }.resetCancel
    let state := { state with statusMessage := startedMessage target category }
    { state.log .info ("=== " ++ startedMessage target category ++ " ===") with
      currentTestName := "" }
  | .result _ result =>
    { state.logDetailed (resultEntry result) with currentTestName := result.name }.storeResult
      result.target result
  | .progress _ progress => { state with progress }
  | .completed target =>
    let state := state.saveToHistory target state.selectedCategories
    let state := { state with
      testing := false
      progress := 1
      currentTestName := ""
      statusMessage := "Tests completed for " ++ target }
    (state.log .success ("=== Completed: " ++ target ++ " ===")).addToast
      ("Tests completed for " ++ target) .success
  | .failed target error =>
    let state := { state with
      testing := false
      currentTestName := ""
      statusMessage := "Test failed: " ++ error }
    (state.log .error ("FAILED: " ++ target ++ " - " ++ error)).addToast
      ("Test failed for " ++ target ++ ": " ++ error) .error

/-- What happens to the state: an update of a run, or something the user or a panel does. -/
inductive Action where
  | update (update : TestUpdate)
  | addToast (message : String) (toastType : ToastType)
  | removeToast (id : UInt64)
  | log (level : LogLevel) (message : String)
  | select (categories : List TestCategory)
  | clearLogs
  | clearHistory
  | clearResults
  | cancelTests

def AppState.act (state : AppState) : Action → AppState
  | .update update => state.handle update
  | .addToast message toastType => state.addToast message toastType
  | .removeToast id => state.removeToast id
  | .log level message => state.log level message
  | .select categories => { state with selectedCategories := categories }
  | .clearLogs => state.clearLogs
  | .clearHistory => state.clearHistory
  | .clearResults => state.clearResults
  | .cancelTests => state.cancelTests

def AppState.run (actions : List Action) : AppState := actions.foldl AppState.act .new

/-- The updates that `run_category`, `run_categories` and `run_all` of the test runner send
when the blocking task has given its results, or has panicked. -/
def runUpdates (target : String) (category : Option TestCategory) :
    Except String (List TestResult) → List TestUpdate
  | .ok results =>
    .started target category ::
      ((results.zipIdx.flatMap fun (result, i) =>
        [.result target result, .progress target ((i + 1 : Nat) / results.length)]) ++
        [.completed target])
  | .error error => [.started target category, .failed target error]

end FragglePacket.Desktop
