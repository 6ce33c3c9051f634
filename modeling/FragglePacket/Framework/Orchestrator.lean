import FragglePacket.Framework.Result
import FragglePacket.Lists.Regroup
import FragglePacket.Lists.SortByKey
import FragglePacket.Lists.Update

/-! The orchestrator: it runs the registered tests, and keeps for each target the latest result
of each category. -/

namespace FragglePacket.Framework

open FragglePacket.Lists

/-- The variant's number, `category as u8`. -/
def TestCategory.discriminant : TestCategory → Nat
  | .mtu => 0
  | .rtt => 1
  | .packetLoss => 2
  | .pathAnalysis => 3
  | .tcpHealth => 4
  | .dns => 5
  | .https => 6
  | .ipv6 => 7
  | .application => 8
  | .fuzzing => 9

def TestCategory.asStr : TestCategory → String
  | .mtu => "MTU"
  | .rtt => "RTT"
  | .packetLoss => "Packet Loss"
  | .pathAnalysis => "Path Analysis"
  | .tcpHealth => "TCP Health"
  | .dns => "DNS"
  | .https => "HTTPS"
  | .ipv6 => "IPv6"
  | .application => "Application"
  | .fuzzing => "Fuzzing"

structure NetworkTest where
  name : String
  category : TestCategory
  requiresRoot : Bool

/-- What `run` gives for each registered test, by its place. -/
abbrev Answers := Nat → Except String TestResult

structure TestOrchestrator where
  tests : List NetworkTest
  results : AList fun _ : String => AList fun _ : TestCategory => TestResult

namespace TestOrchestrator

def new : TestOrchestrator := ⟨[], ∅⟩

def register (orchestrator : TestOrchestrator) (test : NetworkTest) : TestOrchestrator :=
  { orchestrator with tests := orchestrator.tests ++ [test] }

def storeResult (orchestrator : TestOrchestrator) (target : String)
    (result : TestResult) : TestOrchestrator :=
  { orchestrator with
    results := orchestrator.results.insert target
      (((orchestrator.results.lookup target).getD ∅).insert result.category result) }

/-- The result that `run_single` stores and returns. It never gives an error. -/
def singleResult (isRoot : Bool) (test : NetworkTest) (target : String)
    (answer : Except String TestResult) : TestResult :=
  if test.requiresRoot && !isRoot then
    ((TestResult.new test.name test.category target).setStatus .skipped).addMetadata
      "skip_reason" "Requires root privileges"
  else
    match answer with
    | .ok result => result
    | .error error =>
      ((TestResult.new test.name test.category target).setStatus .failed).addMetadata "error" error

def runSingle (isRoot : Bool) (orchestrator : TestOrchestrator) (test : NetworkTest)
    (target : String) (answer : Except String TestResult) : TestOrchestrator × TestResult :=
  let result := singleResult isRoot test target answer
  (orchestrator.storeResult target result, result)

/-- The tests that are run with their places, one after the other. -/
def runTests (isRoot : Bool) (target : String) (answers : Answers) (orchestrator : TestOrchestrator)
    (selected : List (NetworkTest × Nat)) : TestOrchestrator × List TestResult :=
  selected.foldl
    (fun (orchestrator, results) (test, index) =>
      let (orchestrator, result) := runSingle isRoot orchestrator test target (answers index)
      (orchestrator, results ++ [result]))
    (orchestrator, [])

def runAll (isRoot : Bool) (orchestrator : TestOrchestrator) (target : String) (answers : Answers) :
    TestOrchestrator × List TestResult :=
  runTests isRoot target answers orchestrator orchestrator.tests.zipIdx

def runCategory (isRoot : Bool) (orchestrator : TestOrchestrator) (target : String)
    (category : TestCategory) (answers : Answers) : TestOrchestrator × List TestResult :=
  runTests isRoot target answers orchestrator
    (orchestrator.tests.zipIdx.filter (·.1.category = category))

def getResult (orchestrator : TestOrchestrator) (target : String)
    (category : TestCategory) : Option TestResult := do
  let results ← orchestrator.results.lookup target
  results.lookup category

def clearResults (orchestrator : TestOrchestrator) : TestOrchestrator :=
  { orchestrator with results := ∅ }

def availableCategories (orchestrator : TestOrchestrator) : List TestCategory :=
  (sortByKey TestCategory.discriminant (orchestrator.tests.map (·.category))).destutter (· ≠ ·)

def testCount (orchestrator : TestOrchestrator) (category : TestCategory) : Nat :=
  (orchestrator.tests.filter (·.category = category)).length

/-- The desktop's `run_categories`: the set of categories in the order it is iterated. -/
def runCategories (isRoot : Bool) (orchestrator : TestOrchestrator) (target : String)
    (categories : List TestCategory) (answers : TestCategory → Answers) :
    TestOrchestrator × List TestResult :=
  categories.foldl
    (fun (orchestrator, results) category =>
      let (orchestrator, more) := runCategory isRoot orchestrator target category (answers category)
      (orchestrator, results ++ more))
    (orchestrator, [])

end TestOrchestrator

/-- A call of the orchestrator, with what its tests give during the call. -/
inductive OrchestratorCall where
  | register (test : NetworkTest)
  | runAll (target : String) (answers : Answers)
  | runCategory (target : String) (category : TestCategory) (answers : Answers)
  | runSingle (test : NetworkTest) (target : String) (answer : Except String TestResult)
  | clearResults

/-- The orchestrator, and every result it has returned since it was last cleared. -/
structure Ledger where
  orchestrator : TestOrchestrator
  returned : List (String × TestResult)

namespace Ledger

def new : Ledger := ⟨.new, []⟩

def step (isRoot : Bool) (ledger : Ledger) : OrchestratorCall → Ledger
  | .register test => { ledger with orchestrator := ledger.orchestrator.register test }
  | .runAll target answers =>
    let (orchestrator, results) := ledger.orchestrator.runAll isRoot target answers
    ⟨orchestrator, ledger.returned ++ results.map (target, ·)⟩
  | .runCategory target category answers =>
    let (orchestrator, results) := ledger.orchestrator.runCategory isRoot target category answers
    ⟨orchestrator, ledger.returned ++ results.map (target, ·)⟩
  | .runSingle test target answer =>
    let (orchestrator, result) := ledger.orchestrator.runSingle isRoot test target answer
    ⟨orchestrator, ledger.returned ++ [(target, result)]⟩
  | .clearResults => ⟨ledger.orchestrator.clearResults, []⟩

def run (isRoot : Bool) (calls : List OrchestratorCall) : Ledger := calls.foldl (step isRoot) new

/-- The result that was returned last for a target and a category. -/
def latest (ledger : Ledger) (target : String) (category : TestCategory) : Option TestResult :=
  (ledger.returned.filter fun entry => entry.1 = target ∧
    entry.2.category = category).getLast?.map (·.2)

end Ledger

namespace TestOrchestrator

theorem getResult_eq (orchestrator : TestOrchestrator) (target : String) (category : TestCategory) :
    orchestrator.getResult target category =
      ((orchestrator.results.lookup target).getD ∅).lookup category := by
  cases known : orchestrator.results.lookup target <;> simp [getResult, known]

theorem getResult_storeResult (orchestrator : TestOrchestrator) (target other : String)
    (result : TestResult) (category : TestCategory) :
    (orchestrator.storeResult target result).getResult other category =
      if target = other ∧ result.category = category then some result
      else orchestrator.getResult other category := by
  rw [getResult_eq, getResult_eq, storeResult]
  by_cases same : target = other
  · subst same
    rw [AList.lookup_insert, Option.getD_some]
    by_cases own : result.category = category
    · subst own
      simp
    · rw [AList.lookup_insert_ne (Ne.symm own), if_neg (by simp [own])]
  · rw [AList.lookup_insert_ne (Ne.symm same), if_neg (by simp [same])]

/-- The results of the selected tests, each as `run_single` has it. -/
def resultsOf (isRoot : Bool) (target : String) (answers : Answers)
    (selected : List (NetworkTest × Nat)) : List TestResult :=
  selected.map fun (test, index) => singleResult isRoot test target (answers index)

theorem runTests_eq (isRoot : Bool) (target : String) (answers : Answers)
    (orchestrator : TestOrchestrator) (selected : List (NetworkTest × Nat)) :
    runTests isRoot target answers orchestrator selected =
      ((resultsOf isRoot target answers selected).foldl
        (fun orchestrator => orchestrator.storeResult target) orchestrator,
        resultsOf isRoot target answers selected) := by
  induction selected using List.reverseRecOn with
  | nil => rfl
  | append_singleton selected last ih =>
    rw [runTests, List.foldl_concat, ← runTests, ih]
    simp [resultsOf, runSingle]

end TestOrchestrator

namespace Ledger

open TestOrchestrator

/-- The stored results are those returned last. -/
def Agrees (ledger : Ledger) : Prop :=
  ∀ target category, ledger.orchestrator.getResult target category = ledger.latest target category

theorem Agrees.store {ledger : Ledger} (agrees : ledger.Agrees) (target : String)
    (result : TestResult) :
    Agrees ⟨ledger.orchestrator.storeResult target result,
      ledger.returned ++ [(target, result)]⟩ := by
  intro other category
  dsimp only
  rw [getResult_storeResult, latest, List.filter_append]
  split_ifs with own
  · simp [own]
  · rw [List.filter_singleton, decide_eq_false own, cond_false, List.append_nil]
    exact agrees other category

theorem Agrees.stores {ledger : Ledger} (agrees : ledger.Agrees) (target : String)
    (results : List TestResult) :
    Agrees ⟨results.foldl (fun orchestrator => orchestrator.storeResult target) ledger.orchestrator,
      ledger.returned ++ results.map (target, ·)⟩ := by
  induction results using List.reverseRecOn with
  | nil => simpa using agrees
  | append_singleton results result ih =>
    rw [List.foldl_concat, List.map_append, ← List.append_assoc]
    exact ih.store target result

theorem Agrees.step {ledger : Ledger} (agrees : ledger.Agrees) (isRoot : Bool)
    (call : OrchestratorCall) :
    (ledger.step isRoot call).Agrees := by
  cases call with
  | register test => exact agrees
  | runAll target answers =>
    rw [Ledger.step, runAll, runTests_eq]
    exact agrees.stores target _
  | runCategory target category answers =>
    rw [Ledger.step, runCategory, runTests_eq]
    exact agrees.stores target _
  | runSingle test target answer => exact agrees.store target _
  | clearResults =>
    intro target category
    simp [Ledger.step, TestOrchestrator.clearResults, getResult, latest]

/-- After any calls, what is stored for a target and a category is the last result of that
category that a call for the target has returned since the results were last cleared. -/
theorem getResult_run (isRoot : Bool) (calls : List OrchestratorCall) (target : String)
    (category : TestCategory) :
    (run isRoot calls).orchestrator.getResult target category =
      (run isRoot calls).latest target category := by
  suffices agrees : (run isRoot calls).Agrees from agrees target category
  induction calls using List.reverseRecOn with
  | nil =>
    intro target category
    simp [run, new, TestOrchestrator.new, getResult, latest]
  | append_singleton calls call ih =>
    rw [run, List.foldl_concat]
    exact ih.step isRoot call

end Ledger

namespace TestOrchestrator

theorem discriminant_injective : Function.Injective TestCategory.discriminant := by
  intro first second same
  cases first <;> cases second <;> first | rfl | cases same

/-- The categories come in the order of their numbers, none of them twice. -/
theorem map_discriminant_availableCategories (orchestrator : TestOrchestrator) :
    orchestrator.availableCategories.map TestCategory.discriminant =
      sortedDistinct (orchestrator.tests.map (·.category.discriminant)) := by
  have sorted : (sortByKey TestCategory.discriminant (orchestrator.tests.map (·.category))).map
      TestCategory.discriminant =
      sortByKey id (orchestrator.tests.map (·.category.discriminant)) := by
    refine List.Perm.eq_of_pairwise (fun _ _ _ _ => Nat.le_antisymm) ?_ (sortByKey_sorted _) ?_
    · exact List.pairwise_map.mpr (sortByKey_sorted _)
    · refine ((sortByKey_perm _).map _).trans ?_
      rw [List.map_map]
      exact (sortByKey_perm _).symm
  rw [availableCategories, List.map_destutter_ne _ discriminant_injective, sorted, sortedDistinct]

theorem mem_availableCategories {orchestrator : TestOrchestrator} {category : TestCategory} :
    category ∈ orchestrator.availableCategories ↔
      ∃ test ∈ orchestrator.tests, test.category = category := by
  rw [← List.mem_map_of_injective discriminant_injective, map_discriminant_availableCategories,
    mem_sortedDistinct, List.mem_map]
  exact exists_congr fun test => and_congr_right fun _ => discriminant_injective.eq_iff

section Categories
variable (isRoot : Bool) (orchestrator : TestOrchestrator) (target : String) (answers : Answers)

theorem tests_runTests (selected : List (NetworkTest × Nat)) :
    (runTests isRoot target answers orchestrator selected).1.tests = orchestrator.tests := by
  rw [runTests_eq]
  dsimp only
  generalize resultsOf isRoot target answers selected = results
  induction results using List.reverseRecOn with
  | nil => rfl
  | append_singleton results result ih =>
    rw [List.foldl_concat]
    exact ih

/-- The tests of one category, with their places. -/
def testsOf (category : TestCategory) : List (NetworkTest × Nat) :=
  orchestrator.tests.zipIdx.filter (·.1.category = category)

theorem runCategories_eq (categories : List TestCategory) :
    (runCategories isRoot orchestrator target categories fun _ => answers).1.tests =
      orchestrator.tests ∧
      (runCategories isRoot orchestrator target categories fun _ => answers).2 =
        resultsOf isRoot target answers (categories.flatMap (testsOf orchestrator)) := by
  induction categories using List.reverseRecOn with
  | nil => exact ⟨rfl, rfl⟩
  | append_singleton categories category ih =>
    rw [runCategories, List.foldl_concat, ← runCategories]
    constructor
    · exact (tests_runTests isRoot _ target answers _).trans ih.1
    · dsimp only
      rw [runCategory, runTests_eq, ih.2, ih.1, List.flatMap_append, List.flatMap_singleton,
        resultsOf, resultsOf, resultsOf, List.map_append]
      rfl

/-- Running a set of categories one by one, in whatever order the set is iterated, runs every
test of these categories once. Where the set covers what is available, every test is run. -/
theorem runCategories_perm {categories : List TestCategory} (distinct : categories.Nodup) :
    (runCategories isRoot orchestrator target categories fun _ => answers).2.Perm
        (resultsOf isRoot target answers
          (orchestrator.tests.zipIdx.filter (·.1.category ∈ categories))) ∧
      (orchestrator.availableCategories ⊆ categories →
        (runCategories isRoot orchestrator target categories fun _ => answers).2.Perm
          (runAll isRoot orchestrator target answers).2) := by
  have gathered : (runCategories isRoot orchestrator target categories fun _ => answers).2.Perm
      (resultsOf isRoot target answers
        (orchestrator.tests.zipIdx.filter (·.1.category ∈ categories))) := by
    rw [(runCategories_eq isRoot orchestrator target answers categories).2]
    exact (flatMap_filter_perm (fun test : NetworkTest × Nat => test.1.category) _ distinct).map _
  refine ⟨gathered, ?_⟩
  intro covered
  refine gathered.trans (.of_eq ?_)
  have every : orchestrator.tests.zipIdx.filter (·.1.category ∈ categories) =
      orchestrator.tests.zipIdx := by
    refine List.filter_eq_self.mpr ?_
    rintro ⟨test, index⟩ listed
    have registered := (List.mem_zipIdx listed).2.2 ▸ List.getElem_mem _
    exact decide_eq_true (covered (mem_availableCategories.mpr ⟨test, registered, rfl⟩))
  rw [every, runAll, runTests_eq]

/-- Two tests of one category, around one of another. -/
def deskTests : TestOrchestrator :=
  ((new.register ⟨"ICMP MTU", .mtu, true⟩).register ⟨"DNS Resolution", .dns, false⟩).register
    ⟨"TCP MTU", .mtu, false⟩

theorem runCategories_perm_desk :
    (runCategories false deskTests "dns.example" [.dns, .mtu] fun _ _ =>
      .error "unreachable").2.Perm
      (runAll false deskTests "dns.example" fun _ => .error "unreachable").2 :=
  (runCategories_perm false deskTests "dns.example" (fun _ => .error "unreachable") (by decide)).2
    (by decide)

end Categories

end TestOrchestrator

end FragglePacket.Framework
