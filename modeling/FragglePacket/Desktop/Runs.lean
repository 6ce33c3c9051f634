import FragglePacket.Desktop.State
import Mathlib.Tactic.Linarith

/-! What the desktop shows of its test runs, whatever else happens between their updates. -/

namespace FragglePacket.Desktop

open FragglePacket.Framework FragglePacket.Lists

namespace AppState

/-- The results that have come since the results were last cleared. -/
def received (actions : List Action) : List TestResult :=
  actions.foldl
    (fun results action =>
      match action with
      | .update (.result _ result) => results ++ [result]
      | .clearResults => []
      | _ => results)
    []

theorem received_concat (past : List Action) (action : Action) :
    received (past ++ [action]) =
      match action with
      | .update (.result _ result) => received past ++ [result]
      | .clearResults => []
      | _ => received past := by
  rw [received, List.foldl_concat, ← received]

@[simp] theorem saveToHistory_results (state : AppState) (target : String)
    (categories : List TestCategory) :
    (state.saveToHistory target categories).results = state.results := by
  rw [saveToHistory]
  split_ifs <;> rfl

theorem act_results (state : AppState) (action : Action) :
    (state.act action).results =
      match action with
      | .update (.result _ result) => (state.storeResult result.target result).results
      | .clearResults => ∅
      | _ => state.results := by
  cases action with
  | update update =>
    cases update with
    | completed target => simp [act, handle, addToast, log]
    | _ => rfl
  | _ => rfl

/-- Each target has its results in the order in which they came, and they are all there is. -/
structure ResultsSound (past : List Action) (state : AppState) : Prop where
  each : ∀ target, state.getTargetResults target = (received past).filter (·.target = target)
  all : (state.results.entries.flatMap (·.2)).Perm (received past)

theorem ResultsSound.act {past : List Action} {state : AppState} (sound : ResultsSound past state)
    (action : Action) :
    ResultsSound (past ++ [action]) (state.act action) := by
  have results := act_results state action
  have later := received_concat past action
  have kept : (state.act action).results = state.results →
      received (past ++ [action]) = received past →
      ResultsSound (past ++ [action]) (state.act action) := by
    intro same still
    refine ⟨fun target => ?_, ?_⟩
    · rw [getTargetResults, same, still]
      exact sound.each target
    · rw [same, still]
      exact sound.all
  cases action with
  | clearResults =>
    refine ⟨fun target => ?_, ?_⟩
    · rw [getTargetResults, results, later]
      rfl
    · rw [results, later]
      exact List.Perm.refl _
  | update update =>
    cases update with
    | result target result =>
      refine ⟨fun other => ?_, ?_⟩
      · have stored : (state.act (.update (.result target result))).results =
            state.results.insert result.target
              (state.getTargetResults result.target ++ [result]) := results
        rw [getTargetResults, stored, later, List.filter_append, ← sound.each]
        by_cases own : result.target = other
        · subst own
          simp
        · rw [AList.lookup_insert_ne (Ne.symm own)]
          simp [own, getTargetResults]
      · rw [results, later]
        exact (flatMap_insert_append state.results result.target result).trans
          (sound.all.append_right _)
    | _ => exact kept results later
  | _ => exact kept results later

theorem run_resultsSound (actions : List Action) : ResultsSound actions (run actions) := by
  induction actions using List.reverseRecOn with
  | nil => exact ⟨fun target => rfl, List.Perm.refl _⟩
  | append_singleton past action ih =>
    rw [run, List.foldl_concat]
    exact ih.act action

/-- A saved entry holds the results that had come for its target when its run was completed. -/
def Snapshot (actions : List Action) (entry : HistoryEntry) : Prop :=
  ∃ past later, actions = past ++ .update (.completed entry.target) :: later ∧
    entry.results = (received past).filter (·.target = entry.target) ∧ entry.results ≠ []

theorem Snapshot.concat {past : List Action} {entry : HistoryEntry} (snapshot : Snapshot past entry)
    (action : Action) :
    Snapshot (past ++ [action]) entry := by
  obtain ⟨before, later, rfl, results⟩ := snapshot
  exact ⟨before, later ++ [action], by simp, results⟩

theorem act_saved {state : AppState} {action : Action} {entry : HistoryEntry}
    (present : entry ∈ (state.act action).history) :
    entry ∈ state.history ∨
      action = .update (.completed entry.target) ∧
        entry.results = state.getTargetResults entry.target ∧
        entry.results ≠ [] := by
  cases action with
  | clearHistory => cases present
  | update update =>
    cases update with
    | completed target =>
      have history : (state.act (.update (.completed target))).history =
          (state.saveToHistory target state.selectedCategories).history := rfl
      rw [history, saveToHistory] at present
      split_ifs at present with none
      · exact Or.inl present
      · rcases List.mem_cons.mp (List.mem_of_mem_take present) with rfl | old
        · exact Or.inr ⟨rfl, rfl, by simpa using none⟩
        · exact Or.inl old
    | _ => exact Or.inl present
  | _ => exact Or.inl present

/-- The results shown for a target are those received for it since the last clearing, in their
order; the counts are those of all of them; and each saved entry is what had come for its target
when its run was completed. -/
theorem results_run (actions : List Action) :
    (∀ target, (run actions).getTargetResults target =
      (received actions).filter (·.target = target)) ∧
      (run actions).totalTests = (received actions).length ∧
      (run actions).successCount = (received actions).countP (·.status = .success) ∧
      ∀ entry ∈ (run actions).history, Snapshot actions entry := by
  have sound := run_resultsSound actions
  refine ⟨sound.each, ?_, sound.all.countP_eq _, ?_⟩
  · rw [totalTests, ← sound.all.length_eq, List.length_flatMap]
  · induction actions using List.reverseRecOn with
    | nil =>
      intro entry present
      cases present
    | append_singleton past action ih =>
      have before := run_resultsSound past
      intro entry present
      rw [run, List.foldl_concat] at present
      rcases act_saved present with old | ⟨rfl, results, some⟩
      · exact (ih before entry old).concat action
      · exact ⟨past, [], rfl, results.trans (before.each _), some⟩

/-- The updates among the actions. -/
def updatesOf (actions : List Action) : List TestUpdate :=
  actions.filterMap fun
    | .update update => some update
    | _ => none

/-- What an update says of whether tests are under way. -/
def testingAfter : TestUpdate → Option Bool
  | .started _ _ => some true
  | .completed _ | .failed _ _ => some false
  | .result _ _ | .progress _ _ => none

/-- What an update says of the progress. -/
def progressAfter : TestUpdate → Option ℚ
  | .started _ _ => some 0
  | .progress _ progress => some progress
  | .completed _ => some 1
  | .result _ _ | .failed _ _ => none

@[simp] theorem saveToHistory_testing (state : AppState) (target : String)
    (categories : List TestCategory) :
    (state.saveToHistory target categories).testing = state.testing := by
  rw [saveToHistory]
  split_ifs <;> rfl

/-- What is read of the state is what the last update says of it, where only updates do. -/
theorem run_reads {β : Type*} (read : AppState → β) (told : TestUpdate → Option β)
    (handles : ∀ state update, read (state.handle update) = (told update).getD (read state))
    (others : ∀ state action, (∀ update, action ≠ .update update) →
      read (state.act action) = read state)
    (actions : List Action) :
    read (run actions) = ((updatesOf actions).filterMap told).getLast?.getD (read new) := by
  have written : ∀ state action, read (state.act action) =
      ((match action with | .update update => told update | _ => none) : Option β).getD
        (read state) := by
    intro state action
    cases action with
    | update update => exact handles state update
    | _ => exact others state _ (by simp)
  rw [run, foldl_lastWrite written, updatesOf, List.filterMap_filterMap]
  congr 3
  funext action
  cases action <;> rfl

theorem run_testing (actions : List Action) :
    (run actions).testing = ((updatesOf actions).filterMap testingAfter).getLast?.getD false := by
  refine run_reads AppState.testing testingAfter ?_ ?_ actions
  · intro state update
    cases update <;> rfl
  · intro state action other
    cases action with
    | update update => exact absurd rfl (other update)
    | _ => rfl

theorem run_progress (actions : List Action) :
    (run actions).progress = ((updatesOf actions).filterMap progressAfter).getLast?.getD 0 := by
  refine run_reads AppState.progress progressAfter ?_ ?_ actions
  · intro state update
    cases update <;> rfl
  · intro state action other
    cases action with
    | update update => exact absurd rfl (other update)
    | _ => rfl

def isProgress : TestUpdate → Bool
  | .progress _ _ => true
  | _ => false

/-- The updates that a run sends between its start and its completion. -/
def bodyUpdates (target : String) (results : List TestResult) : List TestUpdate :=
  results.zipIdx.flatMap fun (result, i) =>
    [.result target result, .progress target ((i + 1 : Nat) / results.length)]

theorem bodyUpdates_cases {target : String} {results : List TestResult} {update : TestUpdate}
    (present : update ∈ bodyUpdates target results) :
    testingAfter update = none ∧ (progressAfter update).isSome = isProgress update := by
  obtain ⟨pair, -, sent⟩ := List.mem_flatMap.mp present
  rcases List.mem_pair.mp sent with rfl | rfl <;> exact ⟨rfl, rfl⟩

theorem progress_bodyUpdates (target : String) (results : List TestResult) :
    (bodyUpdates target results).filterMap progressAfter =
      (List.range results.length).map fun i => ((i + 1 : Nat) : ℚ) / results.length := by
  have indices : results.zipIdx.map (·.2) = List.range results.length := by
    rw [List.zipIdx_map_snd, List.range_eq_range']
  rw [bodyUpdates, List.filterMap_flatMap, ← indices, List.map_map, List.map_eq_flatMap]
  rfl

/-- The last progress of a beginning of the body is the share of the results that are in it. -/
theorem progress_of_prefix {target : String} {results : List TestResult} {sent : List TestUpdate}
    (begins : sent <+: bodyUpdates target results) :
    (sent.filterMap progressAfter).getLast?.getD 0 =
      (sent.countP isProgress : ℚ) / results.length := by
  have counted : (sent.filterMap progressAfter).length = sent.countP isProgress := by
    rw [List.length_filterMap_eq_countP]
    exact List.countP_congr fun update present => by
      rw [(bodyUpdates_cases (begins.subset present)).2]
  have shares : sent.filterMap progressAfter =
      ((List.range results.length).take (sent.countP isProgress)).map fun i => ((i + 1 : Nat) : ℚ) /
        results.length := by
    have front := List.prefix_iff_eq_take.mp (begins.filterMap progressAfter)
    rwa [progress_bodyUpdates, ← List.map_take, counted] at front
  have within : sent.countP isProgress ≤ results.length := by
    have length := congrArg List.length shares
    rw [counted] at length
    simp only [List.take_range, List.length_map, List.length_range] at length
    omega
  rw [shares, List.take_range, Nat.min_eq_left within, List.getLast?_map, List.getLast?_range]
  split_ifs with none
  · simp [none]
  · simp only [Option.map_some, Option.getD_some]
    congr 2
    omega

theorem getLast?_filterMap_append {α β : Type*} (f : α → Option β) (items more : List α) :
    ((items ++ more).filterMap f).getLast? =
      (more.filterMap f).getLast?.or (items.filterMap f).getLast? := by
  rw [List.filterMap_append, List.getLast?_append]

def resolverResult : TestResult :=
  (TestResult.new "DNS Resolution" .dns "dns.example").setStatus .success

def gatewayResult : TestResult :=
  (TestResult.new "Round Trip" .rtt "dns.example").setStatus .warning

/-- The first of two results has come, and the user has written to the log meanwhile. -/
def halfway : List Action :=
  [.update (.started "dns.example" none), .update (.result "dns.example" resolverResult),
    .log .info "note", .update (.progress "dns.example" ((1 : Nat) / (2 : Nat)))]

end AppState

end FragglePacket.Desktop
