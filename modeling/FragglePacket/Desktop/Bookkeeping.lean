import FragglePacket.Desktop.Runs
import Mathlib.Algebra.Order.Group.Nat

/-! What the desktop's state keeps over any sequence of updates and of the user's actions. -/

namespace FragglePacket.Desktop

open FragglePacket.Framework

namespace AppState

/-- The entries that an action logs. -/
def loggedBy : Action → List LogEntry
  | .update (.started target category) =>
    [⟨.info, "=== " ++ startedMessage target category ++ " ===", none⟩]
  | .update (.result _ result) => [resultEntry result]
  | .update (.progress _ _) => []
  | .update (.completed target) => [⟨.success, "=== Completed: " ++ target ++ " ===", none⟩]
  | .update (.failed target error) => [⟨.error, "FAILED: " ++ target ++ " - " ++ error, none⟩]
  | .log level message => [⟨level, message, none⟩]
  | _ => []

/-- Everything logged since the log was last cleared. -/
def logged (actions : List Action) : List LogEntry :=
  actions.foldl
    (fun entries action =>
      match action with
      | .clearLogs => []
      | action => entries ++ loggedBy action)
    []

/-- The categories that were selected last. -/
def selected (actions : List Action) : List TestCategory :=
  actions.foldl
    (fun categories action =>
      match action with
      | .select chosen => chosen
      | _ => categories)
    []

/-- How many entries were ever saved, and those saved since the history was last cleared, the
newest first. The actions come with the latest first. -/
def savedIn : List Action → Nat × List HistoryEntry
  | [] => (0, [])
  | action :: earlier =>
    let (count, entries) := savedIn earlier
    match action with
    | .clearHistory => (count, [])
    | .update (.completed target) =>
      let results := (received earlier.reverse).filter (·.target = target)
      if results = [] then (count, entries)
      else (count + 1, ⟨.ofNat count, target, selected earlier.reverse, results⟩ :: entries)
    | _ => (count, entries)

def saved (actions : List Action) : Nat × List HistoryEntry := savedIn actions.reverse

@[simp] theorem saveToHistory_toasts (state : AppState) (target : String)
    (categories : List TestCategory) :
    (state.saveToHistory target categories).toasts = state.toasts := by
  rw [saveToHistory]
  split_ifs <;> rfl

@[simp] theorem saveToHistory_toastCounter (state : AppState) (target : String)
    (categories : List TestCategory) :
    (state.saveToHistory target categories).toastCounter = state.toastCounter := by
  rw [saveToHistory]
  split_ifs <;> rfl

@[simp] theorem saveToHistory_logs (state : AppState) (target : String)
    (categories : List TestCategory) :
    (state.saveToHistory target categories).logs = state.logs := by
  rw [saveToHistory]
  split_ifs <;> rfl

/-- An action adds one toast with the next id, or adds none. -/
theorem act_toasts (state : AppState) (action : Action) :
    (∃ message toastType, (state.act action).toasts =
      state.toasts ++ [⟨state.toastCounter, message, toastType⟩] ∧
        (state.act action).toastCounter = state.toastCounter + 1) ∨
      (state.act action).toasts.Sublist state.toasts ∧
        (state.act action).toastCounter = state.toastCounter := by
  cases action with
  | addToast message toastType => exact Or.inl ⟨message, toastType, rfl, rfl⟩
  | removeToast id => exact Or.inr ⟨List.filter_sublist, rfl⟩
  | update update =>
    cases update with
    | completed target =>
      exact Or.inl ⟨"Tests completed for " ++ target, .success,
        by simp [act, handle, addToast, log], by simp [act, handle, addToast, log]⟩
    | failed target error => exact Or.inl ⟨_, _, rfl, rfl⟩
    | started _ _ => exact Or.inr ⟨List.Sublist.refl _, rfl⟩
    | result _ _ => exact Or.inr ⟨List.Sublist.refl _, rfl⟩
    | progress _ _ => exact Or.inr ⟨List.Sublist.refl _, rfl⟩
  | log _ _ => exact Or.inr ⟨List.Sublist.refl _, rfl⟩
  | select _ => exact Or.inr ⟨List.Sublist.refl _, rfl⟩
  | clearLogs => exact Or.inr ⟨List.Sublist.refl _, rfl⟩
  | clearHistory => exact Or.inr ⟨List.Sublist.refl _, rfl⟩
  | clearResults => exact Or.inr ⟨List.Sublist.refl _, rfl⟩
  | cancelTests => exact Or.inr ⟨List.Sublist.refl _, rfl⟩

/-- An action puts the results of a completed run in front of the history, clears it, or keeps
it. -/
inductive SavesTo (state : AppState) : Action → AppState → Prop
  | saved {target : String} {next : AppState} (some : state.getTargetResults target ≠ [])
      (history : next.history =
        (⟨state.historyCounter, target, state.selectedCategories, state.getTargetResults target⟩ ::
          state.history).take 50)
      (counter : next.historyCounter = state.historyCounter + 1) :
      SavesTo state (.update (.completed target)) next
  | cleared {next : AppState} (history : next.history = [])
      (counter : next.historyCounter = state.historyCounter) : SavesTo state .clearHistory next
  | kept {action : Action} {next : AppState} (other : action ≠ .clearHistory)
      (none : ∀ target, action = .update (.completed target) → state.getTargetResults target = [])
      (history : next.history = state.history)
      (counter : next.historyCounter = state.historyCounter) :
      SavesTo state action next

theorem act_history (state : AppState) (action : Action) :
    SavesTo state action (state.act action) := by
  cases action with
  | clearHistory => exact .cleared rfl rfl
  | update update =>
    cases update with
    | completed target =>
      by_cases none : state.getTargetResults target = []
      · refine .kept (by simp) ?_ ?_ ?_
        · rintro other same
          obtain rfl : target = other := by simpa using same
          exact none
        · simp [act, handle, addToast, log, saveToHistory, none]
        · simp [act, handle, addToast, log, saveToHistory, none]
      · refine .saved none ?_ ?_
        · simp [act, handle, addToast, log, saveToHistory, none]
        · simp [act, handle, addToast, log, saveToHistory, none]
    | _ => exact .kept (by simp) (by simp) rfl rfl
  | _ => exact .kept (by simp) (by simp) rfl rfl

theorem act_selectedCategories (state : AppState) (action : Action) :
    (state.act action).selectedCategories =
      match action with
      | .select chosen => chosen
      | _ => state.selectedCategories := by
  cases action with
  | update update =>
    cases update with
    | completed target =>
      have unchanged : (state.act (.update (.completed target))).selectedCategories =
          (state.saveToHistory target state.selectedCategories).selectedCategories := rfl
      rw [unchanged, saveToHistory]
      split_ifs <;> rfl
    | _ => rfl
  | _ => rfl

theorem run_selectedCategories (actions : List Action) :
    (run actions).selectedCategories = selected actions := by
  induction actions using List.reverseRecOn with
  | nil => rfl
  | append_singleton past action ih =>
    rw [run, List.foldl_concat, ← run, act_selectedCategories, ih, selected, selected,
      List.foldl_concat]

theorem saved_concat (past : List Action) (action : Action) :
    saved (past ++ [action]) =
      match action with
      | .clearHistory => ((saved past).1, [])
      | .update (.completed target) =>
        if (received past).filter (·.target = target) = [] then saved past
        else ((saved past).1 + 1, ⟨.ofNat (saved past).1, target, selected past,
          (received past).filter (·.target = target)⟩ :: (saved past).2)
      | _ => saved past := by
  rw [saved, List.reverse_append, List.reverse_singleton, List.singleton_append]
  cases action with
  | update update =>
    cases update with
    | completed target =>
      dsimp only [savedIn]
      rw [List.reverse_reverse]
      rfl
    | _ => rfl
  | _ => rfl

/-- An action that does not clear the log adds its entries, and may drop the oldest 100 when more
than 400 are left. -/
theorem act_logs (state : AppState) {action : Action} (kept : action ≠ .clearLogs) :
    (state.act action).logs = state.logs ++ loggedBy action ∨
      (state.act action).logs = (state.logs ++ loggedBy action).drop 100 ∧
        500 < (state.logs ++ loggedBy action).length := by
  cases action with
  | update update =>
    cases update with
    | result target result =>
      have logs : (state.act (.update (.result target result))).logs =
          if 500 < (state.logs ++ [resultEntry result]).length then
            (state.logs ++ [resultEntry result]).drop 100
          else state.logs ++ [resultEntry result] := rfl
      rw [logs, loggedBy]
      split_ifs with long
      · exact Or.inr ⟨rfl, long⟩
      · exact Or.inl rfl
    | completed target => exact Or.inl (by simp [act, handle, addToast, log, loggedBy])
    | failed _ _ => exact Or.inl rfl
    | started _ _ => exact Or.inl rfl
    | progress _ _ => exact Or.inl (List.append_nil _).symm
  | log _ _ => exact Or.inl rfl
  | clearLogs => exact absurd rfl kept
  | addToast _ _ => exact Or.inl (List.append_nil _).symm
  | removeToast _ => exact Or.inl (List.append_nil _).symm
  | select _ => exact Or.inl (List.append_nil _).symm
  | clearHistory => exact Or.inl (List.append_nil _).symm
  | clearResults => exact Or.inl (List.append_nil _).symm
  | cancelTests => exact Or.inl (List.append_nil _).symm

/-- The toasts' ids ascend and lie below the next one, which no more actions
have raised than there were. -/
structure ToastsSound (past : List Action) (state : AppState) : Prop where
  counted : state.toastCounter.toNat ≤ past.length
  used : ∀ toast ∈ state.toasts, toast.id < state.toastCounter
  ascending : state.toasts.Pairwise (·.id < ·.id)

/-- The history holds the newest 50 of the saved entries, numbered in the order of their saving. -/
structure HistorySound (past : List Action) (state : AppState) : Prop where
  counter : state.historyCounter = .ofNat (saved past).1
  newest : state.history = (saved past).2.take 50
  counted : (saved past).1 ≤ past.length
  latest : ∀ place entry, (saved past).2[place]? = some entry →
    entry.id = .ofNat ((saved past).1 - place - 1) ∧ place < (saved past).1

/-- The log is the end of what was logged, less whole hundreds, and where any are gone at least
401 entries are left. -/
def LogsSound (past : List Action) (state : AppState) : Prop :=
  ∃ hundreds, state.logs = (logged past).drop (100 * hundreds) ∧
    (hundreds = 0 ∨ 401 ≤ state.logs.length)

theorem toNat_succ {counter : UInt64} {size : Nat} (counted : counter.toNat ≤ size)
    (small : size + 1 < 2 ^ 64) :
    (counter + 1).toNat = counter.toNat + 1 := by
  rw [UInt64.toNat_add]
  exact Nat.mod_eq_of_lt (by simpa using Nat.lt_of_le_of_lt (Nat.succ_le_succ counted) small)

theorem ToastsSound.act {past : List Action} {state : AppState} (sound : ToastsSound past state)
    (action : Action) (small : past.length + 1 < 2 ^ 64) :
    ToastsSound (past ++ [action]) (state.act action) := by
  have length : (past ++ [action]).length = past.length + 1 := by simp
  rcases act_toasts state action with ⟨message, toastType, toasts, counter⟩ | ⟨fewer, counter⟩
  · have next := toNat_succ sound.counted small
    have below : ∀ toast ∈ state.toasts, toast.id < state.toastCounter + 1 := by
      intro toast present
      have used := UInt64.lt_iff_toNat_lt.mp (sound.used toast present)
      exact UInt64.lt_iff_toNat_lt.mpr (by omega)
    refine ⟨?_, ?_, ?_⟩
    · rw [counter, next, length]
      exact Nat.succ_le_succ sound.counted
    · rw [toasts, counter]
      intro toast present
      rcases List.mem_append.mp present with old | new
      · exact below toast old
      · rw [List.mem_singleton.mp new]
        exact UInt64.lt_iff_toNat_lt.mpr (by simp [next])
    · rw [toasts, List.pairwise_append]
      exact ⟨sound.ascending, List.pairwise_singleton _ _, by simpa using sound.used⟩
  · refine ⟨?_, ?_, sound.ascending.sublist fewer⟩
    · rw [counter, length]
      exact Nat.le_succ_of_le sound.counted
    · rw [counter]
      intro toast present
      exact sound.used toast (fewer.subset present)

/-- A completed run with results is the newest of the saved entries. -/
theorem saved_completed (past : List Action) {target : String}
    (some : (run past).getTargetResults target ≠ []) :
    saved (past ++ [.update (.completed target)]) =
      ((saved past).1 + 1, ⟨.ofNat (saved past).1, target, selected past,
        (run past).getTargetResults target⟩ :: (saved past).2) := by
  have each := (run_resultsSound past).each target
  rw [saved_concat, each]
  exact if_neg (each ▸ some)

/-- Other actions save nothing, nor does a run without results. -/
theorem saved_kept (past : List Action) {action : Action} (other : action ≠ .clearHistory)
    (none : ∀ target, action = .update (.completed target) →
      (run past).getTargetResults target = []) :
    saved (past ++ [action]) = saved past := by
  rw [saved_concat]
  cases action with
  | clearHistory => exact absurd rfl other
  | update update =>
    cases update with
    | completed target =>
      exact if_pos (((run_resultsSound past).each target).symm.trans (none target rfl))
    | _ => rfl
  | _ => rfl

/-- Behind a new entry the older ones keep their ids. -/
theorem latest_cons {count : Nat} {older : List HistoryEntry} {newest : HistoryEntry}
    (latest : ∀ place entry, older[place]? = some entry →
      entry.id = .ofNat (count - place - 1) ∧ place < count) (newId : newest.id = .ofNat count) :
    ∀ place entry, (newest :: older)[place]? = some entry →
      entry.id = .ofNat (count + 1 - place - 1) ∧ place < count + 1 := by
  intro place entry listed
  cases place with
  | zero =>
    obtain rfl := Option.some.inj listed
    exact ⟨newId, Nat.succ_pos _⟩
  | succ place =>
    obtain ⟨id, inside⟩ := latest place entry listed
    have before : count + 1 - (place + 1) - 1 = count - place - 1 := by omega
    exact ⟨id.trans (congrArg _ before.symm), Nat.succ_lt_succ inside⟩

theorem HistorySound.act {past : List Action} (sound : HistorySound past (run past))
    (action : Action) : HistorySound (past ++ [action]) ((run past).act action) := by
  have length : (past ++ [action]).length = past.length + 1 := by simp
  have step := act_history (run past) action
  generalize (run past).act action = next at step
  cases step with
  | @saved target _ some history counter =>
    have added := saved_completed past some
    refine ⟨?_, ?_, ?_, ?_⟩
    · rw [counter, sound.counter, added]
      exact (UInt64.ofNat_add _ 1).symm
    · rw [history, sound.counter, sound.newest, run_selectedCategories, added]
      simp [List.take_take]
    · rw [added, length]
      exact Nat.succ_le_succ sound.counted
    · rw [added]
      exact latest_cons sound.latest rfl
  | cleared history counter =>
    have emptied : saved (past ++ [.clearHistory]) = ((saved past).1, []) := saved_concat past _
    refine ⟨?_, ?_, ?_, ?_⟩
    · rw [counter, sound.counter, emptied]
    · rw [history, emptied]
      rfl
    · rw [emptied, length]
      exact Nat.le_succ_of_le sound.counted
    · simp [emptied]
  | kept other none history counter =>
    have same := saved_kept past other none
    refine ⟨?_, ?_, ?_, ?_⟩
    · rw [counter, sound.counter, same]
    · rw [history, sound.newest, same]
    · rw [same, length]
      exact Nat.le_succ_of_le sound.counted
    · rw [same]
      exact sound.latest

theorem logged_concat (past : List Action) {action : Action} (kept : action ≠ .clearLogs) :
    logged (past ++ [action]) = logged past ++ loggedBy action := by
  rw [logged, List.foldl_concat, ← logged]
  cases action with
  | clearLogs => exact absurd rfl kept
  | _ => rfl

theorem LogsSound.act {past : List Action} {state : AppState} (sound : LogsSound past state)
    (action : Action) :
    LogsSound (past ++ [action]) (state.act action) := by
  by_cases cleared : action = .clearLogs
  · subst cleared
    refine ⟨0, ?_, Or.inl rfl⟩
    rw [logged, List.foldl_concat]
    rfl
  · obtain ⟨hundreds, logs, left⟩ := sound
    have whole : state.logs ++ loggedBy action =
        (logged (past ++ [action])).drop (100 * hundreds) := by
      have within : 100 * hundreds ≤ (logged past).length := by
        rcases left with none | many
        · simp [none]
        · rw [logs, List.length_drop] at many
          omega
      rw [logged_concat past cleared, List.drop_append_of_le_length within, ← logs]
    rcases act_logs state cleared with same | ⟨shorter, long⟩
    · refine ⟨hundreds, same.trans whole, left.imp_right fun many => ?_⟩
      rw [same, List.length_append]
      omega
    · refine ⟨hundreds + 1, ?_, Or.inr ?_⟩
      · rw [shorter, whole, List.drop_drop]
        congr 1
      · rw [shorter, List.length_drop]
        omega

/-- Whatever comes, in whatever order: no two toasts share an id, the history is the newest 50 of
the saved entries, and the log loses only its oldest entries. -/
theorem run_bookkeeping (actions : List Action) (small : actions.length < 2 ^ 64) :
    ToastsSound actions (run actions) ∧ HistorySound actions (run actions) ∧
      LogsSound actions (run actions) := by
  induction actions using List.reverseRecOn with
  | nil =>
    refine ⟨⟨Nat.le_refl 0, ?_, List.Pairwise.nil⟩, ⟨rfl, rfl, Nat.le_refl 0, ?_⟩, 0, rfl,
      Or.inl rfl⟩
    · simp [run, new]
    · simp [saved, savedIn]
  | append_singleton past action ih =>
    rw [List.length_append, List.length_singleton] at small
    obtain ⟨toasts, history, logs⟩ := ih (Nat.lt_of_succ_lt small)
    rw [run, List.foldl_concat, ← run]
    exact ⟨toasts.act action small, history.act action, logs.act action⟩

def dnsResult : TestResult :=
  (TestResult.new "DNS Resolution" .dns "dns.example").setStatus .success

/-- A run that is saved, one that has no results, and another that is saved. -/
def savedTwice : List Action :=
  [.addToast "first" .info, .removeToast 0, .update (.result "dns.example" dnsResult),
    .update (.completed "dns.example"), .update (.completed "gateway.example"), .select [.dns],
    .update (.completed "dns.example"), .addToast "second" .info]

theorem run_bookkeeping_removed :
    ToastsSound savedTwice (run savedTwice) ∧ LogsSound savedTwice (run savedTwice) ∧
      (run savedTwice).history = [⟨1, "dns.example", [.dns], [dnsResult]⟩,
        ⟨0, "dns.example", [], [dnsResult]⟩] := by
  obtain ⟨toasts, history, logs⟩ := run_bookkeeping savedTwice (by decide)
  exact ⟨toasts, logs, history.newest⟩

end AppState

end FragglePacket.Desktop
