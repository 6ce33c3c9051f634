import FragglePacket.NocMetrics.Hysteresis

/-! When the answer of a repeated evaluation says whether a rung is open. -/

namespace FragglePacket.NocMetrics

open FragglePacket.Lists

namespace Window
variable {window : List Sample}

private theorem sortedValues_ne_nil (some : window ≠ []) : sortedValues window ≠ [] :=
  sortByKey_eq_nil_iff.not.mpr some

private theorem last_ne_none (some : window ≠ []) : last window ≠ none := by
  rw [last, List.getLast?_eq_some_getLast (sortedValues_ne_nil some)]
  exact Option.some_ne_none _

private theorem percentile_ne_none (some : window ≠ []) (q : ℚ) : percentile window q ≠ none := by
  have values : sortByKey id (window.map (·.2)) ≠ [] :=
    sortByKey_eq_nil_iff.not.mpr (List.map_eq_nil_iff.not.mpr some)
  obtain ⟨first, rest, split⟩ := List.exists_cons_of_ne_nil values
  rw [percentile, if_neg some, split]
  dsimp only
  split_ifs <;> simp

private theorem stepSum_ne_none (step : ℚ → ℚ → ℚ) (some : window ≠ []) :
    stepSum step window ≠ none := by
  rw [stepSum, if_neg (sortedValues_ne_nil some)]
  exact Option.some_ne_none _

/-- A function that is known has a value for every window that is not empty. -/
theorem apply_ne_none (some : window ≠ []) (name : String) : apply name window ≠ .ok none := by
  unfold apply
  split <;> simp only [ne_eq, Except.ok.injEq, reduceCtorEq, not_false_eq_true]
  all_goals first
    | exact last_ne_none some
    | exact percentile_ne_none some _
    | exact stepSum_ne_none _ some
    | simp [sum, avg, some]

/-- It has none for the empty window. -/
theorem apply_nil {name : String} {value : Option ℚ} (known : apply name window = .ok value) :
    apply name [] = .ok none := by
  unfold apply at known ⊢
  split at known <;> first | rfl | cases known

end Window

namespace ThresholdProfile

/-- The newest sample is in the window. -/
theorem selectWindow_ne_nil {profile : ThresholdProfile} {samples window : List Sample}
    (some : samples ≠ []) (selected : profile.selectWindow samples = .ok window) : window ≠ [] := by
  have sorted : sortedValues samples ≠ [] := sortByKey_eq_nil_iff.not.mpr some
  rw [selectWindow] at selected
  cases kind : profile.windowType with
  | measurements =>
    simp only [kind] at selected
    obtain rfl := Except.ok.inj selected
    have nonempty := List.length_pos_iff.mpr sorted
    rw [ne_eq, List.drop_eq_nil_iff]
    have kept : 1 ≤ (max profile.window 1).toNat := by omega
    omega
  | time =>
    simp only [kind, List.getLast?_eq_some_getLast sorted] at selected
    rw [i64Sub] at selected
    split_ifs at selected
    · obtain rfl := Except.ok.inj selected
      have inside : (sortedValues samples).getLast sorted ∈
          (sortedValues samples).filter fun sample =>
          ((sortedValues samples).getLast sorted).1 - max profile.window 0 ≤ sample.1 := by
        refine List.mem_filter.mpr ⟨List.getLast_mem sorted, ?_⟩
        simp
      exact List.ne_nil_of_mem inside
    · cases selected

theorem selectWindow_nil (profile : ThresholdProfile) : profile.selectWindow [] = .ok [] := by
  rw [selectWindow]
  cases profile.windowType with
  | measurements => exact congrArg Except.ok List.drop_nil
  | time => rfl

theorem aggregate_eq_ok_iff {profile : ThresholdProfile} {samples : List Sample}
    {value : Option ℚ} :
    profile.aggregate samples = .ok value ↔
      ∃ window, profile.selectWindow samples = .ok window ∧
        Window.apply profile.windowFunction window = .ok value := by
  rw [aggregate]
  cases profile.selectWindow samples with
  | error halt => simp [bind, Except.bind]
  | ok window =>
    cases applied : Window.apply profile.windowFunction window with
    | error message => simp [bind, Except.bind, Except.mapError, applied]
    | ok value => simp [bind, Except.bind, Except.mapError, applied]

/-- Only an empty window has no value. -/
theorem aggregate_ne_none {profile : ThresholdProfile} {samples : List Sample}
    (some : samples ≠ []) :
    profile.aggregate samples ≠ .ok none := by
  intro none
  obtain ⟨window, selected, applied⟩ := aggregate_eq_ok_iff.mp none
  exact Window.apply_ne_none (selectWindow_ne_nil some selected) profile.windowFunction applied

/-- A profile that some window has been judged by has no value for the empty one. -/
theorem aggregate_nil {profile : ThresholdProfile} {samples : List Sample} {value : Option ℚ}
    (judged : profile.aggregate samples = .ok value) : profile.aggregate [] = .ok none := by
  obtain ⟨window, -, applied⟩ := aggregate_eq_ok_iff.mp judged
  exact aggregate_eq_ok_iff.mpr ⟨[], selectWindow_nil profile, Window.apply_nil applied⟩

end ThresholdProfile

namespace ThresholdState

/-- An answer that is no error names a rung just when one is open. -/
def Agrees (result : ThresholdState × Except ThresholdHalt (Option (ℚ × ThresholdConfig))) : Prop :=
  ∀ answer, result.2 = .ok answer → (answer.isSome ↔ result.1.isOpen)

/-- So does every answer of a run. -/
def AgreesThroughout (profile : ThresholdProfile) (windows : List (List Sample)) : Prop :=
  ∀ before samples after, windows = before ++ samples :: after →
    Agrees ((run profile before).evaluate profile samples)

theorem judge_agrees (state : ThresholdState) (thresholds : List ThresholdConfig) (value : ℚ) :
    Agrees (state.judge thresholds value) := by
  have judged := state.judge_judged thresholds value
  generalize state.judge thresholds value = result at judged ⊢
  intro answer answered
  cases judged with
  | missing => cases answered
  | cleared =>
    obtain rfl := Except.ok.inj answered
    simp [isOpen]
  | held held =>
    obtain rfl := Except.ok.inj answered
    simp [isOpen, held]
  | opened =>
    obtain rfl := Except.ok.inj answered
    simp [isOpen]
  | quiet shut =>
    obtain rfl := Except.ok.inj answered
    simp [isOpen, shut]

/-- One step goes wrong where a rung is open and the window has no value. -/
theorem evaluate_agrees_iff (profile : ThresholdProfile) (state : ThresholdState)
    (samples : List Sample) :
    Agrees (state.evaluate profile samples) ↔
      (state.isOpen → profile.aggregate samples ≠ .ok none) := by
  cases aggregated : profile.aggregate samples with
  | error halt => simp [Agrees, evaluate, aggregated]
  | ok aggregate =>
    cases aggregate with
    | none => simp [Agrees, evaluate, aggregated]
    | some value =>
      rw [evaluate_eq state aggregated]
      exact iff_of_true (judge_agrees state profile.thresholds value) (by simp)

/-- A rung is open only when some window of the run had a value. -/
theorem exists_judged {profile : ThresholdProfile} {windows : List (List Sample)}
    (opened : (run profile windows).isOpen) :
    ∃ samples value, profile.aggregate samples = .ok (some value) := by
  obtain ⟨index, held⟩ := Option.isSome_iff_exists.mp opened
  obtain ⟨before, opening, since, rung, split, -⟩ := run_holds profile windows index held
  have listed : opening ∈ windows.filterMap (valueOf profile) := by simp [split]
  obtain ⟨samples, -, judged⟩ := List.mem_filterMap.mp listed
  refine ⟨samples, opening, ?_⟩
  unfold valueOf at judged
  cases aggregated : profile.aggregate samples with
  | error halt => simp [aggregated] at judged
  | ok value => simpa [aggregated] using judged

theorem reachable_agrees_iff (profile : ThresholdProfile) (before : List (List Sample))
    (samples : List Sample) :
    Agrees ((run profile before).evaluate profile samples) ↔
      ((run profile before).isOpen → samples ≠ []) := by
  rw [evaluate_agrees_iff]
  refine forall_congr' fun opened => ⟨?_, ThresholdProfile.aggregate_ne_none⟩
  rintro valued rfl
  obtain ⟨judged, value, aggregated⟩ := exists_judged opened
  exact valued (ThresholdProfile.aggregate_nil aggregated)

/-- The answers of a run agree with its states just when no empty window comes while a rung
is open. -/
theorem agreesThroughout_iff (profile : ThresholdProfile) (windows : List (List Sample)) :
    AgreesThroughout profile windows ↔
      ∀ before samples after, windows = before ++ samples :: after → (run profile before).isOpen →
        samples ≠ [] := by
  unfold AgreesThroughout
  simp only [reachable_agrees_iff]

/-- The high rung opens at 12, and the empty window after it is answered as if it were clear. -/
theorem empty_window_answers_clear : ¬ AgreesThroughout packetLossProfile [[(0, 12)], []] := by
  intro agrees
  have answered := (agrees [[(0, 12)]] [] [] rfl none (by decide +kernel)).mpr (by decide +kernel)
  cases answered

end ThresholdState

end FragglePacket.NocMetrics
