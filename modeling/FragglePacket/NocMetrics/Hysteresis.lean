import FragglePacket.NocMetrics.Threshold

/-! What repeated evaluation answers, against the stateless check. -/

namespace FragglePacket.NocMetrics

/-- The rung is the most severe one that the value opens. -/
structure FirstOpen (thresholds : List ThresholdConfig) (value : ℚ) (index : Nat)
    (rung : ThresholdConfig) : Prop where
  listed : thresholds[index]? = some rung
  opens : rung.IsOpenMatch value
  above : ∀ earlier < index, ∀ other, thresholds[earlier]? = some other → ¬ other.IsOpenMatch value

section FirstOpen
variable {thresholds : List ThresholdConfig} {value : ℚ} {index : Nat} {rung : ThresholdConfig}

theorem FirstOpen.cons {head : ThresholdConfig} (shut : ¬ head.IsOpenMatch value)
    (first : FirstOpen thresholds value index rung) :
    FirstOpen (head :: thresholds) value (index + 1) rung := by
  refine ⟨by rw [List.getElem?_cons_succ]; exact first.listed, first.opens, ?_⟩
  intro earlier before other listed
  cases earlier with
  | zero =>
    obtain rfl := Option.some.inj listed
    exact shut
  | succ earlier => exact first.above earlier (by omega) other (by simpa using listed)

theorem exists_firstOpen {opened : ThresholdConfig} (present : opened ∈ thresholds)
    (opens : opened.IsOpenMatch value) :
    ∃ index rung, FirstOpen thresholds value index rung := by
  induction thresholds with
  | nil => exact absurd present List.not_mem_nil
  | cons head rest ih =>
    by_cases here : head.IsOpenMatch value
    · refine ⟨0, head, rfl, here, ?_⟩
      intro earlier before
      exact absurd before (Nat.not_lt_zero earlier)
    · rcases List.mem_cons.mp present with rfl | later
      · exact absurd opens here
      · obtain ⟨index, rung, first⟩ := ih later
        exact ⟨index + 1, rung, first.cons here⟩

theorem FirstOpen.tail {head : ThresholdConfig}
    (first : FirstOpen (head :: thresholds) value (index + 1) rung) :
    ¬ head.IsOpenMatch value ∧ FirstOpen thresholds value index rung := by
  refine ⟨first.above 0 (Nat.succ_pos index) head rfl, by simpa using first.listed, first.opens, ?_⟩
  intro earlier before other listed
  exact first.above (earlier + 1) (by omega) other (by simpa using listed)

theorem FirstOpen.index_eq {other : Nat} {otherRung : ThresholdConfig}
    (first : FirstOpen thresholds value index rung)
    (second : FirstOpen thresholds value other otherRung) : index = other := by
  rcases Nat.lt_trichotomy index other with before | same | after
  · exact absurd first.opens (second.above index before rung first.listed)
  · exact same
  · exact absurd second.opens (first.above other after otherRung second.listed)

/-- The search that keeps the position stops at the most severe rung that opens. -/
theorem FirstOpen.find_zipIdx_eq (first : FirstOpen thresholds value index rung) (offset : Nat) :
    ((thresholds.zipIdx offset).find? fun entry => entry.1.IsOpenMatch value) =
      some (rung, offset + index) := by
  induction thresholds generalizing index offset with
  | nil => exact absurd first.listed (by simp)
  | cons head rest ih =>
    rw [List.zipIdx_cons]
    cases index with
    | zero =>
      obtain rfl := Option.some.inj first.listed
      exact List.find?_cons_of_pos (by simpa using first.opens)
    | succ index =>
      obtain ⟨shut, later⟩ := first.tail
      rw [List.find?_cons_of_neg (by simpa using shut), ih later (offset + 1)]
      congr 2
      omega

/-- The stateless search stops there too. -/
theorem FirstOpen.find_eq (first : FirstOpen thresholds value index rung) :
    (thresholds.find? fun other => other.IsOpenMatch value) = some rung := by
  have placed : ((thresholds.zipIdx.map (·.1)).find? fun other => other.IsOpenMatch value) =
      some rung := by
    rw [List.find?_map]
    exact congrArg (Option.map (·.1)) (first.find_zipIdx_eq 0)
  rw [List.zipIdx_map_fst] at placed
  exact placed

end FirstOpen

namespace ThresholdState

/-- The state after a run of windows. -/
def run (profile : ThresholdProfile) (windows : List (List Sample)) : ThresholdState :=
  windows.foldl (fun state samples => (state.evaluate profile samples).1) new

/-- The states that repeated evaluation of one profile reaches. -/
def Reachable (profile : ThresholdProfile) (state : ThresholdState) : Prop :=
  ∃ windows, run profile windows = state

section Judge
variable {thresholds : List ThresholdConfig} {state : ThresholdState} {value : ℚ} {index : Nat}
  {rung : ThresholdConfig}

theorem judge_cleared (held : state.openIndex = some index)
    (listed : thresholds[index]? = some rung) (clear : rung.IsClearMatch value) :
    state.judge thresholds value = (⟨none⟩, .ok none) := by
  simp only [judge, held, listed, if_pos clear]

theorem judge_held (held : state.openIndex = some index) (listed : thresholds[index]? = some rung)
    (notClear : ¬ rung.IsClearMatch value) :
    state.judge thresholds value = (state, .ok (some (value, rung))) := by
  simp only [judge, held, listed, if_neg notClear]

theorem judge_opened (shut : state.openIndex = none)
    (first : FirstOpen thresholds value index rung) :
    state.judge thresholds value = (⟨some index⟩, .ok (some (value, rung))) := by
  simp only [judge, shut, first.find_zipIdx_eq 0, Nat.zero_add]

theorem judge_shut (shut : state.openIndex = none)
    (quiet : ∀ other ∈ thresholds, ¬ other.IsOpenMatch value) :
    state.judge thresholds value = (state, .ok none) := by
  have nothing : (thresholds.zipIdx.find? fun entry => entry.1.IsOpenMatch value) = none := by
    refine List.find?_eq_none.mpr ?_
    intro entry present
    simpa using quiet entry.1 (List.fst_mem_of_mem_zipIdx present)
  simp only [judge, shut, nothing]

/-- What a value can make of a state. -/
inductive Judged (thresholds : List ThresholdConfig) (value : ℚ) (state : ThresholdState) :
    ThresholdState × Except ThresholdHalt (Option (ℚ × ThresholdConfig)) → Prop where
  | missing {index : Nat} (held : state.openIndex = some index)
      (absent : thresholds[index]? = none) :
    Judged thresholds value state (state, .error .outOfBounds)
  | cleared {index : Nat} {rung : ThresholdConfig} (held : state.openIndex = some index)
    (listed : thresholds[index]? = some rung) (clear : rung.IsClearMatch value) :
    Judged thresholds value state (⟨none⟩, .ok none)
  | held {index : Nat} {rung : ThresholdConfig} (held : state.openIndex = some index)
    (listed : thresholds[index]? = some rung) (notClear : ¬ rung.IsClearMatch value) :
    Judged thresholds value state (state, .ok (some (value, rung)))
  | opened {index : Nat} {rung : ThresholdConfig} (shut : state.openIndex = none)
    (first : FirstOpen thresholds value index rung) :
    Judged thresholds value state (⟨some index⟩, .ok (some (value, rung)))
  | quiet (shut : state.openIndex = none)
      (quiet : ∀ other ∈ thresholds, ¬ other.IsOpenMatch value) :
    Judged thresholds value state (state, .ok none)

theorem judge_judged (state : ThresholdState) (thresholds : List ThresholdConfig) (value : ℚ) :
    Judged thresholds value state (state.judge thresholds value) := by
  cases held : state.openIndex with
  | some index =>
    cases listed : thresholds[index]? with
    | none =>
      have answer : state.judge thresholds value = (state, .error .outOfBounds) := by
        simp only [judge, held, listed]
      rw [answer]
      exact .missing held listed
    | some rung =>
      by_cases clear : rung.IsClearMatch value
      · rw [judge_cleared held listed clear]
        exact .cleared held listed clear
      · rw [judge_held held listed clear]
        exact .held held listed clear
  | none =>
    by_cases opens : ∃ opened ∈ thresholds, opened.IsOpenMatch value
    · obtain ⟨opened, present, matched⟩ := opens
      obtain ⟨index, rung, first⟩ := exists_firstOpen present matched
      rw [judge_opened held first]
      exact .opened held first
    · have quiet : ∀ other ∈ thresholds, ¬ other.IsOpenMatch value :=
        fun other present matched => opens ⟨other, present, matched⟩
      rw [judge_shut held quiet]
      exact .quiet held quiet

end Judge

/-- The rung that is open was the most severe one that some value opened, and no value since
has met its clear condition. -/
def Holds (thresholds : List ThresholdConfig) (values : List ℚ) (state : ThresholdState) : Prop :=
  ∀ index, state.openIndex = some index →
    ∃ before opening since rung, values = before ++ opening :: since ∧
      FirstOpen thresholds opening index rung ∧
      ∀ value ∈ since, ¬ rung.IsClearMatch value

theorem new_holds (thresholds : List ThresholdConfig) : new.Holds thresholds [] := by
  intro index held
  cases held

theorem judge_holds {thresholds : List ThresholdConfig} {values : List ℚ} {state : ThresholdState}
    (holds : state.Holds thresholds values) (value : ℚ) :
    (state.judge thresholds value).1.Holds thresholds (values ++ [value]) := by
  have judged := state.judge_judged thresholds value
  generalize state.judge thresholds value = result at judged ⊢
  intro other isIndex
  cases judged with
  | @missing index held absent =>
    obtain ⟨before, opening, since, rung, split, first, uncleared⟩ := holds index held
    cases absent.symm.trans first.listed
  | cleared => cases isIndex
  | @held index rung held listed notClear =>
    obtain rfl := Option.some.inj (held.symm.trans isIndex)
    obtain ⟨before, opening, since, opened, split, first, uncleared⟩ := holds index held
    obtain rfl := Option.some.inj (listed.symm.trans first.listed)
    refine ⟨before, opening, since ++ [value], rung, by simp [split], first, ?_⟩
    intro later present
    rcases List.mem_append.mp present with earlier | last
    · exact uncleared later earlier
    · rw [List.mem_singleton.mp last]
      exact notClear
  | @opened index rung shut first =>
    obtain rfl := Option.some.inj isIndex
    exact ⟨values, value, [], rung, rfl, first, by simp⟩
  | quiet shut => cases shut.symm.trans isIndex

/-- The value that a window is judged by, if it has one. -/
def valueOf (profile : ThresholdProfile) (samples : List Sample) : Option ℚ :=
  match profile.aggregate samples with
  | .ok value => value
  | .error _ => none

theorem evaluate_holds {profile : ThresholdProfile} {values : List ℚ} {state : ThresholdState}
    (holds : state.Holds profile.thresholds values) (samples : List Sample) :
    (state.evaluate profile samples).1.Holds profile.thresholds
      (values ++ (valueOf profile samples).toList) := by
  cases aggregated : profile.aggregate samples with
  | error halt => simpa [evaluate, valueOf, aggregated] using holds
  | ok aggregate =>
    cases aggregate with
    | none => simpa [evaluate, valueOf, aggregated] using holds
    | some value => simpa [evaluate, valueOf, aggregated] using judge_holds holds value

theorem foldl_evaluate_holds {profile : ThresholdProfile} {values : List ℚ} {state : ThresholdState}
    (holds : state.Holds profile.thresholds values) (windows : List (List Sample)) :
    (windows.foldl (fun state samples => (state.evaluate profile samples).1) state).Holds
      profile.thresholds
      (values ++ windows.filterMap (valueOf profile)) := by
  induction windows generalizing values state with
  | nil => simpa using holds
  | cons samples rest ih =>
    have step := ih (evaluate_holds holds samples)
    cases judged : valueOf profile samples with
    | none => simpa [judged] using step
    | some value => simpa [judged] using step

/-- An open rung of a run was opened by one of its values and not cleared since. -/
theorem run_holds (profile : ThresholdProfile) (windows : List (List Sample)) :
    (run profile windows).Holds profile.thresholds (windows.filterMap (valueOf profile)) := by
  exact foldl_evaluate_holds (new_holds profile.thresholds) windows

theorem Reachable.listed {profile : ThresholdProfile} {state : ThresholdState}
    (reachable : Reachable profile state) {index : Nat} (held : state.openIndex = some index) :
    ∃ rung, profile.thresholds[index]? = some rung := by
  obtain ⟨windows, rfl⟩ := reachable
  obtain ⟨before, opening, since, rung, split, first, uncleared⟩ :=
    run_holds profile windows index held
  exact ⟨rung, first.listed⟩

/-- The answer to a window names a rung at least as severe as the stateless check does. -/
def AnswersAsSeverely (profile : ThresholdProfile) (state : ThresholdState) (samples : List Sample)
    (value : ℚ) : Prop :=
  ∃ held heldRung index rung,
    state.evaluate profile samples = (⟨some held⟩, .ok (some (value, heldRung))) ∧
      profile.thresholds[held]? = some heldRung ∧
        profile.evaluate samples = .ok (some (value, rung)) ∧
      FirstOpen profile.thresholds value index rung ∧ held ≤ index

theorem stateless_eq {profile : ThresholdProfile} {samples : List Sample} {value : ℚ} {index : Nat}
    {rung : ThresholdConfig} (aggregated : profile.aggregate samples = .ok (some value))
    (first : FirstOpen profile.thresholds value index rung) :
    profile.evaluate samples = .ok (some (value, rung)) := by
  have searched : profile.evaluate samples =
      .ok ((profile.thresholds.find? fun other => other.IsOpenMatch value).map fun other =>
        (value, other)) := by
    rw [ThresholdProfile.evaluate, aggregated]
    rfl
  rw [searched, first.find_eq]
  rfl

theorem evaluate_eq {profile : ThresholdProfile} {samples : List Sample} {value : ℚ}
    (state : ThresholdState) (aggregated : profile.aggregate samples = .ok (some value)) :
    state.evaluate profile samples = state.judge profile.thresholds value := by
  simp only [evaluate, aggregated]

/-- The value meets the clear condition of the rung that is open. -/
def Clears (profile : ThresholdProfile) (state : ThresholdState) (value : ℚ) : Prop :=
  ∃ held rung, state.openIndex = some held ∧ profile.thresholds[held]? = some rung ∧
    rung.IsClearMatch value

section Answer
variable {profile : ThresholdProfile} {state : ThresholdState} {samples : List Sample} {value : ℚ}
  {held index : Nat} {heldRung rung : ThresholdConfig}

private theorem answersAsSeverely_iff_le (aggregated : profile.aggregate samples = .ok (some value))
    (answer : state.evaluate profile samples = (⟨some held⟩, .ok (some (value, heldRung))))
    (listed : profile.thresholds[held]? = some heldRung)
    (first : FirstOpen profile.thresholds value index rung) :
    AnswersAsSeverely profile state samples value ↔ held ≤ index := by
  constructor
  · rintro ⟨other, otherRung, otherIndex, otherFirst, same, -, -, second, severe⟩
    rw [answer] at same
    have heldSame : held = other := Option.some.inj (ThresholdState.mk.inj (Prod.mk.inj same).1)
    rw [heldSame, first.index_eq second]
    exact severe
  · intro severe
    exact ⟨held, heldRung, index, rung, answer, listed, stateless_eq aggregated first,
      first, severe⟩

private theorem not_answersAsSeverely
    (answer : state.evaluate profile samples = (⟨none⟩, .ok none)) :
    ¬ AnswersAsSeverely profile state samples value := by
  rintro ⟨other, otherRung, otherIndex, otherFirst, same, -⟩
  rw [answer] at same
  cases same

private theorem not_clears (shut : state.openIndex = none) : ¬ Clears profile state value := by
  rintro ⟨other, otherRung, isOther, -⟩
  rw [shut] at isOther
  cases isOther

private theorem clears_iff (opening : state.openIndex = some held)
    (listed : profile.thresholds[held]? = some heldRung) :
    Clears profile state value ↔ heldRung.IsClearMatch value := by
  constructor
  · rintro ⟨other, otherRung, isOther, isListed, clears⟩
    obtain rfl := Option.some.inj (opening.symm.trans isOther)
    obtain rfl := Option.some.inj (listed.symm.trans isListed)
    exact clears
  · intro clears
    exact ⟨held, heldRung, opening, listed, clears⟩

private theorem answer_shut (aggregated : profile.aggregate samples = .ok (some value))
    (shut : state.openIndex = none) (first : FirstOpen profile.thresholds value index rung) :
    state.evaluate profile samples = (⟨some index⟩, .ok (some (value, rung))) :=
  (evaluate_eq state aggregated).trans (judge_opened shut first)

private theorem answer_cleared (aggregated : profile.aggregate samples = .ok (some value))
    (opening : state.openIndex = some held) (listed : profile.thresholds[held]? = some heldRung)
    (clear : heldRung.IsClearMatch value) : state.evaluate profile samples = (⟨none⟩, .ok none) :=
  (evaluate_eq state aggregated).trans (judge_cleared opening listed clear)

private theorem answer_held (aggregated : profile.aggregate samples = .ok (some value))
    (opening : state.openIndex = some held) (listed : profile.thresholds[held]? = some heldRung)
    (unclear : ¬ heldRung.IsClearMatch value) :
    state.evaluate profile samples = (⟨some held⟩, .ok (some (value, heldRung))) := by
  rw [evaluate_eq state aggregated, judge_held opening listed unclear, ← opening]

/-- The alarm goes out at a value that opens some rung only when the open rung is cleared. -/
theorem answers_none_iff (reachable : Reachable profile state)
    (aggregated : profile.aggregate samples = .ok (some value))
    (first : FirstOpen profile.thresholds value index rung) :
    (state.evaluate profile samples).2 = .ok none ↔ Clears profile state value := by
  cases opening : state.openIndex with
  | none =>
    rw [answer_shut aggregated opening first]
    exact iff_of_false (by simp) (not_clears opening)
  | some held =>
    obtain ⟨heldRung, listed⟩ := reachable.listed opening
    rw [clears_iff opening listed]
    by_cases clear : heldRung.IsClearMatch value
    · rw [answer_cleared aggregated opening listed clear]
      exact iff_of_true rfl clear
    · rw [answer_held aggregated opening listed clear]
      exact iff_of_false (by simp) clear

theorem answersAsSeverely_iff (reachable : Reachable profile state)
    (aggregated : profile.aggregate samples = .ok (some value))
    (first : FirstOpen profile.thresholds value index rung) :
    AnswersAsSeverely profile state samples value ↔
      ¬ Clears profile state value ∧ ∀ held, state.openIndex = some held → held ≤ index := by
  cases opening : state.openIndex with
  | none =>
    have answer := answer_shut aggregated opening first
    have severe := (answersAsSeverely_iff_le aggregated answer first.listed first).mpr le_rfl
    refine iff_of_true severe ⟨not_clears opening, ?_⟩
    intro held isHeld
    cases isHeld
  | some held =>
    obtain ⟨heldRung, listed⟩ := reachable.listed opening
    rw [clears_iff opening listed]
    by_cases clear : heldRung.IsClearMatch value
    · refine iff_of_false (not_answersAsSeverely
        (answer_cleared aggregated opening listed clear)) ?_
      rintro ⟨unclear, -⟩
      exact unclear clear
    · rw [answersAsSeverely_iff_le aggregated (answer_held aggregated opening listed clear)
        listed first]
      constructor
      · intro severe
        refine ⟨clear, ?_⟩
        intro other isOther
        obtain rfl := Option.some.inj isOther
        exact severe
      · rintro ⟨-, severe⟩
        exact severe held rfl

/-- An alarm clears by the clear condition of the rung that is open, and by nothing else.
When the value opens some rung, the answer is as severe as the stateless one unless the open
rung is cleared or a less severe rung is open. -/
theorem reachable_answer (reachable : Reachable profile state)
    (aggregated : profile.aggregate samples = .ok (some value)) {opened : ThresholdConfig}
    (present : opened ∈ profile.thresholds) (opens : opened.IsOpenMatch value) :
    ((state.evaluate profile samples).2 = .ok none ↔ Clears profile state value) ∧
    (state.openIndex = none → (state.evaluate profile samples).2 = profile.evaluate samples) ∧
    (∀ held rung, state.openIndex = some held → profile.thresholds[held]? = some rung →
      ¬ rung.IsClearMatch value → (state.evaluate profile samples).2 = .ok (some (value, rung))) ∧
    (AnswersAsSeverely profile state samples value ↔
      ¬ Clears profile state value ∧
        ∀ held, state.openIndex = some held →
          ∀ index rung, FirstOpen profile.thresholds value index rung → held ≤ index) := by
  obtain ⟨index, rung, first⟩ := exists_firstOpen present opens
  refine ⟨answers_none_iff reachable aggregated first, ?_, ?_, ?_⟩
  · intro shut
    rw [answer_shut aggregated shut first, stateless_eq aggregated first]
  · intro held heldRung opening listed unclear
    rw [answer_held aggregated opening listed unclear]
  · rw [answersAsSeverely_iff reachable aggregated first]
    -- the first open rung is unique, so quantifying over it says nothing more
    refine and_congr_right fun _ => forall₂_congr fun held _ => ?_
    constructor
    · intro severe other otherRung second
      exact severe.trans_eq (first.index_eq second)
    · intro severe
      exact severe index rung first

end Answer

def highRung : ThresholdConfig := ⟨"high", .ge, 10, .lt, 8⟩
def mediumRung : ThresholdConfig := ⟨"medium", .ge, 1, .lt, 1 / 2⟩

theorem reachable_answer_high :
    ((run packetLossProfile [[(0, 12)]]).evaluate packetLossProfile [(1, 9)]).2 =
      .ok (some (9, highRung)) := by
  have reachable : Reachable packetLossProfile (run packetLossProfile [[(0, 12)]]) :=
    ⟨[[(0, 12)]], rfl⟩
  have aggregated : packetLossProfile.aggregate [(1, 9)] = .ok (some 9) := by decide +kernel
  have present : mediumRung ∈ packetLossProfile.thresholds :=
    List.mem_cons_of_mem highRung List.mem_cons_self
  have opens : mediumRung.IsOpenMatch 9 := by decide
  exact (reachable_answer reachable aggregated present opens).2.2.1 0 highRung
    (by decide +kernel) rfl (by decide)

/-- The high rung clears at 5 while the medium one is open, and at 12 an open medium rung
keeps the high one from being named. -/
theorem alarm_clears_while_open :
    packetLossProfile.evaluate [(1, 5)] = .ok (some (5, mediumRung)) ∧
      ((run packetLossProfile [[(0, 12)]]).evaluate packetLossProfile [(1, 5)]).2 = .ok none ∧
      packetLossProfile.evaluate [(1, 12)] = .ok (some (12, highRung)) ∧
      ((run packetLossProfile [[(0, 2)]]).evaluate packetLossProfile [(1, 12)]).2 =
        .ok (some (12, mediumRung)) := by
  decide +kernel

end ThresholdState

end FragglePacket.NocMetrics
