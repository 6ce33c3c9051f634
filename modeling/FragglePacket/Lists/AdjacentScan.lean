import FragglePacket.Lists.SortByKey
import Mathlib.Data.List.Chain
import Mathlib.Data.Set.Finite.Lemmas
import Mathlib.Data.Set.Finite.List

/-! The first finding on two neighbours of a list that is sorted by a rate, and when it does
not depend on how readings of the same rate are ordered. -/

namespace FragglePacket.Lists

variable {α : Type*} {β : Type*} {κ : Type*}

def firstFinding (judge : α → α → Option β) : List α → Option β
  | lo :: hi :: rest => (judge lo hi).or (firstFinding judge (hi :: rest))
  | _ => none

section Scan
variable {judge : α → α → Option β}

theorem firstFinding_eq_none_iff (points : List α) :
    firstFinding judge points = none ↔ points.IsChain fun lo hi => judge lo hi = none := by
  induction points with
  | nil => simp [firstFinding]
  | cons lo rest ih =>
    cases rest with
    | nil => simp [firstFinding]
    | cons hi rest => rw [firstFinding, Option.or_eq_none_iff, ih, List.isChain_cons_cons]

theorem firstFinding_append (before : List α) (lo hi : α) (rest : List α)
    (quiet : firstFinding judge (before ++ [lo]) = none) :
    firstFinding judge (before ++ lo :: hi :: rest) =
      (judge lo hi).or (firstFinding judge (hi :: rest)) := by
  induction before with
  | nil => rfl
  | cons first before ih =>
    cases before with
    | nil =>
      rw [List.cons_append, List.nil_append, firstFinding, Option.or_eq_none_iff] at quiet
      rw [List.cons_append, List.nil_append, firstFinding, quiet.1]
      rfl
    | cons second before =>
      rw [List.cons_append, List.cons_append, firstFinding, Option.or_eq_none_iff] at quiet
      rw [List.cons_append, List.cons_append, firstFinding, quiet.1]
      exact ih quiet.2

/-- The first finding is that of two neighbours with nothing to find before them. -/
theorem firstFinding_eq_some_iff {points : List α} {finding : β} :
    firstFinding judge points = some finding ↔
      ∃ before lo hi rest, points = before ++ lo :: hi :: rest ∧
        firstFinding judge (before ++ [lo]) = none ∧ judge lo hi = some finding := by
  constructor
  · intro found
    induction points with
    | nil => simp [firstFinding] at found
    | cons lo points ih =>
      cases points with
      | nil => simp [firstFinding] at found
      | cons hi rest =>
        rw [firstFinding] at found
        rcases Option.or_eq_some_iff.mp found with here | ⟨quiet, later⟩
        · exact ⟨[], lo, hi, rest, rfl, rfl, here⟩
        · obtain ⟨before, lo', hi', rest', split, silent, judged⟩ := ih later
          refine ⟨lo :: before, lo', hi', rest', by rw [split]; rfl, ?_, judged⟩
          rw [firstFinding_eq_none_iff] at silent ⊢
          cases before with
          | nil =>
            obtain ⟨rfl, -⟩ := List.cons.inj split
            exact List.isChain_pair.mpr quiet
          | cons next before =>
            obtain ⟨rfl, -⟩ := List.cons.inj split
            exact List.isChain_cons_cons.mpr ⟨quiet, silent⟩
  · rintro ⟨before, lo, hi, rest, rfl, quiet, judged⟩
    rw [firstFinding_append before lo hi rest quiet, judged, Option.some_or]

theorem exists_neighbours_of_finding {points : List α} {finding : β}
    (found : firstFinding judge points = some finding) :
    ∃ before lo hi rest, points = before ++ lo :: hi :: rest ∧ judge lo hi = some finding := by
  obtain ⟨before, lo, hi, rest, split, -, judged⟩ := firstFinding_eq_some_iff.mp found
  exact ⟨before, lo, hi, rest, split, judged⟩

end Scan

section Sorted
variable [LinearOrder κ] (rate : α → κ)

/-- Readings of two rates that no other reading lies between. -/
structure RateStep (points : List α) (lo hi : α) : Prop where
  lower : lo ∈ points
  higher : hi ∈ points
  rises : rate lo < rate hi
  between : ∀ point ∈ points, rate point ≤ rate lo ∨ rate hi ≤ rate point

variable {rate}

theorem RateStep.of_perm {points shuffled : List α} {lo hi : α} (step : RateStep rate points lo hi)
    (perm : shuffled.Perm points) : RateStep rate shuffled lo hi where
  lower := perm.mem_iff.mpr step.lower
  higher := perm.mem_iff.mpr step.higher
  rises := step.rises
  between := fun point present => step.between point (perm.mem_iff.mp present)

/-- Any two readings of the rates of a step make a step. -/
theorem RateStep.of_rates {points : List α} {lo hi lo' hi' : α} (step : RateStep rate points lo hi)
    (lower : lo' ∈ points) (higher : hi' ∈ points) (sameLow : rate lo' = rate lo)
    (sameHigh : rate hi' = rate hi) :
    RateStep rate points lo' hi' where
  lower := lower
  higher := higher
  rises := by rw [sameLow, sameHigh]; exact step.rises
  between := by rw [sameLow, sameHigh]; exact step.between

private theorem sorted_halves {before rest : List α} {lo hi : α}
    (sorted : (before ++ lo :: hi :: rest).Pairwise (rate · ≤ rate ·)) :
    (∀ point ∈ before, rate point ≤ rate lo) ∧ ∀ point ∈ rest, rate hi ≤ rate point := by
  obtain ⟨-, behind, before⟩ := List.pairwise_append.mp sorted
  exact ⟨fun point present => before point present lo (by simp),
    (List.pairwise_cons.mp behind.of_cons).1⟩

/-- Neighbours of different rates make a step. -/
theorem rateStep_of_neighbours {before rest : List α} {lo hi : α}
    (sorted : (before ++ lo :: hi :: rest).Pairwise (rate · ≤ rate ·)) (rises : rate lo < rate hi) :
    RateStep rate (before ++ lo :: hi :: rest) lo hi := by
  obtain ⟨below, above⟩ := sorted_halves sorted
  refine ⟨by simp, by simp, rises, ?_⟩
  intro point present
  rcases List.mem_append.mp present with early | late
  · exact Or.inl (below point early)
  · rcases List.mem_cons.mp late with rfl | late
    · exact Or.inl le_rfl
    · rcases List.mem_cons.mp late with rfl | late
      · exact Or.inr le_rfl
      · exact Or.inr (above point late)

/-- The rates of a step meet at two neighbours. -/
theorem RateStep.exists_neighbours {points : List α} {lo hi : α}
    (sorted : points.Pairwise (rate · ≤ rate ·)) (step : RateStep rate points lo hi) :
    ∃ before lo' hi' rest, points = before ++ lo' :: hi' :: rest ∧ rate lo' = rate lo ∧
      rate hi' = rate hi := by
  induction points generalizing lo hi with
  | nil => exact absurd step.lower List.not_mem_nil
  | cons first points ih =>
    obtain ⟨least, tailSorted⟩ := List.pairwise_cons.mp sorted
    have notFirst : hi ∈ points := by
      rcases List.mem_cons.mp step.higher with rfl | later
      · rcases List.mem_cons.mp step.lower with rfl | later
        · exact absurd step.rises (lt_irrefl _)
        · exact absurd step.rises (not_lt.mpr (least lo later))
      · exact later
    cases points with
    | nil => exact absurd notFirst List.not_mem_nil
    | cons second rest =>
      obtain ⟨secondLeast, -⟩ := List.pairwise_cons.mp tailSorted
      have secondLe : rate second ≤ rate hi := by
        rcases List.mem_cons.mp notFirst with rfl | later
        · exact le_rfl
        · exact secondLeast hi later
      rcases step.between second (by simp) with low | high
      · -- the second reading has the lower rate, or a reading behind it has
        obtain ⟨lo', present, same⟩ : ∃ lo' ∈ second :: rest, rate lo' = rate lo := by
          rcases List.mem_cons.mp step.lower with rfl | later
          · exact ⟨second, by simp, le_antisymm low (least second (by simp))⟩
          · exact ⟨lo, later, rfl⟩
        have smaller : RateStep rate (second :: rest) lo' hi := by
          refine ⟨present, notFirst, by rw [same]; exact step.rises, ?_⟩
          intro point listed
          rw [same]
          exact step.between point (List.mem_cons_of_mem first listed)
        obtain ⟨before, lo'', hi'', behind, split, sameLow, sameHigh⟩ := ih tailSorted smaller
        exact ⟨first :: before, lo'', hi'', behind, by rw [split]; rfl, sameLow.trans same,
          sameHigh⟩
      · have isFirst : lo = first := by
          rcases List.mem_cons.mp step.lower with isFirst | later
          · exact isFirst
          · have above : rate second ≤ rate lo := by
              rcases List.mem_cons.mp later with rfl | later
              · exact le_rfl
              · exact secondLeast lo later
            exact absurd step.rises (not_lt.mpr (high.trans above))
        exact ⟨[], first, second, rest, rfl, by rw [isFirst], le_antisymm secondLe high⟩

private theorem exists_perm_cons {points : List α} {point : α} (present : point ∈ points) :
    ∃ others, points.Perm (point :: others) := by
  obtain ⟨before, rest, rfl⟩ := List.append_of_mem present
  exact ⟨before ++ rest, List.perm_middle⟩

/-- The readings of a step can stand beside each other in a sorted arrangement. -/
theorem RateStep.exists_arrangement {points : List α} {lo hi : α}
    (step : RateStep rate points lo hi) :
    ∃ before rest, (before ++ lo :: hi :: rest).Perm points ∧
      (before ++ lo :: hi :: rest).Pairwise (rate · ≤ rate ·) := by
  obtain ⟨others, perm⟩ : ∃ others, points.Perm (lo :: hi :: others) := by
    obtain ⟨others, first⟩ := exists_perm_cons step.lower
    rcases List.mem_cons.mp (first.mem_iff.mp step.higher) with same | later
    · exact absurd step.rises (by rw [same]; exact lt_irrefl _)
    · obtain ⟨others, second⟩ := exists_perm_cons later
      exact ⟨others, first.trans (second.cons lo)⟩
  let below := sortByKey rate (others.filter (rate · ≤ rate lo))
  let above := sortByKey rate (others.filter fun point => !decide (rate point ≤ rate lo))
  have inBelow : ∀ point ∈ below, rate point ≤ rate lo := by
    intro point present
    have listed := (sortByKey_perm _).mem_iff.mp present
    exact of_decide_eq_true (List.mem_filter.mp listed).2
  have inAbove : ∀ point ∈ above, rate hi ≤ rate point := by
    intro point present
    obtain ⟨listed, higher⟩ := List.mem_filter.mp ((sortByKey_perm _).mem_iff.mp present)
    have notLow : ¬ rate point ≤ rate lo := by simpa using higher
    exact (step.between point (perm.mem_iff.mpr (by simp [listed]))).resolve_left notLow
  refine ⟨below, above, ?_, ?_⟩
  · have pulled : (below ++ lo :: hi :: above).Perm (lo :: hi :: (below ++ above)) :=
      List.perm_middle.trans (List.perm_middle.cons lo)
    have halves : (below ++ above).Perm others := by
      refine ((sortByKey_perm _).append (sortByKey_perm _)).trans ?_
      exact List.filter_append_perm (fun point => decide (rate point ≤ rate lo)) others
    exact pulled.trans (((halves.cons hi).cons lo).trans perm.symm)
  · refine List.pairwise_append.mpr ⟨sortByKey_sorted _, ?_, ?_⟩
    · refine List.pairwise_cons.mpr ⟨?_, List.pairwise_cons.mpr ⟨inAbove, sortByKey_sorted _⟩⟩
      intro point present
      rcases List.mem_cons.mp present with rfl | later
      · exact step.rises.le
      · exact step.rises.le.trans (inAbove point later)
    · intro early isBelow late isLate
      refine (inBelow early isBelow).trans ?_
      rcases List.mem_cons.mp isLate with rfl | isLate
      · exact le_rfl
      · rcases List.mem_cons.mp isLate with rfl | isLate
        · exact step.rises.le
        · exact step.rises.le.trans (inAbove late isLate)

end Sorted

section OrderFree
variable [LinearOrder κ] (rate : α → κ) (judge : α → α → Option β)

/-- No step up to the rate is judged. -/
def QuietUpTo (points : List α) (limit : κ) : Prop :=
  ∀ lo hi, RateStep rate points lo hi → rate hi ≤ limit → judge lo hi = none

/-- At the lowest step that is judged, all readings of its two rates are judged alike. -/
def OrderFree (points : List α) : Prop :=
  ∀ lo hi, RateStep rate points lo hi → QuietUpTo rate judge points (rate lo) → judge lo hi ≠ none →
    ∀ lo' hi', lo' ∈ points → hi' ∈ points → rate lo' = rate lo → rate hi' = rate hi →
      judge lo' hi' = judge lo hi

variable {rate judge}

/-- Readings of one rate are never judged. -/
def SkipsEqual (rate : α → κ) (judge : α → α → Option β) : Prop :=
  ∀ lo hi, rate hi ≤ rate lo → judge lo hi = none

/-- Steps of different rates are never judged alike. -/
def TellsApart (rate : α → κ) (judge : α → α → Option β) : Prop :=
  ∀ lo hi lo' hi' finding, rate hi ≤ rate lo' → judge lo hi = some finding →
    judge lo' hi' ≠ some finding

/-- Nothing is found before the readings of a step when no lower step is judged. -/
theorem quiet_before {before rest : List α} {lo hi : α} (skips : SkipsEqual rate judge)
    (sorted : (before ++ lo :: hi :: rest).Pairwise (rate · ≤ rate ·))
    (quiet : QuietUpTo rate judge (before ++ lo :: hi :: rest) (rate lo)) :
    firstFinding judge (before ++ [lo]) = none := by
  rw [firstFinding_eq_none_iff, List.isChain_iff_forall_rel_of_append_cons_cons]
  intro lo' hi' early late split
  by_cases rises : rate lo' < rate hi'
  · have whole : before ++ lo :: hi :: rest = early ++ lo' :: hi' :: (late ++ hi :: rest) := by
      have appended := congrArg (· ++ hi :: rest) split
      simpa using appended
    have step := rateStep_of_neighbours (whole ▸ sorted) rises
    rw [← whole] at step
    refine quiet lo' hi' step ?_
    have present : hi' ∈ before ++ [lo] := by rw [split]; simp
    rcases List.mem_append.mp present with inside | last
    · exact (sorted_halves sorted).1 hi' inside
    · rw [List.mem_singleton.mp last]
  · exact skips lo' hi' (not_lt.mp rises)

/-- A sorted list on which the readings of the lowest judged step agree. -/
theorem firstFinding_of_agreeing {points : List α} {lo hi : α} {finding : β}
    (skips : SkipsEqual rate judge) (sorted : points.Pairwise (rate · ≤ rate ·))
    (step : RateStep rate points lo hi) (quiet : QuietUpTo rate judge points (rate lo))
    (agree : ∀ lo' hi', lo' ∈ points → hi' ∈ points → rate lo' = rate lo → rate hi' = rate hi →
      judge lo' hi' = some finding) :
    firstFinding judge points = some finding := by
  obtain ⟨before, lo', hi', rest, rfl, sameLow, sameHigh⟩ := step.exists_neighbours sorted
  rw [← sameLow] at quiet
  rw [firstFinding_append before lo' hi' rest (quiet_before skips sorted quiet),
    agree lo' hi' (by simp) (by simp) sameLow sameHigh]
  rfl

theorem firstFinding_of_quiet {points : List α} (skips : SkipsEqual rate judge)
    (sorted : points.Pairwise (rate · ≤ rate ·))
    (quiet : ∀ lo hi, RateStep rate points lo hi → judge lo hi = none) :
    firstFinding judge points = none := by
  rw [firstFinding_eq_none_iff, List.isChain_iff_forall_rel_of_append_cons_cons]
  intro lo hi before rest split
  by_cases rises : rate lo < rate hi
  · subst split
    exact quiet lo hi (rateStep_of_neighbours sorted rises)
  · exact skips lo hi (not_lt.mp rises)

/-- Where a step is judged, there is a lowest one. -/
theorem exists_lowest_judged {points : List α} {lo hi : α} (step : RateStep rate points lo hi)
    (judged : judge lo hi ≠ none) :
    ∃ lo' hi', RateStep rate points lo' hi' ∧ judge lo' hi' ≠ none ∧
      QuietUpTo rate judge points (rate lo') := by
  let judgedFrom := {lo : α | ∃ hi, RateStep rate points lo hi ∧ judge lo hi ≠ none}
  have finite : judgedFrom.Finite :=
    (List.finite_toSet points).subset fun _ member => member.choose_spec.1.lower
  obtain ⟨lo', member, lowest⟩ := Set.exists_min_image judgedFrom rate finite ⟨lo, hi, step, judged⟩
  obtain ⟨hi', step', judged'⟩ := member
  refine ⟨lo', hi', step', judged', ?_⟩
  intro below above lowerStep upTo
  by_contra judgedBelow
  exact absurd (lowest below ⟨above, lowerStep, judgedBelow⟩)
    (not_le.mpr (lowerStep.rises.trans_le upTo))

theorem QuietUpTo.of_perm {points shuffled : List α} {limit : κ}
    (quiet : QuietUpTo rate judge points limit) (perm : shuffled.Perm points) :
    QuietUpTo rate judge shuffled limit :=
  fun lo hi step upTo => quiet lo hi (step.of_perm perm.symm) upTo

/-- The readings decide the finding of a sorted list, however it is arranged. -/
theorem OrderFree.firstFinding_eq {points shuffled : List α} (free : OrderFree rate judge points)
    (skips : SkipsEqual rate judge) (sorted : points.Pairwise (rate · ≤ rate ·))
    (shuffledSorted : shuffled.Pairwise (rate · ≤ rate ·)) (perm : shuffled.Perm points) :
    firstFinding judge shuffled = firstFinding judge points := by
  by_cases someStep : ∃ lo hi, RateStep rate points lo hi ∧ judge lo hi ≠ none
  · obtain ⟨someLo, someHi, anyStep, anyJudged⟩ := someStep
    obtain ⟨lo, hi, step, judged, quiet⟩ := exists_lowest_judged anyStep anyJudged
    obtain ⟨finding, found⟩ := Option.ne_none_iff_exists'.mp judged
    have agree := free lo hi step quiet judged
    rw [found] at agree
    rw [firstFinding_of_agreeing skips sorted step quiet agree,
      firstFinding_of_agreeing skips shuffledSorted (step.of_perm perm) (quiet.of_perm perm)]
    intro lo' hi' lower higher
    exact agree lo' hi' (perm.mem_iff.mp lower) (perm.mem_iff.mp higher)
  · have quiet : ∀ lo hi, RateStep rate points lo hi → judge lo hi = none := by
      intro lo hi step
      by_contra judged
      exact someStep ⟨lo, hi, step, judged⟩
    rw [firstFinding_of_quiet skips sorted quiet, firstFinding_of_quiet skips shuffledSorted]
    intro lo hi step
    exact quiet lo hi (step.of_perm perm.symm)

/-- Two readings of the lowest judged step are judged alike, when the finding is the same
for every arrangement. -/
private theorem judged_alike {points : List α} {lo hi lo' hi' : α} {finding : β}
    (skips : SkipsEqual rate judge) (apart : TellsApart rate judge)
    (step' : RateStep rate points lo' hi') (quiet : QuietUpTo rate judge points (rate lo'))
    (judged : judge lo hi = some finding) (sameHigh : rate hi' = rate hi)
    (found : ∀ shuffled, shuffled.Perm points → shuffled.Pairwise (rate · ≤ rate ·) →
      firstFinding judge shuffled = some finding) :
    judge lo' hi' = some finding := by
  obtain ⟨before, rest, perm, sorted⟩ := step'.exists_arrangement
  have arranged := found _ perm sorted
  rw [firstFinding_append before lo' hi' rest (quiet_before skips sorted (quiet.of_perm perm))]
    at arranged
  rcases Option.or_eq_some_iff.mp arranged with here | ⟨-, later⟩
  · exact here
  · -- a finding further up is never the one of this step
    obtain ⟨early, above, higher, late, split, judgedAbove⟩ := exists_neighbours_of_finding later
    have beyond : rate hi' ≤ rate above := by
      have tailSorted := (List.pairwise_append.mp sorted).2.1.of_cons
      have present : above ∈ hi' :: rest := by rw [split]; simp
      rcases List.mem_cons.mp present with rfl | inRest
      · exact le_rfl
      · exact (List.pairwise_cons.mp tailSorted).1 above inRest
    rw [sameHigh] at beyond
    exact absurd judgedAbove (apart lo hi above higher finding beyond judged)

/-- The finding of the sorted list is the same for every order of the readings exactly when
all readings of the lowest judged step are judged alike. -/
theorem firstFinding_perm_iff (skips : SkipsEqual rate judge) (apart : TellsApart rate judge)
    (points : List α) :
    (∀ shuffled, shuffled.Perm points →
      firstFinding judge (sortByKey rate shuffled) = firstFinding judge (sortByKey rate points)) ↔
    OrderFree rate judge points := by
  constructor
  · intro same lo hi step quiet judged
    obtain ⟨finding, found⟩ := Option.ne_none_iff_exists'.mp judged
    -- every sorted arrangement has the finding of one that puts the step together
    have foundFirst : firstFinding judge (sortByKey rate points) = some finding := by
      obtain ⟨before, rest, perm, sorted⟩ := step.exists_arrangement
      rw [← same _ perm, sortByKey_eq_self sorted,
        firstFinding_append before lo hi rest
          (quiet_before skips sorted (quiet.of_perm perm)), found]
      rfl
    intro lo' hi' lower higher sameLow sameHigh
    rw [found]
    refine judged_alike skips apart (step.of_rates lower higher sameLow sameHigh)
      (sameLow ▸ quiet) found sameHigh ?_
    intro shuffled perm sorted
    rw [← foundFirst, ← same shuffled perm, sortByKey_eq_self sorted]
  · intro free shuffled perm
    have sortedPerm : (sortByKey rate shuffled).Perm (sortByKey rate points) :=
      (sortByKey_perm shuffled).trans (perm.trans (sortByKey_perm points).symm)
    refine OrderFree.firstFinding_eq ?_ skips (sortByKey_sorted points)
      (sortByKey_sorted shuffled) sortedPerm
    intro lo hi step quiet judged lo' hi' lower higher
    have back : (sortByKey rate points).Perm points := sortByKey_perm points
    exact free lo hi (step.of_perm back.symm) (quiet.of_perm back.symm) judged lo' hi'
      (back.mem_iff.mp lower)
      (back.mem_iff.mp higher)

end OrderFree

end FragglePacket.Lists
