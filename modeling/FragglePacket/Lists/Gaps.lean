import Mathlib.Data.List.Nodup
import Mathlib.Data.List.Perm.Basic
import Mathlib.Algebra.GroupWithZero.Nat

/-! The gaps that a set of numbers leaves below a limit. -/

namespace FragglePacket.Lists

/-- A run of numbers below the limit that are not members, and that no member or number
below the limit can be added to. -/
structure MaximalGap (member : Nat → Prop) (limit start length : Nat) : Prop where
  nonempty : 0 < length
  bounded : start + length ≤ limit
  absent : ∀ number, start ≤ number → number < start + length → ¬ member number
  opened : start = 0 ∨ member (start - 1)
  closed : start + length = limit ∨ member (start + length)

/-- The gaps, from the lowest to the highest. -/
structure GapCover (member : Nat → Prop) (limit : Nat) (gaps : List (Nat × Nat)) : Prop where
  maximal : ∀ gap ∈ gaps, MaximalGap member limit gap.1 gap.2
  covered : ∀ number < limit, ¬ member number →
    ∃ gap ∈ gaps, gap.1 ≤ number ∧ number < gap.1 + gap.2
  increasing : gaps.Pairwise fun earlier later => earlier.1 + earlier.2 < later.1

variable {member : Nat → Prop} {limit : Nat} {gaps : List (Nat × Nat)}

namespace MaximalGap

variable {start length start' length' number : Nat}

private theorem start_le (first : MaximalGap member limit start length)
    (second : MaximalGap member limit start' length') (firstHas : start ≤ number ∧
      number < start + length) (secondHas : start' ≤ number) : start' ≤ start := by
  by_contra later
  rcases second.opened with zero | preceded
  · omega
  · exact first.absent (start' - 1) (by omega) (by omega) preceded

private theorem end_le (first : MaximalGap member limit start length)
    (second : MaximalGap member limit start' length') (firstHas : start ≤ number)
    (secondHas : start' ≤ number ∧ number < start' + length') :
    start + length ≤ start' + length' := by
  by_contra earlier
  rcases second.closed with last | followed
  · have bounded := first.bounded
    omega
  · exact first.absent (start' + length') (by omega) (by omega) followed

/-- Two gaps with a number in common are one. -/
theorem eq_of_common (first : MaximalGap member limit start length)
    (second : MaximalGap member limit start' length') (firstHas : start ≤ number ∧
      number < start + length) (secondHas : start' ≤ number ∧ number < start' + length') :
    start = start' ∧ length = length' := by
  have startLe := first.start_le second firstHas secondHas.1
  have startGe := second.start_le first secondHas firstHas.1
  have endLe := first.end_le second firstHas.1 secondHas
  have endGe := second.end_le first secondHas.1 firstHas
  omega

end MaximalGap

namespace GapCover

theorem mem_iff (cover : GapCover member limit gaps) (start length : Nat) :
    (start, length) ∈ gaps ↔ MaximalGap member limit start length := by
  constructor
  · exact cover.maximal (start, length)
  · intro gap
    have nonempty := gap.nonempty
    have bounded := gap.bounded
    have absent := gap.absent start (Nat.le_refl start) (by omega)
    obtain ⟨other, present, lower, upper⟩ := cover.covered start (by omega) absent
    obtain ⟨sameStart, sameLength⟩ :=
      gap.eq_of_common (cover.maximal other present) ⟨Nat.le_refl start, by omega⟩ ⟨lower, upper⟩
    rw [sameStart, sameLength]
    exact present

/-- A member stands between any two gaps. -/
theorem separated (cover : GapCover member limit gaps) :
    gaps.Pairwise fun earlier later => ∃ number, member number ∧ earlier.1 + earlier.2 ≤ number ∧
      number < later.1 := by
  refine cover.increasing.imp_of_mem ?_
  intro earlier later earlierPresent laterPresent before
  rcases (cover.maximal earlier earlierPresent).closed with last | followed
  · have bounded := (cover.maximal later laterPresent).bounded
    omega
  · exact ⟨earlier.1 + earlier.2, followed, Nat.le_refl _, before⟩

/-- A missing number stands between two members just when a whole gap does. -/
theorem surrounded_iff (cover : GapCover member limit gaps) :
    (∃ before missing after, member before ∧ before < missing ∧ missing < limit ∧ ¬ member missing ∧
      missing < after ∧
        member after) ↔
      ∃ gap ∈ gaps, (∃ before, member before ∧ before < gap.1) ∧ ∃ after, member after ∧
        gap.1 + gap.2 ≤ after := by
  constructor
  · rintro ⟨before, missing, after, isBefore, lower, below, absent, upper, isAfter⟩
    obtain ⟨gap, listed, first, last⟩ := cover.covered missing below absent
    have maximal := cover.maximal gap listed
    refine ⟨gap, listed, ⟨before, isBefore, ?_⟩, ⟨after, isAfter, ?_⟩⟩
    · by_contra inside
      exact maximal.absent before (by omega) (by omega) isBefore
    · by_contra inside
      exact maximal.absent after (by omega) (by omega) isAfter
  · rintro ⟨gap, listed, ⟨before, isBefore, lower⟩, ⟨after, isAfter, upper⟩⟩
    have maximal := cover.maximal gap listed
    have nonempty := maximal.nonempty
    have bounded := maximal.bounded
    exact ⟨before, gap.1, after, isBefore, lower, by omega, maximal.absent gap.1 (Nat.le_refl _)
      (by omega), by omega, isAfter⟩

/-- Where there are fewer members, every gap lies in a gap. -/
theorem exists_wider {larger : Nat → Prop} {others : List (Nat × Nat)}
    (cover : GapCover member limit gaps) (other : GapCover larger limit others)
    (fewer : ∀ number, member number → larger number) :
    ∀ gap ∈ others, ∃ wider ∈ gaps, gap.2 ≤ wider.2 := by
  intro gap listed
  have inner := other.maximal gap listed
  have nonempty := inner.nonempty
  have bounded := inner.bounded
  have lost (number : Nat) (lower : gap.1 ≤ number)
      (upper : number < gap.1 + gap.2) : ¬ member number :=
    fun present => inner.absent number lower upper (fewer number present)
  obtain ⟨wider, present, lower, upper⟩ :=
    cover.covered gap.1 (by omega) (lost gap.1 (Nat.le_refl _) (by omega))
  refine ⟨wider, present, ?_⟩
  -- the wider gap ends at the limit or at a member, and there is none inside the other gap
  rcases (cover.maximal wider present).closed with last | followed
  · omega
  · by_contra shorter
    exact lost (wider.1 + wider.2) (by omega) (by omega) followed

theorem zero : GapCover member 0 [] where
  maximal := by simp
  covered := by simp
  increasing := List.Pairwise.nil

/-- A member at the limit leaves the gaps as they are. -/
theorem skip (cover : GapCover member limit gaps) (present : member limit) :
    GapCover member (limit + 1) gaps where
  maximal := by
    intro gap listed
    have old := cover.maximal gap listed
    refine ⟨old.nonempty, Nat.le_succ_of_le old.bounded, old.absent, old.opened, Or.inr ?_⟩
    rcases old.closed with last | followed
    · rw [last]
      exact present
    · exact followed
  covered := by
    intro number below absent
    have different : number ≠ limit := by
      rintro rfl
      exact absent present
    exact cover.covered number (by omega) absent
  increasing := cover.increasing

private theorem maximal_succ {start length : Nat} (old : MaximalGap member limit start length)
    (ended : start + length < limit) : MaximalGap member (limit + 1) start length := by
  refine ⟨old.nonempty, Nat.le_succ_of_le old.bounded, old.absent, old.opened, Or.inr ?_⟩
  rcases old.closed with last | followed
  · omega
  · exact followed

/-- A last gap behind all others completes a cover. -/
private theorem snoc {start length : Nat}
    (increasing : gaps.Pairwise fun earlier later => earlier.1 + earlier.2 < later.1)
    (ended : ∀ gap ∈ gaps, gap.1 + gap.2 < start)
    (maximal : ∀ gap ∈ gaps, MaximalGap member limit gap.1 gap.2)
    (last : MaximalGap member limit start length) (covered : ∀ number < limit, ¬ member number →
      (∃ gap ∈ gaps, gap.1 ≤ number ∧ number < gap.1 + gap.2) ∨
        (start ≤ number ∧ number < start + length)) :
    GapCover member limit (gaps ++ [(start, length)]) where
  maximal := by
    intro gap listed
    rcases List.mem_append.mp listed with old | new
    · exact maximal gap old
    · obtain rfl := List.mem_singleton.mp new
      exact last
  covered := by
    intro number below missing
    rcases covered number below missing with ⟨gap, listed, within⟩ | within
    · exact ⟨gap, List.mem_append_left _ listed, within⟩
    · exact ⟨(start, length), by simp, within⟩
  increasing := by
    refine List.pairwise_append.mpr ⟨increasing, List.pairwise_singleton _ _, ?_⟩
    intro gap listed other isLast
    obtain rfl := List.mem_singleton.mp isLast
    exact ended gap listed

/-- A missing number at the limit widens the gap that ends there. -/
theorem widen {start length : Nat} (cover : GapCover member limit (gaps ++ [(start, length)]))
    (ends : start + length = limit) (absent : ¬ member limit) :
    GapCover member (limit + 1) (gaps ++ [(start, length + 1)]) := by
  have final := cover.maximal (start, length) (by simp)
  obtain ⟨increasing, -, before⟩ := List.pairwise_append.mp cover.increasing
  have ended : ∀ gap ∈ gaps, gap.1 + gap.2 < start :=
    fun gap listed => before gap listed (start, length) (by simp)
  refine snoc increasing ended ?_ ?_ ?_
  · intro gap listed
    have before := ended gap listed
    have nonempty := final.nonempty
    exact maximal_succ (cover.maximal gap (by simp [listed])) (by omega)
  · refine ⟨Nat.succ_pos length, by omega, ?_, final.opened, Or.inl (by omega)⟩
    intro number lower upper
    by_cases atLimit : number = limit
    · rw [atLimit]
      exact absent
    · exact final.absent number lower (by simp only; omega)
  · intro number below missing
    by_cases atLimit : number = limit
    · exact Or.inr (by omega)
    · obtain ⟨gap, listed, lower, upper⟩ := cover.covered number (by omega) missing
      rcases List.mem_append.mp listed with old | new
      · exact Or.inl ⟨gap, old, lower, upper⟩
      · obtain rfl := List.mem_singleton.mp new
        exact Or.inr ⟨lower, by simp only at upper; omega⟩

/-- A missing number at the limit, right behind a member, begins a gap. -/
theorem begin (cover : GapCover member limit gaps) (absent : ¬ member limit)
    (opened : limit = 0 ∨ member (limit - 1)) :
    GapCover member (limit + 1) (gaps ++ [(limit, 1)]) := by
  -- no gap reaches the limit, since a member stands right before it
  have ended : ∀ gap ∈ gaps, gap.1 + gap.2 < limit := by
    intro gap listed
    have old := cover.maximal gap listed
    have nonempty := old.nonempty
    have bounded := old.bounded
    rcases opened with zero | preceded
    · omega
    · by_contra reaches
      exact old.absent (limit - 1) (by omega) (by omega) preceded
  refine snoc cover.increasing ended ?_ ?_ ?_
  · intro gap listed
    exact maximal_succ (cover.maximal gap listed) (ended gap listed)
  · refine ⟨Nat.one_pos, Nat.le_refl _, ?_, opened, Or.inl rfl⟩
    intro number lower upper
    obtain rfl : number = limit := by omega
    exact absent
  · intro number below missing
    by_cases atLimit : number = limit
    · exact Or.inr (by omega)
    · exact Or.inl (cover.covered number (by omega) missing)

/-- The missing numbers, gap by gap. -/
private theorem missing_perm [DecidablePred member] (cover : GapCover member limit gaps) :
    ((List.range limit).filter fun number => ¬ member number).Perm
      (gaps.flatMap fun gap => List.range' gap.1 gap.2) := by
  have distinct : (gaps.flatMap fun gap => List.range' gap.1 gap.2).Nodup := by
    refine List.nodup_flatMap.mpr ⟨fun gap _ => List.nodup_range', cover.increasing.imp ?_⟩
    intro earlier later before number inEarlier inLater
    obtain ⟨-, upper⟩ := List.mem_range'_1.mp inEarlier
    obtain ⟨lower, -⟩ := List.mem_range'_1.mp inLater
    omega
  refine (List.perm_ext_iff_of_nodup (List.nodup_range.filter _) distinct).mpr ?_
  intro number
  simp only [List.mem_filter, List.mem_range, decide_eq_true_eq, List.mem_flatMap,
    List.mem_range'_1]
  constructor
  · rintro ⟨below, missing⟩
    exact cover.covered number below missing
  · rintro ⟨gap, listed, lower, upper⟩
    have maximal := cover.maximal gap listed
    exact ⟨Nat.lt_of_lt_of_le upper maximal.bounded, maximal.absent number lower upper⟩

/-- The gaps are as long together as the members below the limit leave room. -/
theorem sum_lengths [DecidablePred member] (cover : GapCover member limit gaps) :
    (gaps.map (·.2)).sum + (List.range limit).countP (fun number => member number) = limit := by
  have lengths : (gaps.map (·.2)).sum =
      ((List.range limit).filter fun number => ¬ member number).length := by
    rw [cover.missing_perm.length_eq, List.length_flatMap]
    simp only [List.length_range']
  have partitioned :=
    List.length_eq_countP_add_countP (fun number => decide (member number)) (l := List.range limit)
  rw [List.length_range] at partitioned
  rw [lengths, ← List.countP_eq_length_filter, Nat.add_comm]
  simpa using partitioned.symm

end GapCover

end FragglePacket.Lists
