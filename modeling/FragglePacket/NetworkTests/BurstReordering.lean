import Mathlib.Logic.Relation
import FragglePacket.Lists.WithPast
import FragglePacket.NetworkTests.BurstPartition

/-! The reordering of a sample counts the inversions of its receive order. -/

namespace FragglePacket.NetworkTests

open FragglePacket.Lists

/-- The distinct higher sequence numbers that arrived before. -/
def higherBefore (past : List Arrival) (arrival : Arrival) : Finset Nat :=
  (past.map (·.seq)).toFinset.filter (arrival.seq < ·)

/-- The event of a first arrival behind a higher sequence number. -/
def lateArrival (past : List Arrival) (arrival : Arrival) : Option ReorderEvent :=
  if arrival.seq ∉ past.map (·.seq) ∧ higherBefore past arrival ≠ ∅ then
    some ⟨arrival.seq, (higherBefore past arrival).card⟩
  else none

/-- The sequence numbers in the order of their first arrivals. -/
def receiveOrder (arrivals : List Arrival) : List Nat := (arrivals.map (·.seq)).eraseDups

/-- An arrival comes in behind its first copy. -/
def InsertsDuplicate (arrivals more : List Arrival) : Prop :=
  ∃ before duplicate after, arrivals = before ++ after ∧ more = before ++ duplicate :: after ∧
    duplicate.seq ∈ before.map (·.seq)

section Events

/-- The event of an arrival among distinct ones. -/
def behind (past : List Arrival) (arrival : Arrival) : Option ReorderEvent :=
  if ∃ earlier ∈ past, arrival.seq < earlier.seq then
    some ⟨arrival.seq, past.countP (arrival.seq < ·.seq)⟩
  else none

/-- What the scan for reordering has made of the arrivals so far. -/
structure ReorderState.Follows (past : List Arrival) (state : ReorderState) : Prop where
  events : state.events = withPast behind past
  highest : ∀ seq, (∃ highest ∈ state.highestSeqSeen, seq < highest) ↔
    ∃ earlier ∈ past, seq < earlier.seq
  seen : state.seenSeqs = past.map (·.seq)

theorem ReorderState.observe_follows {past : List Arrival} {state : ReorderState}
    (follows : state.Follows past) (arrival : Arrival) :
    (state.observe arrival).Follows (past ++ [arrival]) := by
  refine ⟨?_, fun seq => ?_, ?_⟩
  · have depth : state.seenSeqs.countP (arrival.seq < ·) = past.countP (arrival.seq < ·.seq) := by
      rw [follows.seen, List.countP_map]
      rfl
    have late := follows.highest arrival.seq
    rw [withPast_concat, ← follows.events, observe, depth]
    cases seen : state.highestSeqSeen with
    | none =>
      have nothing : ¬ ∃ earlier ∈ past, arrival.seq < earlier.seq := by
        rw [← late, seen]
        simp
      rw [behind, if_neg nothing, Option.toList_none, List.append_nil]
    | some highest =>
      have behindHighest : (∃ earlier ∈ past, arrival.seq < earlier.seq) ↔
          arrival.seq < highest := by
        rw [← late, seen]
        simp
      by_cases below : arrival.seq < highest
      · rw [behind, if_pos (behindHighest.mpr below)]
        exact if_pos below
      · rw [behind, if_neg (mt behindHighest.mp below), Option.toList_none, List.append_nil]
        exact if_neg below
  · have earlier := follows.highest seq
    simp only [observe, List.mem_append, List.mem_singleton, or_and_right, exists_or,
      exists_eq_left, ← earlier]
    cases state.highestSeqSeen with
    | none => simp
    | some highest => simp
  · rw [observe, List.map_append, ← follows.seen]
    rfl

theorem computeReordering_eq (arrivals : List Arrival) :
    computeReordering arrivals = withPast behind arrivals := by
  have follows : (arrivals.foldl ReorderState.observe .initial).Follows arrivals := by
    induction arrivals using List.reverseRecOn with
    | nil => exact ⟨rfl, by simp [ReorderState.initial], rfl⟩
    | append_singleton arrivals arrival ih =>
      rw [List.foldl_append]
      exact ReorderState.observe_follows ih arrival
  exact follows.events

end Events

section Distinct

theorem splitDuplicates_concat (arrivals : List Arrival) (arrival : Arrival) :
    (splitDuplicates (arrivals ++ [arrival])).1 =
      if arrival.seq ∈ arrivals.map (·.seq) then (splitDuplicates arrivals).1
      else (splitDuplicates arrivals).1 ++ [arrival] := by
  have sound := SplitState.foldl_insert_sound SplitState.initial_sound arrivals
  have seen : arrival.seq ∈ (arrivals.foldl SplitState.insert .initial).seen ↔
      arrival.seq ∈ arrivals.map (·.seq) := by
    rw [sound.seen, List.mem_toFinset, List.nil_append]
  rw [splitDuplicates, List.foldl_append, splitDuplicates]
  simp only [List.foldl_cons, List.foldl_nil, SplitState.insert, seen]
  split <;> rfl

theorem distinct_toFinset (arrivals : List Arrival) :
    ((splitDuplicates arrivals).1.map (·.seq)).toFinset = (arrivals.map (·.seq)).toFinset := by
  have sound := SplitState.foldl_insert_sound SplitState.initial_sound arrivals
  exact sound.kept.trans sound.seen

theorem distinct_nodup (arrivals : List Arrival) :
    ((splitDuplicates arrivals).1.map (·.seq)).Nodup :=
  (SplitState.foldl_insert_sound SplitState.initial_sound arrivals).nodup

theorem distinct_receiveOrder (arrivals : List Arrival) :
    (splitDuplicates arrivals).1.map (·.seq) = receiveOrder arrivals := by
  induction arrivals using List.reverseRecOn with
  | nil => rfl
  | append_singleton arrivals arrival ih =>
    rw [splitDuplicates_concat, receiveOrder, List.map_append, List.map_singleton, eraseDups_concat,
      ← receiveOrder, ← ih]
    by_cases repeated : arrival.seq ∈ arrivals.map (·.seq)
    · rw [if_pos repeated, if_pos (List.contains_iff_mem.mpr repeated)]
    · rw [if_neg repeated, if_neg (mt List.contains_iff_mem.mp repeated), List.map_append,
        List.map_singleton]

/-- Among the distinct arrivals, the event is that of a first arrival. -/
theorem behind_distinct {arrivals : List Arrival} {arrival : Arrival}
    (first : arrival.seq ∉ arrivals.map (·.seq)) :
    behind (splitDuplicates arrivals).1 arrival = lateArrival arrivals arrival := by
  have higher : higherBefore arrivals arrival =
      (((splitDuplicates arrivals).1.map (·.seq)).filter (arrival.seq < ·)).toFinset := by
    rw [higherBefore, ← distinct_toFinset, List.toFinset_filter]
    simp
  have counted : (higherBefore arrivals arrival).card =
      (splitDuplicates arrivals).1.countP (arrival.seq < ·.seq) := by
    rw [higher, List.toFinset_card_of_nodup ((distinct_nodup arrivals).filter _),
      ← List.countP_eq_length_filter, List.countP_map]
    rfl
  have some : higherBefore arrivals arrival ≠ ∅ ↔ ∃ earlier ∈ (splitDuplicates arrivals).1,
      arrival.seq < earlier.seq := by
    rw [higher]
    simp
  rw [behind, lateArrival, counted]
  simp only [some, first, not_false_eq_true, true_and]

theorem computeReordering_distinct (arrivals : List Arrival) :
    computeReordering (splitDuplicates arrivals).1 = withPast lateArrival arrivals := by
  rw [computeReordering_eq]
  induction arrivals using List.reverseRecOn with
  | nil => rfl
  | append_singleton arrivals arrival ih =>
    rw [splitDuplicates_concat, withPast_concat, ← ih]
    by_cases repeated : arrival.seq ∈ arrivals.map (·.seq)
    · have none : lateArrival arrivals arrival = none := if_neg fun late => late.1 repeated
      rw [if_pos repeated, none, Option.toList_none, List.append_nil]
    · rw [if_neg repeated, withPast_concat, behind_distinct repeated]

end Distinct

section Inversions

theorem behind_depth (past : List Arrival) (arrival : Arrival) :
    ((behind past arrival).toList.map (·.depth)).sum =
      (past.map (·.seq)).countP (arrival.seq < ·) := by
  rw [List.countP_map, behind]
  split
  case isTrue => simp [Function.comp_def]
  case isFalse none =>
    refine (List.countP_eq_zero.mpr ?_).symm
    intro earlier member
    simpa using fun below => none ⟨earlier, member, below⟩

theorem sum_depths (arrivals : List Arrival) :
    ((computeReordering arrivals).map (·.depth)).sum = inversions (arrivals.map (·.seq)) := by
  rw [computeReordering_eq]
  induction arrivals using List.reverseRecOn with
  | nil => rfl
  | append_singleton arrivals arrival ih =>
    rw [withPast_concat, List.map_append, List.sum_append, ih, behind_depth, List.map_append,
      List.map_singleton, inversions_concat]

theorem depths_positive (arrivals : List Arrival) :
    ∀ event ∈ computeReordering arrivals, 0 < event.depth := by
  rw [computeReordering_eq]
  induction arrivals using List.reverseRecOn with
  | nil => simp
  | append_singleton arrivals arrival ih =>
    intro event member
    rw [withPast_concat] at member
    rcases List.mem_append.mp member with earlier | last
    · exact ih event earlier
    · rw [Option.mem_toList, behind] at last
      split at last
      case isTrue late =>
        obtain rfl := Option.some.inj last
        obtain ⟨earlier, arrived, below⟩ := late
        exact List.countP_pos_iff.mpr ⟨earlier, arrived, by simpa using below⟩
      case isFalse => cases last

theorem computeReordering_eq_nil_iff (arrivals : List Arrival) :
    computeReordering arrivals = [] ↔ (arrivals.map (·.seq)).Pairwise (· ≤ ·) := by
  rw [← inversions_eq_zero_iff, ← sum_depths]
  constructor
  · intro none
    rw [none]
    rfl
  · intro zero
    rw [List.sum_eq_zero_iff_forall_eq_nat, List.forall_mem_map] at zero
    apply List.eq_nil_iff_forall_not_mem.mpr
    intro event member
    exact absurd (zero event member) (Nat.ne_of_gt (depths_positive arrivals event member))

end Inversions

section Duplicates

/-- The count of duplicates has no part in the split. -/
theorem foldl_insert_distinct {first second : SplitState} (seen : first.seen = second.seen)
    (kept : first.distinct = second.distinct) (arrivals : List Arrival) :
    (arrivals.foldl SplitState.insert first).distinct =
      (arrivals.foldl SplitState.insert second).distinct := by
  induction arrivals generalizing first second with
  | nil => exact kept
  | cons arrival rest ih =>
    have step : (first.insert arrival).seen = (second.insert arrival).seen ∧
        (first.insert arrival).distinct = (second.insert arrival).distinct := by
      by_cases repeated : arrival.seq ∈ second.seen
      · simp [SplitState.insert, seen, kept, repeated]
      · simp [SplitState.insert, seen, kept, repeated]
    exact ih step.1 step.2

/-- A copy behind the first one is split off. -/
theorem distinct_of_insert {arrivals more : List Arrival}
    (inserts : InsertsDuplicate arrivals more) :
    (splitDuplicates more).1 = (splitDuplicates arrivals).1 := by
  obtain ⟨before, duplicate, after, rfl, rfl, repeated⟩ := inserts
  have sound := SplitState.foldl_insert_sound SplitState.initial_sound before
  have seen : duplicate.seq ∈ (before.foldl SplitState.insert .initial).seen := by
    rw [sound.seen, List.mem_toFinset, List.nil_append]
    exact repeated
  simp only [splitDuplicates, List.foldl_append, List.foldl_cons]
  rw [SplitState.insert, if_pos seen]
  apply foldl_insert_distinct
  · rfl
  · rfl

theorem distinct_of_inserts {arrivals more : List Arrival}
    (inserts : Relation.ReflTransGen InsertsDuplicate arrivals more) :
    (splitDuplicates more).1 = (splitDuplicates arrivals).1 := by
  induction inserts with
  | refl => rfl
  | tail _ last ih => exact (distinct_of_insert last).trans ih

end Duplicates

/-- Two reports that differ in nothing but the duplicates and the notes. -/
def SameButDuplicates (first second : BurstAnalysisReport) : Prop :=
  { second with duplicateCount := first.duplicateCount, notes := first.notes } = first

/-- Samples with the same distinct arrivals are analysed alike. -/
theorem analyze_of_distinct {sentCount : Nat} {arrivals more : List Arrival}
    (same : (splitDuplicates more).1 = (splitDuplicates arrivals).1)
    {captureQualification : Option String} {report : BurstAnalysisReport}
    (analyzed : analyze ⟨sentCount, arrivals⟩ captureQualification = some report) :
    ∃ other, analyze ⟨sentCount, more⟩ captureQualification = some other ∧
      SameButDuplicates report other := by
  obtain ⟨lossPercent, computed, rfl⟩ := Option.map_eq_some_iff.mp analyzed
  have again : lossPercentOf sentCount ((splitDuplicates more).1.map (·.seq)).toFinset.card =
      some lossPercent := by
    rw [same]
    exact computed
  refine ⟨_, Option.map_eq_some_iff.mpr ⟨lossPercent, again, rfl⟩, ?_⟩
  have split : (more.foldl SplitState.insert .initial).distinct =
      (arrivals.foldl SplitState.insert .initial).distinct :=
    same
  simp only [SameButDuplicates, split]

/-- The events are the first arrivals behind a higher sequence number, each with the number of
those; their depths count the inversions of the receive order. Duplicates change nothing. -/
theorem reordering_counts_inversions (arrivals : List Arrival) :
    let events := computeReordering (splitDuplicates arrivals).1
    events = withPast lateArrival arrivals ∧
      (events.map (·.depth)).sum = inversions (receiveOrder arrivals) ∧
      (events = [] ↔ (receiveOrder arrivals).Pairwise (· < ·)) ∧
      (∀ more, Relation.ReflTransGen InsertsDuplicate arrivals more →
        computeReordering (splitDuplicates more).1 = events) ∧
      ∀ sentCount captureQualification report, analyze ⟨sentCount, arrivals⟩ captureQualification =
        some report → report.reordering = events ∧
          ∀ more, Relation.ReflTransGen InsertsDuplicate arrivals more →
            ∃ other, analyze ⟨sentCount, more⟩ captureQualification = some other ∧
              SameButDuplicates report other := by
  intro events
  refine ⟨computeReordering_distinct arrivals, ?_, ?_, ?_, ?_⟩
  · rw [sum_depths, distinct_receiveOrder]
  · have nodup := distinct_nodup arrivals
    rw [computeReordering_eq_nil_iff, ← distinct_receiveOrder]
    constructor
    · intro ordered
      exact (ordered.and nodup).imp fun both => Nat.lt_of_le_of_ne both.1 both.2
    · exact fun increasing => increasing.imp Nat.le_of_lt
  · intro more inserts
    rw [distinct_of_inserts inserts]
  · intro sentCount captureQualification report analyzed
    refine ⟨?_, fun more inserts => analyze_of_distinct (distinct_of_inserts inserts) analyzed⟩
    obtain ⟨lossPercent, -, rfl⟩ := Option.map_eq_some_iff.mp analyzed
    rfl

end FragglePacket.NetworkTests
