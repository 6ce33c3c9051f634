import FragglePacket.Lists.Gaps
import FragglePacket.NetworkTests.BurstAnalysis

/-! The loss bursts of a sample partition what it did not receive. -/

namespace FragglePacket.NetworkTests

open FragglePacket.Lists

/-- Some arrival carries the sequence number. -/
def BoundedSample.Received (sample : BoundedSample) (seq : Nat) : Prop :=
  ∃ arrival ∈ sample.arrivals, arrival.seq = seq

namespace SplitState

/-- What the split has made of the arrivals seen so far. -/
structure Sound (past : List Arrival) (state : SplitState) : Prop where
  seen : state.seen = (past.map (·.seq)).toFinset
  kept : (state.distinct.map (·.seq)).toFinset = state.seen
  nodup : (state.distinct.map (·.seq)).Nodup
  counted : state.distinct.length + state.duplicates = past.length

theorem initial_sound : initial.Sound [] where
  seen := rfl
  kept := rfl
  nodup := List.nodup_nil
  counted := rfl

private theorem toFinset_append_seq (past : List Arrival) (arrival : Arrival) :
    ((past ++ [arrival]).map (·.seq)).toFinset =
      Insert.insert arrival.seq (past.map (·.seq)).toFinset := by
  rw [List.map_append, List.toFinset_append, Finset.union_comm]
  rfl

theorem insert_sound {past : List Arrival} {state : SplitState} (sound : state.Sound past)
    (arrival : Arrival) :
    (state.insert arrival).Sound (past ++ [arrival]) := by
  have counted := sound.counted
  by_cases repeated : arrival.seq ∈ state.seen
  · rw [insert, if_pos repeated]
    refine ⟨?_, sound.kept, sound.nodup, ?_⟩
    · rw [toFinset_append_seq, ← sound.seen, Finset.insert_eq_of_mem repeated]
    · simp only [List.length_append, List.length_singleton]
      omega
  · rw [insert, if_neg repeated]
    refine ⟨?_, ?_, ?_, ?_⟩
    · rw [toFinset_append_seq, ← sound.seen]
    · rw [toFinset_append_seq, sound.kept]
    · have fresh : arrival.seq ∉ state.distinct.map (·.seq) := by
        rw [← List.mem_toFinset, sound.kept]
        exact repeated
      rw [List.map_append, List.map_singleton]
      exact sound.nodup.append (List.nodup_singleton _) (List.disjoint_singleton.mpr fresh)
    · simp only [List.length_append, List.length_singleton]
      omega

theorem foldl_insert_sound {past : List Arrival} {state : SplitState} (sound : state.Sound past)
    (arrivals : List Arrival) : (arrivals.foldl insert state).Sound (past ++ arrivals) := by
  induction arrivals generalizing past state with
  | nil => simpa using sound
  | cons arrival rest ih => simpa using ih (insert_sound sound arrival)

end SplitState

/-- The sequence numbers that an analysis takes as received. -/
def BoundedSample.present (sample : BoundedSample) : Finset Nat :=
  ((splitDuplicates sample.arrivals).1.map (·.seq)).toFinset

theorem BoundedSample.mem_present (sample : BoundedSample) (seq : Nat) :
    seq ∈ sample.present ↔ sample.Received seq := by
  have sound := SplitState.foldl_insert_sound SplitState.initial_sound sample.arrivals
  have same : sample.present = (sample.arrivals.map (·.seq)).toFinset := sound.kept.trans sound.seen
  rw [same, List.mem_toFinset, List.mem_map]
  rfl

/-- An arrival is a duplicate or the first of its sequence number. -/
theorem BoundedSample.duplicates_add_present (sample : BoundedSample) :
    (splitDuplicates sample.arrivals).2 + sample.present.card = sample.arrivals.length := by
  have sound := SplitState.foldl_insert_sound SplitState.initial_sound sample.arrivals
  have distinct : sample.present.card = (splitDuplicates sample.arrivals).1.length :=
    (List.toFinset_card_of_nodup sound.nodup).trans (List.length_map _)
  rw [distinct, Nat.add_comm]
  exact sound.counted

/-- Where each burst starts and how long it is. -/
def spans (bursts : List LossBurst) : List (Nat × Nat) :=
  bursts.map fun burst => (burst.startSeq, burst.runLength)

theorem mem_spans (bursts : List LossBurst) (start length : Nat) :
    (start, length) ∈ spans bursts ↔
      ∃ burst ∈ bursts, burst.startSeq = start ∧ burst.runLength = length := by
  simp [spans]

namespace RunState

variable {present : Finset Nat} {seqSendTime : Nat → Option ℚ} {reached : Nat} {state : RunState}

/-- The loop has reached a sequence number: closed there, its bursts are the gaps below, and
the open run ends there. -/
structure Tracks (present : Finset Nat) (seqSendTime : Nat → Option ℚ) (reached : Nat)
    (state : RunState) : Prop where
  cover : GapCover (· ∈ present) reached (spans (state.close seqSendTime))
  openRun : (state.runStart = none ∧ state.runLen = 0 ∧ (reached = 0 ∨ reached - 1 ∈ present)) ∨
    ∃ start, state.runStart = some start ∧ 0 < state.runLen ∧ start + state.runLen = reached

theorem initial_tracks : initial.Tracks present seqSendTime 0 where
  cover := GapCover.zero
  openRun := Or.inl ⟨rfl, rfl, Or.inl rfl⟩

theorem visit_tracks (tracks : state.Tracks present seqSendTime reached) :
    (state.visit present seqSendTime reached).Tracks present seqSendTime (reached + 1) := by
  by_cases received : reached ∈ present
  · rw [visit, if_pos received]
    exact ⟨tracks.cover.skip received, Or.inl ⟨rfl, rfl, Or.inr received⟩⟩
  · rw [visit, if_neg received]
    have cover := tracks.cover
    rcases tracks.openRun with ⟨noStart, noLength, opened⟩ | ⟨start, started, lost, ends⟩
    · simp only [close, closeRun, noStart] at cover
      refine ⟨?_, Or.inr ⟨reached, by simp [noStart], Nat.succ_pos _, by simp only [noLength]⟩⟩
      have begun := cover.begin received opened
      simpa [close, closeRun, noStart, noLength, spans] using begun
    · simp only [close, closeRun, started, if_pos lost, spans, List.map_append,
        List.map_singleton] at cover
      refine ⟨?_, Or.inr ⟨start, by simp [started], Nat.succ_pos _, by simp only; omega⟩⟩
      have widened := cover.widen ends received
      simpa [close, closeRun, started, spans] using widened

theorem foldl_visit_tracks (sentCount : Nat) :
    ((List.range sentCount).foldl (visit present seqSendTime) initial).Tracks present seqSendTime
      sentCount := by
  induction sentCount with
  | zero => exact initial_tracks
  | succ reached ih =>
    rw [List.range_succ, List.foldl_append]
    exact visit_tracks ih

end RunState

/-- The bursts are the gaps that the received sequence numbers leave. -/
theorem lossBursts_cover (present : Finset Nat) (seqSendTime : Nat → Option ℚ) (sentCount : Nat) :
    GapCover (· ∈ present) sentCount (spans (lossBursts present seqSendTime sentCount)) :=
  (RunState.foldl_visit_tracks sentCount).cover

theorem sum_runLengths (present : Finset Nat) (seqSendTime : Nat → Option ℚ) (sentCount : Nat) :
    ((lossBursts present seqSendTime sentCount).map (·.runLength)).sum +
      (present.filter (· < sentCount)).card = sentCount := by
  have summed := (lossBursts_cover present seqSendTime sentCount).sum_lengths
  have lengths : (spans (lossBursts present seqSendTime sentCount)).map (·.2) =
      (lossBursts present seqSendTime sentCount).map (·.runLength) := by
    rw [spans, List.map_map]
    rfl
  have counted : (List.range sentCount).countP (fun seq => decide (seq ∈ present)) =
      (present.filter (· < sentCount)).card := by
    rw [List.countP_eq_length_filter, ← List.toFinset_card_of_nodup (List.nodup_range.filter _)]
    congr 1
    ext seq
    simp [and_comm]
  rw [lengths, counted] at summed
  exact summed

/-- What a report says of the sequence space of its sample. -/
structure PartitionsSequence (sample : BoundedSample) (report : BurstAnalysisReport) : Prop where
  maximal : ∀ start length, (∃ burst ∈ report.burst.bursts, burst.startSeq = start ∧
    burst.runLength = length) ↔
    MaximalGap sample.Received sample.sentCount start length
  separated : report.burst.bursts.Pairwise fun earlier later =>
    ∃ seq, sample.Received seq ∧ earlier.startSeq + earlier.runLength ≤ seq ∧ seq < later.startSeq
  lost : report.burst.totalLost + report.receivedCount = sample.sentCount
  summed : report.burst.totalLost = (report.burst.bursts.map (·.runLength)).sum
  duplicates : report.duplicateCount + report.receivedCount = sample.arrivals.length
  longest : ∀ burst ∈ report.burst.bursts, burst.runLength ≤ report.burst.maxRunLength

/-- When each received sequence number was sent. -/
def BoundedSample.sendTime (sample : BoundedSample) (seq : Nat) : Option ℚ :=
  (bySeq (splitDuplicates sample.arrivals).1 seq).map (·.sentAtMs)

theorem analyze_eq_some {sample : BoundedSample} {captureQualification : Option String}
    {report : BurstAnalysisReport} (analyzed : analyze sample captureQualification = some report) :
    report.receivedCount = sample.present.card ∧
      report.duplicateCount = (splitDuplicates sample.arrivals).2 ∧
      report.burst = computeBurstDistribution sample.present sample.sendTime sample.sentCount := by
  obtain ⟨lossPercent, -, rfl⟩ := Option.map_eq_some_iff.mp analyzed
  exact ⟨rfl, rfl, rfl⟩

theorem exists_analyze {sample : BoundedSample} (fits : sample.present.card ≤ sample.sentCount)
    (captureQualification : Option String) :
    ∃ report, analyze sample captureQualification = some report := by
  obtain ⟨lossPercent, computed⟩ :
      ∃ lossPercent, lossPercentOf sample.sentCount sample.present.card = some lossPercent := by
    rw [lossPercentOf]
    by_cases nothing : sample.sentCount = 0
    · exact ⟨0, if_pos nothing⟩
    · rw [if_neg nothing, if_pos fits]
      exact ⟨_, rfl⟩
  exact ⟨_, Option.map_eq_some_iff.mpr ⟨lossPercent, computed, rfl⟩⟩

theorem computeBurstDistribution_maxRunLength (present : Finset Nat) (seqSendTime : Nat → Option ℚ)
    (sentCount : Nat) :
    let burst := computeBurstDistribution present seqSendTime sentCount
    (∀ other ∈ burst.bursts, other.runLength ≤ burst.maxRunLength) ∧
      (burst.bursts ≠ [] → ∃ other ∈ burst.bursts, other.runLength = burst.maxRunLength) := by
  intro burst
  constructor
  · intro other present
    exact List.le_max?_getD_of_mem (List.mem_map_of_mem present)
  · intro some
    have lengths : burst.bursts.map (·.runLength) ≠ [] := by simpa using some
    obtain ⟨longest, highest⟩ := Option.ne_none_iff_exists'.mp (mt List.max?_eq_none_iff.mp lengths)
    obtain ⟨other, present, length⟩ := List.mem_map.mp (List.max?_mem highest)
    refine ⟨other, present, ?_⟩
    have reported : burst.maxRunLength = longest := by
      change (burst.bursts.map (·.runLength)).max?.getD 0 = longest
      rw [highest]
      rfl
    rw [reported, ← length]

/-- A sample that received nothing beyond what was sent is analysed, and its bursts are the
maximal runs of losses. The longest is reported when there is one. -/
theorem analyze_partitions (sample : BoundedSample) (captureQualification : Option String)
    (inRange : ∀ arrival ∈ sample.arrivals, arrival.seq < sample.sentCount) :
    ∃ report, analyze sample captureQualification = some report ∧ PartitionsSequence sample report ∧
      (report.burst.bursts ≠ [] → ∃ burst ∈ report.burst.bursts,
        burst.runLength = report.burst.maxRunLength) ∧
      (report.burst.bursts = [] → report.burst.maxRunLength = 0) := by
  have below : ∀ seq ∈ sample.present, seq < sample.sentCount := by
    intro seq present
    obtain ⟨arrival, arrived, rfl⟩ := (sample.mem_present seq).mp present
    exact inRange arrival arrived
  have cover := lossBursts_cover sample.present sample.sendTime sample.sentCount
  have total := sum_runLengths sample.present sample.sendTime sample.sentCount
  rw [Finset.filter_true_of_mem below] at total
  have fits : sample.present.card ≤ sample.sentCount := by omega
  obtain ⟨report, analyzed⟩ := exists_analyze fits captureQualification
  obtain ⟨received, duplicates, burst⟩ := analyze_eq_some analyzed
  obtain ⟨longest, attained⟩ :=
    computeBurstDistribution_maxRunLength sample.present sample.sendTime sample.sentCount
  rw [← burst] at longest attained
  refine ⟨report, analyzed, ⟨?_, ?_, ?_, ?_, ?_, longest⟩, attained, ?_⟩
  · intro start length
    rw [burst, ← mem_spans]
    have exactly := cover.mem_iff start length
    simp only [funext fun seq => propext (sample.mem_present seq)] at exactly
    exact exactly
  · rw [burst]
    have separated := List.pairwise_map.mp cover.separated
    refine separated.imp ?_
    rintro earlier later ⟨seq, present, lower, upper⟩
    exact ⟨seq, (sample.mem_present seq).mp present, lower, upper⟩
  · rw [burst, received]
    exact total
  · rw [burst]
    rfl
  · rw [duplicates, received]
    exact sample.duplicates_add_present
  · intro none
    have lengths : report.burst.maxRunLength =
        (report.burst.bursts.map (·.runLength)).max?.getD 0 := by
      rw [burst]
      rfl
    rw [lengths, none]
    rfl

def exampleLossySample : BoundedSample := ⟨3, [⟨0, 0, 5⟩]⟩

theorem analyze_partitions_lossy :
    ∃ report, analyze exampleLossySample none = some report ∧
      PartitionsSequence exampleLossySample report ∧
      (report.burst.bursts ≠ [] → ∃ burst ∈ report.burst.bursts,
        burst.runLength = report.burst.maxRunLength) ∧
      (report.burst.bursts = [] → report.burst.maxRunLength = 0) :=
  analyze_partitions exampleLossySample none (by decide)

def exampleLosslessSample : BoundedSample := ⟨1, [⟨0, 0, 5⟩]⟩

/-- A sample that lost nothing has no burst of the length reported as the longest. -/
theorem lossless_sample_has_no_longest :
    (∀ arrival ∈ exampleLosslessSample.arrivals, arrival.seq < exampleLosslessSample.sentCount) ∧
    ∃ report, analyze exampleLosslessSample none = some report ∧
      ¬ ∃ burst ∈ report.burst.bursts, burst.runLength = report.burst.maxRunLength := by
  refine ⟨by decide, ?_⟩
  have fits : exampleLosslessSample.present.card ≤ exampleLosslessSample.sentCount := by decide
  obtain ⟨report, analyzed⟩ := exists_analyze fits none
  have noBursts : report.burst.bursts = [] := by
    rw [(analyze_eq_some analyzed).2.2]
    decide
  refine ⟨report, analyzed, ?_⟩
  rw [noBursts]
  simp

end FragglePacket.NetworkTests
