import FragglePacket.NetworkTests.BurstPartition

/-! What an analysis says of a sample whose arrivals nobody has checked. -/

namespace FragglePacket.NetworkTests

open FragglePacket.Lists

section Accounting

variable {sample : BoundedSample} {captureQualification : Option String}
  {report : BurstAnalysisReport}

theorem analyze_lossPercent (analyzed : analyze sample captureQualification = some report) :
    lossPercentOf sample.sentCount report.receivedCount = some report.lossPercent := by
  obtain ⟨lossPercent, computed, rfl⟩ := Option.map_eq_some_iff.mp analyzed
  exact computed

theorem lossPercentOf_bounds {sentCount receivedCount : Nat} {lossPercent : ℚ}
    (computed : lossPercentOf sentCount receivedCount = some lossPercent) :
    0 ≤ lossPercent ∧ lossPercent ≤ 100 := by
  rw [lossPercentOf] at computed
  split at computed
  · obtain rfl := Option.some.inj computed
    norm_num
  · rename_i sent
    split at computed
    · obtain rfl := Option.some.inj computed
      have positive : (0 : ℚ) < sentCount := by exact_mod_cast Nat.pos_of_ne_zero sent
      have fraction : ((sentCount - receivedCount : Nat) : ℚ) / sentCount ≤ 1 := by
        rw [div_le_one positive]
        exact_mod_cast Nat.sub_le _ _
      constructor
      · positivity
      · linarith
    · cases computed

/-- The report accounts for every sequence number that was sent. -/
structure Accounts (sample : BoundedSample) (report : BurstAnalysisReport) : Prop where
  sent : report.receivedCount + report.burst.totalLost = sample.sentCount
  least : 0 ≤ report.lossPercent
  most : report.lossPercent ≤ 100

/-- There is a report and it accounts for what was sent exactly when nothing else arrived. -/
theorem analyze_accounts_iff (sample : BoundedSample) (captureQualification : Option String) :
    (∃ report, analyze sample captureQualification = some report ∧ Accounts sample report) ↔
      ∀ arrival ∈ sample.arrivals, arrival.seq < sample.sentCount := by
  constructor
  · rintro ⟨report, analyzed, accounts⟩ arrival arrived
    obtain ⟨received, -, burst⟩ := analyze_eq_some analyzed
    have lost := sum_runLengths sample.present sample.sendTime sample.sentCount
    have total := accounts.sent
    rw [received, burst] at total
    change sample.present.card + ((lossBursts sample.present sample.sendTime sample.sentCount).map
      (·.runLength)).sum = _
      at total
    have counted : sample.present.card ≤
        (sample.present.filter (· < sample.sentCount)).card := by omega
    have all := Finset.eq_of_subset_of_card_le (Finset.filter_subset _ _) counted
    have present := (sample.mem_present arrival.seq).mpr ⟨arrival, arrived, rfl⟩
    rw [← all] at present
    exact (Finset.mem_filter.mp present).2
  · intro inRange
    obtain ⟨report, analyzed, partitions, -⟩ :=
      analyze_partitions sample captureQualification inRange
    obtain ⟨least, most⟩ := lossPercentOf_bounds (analyze_lossPercent analyzed)
    exact ⟨report, analyzed, (Nat.add_comm _ _).trans partitions.lost, least, most⟩

/-- A datagram with a foreign number beside the one that was sent leaves no report. -/
theorem foreign_number_overflows :
    analyze ⟨1, [⟨0, 0, 5⟩, ⟨7, 0, 6⟩]⟩ none = none ∧
      ¬ ∃ report, analyze ⟨1, [⟨0, 0, 5⟩, ⟨7, 0, 6⟩]⟩ none = some report ∧
        Accounts ⟨1, [⟨0, 0, 5⟩, ⟨7, 0, 6⟩]⟩ report := by
  have nothing : analyze ⟨1, [⟨0, 0, 5⟩, ⟨7, 0, 6⟩]⟩ none = none := by decide
  refine ⟨nothing, ?_⟩
  rw [nothing]
  rintro ⟨report, analyzed, -⟩
  cases analyzed

end Accounting

section Durations

/-- The received sequence numbers next to a burst on either side. -/
structure Neighbours (sample : BoundedSample) (burst : LossBurst) (before after : Nat) : Prop where
  receivedBefore : sample.Received before
  receivedAfter : sample.Received after
  below : before < burst.startSeq
  above : burst.startSeq + burst.runLength ≤ after
  nearest : ∀ seq, before < seq → seq < after → ¬ sample.Received seq

/-- A packet that was received later in the sequence was not sent earlier. -/
def BoundedSample.SendTimesOrdered (sample : BoundedSample) : Prop :=
  ∀ before after earlier later, before ≤ after → sample.sendTime before = some earlier →
    sample.sendTime after = some later → earlier ≤ later

/-- A burst between two received sequence numbers has a duration, within the time that passed
between these two, and only bursts at an end of the sequence have none. -/
def GapsMeasured (sample : BoundedSample) (report : BurstAnalysisReport) : Prop :=
  ∀ burst ∈ report.burst.bursts,
    (∀ before after, Neighbours sample burst before after →
      ∃ duration earlier later, burst.gapDurationMs = some duration ∧
        sample.sendTime before = some earlier ∧
        sample.sendTime after = some later ∧ 0 ≤ duration ∧
        (sample.SendTimesOrdered → duration ≤ later - earlier)) ∧
    (burst.gapDurationMs = none → burst.startSeq = 0 ∨
      burst.startSeq + burst.runLength = sample.sentCount)

/-- A sequence number that was sent and not received lies between two that were received. -/
def BoundedSample.LostInside (sample : BoundedSample) : Prop :=
  ∃ before lost after, sample.Received before ∧ before < lost ∧ lost < sample.sentCount ∧
    ¬ sample.Received lost ∧ lost < after ∧ sample.Received after

/-- The durations of all bursts are looked up under their own sequence numbers. -/
theorem lossBursts_durations (present : Finset Nat) (seqSendTime : Nat → Option ℚ)
    (sentCount : Nat) :
    ∀ burst ∈ lossBursts present seqSendTime sentCount,
      burst.gapDurationMs = gapDuration seqSendTime burst.startSeq burst.runLength := by
  have closes (start : Option Nat) (length : Nat) {bursts : List LossBurst}
      (all : ∀ burst ∈ bursts, burst.gapDurationMs =
        gapDuration seqSendTime burst.startSeq burst.runLength) :
      ∀ burst ∈ closeRun seqSendTime start length bursts,
        burst.gapDurationMs = gapDuration seqSendTime burst.startSeq burst.runLength := by
    intro burst member
    cases start with
    | none => exact all burst member
    | some start =>
      rw [closeRun] at member
      split at member
      · rcases List.mem_append.mp member with old | new
        · exact all burst old
        · rw [List.mem_singleton.mp new]
      · exact all burst member
  have visited :
      ∀ burst ∈ ((List.range sentCount).foldl (RunState.visit present seqSendTime) .initial).bursts,
      burst.gapDurationMs = gapDuration seqSendTime burst.startSeq burst.runLength := by
    induction sentCount with
    | zero => simp [RunState.initial]
    | succ reached ih =>
      rw [List.range_succ, List.foldl_append]
      change ∀ burst ∈ (RunState.visit present seqSendTime _ reached).bursts, _
      rw [RunState.visit]
      split
      · exact closes _ _ ih
      · exact ih
  exact closes _ _ visited

theorem sendTime_of_lost {sample : BoundedSample} {seq : Nat} (lost : seq ∉ sample.present) :
    sample.sendTime seq = none := by
  have nothing : bySeq (splitDuplicates sample.arrivals).1 seq = none := by
    apply List.find?_eq_none.mpr
    intro arrival member same
    refine lost (List.mem_toFinset.mpr (List.mem_map.mpr ⟨arrival, List.mem_reverse.mp member, ?_⟩))
    simpa using same
  rw [BoundedSample.sendTime, nothing]
  rfl

/-- A lost sequence number has no send time, and so no burst has a duration. -/
theorem gapDurationMs_eq_none (sample : BoundedSample) :
    ∀ burst ∈ lossBursts sample.present sample.sendTime sample.sentCount, burst.gapDurationMs =
      none := by
  intro burst member
  have cover := lossBursts_cover sample.present sample.sendTime sample.sentCount
  have maximal :=
    cover.maximal (burst.startSeq, burst.runLength) (List.mem_map.mpr ⟨burst, member, rfl⟩)
  have lost := maximal.absent burst.startSeq le_rfl (Nat.lt_add_of_pos_right maximal.nonempty)
  rw [lossBursts_durations sample.present sample.sendTime sample.sentCount burst member,
    gapDuration, sendTime_of_lost lost]

theorem received_cover (sample : BoundedSample) : GapCover sample.Received sample.sentCount
    (spans (lossBursts sample.present sample.sendTime sample.sentCount)) := by
  have cover := lossBursts_cover sample.present sample.sendTime sample.sentCount
  rwa [funext fun seq => propext (sample.mem_present seq)] at cover

/-- A burst with received numbers on both sides has nearest ones. -/
theorem exists_neighbours {sample : BoundedSample} {burst : LossBurst}
    (maximal : MaximalGap sample.Received sample.sentCount burst.startSeq burst.runLength)
    {before after : Nat} (below : before < burst.startSeq) (receivedAfter : sample.Received after)
    (above : burst.startSeq + burst.runLength ≤ after) :
    ∃ before after, Neighbours sample burst before after := by
  classical
  have some : ∃ seq, sample.Received seq ∧ burst.startSeq + burst.runLength ≤ seq :=
    ⟨after, receivedAfter, above⟩
  obtain ⟨received, behind⟩ := Nat.find_spec some
  have preceded := maximal.opened.resolve_left (by omega)
  refine ⟨burst.startSeq - 1, Nat.find some, preceded, received, by omega, behind,
    fun seq lower upper isReceived => ?_⟩
  by_cases inside : seq < burst.startSeq + burst.runLength
  · exact maximal.absent seq (by omega) inside isReceived
  · exact Nat.find_min some upper ⟨isReceived, by omega⟩

/-- The bursts have the durations that they should exactly when none of them lies between two
received sequence numbers. -/
theorem gaps_measured_iff {sample : BoundedSample} {captureQualification : Option String}
    {report : BurstAnalysisReport} (analyzed : analyze sample captureQualification = some report) :
    GapsMeasured sample report ↔ ¬ sample.LostInside := by
  have cover := received_cover sample
  have inside : sample.LostInside ↔ _ := cover.surrounded_iff
  have bursts : report.burst.bursts =
      lossBursts sample.present sample.sendTime sample.sentCount := by
    rw [(analyze_eq_some analyzed).2.2]
    rfl
  have unmeasured := gapDurationMs_eq_none sample
  rw [inside, GapsMeasured, bursts]
  constructor
  · rintro measured ⟨gap, listed, ⟨first, -, below⟩, ⟨last, isLast, above⟩⟩
    obtain ⟨burst, member, rfl⟩ := List.mem_map.mp listed
    obtain ⟨before, after, neighbours⟩ :=
      exists_neighbours (cover.maximal _ listed) below isLast above
    obtain ⟨duration, -, -, measuredAs, -⟩ := (measured burst member).1 before after neighbours
    rw [unmeasured burst member] at measuredAs
    cases measuredAs
  · intro alone burst member
    have listed : (burst.startSeq, burst.runLength) ∈
        spans (lossBursts sample.present sample.sendTime sample.sentCount) :=
      List.mem_map.mpr ⟨burst, member, rfl⟩
    constructor
    · intro before after neighbours
      exact absurd ⟨_, listed, ⟨before, neighbours.receivedBefore, neighbours.below⟩,
        ⟨after, neighbours.receivedAfter, neighbours.above⟩⟩ alone
    · intro _
      have maximal := cover.maximal _ listed
      rcases maximal.opened with zero | preceded
      · exact .inl zero
      · rcases maximal.closed with last | followed
        · exact .inr last
        · by_cases start : burst.startSeq = 0
          · exact .inl start
          · exact absurd
              ⟨_, listed, ⟨_, preceded, show burst.startSeq - 1 < burst.startSeq by omega⟩,
              ⟨_, followed, Nat.le_refl _⟩⟩ alone

theorem gaps_measured_iff_lossy : ∃ report, analyze exampleLossySample none = some report ∧
    (GapsMeasured exampleLossySample report ↔ ¬ exampleLossySample.LostInside) := by
  obtain ⟨report, analyzed⟩ : ∃ report, analyze exampleLossySample none = some report :=
    exists_analyze (by decide) none
  exact ⟨report, analyzed, gaps_measured_iff analyzed⟩

def exampleGapSample : BoundedSample := ⟨3, [⟨0, 0, 5⟩, ⟨2, 20, 25⟩]⟩

/-- The one packet lost between two received ones has no duration. -/
theorem inner_gap_unmeasured : ∃ report, analyze exampleGapSample none = some report ∧
    report.burst.bursts = [⟨1, 1, none⟩] ∧ ¬ GapsMeasured exampleGapSample report := by
  obtain ⟨report, analyzed⟩ : ∃ report, analyze exampleGapSample none = some report :=
    exists_analyze (by decide) none
  have bursts : report.burst.bursts = [⟨1, 1, none⟩] := by
    rw [(analyze_eq_some analyzed).2.2]
    decide
  refine ⟨report, analyzed, bursts, fun measured => ?_⟩
  have received (seq : Nat)
      (member : seq ∈ exampleGapSample.present) : exampleGapSample.Received seq :=
    (exampleGapSample.mem_present seq).mp member
  have neighbours : Neighbours exampleGapSample ⟨1, 1, none⟩ 0 2 := by
    refine ⟨received 0 (by decide), received 2 (by decide), by decide, by decide,
      fun seq lower upper isReceived => ?_⟩
    obtain rfl : seq = 1 := by omega
    exact absurd ((exampleGapSample.mem_present 1).mpr isReceived) (by decide)
  obtain ⟨duration, -, -, same, -⟩ := (measured ⟨1, 1, none⟩ (by simp [bursts])).1 0 2 neighbours
  cases same

end Durations

end FragglePacket.NetworkTests
