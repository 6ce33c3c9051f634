import FragglePacket.Lists.Grouping
import FragglePacket.Lists.SortByKey
import FragglePacket.NetworkTests.ProviderPath
import Mathlib.Data.Char
import Mathlib.Data.List.Lex

/-! What repeated traces of a path say of each of its hops. -/

namespace FragglePacket.NetworkTests

open FragglePacket.Lists FragglePacket.Text

inductive HopStabilityVerdict where
  | stable
  | changed
  | consistentlyNonResponsive
  | intermittentResponse (responded total : UInt32)
  deriving DecidableEq

structure HopStability where
  hopNumber : Nat
  verdict : HopStabilityVerdict
  addressesSeen : List Str
  deriving DecidableEq

structure PathStability where
  target : Str
  sampleCount : UInt32
  perHop : List HopStability
  deriving DecidableEq

/-- The counts are taken as `u32`. -/
def hopStability (hopNumber : Nat) (samples : List TraceHop) : HopStability :=
  let total := UInt32.ofNat samples.length
  let respondedSamples := samples.filter fun h => h.outcome = .responded
  let responded := UInt32.ofNat respondedSamples.length
  let addressesSeen := sortedDistinct (respondedSamples.filterMap (·.addr))
  let verdict :=
    if responded = 0 then .consistentlyNonResponsive
    else if responded < total then .intermittentResponse responded total
    else if addressesSeen.length ≤ 1 then .stable
    else .changed
  ⟨hopNumber, verdict, addressesSeen⟩

/-- The samples of all runs by hop, in the order of the hop numbers. -/
def assessPathStability (target : Str) (runs : List TraceRun) : PathStability where
  target
  sampleCount := UInt32.ofNat runs.length
  perHop := (grouped (·.hopNumber) (runs.flatMap (·.hops))).map fun hop => hopStability hop.1 hop.2

section Traces
variable (runs : List TraceRun) (n : Nat)

def TraceRun.listsHop (run : TraceRun) : Bool := run.hops.any fun h => decide (h.hopNumber = n)

def TraceRun.answeredHop (run : TraceRun) : Bool :=
  run.hops.any fun h => decide (h.hopNumber = n) && h.outcome = .responded

/-- The address answered at the hop. -/
def TraceRun.AnsweredFrom (addr : Str) (run : TraceRun) : Prop :=
  ∃ h ∈ run.hops, h.hopNumber = n ∧ h.outcome = .responded ∧ h.addr = some addr

def SameAddress : Prop := ∃ addr, ∀ run ∈ runs, run.AnsweredFrom n addr

def AddressesDiffer : Prop :=
  ∃ first second, first ≠ second ∧ (∃ run ∈ runs, run.AnsweredFrom n first) ∧
    ∃ run ∈ runs, run.AnsweredFrom n second

/-- The verdict is what the runs show; a run without the hop did not answer. -/
structure VerdictShown (verdict : HopStabilityVerdict) : Prop where
  stable : verdict = .stable ↔ SameAddress runs n
  silent : verdict = .consistentlyNonResponsive ↔ ∀ run ∈ runs, run.answeredHop n = false
  changed : verdict = .changed ↔ AddressesDiffer runs n
  counted : ∀ responded total, verdict = .intermittentResponse responded total →
    responded.toNat = runs.countP (·.answeredHop n) ∧ total.toNat = runs.length

/-- Each hop of the runs is assessed once, in order, with the verdict they show in
whatever order they come. -/
structure StabilityShown (target : Str) : Prop where
  ordered : ((assessPathStability target runs).perHop.map (·.hopNumber)).Pairwise (· < ·)
  occurs : ∀ number, number ∈ (assessPathStability target runs).perHop.map (·.hopNumber) ↔
    ∃ run ∈ runs, run.listsHop number = true
  verdicts : ∀ hop ∈ (assessPathStability target runs).perHop,
    VerdictShown runs hop.hopNumber hop.verdict
  unordered : ∀ others, runs.Perm others →
    assessPathStability target others = assessPathStability target runs

/-- No run answered; or as many answered as list the hop, with two addresses or one and the
same; or every run lists the hop and not all answered, with one address at most. Counts are
compared as they fit 32 bits. -/
def VerdictReached : Prop :=
  let answered := runs.countP (·.answeredHop n)
  let listed := runs.countP (·.listsHop n)
  answered = 0 ∨
  (answered % 2 ^ 32 ≠ 0 ∧ listed % 2 ^ 32 ≤ answered % 2 ^ 32 ∧
    (AddressesDiffer runs n ∨ SameAddress runs n)) ∨
  (answered < runs.length ∧ listed % 2 ^ 32 = runs.length ∧ ¬ AddressesDiffer runs n)

end Traces

section Samples
variable {runs others : List TraceRun} {n : Nat}

def samplesAt (runs : List TraceRun) (n : Nat) : List TraceHop :=
  (runs.flatMap (·.hops)).filter (·.hopNumber = n)

def respondedAt (runs : List TraceRun) (n : Nat) : List TraceHop :=
  (samplesAt runs n).filter fun h => h.outcome = .responded

theorem perHop_eq (target : Str) (runs : List TraceRun) : (assessPathStability target runs).perHop =
    (groupKeys (·.hopNumber) (runs.flatMap (·.hops))).map fun n =>
      hopStability n (samplesAt runs n) := by
  rw [assessPathStability, grouped_eq_map, List.map_map]
  rfl

theorem perHop_numbers (target : Str) (runs : List TraceRun) :
    (assessPathStability target runs).perHop.map (·.hopNumber) =
    groupKeys (·.hopNumber) (runs.flatMap (·.hops)) := by
  rw [perHop_eq, List.map_map]
  exact List.map_id' _

theorem mem_numbers : n ∈ groupKeys (·.hopNumber) (runs.flatMap (·.hops)) ↔
    ∃ run ∈ runs, run.listsHop n = true := by
  rw [mem_groupKeys]
  constructor
  · rintro ⟨h, member, rfl⟩
    obtain ⟨run, inRuns, inHops⟩ := List.mem_flatMap.mp member
    exact ⟨run, inRuns, List.any_eq_true.mpr ⟨h, inHops, decide_eq_true rfl⟩⟩
  · rintro ⟨run, inRuns, lists⟩
    obtain ⟨h, inHops, same⟩ := List.any_eq_true.mp lists
    exact ⟨h, List.mem_flatMap.mpr ⟨run, inRuns, inHops⟩, of_decide_eq_true same⟩

theorem samplesAt_perm (perm : runs.Perm others) (n : Nat) :
    (samplesAt runs n).Perm (samplesAt others n) :=
  (perm.flatMap_right _).filter _

theorem hopStability_perm {samples shuffled : List TraceHop} (perm : samples.Perm shuffled)
    (n : Nat) :
    hopStability n samples = hopStability n shuffled := by
  have responded := perm.filter fun h => decide (h.outcome = .responded)
  rw [hopStability, hopStability, perm.length_eq, responded.length_eq,
    sortedDistinct_eq_of_perm (responded.filterMap (·.addr))]

/-- The order of the runs is not seen. -/
theorem assessPathStability_perm (target : Str) (perm : runs.Perm others) :
    assessPathStability target others = assessPathStability target runs := by
  have numbers : groupKeys (·.hopNumber) (others.flatMap (·.hops)) =
      groupKeys (·.hopNumber) (runs.flatMap (·.hops)) :=
    groupKeys_eq_of_perm (perm.flatMap_right _).symm
  have hops : (assessPathStability target others).perHop =
      (assessPathStability target runs).perHop := by
    rw [perHop_eq, perHop_eq, numbers]
    exact List.map_congr_left fun n _ => (hopStability_perm (samplesAt_perm perm n) n).symm
  have counts : (assessPathStability target others).sampleCount =
      (assessPathStability target runs).sampleCount :=
    congrArg UInt32.ofNat perm.length_eq.symm
  exact congrArg₂ (PathStability.mk target) counts hops

end Samples

section Counts
variable {runs : List TraceRun} (distinct : ∀ run ∈ runs, (run.hops.map (·.hopNumber)).Nodup)
  (n : Nat)
include distinct

theorem countP_hops (p : TraceHop → Bool) :
    (runs.flatMap (·.hops)).countP (fun h => decide (h.hopNumber = n) && p h) =
    runs.countP fun run => run.hops.any fun h => decide (h.hopNumber = n) && p h :=
  countP_flatMap_of_le_one fun run member => countP_key_le_one (distinct run member) n p

theorem samplesAt_length : (samplesAt runs n).length = runs.countP (·.listsHop n) := by
  have counted := countP_hops distinct n fun _ => true
  simp only [Bool.and_true] at counted
  rw [samplesAt, ← List.countP_eq_length_filter, counted]
  rfl

theorem respondedAt_length : (respondedAt runs n).length = runs.countP (·.answeredHop n) := by
  have counted := countP_hops distinct n fun h => decide (h.outcome = .responded)
  rw [respondedAt, samplesAt, List.filter_filter, ← List.countP_eq_length_filter]
  simp only [Bool.and_comm] at counted ⊢
  rw [counted]
  simp only [TraceRun.answeredHop]

end Counts

section Addresses
variable {runs : List TraceRun} {n : Nat} {addr : Str}

theorem mem_respondedAt_addr :
    addr ∈ (respondedAt runs n).filterMap (·.addr) ↔ ∃ run ∈ runs, run.AnsweredFrom n addr := by
  simp only [respondedAt, samplesAt, List.mem_filterMap, List.mem_filter, List.mem_flatMap,
    decide_eq_true_eq]
  constructor
  · rintro ⟨h, ⟨⟨⟨run, inRuns, inHops⟩, same⟩, responded⟩, named⟩
    exact ⟨run, inRuns, h, inHops, same, responded, named⟩
  · rintro ⟨run, inRuns, h, inHops, same, responded, named⟩
    exact ⟨h, ⟨⟨⟨run, inRuns, inHops⟩, same⟩, responded⟩, named⟩

theorem addressesDiffer_iff :
    AddressesDiffer runs n ↔
      1 < (sortedDistinct ((respondedAt runs n).filterMap (·.addr))).length := by
  rw [one_lt_length_sortedDistinct]
  simp only [mem_respondedAt_addr]
  constructor
  · rintro ⟨first, second, apart, answered, also⟩
    exact ⟨first, answered, second, also, apart⟩
  · rintro ⟨first, answered, second, also, apart⟩
    exact ⟨first, second, apart, answered, also⟩

theorem answeredFrom_answers {run : TraceRun} (answered : run.AnsweredFrom n addr) :
    run.answeredHop n = true := by
  obtain ⟨h, member, same, responded, _⟩ := answered
  exact List.any_eq_true.mpr ⟨h, member, by simp [same, responded]⟩

theorem answeredHop_lists {run : TraceRun} (answered : run.answeredHop n = true) :
    run.listsHop n = true := by
  obtain ⟨h, member, both⟩ := List.any_eq_true.mp answered
  exact List.any_eq_true.mpr ⟨h, member, (Bool.and_eq_true_iff.mp both).1⟩

theorem noneAnswered_iff :
    (∀ run ∈ runs, run.answeredHop n = false) ↔ runs.countP (·.answeredHop n) = 0 := by
  rw [List.countP_eq_zero]
  simp only [Bool.not_eq_true]

theorem countP_of_sameAddress (same : SameAddress runs n) :
    runs.countP (·.answeredHop n) = runs.length := by
  obtain ⟨addr, all⟩ := same
  exact List.countP_eq_length.mpr fun run member => answeredFrom_answers (all run member)

theorem countP_pos_of_differ (differ : AddressesDiffer runs n) :
    0 < runs.countP (·.answeredHop n) := by
  obtain ⟨_, _, _, ⟨run, member, answered⟩, _⟩ := differ
  exact List.countP_pos_iff.mpr ⟨run, member, answeredFrom_answers answered⟩

/-- A run with one entry for the hop answers from one address. -/
theorem not_differ_of_same (distinct : ∀ run ∈ runs, (run.hops.map (·.hopNumber)).Nodup)
    (same : SameAddress runs n) :
    ¬ AddressesDiffer runs n := by
  obtain ⟨addr, all⟩ := same
  have only (other : Str) (answered : ∃ run ∈ runs, run.AnsweredFrom n other) : other = addr := by
    obtain ⟨run, member, h, inHops, number, _, named⟩ := answered
    obtain ⟨own, inOwn, ownNumber, _, ownNamed⟩ := all run member
    have entry : h = own :=
      List.inj_on_of_nodup_map (distinct run member) inHops inOwn (number.trans ownNumber.symm)
    rw [entry, ownNamed] at named
    exact (Option.some.inj named).symm
  rintro ⟨first, second, apart, answered, also⟩
  exact apart ((only first answered).trans (only second also).symm)

end Addresses

section Verdicts
variable {runs : List TraceRun} {n : Nat}

/-- The verdict by the counts of the runs. -/
theorem hopStability_verdict (distinct : ∀ run ∈ runs, (run.hops.map (·.hopNumber)).Nodup)
    (n : Nat) :
    (hopStability n (samplesAt runs n)).verdict =
      if runs.countP (·.answeredHop n) % 2 ^ 32 = 0 then .consistentlyNonResponsive
      else if runs.countP (·.answeredHop n) % 2 ^ 32 < runs.countP (·.listsHop n) % 2 ^ 32 then
        .intermittentResponse (UInt32.ofNat (runs.countP (·.answeredHop n)))
          (UInt32.ofNat (runs.countP (·.listsHop n)))
      else if (sortedDistinct ((respondedAt runs n).filterMap (·.addr))).length ≤ 1 then .stable
      else .changed := by
  have answered : UInt32.ofNat (runs.countP (·.answeredHop n)) = 0 ↔
      runs.countP (·.answeredHop n) % 2 ^ 32 = 0 := by
    rw [← UInt32.toNat_inj, UInt32.toNat_ofNat']
    rfl
  have fewer : UInt32.ofNat (runs.countP (·.answeredHop n)) <
      UInt32.ofNat (runs.countP (·.listsHop n)) ↔
      runs.countP (·.answeredHop n) % 2 ^ 32 < runs.countP (·.listsHop n) % 2 ^ 32 := by
    rw [UInt32.lt_iff_toNat_lt, UInt32.toNat_ofNat', UInt32.toNat_ofNat']
  have counted := respondedAt_length distinct n
  rw [respondedAt] at counted
  simp only [hopStability, samplesAt_length distinct n, counted, answered, fewer]
  rfl

theorem shown_silent_iff : VerdictShown runs n .consistentlyNonResponsive ↔
    ¬ SameAddress runs n ∧ (∀ run ∈ runs, run.answeredHop n = false) ∧
      ¬ AddressesDiffer runs n := by
  constructor
  · rintro ⟨stable, silent, changed, _⟩
    exact ⟨fun same => absurd (stable.mpr same) (by simp), silent.mp rfl,
      fun differ => absurd (changed.mpr differ) (by simp)⟩
  · rintro ⟨apart, silent, agree⟩
    exact ⟨iff_of_false (by simp) apart, iff_of_true rfl silent,
      iff_of_false (by simp) agree, by simp⟩

theorem shown_intermittent_iff {responded total : UInt32} :
    VerdictShown runs n (.intermittentResponse responded total) ↔
    (¬ SameAddress runs n ∧ (¬ ∀ run ∈ runs, run.answeredHop n = false) ∧
      ¬ AddressesDiffer runs n) ∧
      responded.toNat = runs.countP (·.answeredHop n) ∧ total.toNat = runs.length := by
  constructor
  · rintro ⟨stable, silent, changed, counted⟩
    exact ⟨⟨fun same => absurd (stable.mpr same) (by simp), fun none => absurd (silent.mpr none)
      (by simp), fun differ => absurd (changed.mpr differ) (by simp)⟩, counted _ _ rfl⟩
  · rintro ⟨⟨apart, answered, agree⟩, counted⟩
    refine ⟨iff_of_false (by simp) apart, iff_of_false (by simp) answered,
      iff_of_false (by simp) agree, ?_⟩
    rintro _ _ same
    obtain ⟨rfl, rfl⟩ := HopStabilityVerdict.intermittentResponse.inj same
    exact counted

theorem shown_stable_iff : VerdictShown runs n .stable ↔
    SameAddress runs n ∧ (¬ ∀ run ∈ runs, run.answeredHop n = false) ∧
      ¬ AddressesDiffer runs n := by
  constructor
  · rintro ⟨stable, silent, changed, _⟩
    exact ⟨stable.mp rfl, fun none => absurd (silent.mpr none) (by simp),
      fun differ => absurd (changed.mpr differ) (by simp)⟩
  · rintro ⟨same, answered, agree⟩
    exact ⟨iff_of_true rfl same, iff_of_false (by simp) answered,
      iff_of_false (by simp) agree, by simp⟩

theorem shown_changed_iff : VerdictShown runs n .changed ↔
    ¬ SameAddress runs n ∧ (¬ ∀ run ∈ runs, run.answeredHop n = false) ∧
      AddressesDiffer runs n := by
  constructor
  · rintro ⟨stable, silent, changed, _⟩
    exact ⟨fun same => absurd (stable.mpr same) (by simp), fun none => absurd (silent.mpr none)
      (by simp), changed.mp rfl⟩
  · rintro ⟨apart, answered, differ⟩
    exact ⟨iff_of_false (by simp) apart, iff_of_false (by simp) answered,
      iff_of_true rfl differ, by simp⟩

/-- The verdict of a hop is what the runs show exactly where the condition is met. -/
theorem verdictShown_iff (distinct : ∀ run ∈ runs, (run.hops.map (·.hopNumber)).Nodup)
    (occurs : ∃ run ∈ runs, run.listsHop n = true) :
    VerdictShown runs n (hopStability n (samplesAt runs n)).verdict ↔ VerdictReached runs n := by
  have fewerLists : runs.countP (·.answeredHop n) ≤ runs.countP (·.listsHop n) :=
    List.countP_mono_left fun _ _ => answeredHop_lists
  have inRuns : runs.countP (·.listsHop n) ≤ runs.length := List.countP_le_length
  have some : 0 < runs.length := List.length_pos_of_mem occurs.choose_spec.1
  have silent := @noneAnswered_iff runs n
  have sameCount := @countP_of_sameAddress runs n
  have differCount := @countP_pos_of_differ runs n
  have addresses := @addressesDiffer_iff runs n
  rw [hopStability_verdict distinct n, VerdictReached]
  split
  case isTrue zero =>
    -- none answered, as far as 32 bits tell
    rw [shown_silent_iff]
    constructor
    · rintro ⟨_, none, _⟩
      exact Or.inl (silent.mp none)
    · intro reached
      have none : runs.countP (·.answeredHop n) = 0 := by
        rcases reached with none | ⟨nonzero, _⟩ | ⟨fewer, all, _⟩
        · exact none
        · exact absurd zero nonzero
        · omega
      refine ⟨fun same => ?_, silent.mpr none, fun differ => ?_⟩
      · have counted := sameCount same
        omega
      · have counted := differCount differ
        omega
  case isFalse nonzero =>
    have answered : ¬ ∀ run ∈ runs, run.answeredHop n = false :=
      fun none => nonzero (by rw [silent.mp none]; rfl)
    split
    case isTrue fewer =>
      rw [shown_intermittent_iff, UInt32.toNat_ofNat', UInt32.toNat_ofNat']
      constructor
      · rintro ⟨⟨_, _, agree⟩, counted, total⟩
        exact Or.inr (Or.inr ⟨by omega, total, agree⟩)
      · rintro (none | ⟨_, more, _⟩ | ⟨below, all, agree⟩)
        · exact absurd (silent.mpr none) answered
        · omega
        · refine ⟨⟨fun same => ?_, answered, agree⟩, Nat.mod_eq_of_lt (by omega), all⟩
          have counted := sameCount same
          omega
    case isFalse enough =>
      split
      case isTrue few =>
        have agree : ¬ AddressesDiffer runs n :=
          fun differ => absurd (addresses.mp differ) (not_lt.mpr few)
        rw [shown_stable_iff]
        constructor
        · rintro ⟨same, _, _⟩
          exact Or.inr (Or.inl ⟨nonzero, not_lt.mp enough, Or.inr same⟩)
        · rintro (none | ⟨_, _, differ | same⟩ | ⟨below, all, _⟩)
          · exact absurd (silent.mpr none) answered
          · exact absurd differ agree
          · exact ⟨same, answered, agree⟩
          · omega
      case isFalse many =>
        have differ : AddressesDiffer runs n := addresses.mpr (not_le.mp many)
        have apart : ¬ SameAddress runs n := fun same => not_differ_of_same distinct same differ
        exact iff_of_true (shown_changed_iff.mpr ⟨apart, answered, differ⟩)
          (Or.inr (Or.inl ⟨nonzero, not_lt.mp enough, Or.inl differ⟩))

/-- The assessment is what the runs show exactly where each hop's verdict is reached. -/
theorem assessPathStability_shown_iff (target : Str) (runs : List TraceRun)
    (distinct : ∀ run ∈ runs, (run.hops.map (·.hopNumber)).Nodup) :
    StabilityShown runs target ↔ ∀ n, (∃ run ∈ runs, run.listsHop n = true) →
      VerdictReached runs n := by
  have occurs (number : Nat) : number ∈ (assessPathStability target runs).perHop.map (·.hopNumber) ↔
      ∃ run ∈ runs, run.listsHop number = true := by rw [perHop_numbers, mem_numbers]
  have assessed (n : Nat) (listed : ∃ run ∈ runs, run.listsHop n = true) :
      hopStability n (samplesAt runs n) ∈ (assessPathStability target runs).perHop := by
    rw [perHop_eq]
    exact List.mem_map.mpr ⟨n, mem_numbers.mpr listed, rfl⟩
  constructor
  · intro shown n listed
    exact (verdictShown_iff distinct listed).mp (shown.verdicts _ (assessed n listed))
  · intro reached
    refine ⟨?_, occurs, fun hop member => ?_, fun _ => assessPathStability_perm target⟩
    · rw [perHop_numbers]
      exact groupKeys_ascending
    · rw [perHop_eq] at member
      obtain ⟨n, numbered, rfl⟩ := List.mem_map.mp member
      have listed := mem_numbers.mp numbered
      exact (verdictShown_iff distinct listed).mpr (reached n listed)

def answerFrom (hopNumber : Nat) (addr : Str) : TraceHop := ⟨hopNumber, .responded, some addr, none⟩

def silentAt (hopNumber : Nat) : TraceHop := ⟨hopNumber, .noResponse, none, none⟩

def tracedRun (hops : List TraceHop) : TraceRun := ⟨"x".toList, hops, true⟩

theorem assessPathStability_shown_iff_traced :
    StabilityShown [tracedRun [answerFrom 1 "a".toList],
      tracedRun [answerFrom 1 "a".toList, silentAt 2]] "x".toList ↔
      ∀ n, (∃ run ∈ [tracedRun [answerFrom 1 "a".toList],
        tracedRun [answerFrom 1 "a".toList, silentAt 2]], run.listsHop n = true) →
          VerdictReached [tracedRun [answerFrom 1 "a".toList],
            tracedRun [answerFrom 1 "a".toList, silentAt 2]] n :=
  assessPathStability_shown_iff _ _ (by decide)

/-- A path that changed counts as intermittent where one probe went unanswered. -/
theorem changed_path_intermittent :
    AddressesDiffer [tracedRun [answerFrom 5 "a".toList], tracedRun [answerFrom 5 "b".toList],
      tracedRun [silentAt 5]] 5 ∧ (assessPathStability "x".toList
        [tracedRun [answerFrom 5 "a".toList], tracedRun [answerFrom 5 "b".toList],
          tracedRun [silentAt 5]]).perHop.map
          (·.verdict) = [.intermittentResponse 2 3] := by
  refine ⟨⟨"a".toList, "b".toList, by decide, ?_, ?_⟩, by decide⟩
  · exact ⟨_, List.mem_cons_self, _, List.mem_cons_self, rfl, rfl, rfl⟩
  · exact ⟨_, List.mem_cons_of_mem _ List.mem_cons_self, _, List.mem_cons_self, rfl, rfl, rfl⟩

end Verdicts

end FragglePacket.NetworkTests
