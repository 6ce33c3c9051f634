import FragglePacket.Lists.Grouping
import FragglePacket.Lists.Moments
import FragglePacket.Lists.Readings
import FragglePacket.Lists.Regroup
import FragglePacket.NetworkTests.PhyNormalized
import Mathlib.Data.Prod.Lex
import Mathlib.Data.String.Basic

/-! Normalized measurements by generation, driver and kernel, and that the strata
account for every one of them. -/

namespace FragglePacket.NetworkTests

open FragglePacket.Lists

/-- The derived `Debug`. -/
def PhyGeneration.debug : PhyGeneration → String
  | ht => "Ht"
  | vht => "Vht"
  | he => "He"
  | eht => "Eht"
  | unknown => "Unknown"

structure CohortStratum where
  phyGeneration : PhyGeneration
  driver : String
  kernel : String
  meanOfferedPhyFraction : Option ℚ
  meanLossPercent : ℚ
  sampleCount : Nat
  fractionSampleCount : Nat
  deriving DecidableEq

/-- The key of the map, in its order. -/
abbrev CohortKey := String ×ₗ String ×ₗ String

def cohortKey (generation : PhyGeneration) (driver kernel : String) : CohortKey :=
  toLex (generation.debug, toLex (driver, kernel))

def NormalizedMeasurement.cohortKey (m : NormalizedMeasurement) : CohortKey :=
  NetworkTests.cohortKey m.phyGeneration m.driver m.kernel

/-- The stratum of a key and its items. -/
def stratumOf (generation : PhyGeneration) (key : CohortKey) (items : List NormalizedMeasurement) :
    CohortStratum :=
  let usable := items.filterMap (·.offeredPhyFraction)
  { phyGeneration := generation
    driver := (ofLex (ofLex key).2).1
    kernel := (ofLex (ofLex key).2).2
    meanOfferedPhyFraction := if usable.isEmpty then none else some (usable.sum / usable.length)
    meanLossPercent := (items.map (·.lossPercent)).sum / items.length
    sampleCount := items.length
    fractionSampleCount := usable.length }

/-- The generation is that of the first item; nothing is computed of a group without one. -/
def cohortStratum (key : CohortKey) (items : List NormalizedMeasurement) : Option CohortStratum :=
  items.head?.map fun first => stratumOf first.phyGeneration key items

def stratify (measurements : List NormalizedMeasurement) : Option (List CohortStratum) :=
  (grouped (·.cohortKey) measurements).mapM fun group => cohortStratum group.1 group.2

/-- Generation, driver and kernel. -/
def NormalizedMeasurement.cohort (m : NormalizedMeasurement) : PhyGeneration × String × String :=
  (m.phyGeneration, m.driver, m.kernel)

def CohortStratum.cohort (s : CohortStratum) : PhyGeneration × String × String :=
  (s.phyGeneration, s.driver, s.kernel)

def cohortMembers (measurements : List NormalizedMeasurement)
    (s : CohortStratum) : List NormalizedMeasurement :=
  measurements.filter fun m => m.cohort = s.cohort

/-- What times the count is the sum of the values, between the least and the greatest of them. -/
structure IsMean (mean : ℚ) (count : Nat) (values : List ℚ) : Prop where
  sums : mean * count = values.sum
  least : ∃ low ∈ values, low ≤ mean
  greatest : ∃ high ∈ values, mean ≤ high

structure Stratified (measurements : List NormalizedMeasurement)
    (strata : List CohortStratum) : Prop where
  distinct : (strata.map (·.cohort)).Nodup
  covered : ∀ m ∈ measurements, ∃ s ∈ strata, m.cohort = s.cohort
  counted : ∀ s ∈ strata, s.sampleCount = (cohortMembers measurements s).length
  total : (strata.map (·.sampleCount)).sum = measurements.length
  usable : ∀ s ∈ strata, s.fractionSampleCount =
    (cohortMembers measurements s).countP fun m => m.offeredPhyFraction.isSome
  loss : ∀ s ∈ strata, IsMean s.meanLossPercent s.sampleCount ((cohortMembers measurements s).map
    (·.lossPercent))
  fraction : ∀ s ∈ strata, ∀ mean, s.meanOfferedPhyFraction = some mean →
    IsMean mean s.fractionSampleCount
      ((cohortMembers measurements s).filterMap (·.offeredPhyFraction))
  withheld : ∀ s ∈ strata, s.meanOfferedPhyFraction = none ↔ s.fractionSampleCount = 0

section Strata
variable {measurements shuffled : List NormalizedMeasurement}

theorem debug_injective : Function.Injective PhyGeneration.debug := by
  intro first second same
  cases first <;> cases second <;> first | rfl | (revert same; decide)

theorem cohortKey_inj {m : NormalizedMeasurement} {s : CohortStratum} :
    m.cohortKey = cohortKey s.phyGeneration s.driver s.kernel ↔ m.cohort = s.cohort := by
  simp only [NormalizedMeasurement.cohortKey, cohortKey, NormalizedMeasurement.cohort,
    CohortStratum.cohort, EmbeddingLike.apply_eq_iff_eq, Prod.mk.injEq, debug_injective.eq_iff]

/-- The measurements of one key. -/
def keyed (measurements : List NormalizedMeasurement) (key : CohortKey) :
    List NormalizedMeasurement :=
  measurements.filter (·.cohortKey = key)

/-- The stratum that a key has. -/
def stratumAt (measurements : List NormalizedMeasurement) (key : CohortKey) : CohortStratum :=
  stratumOf ((keyed measurements key).head?.elim .unknown (·.phyGeneration)) key
    (keyed measurements key)

theorem keyed_ne_nil {key : CohortKey} (occurs : key ∈ groupKeys (·.cohortKey) measurements) :
    keyed measurements key ≠ [] := by
  obtain ⟨m, member, same⟩ := mem_groupKeys.mp occurs
  exact List.ne_nil_of_mem (List.mem_filter.mpr ⟨member, decide_eq_true same⟩)

theorem stratify_eq (measurements : List NormalizedMeasurement) : stratify measurements =
    some ((groupKeys (·.cohortKey) measurements).map (stratumAt measurements)) := by
  rw [stratify, grouped_eq_map, List.mapM_map]
  refine mapM_eq_some fun key occurs => ?_
  obtain ⟨first, rest, items⟩ := List.exists_cons_of_ne_nil (keyed_ne_nil occurs)
  have listed : measurements.filter (·.cohortKey = key) = first :: rest := items
  simp only [Function.comp_apply, groupOf, cohortStratum, stratumAt, items, listed]
  rfl

theorem stratumAt_key {key : CohortKey} (occurs : key ∈ groupKeys (·.cohortKey) measurements) :
    cohortKey (stratumAt measurements key).phyGeneration (stratumAt measurements key).driver
      (stratumAt measurements key).kernel = key := by
  obtain ⟨first, rest, items⟩ := List.exists_cons_of_ne_nil (keyed_ne_nil occurs)
  have own : first.cohortKey = key := by
    have listed : first ∈ keyed measurements key := items ▸ List.mem_cons_self
    exact of_decide_eq_true (List.mem_filter.mp listed).2
  simp only [stratumAt, stratumOf, items]
  rw [← own]
  rfl

theorem cohortMembers_stratumAt {key : CohortKey}
    (occurs : key ∈ groupKeys (·.cohortKey) measurements) :
    cohortMembers measurements (stratumAt measurements key) = keyed measurements key := by
  refine List.filter_congr fun m _ => ?_
  rw [decide_eq_decide, ← cohortKey_inj, stratumAt_key occurs]

theorem stratumAt_generation {key : CohortKey} {generation : PhyGeneration} {driver kernel : String}
    (occurs : key ∈ groupKeys (·.cohortKey) measurements)
    (same : cohortKey generation driver kernel = key) :
    (stratumAt measurements key).phyGeneration = generation := by
  have keys := (stratumAt_key occurs).trans same.symm
  simp only [cohortKey, EmbeddingLike.apply_eq_iff_eq, Prod.mk.injEq] at keys
  exact debug_injective keys.1

/-- A stratum does not depend on the order of its members. -/
theorem stratumAt_perm (perm : shuffled.Perm measurements) {key : CohortKey}
    (occurs : key ∈ groupKeys (·.cohortKey) measurements) :
    stratumAt shuffled key = stratumAt measurements key := by
  have members : (keyed shuffled key).Perm (keyed measurements key) := perm.filter _
  have fractions := members.filterMap (·.offeredPhyFraction)
  have keys : groupKeys NormalizedMeasurement.cohortKey shuffled =
      groupKeys NormalizedMeasurement.cohortKey measurements :=
    groupKeys_eq_of_perm perm
  have occurs' : key ∈ groupKeys (·.cohortKey) shuffled := by rwa [keys]
  have generation := stratumAt_generation occurs (stratumAt_key occurs')
  simp only [stratumAt, stratumOf] at generation ⊢
  rw [← generation, members.length_eq, fractions.length_eq, fractions.sum_eq,
    (members.map (·.lossPercent)).sum_eq, fractions.isEmpty_eq]

theorem stratify_perm (perm : shuffled.Perm measurements) :
    stratify shuffled = stratify measurements := by
  have keys : groupKeys (·.cohortKey) shuffled = groupKeys (·.cohortKey) measurements :=
    groupKeys_eq_of_perm perm
  rw [stratify_eq, stratify_eq, keys]
  exact congrArg some (List.map_congr_left fun key occurs => stratumAt_perm perm occurs)

theorem isMean_of_ne_nil {values : List ℚ} (some : values ≠ []) :
    IsMean (values.sum / values.length) values.length values :=
  ⟨mean_mul_length some, (mean_between some).1, (mean_between some).2⟩

/-- The counts of the strata add up to the measurements. -/
theorem sum_sampleCounts (measurements : List NormalizedMeasurement) :
    (((groupKeys (·.cohortKey) measurements).map (stratumAt measurements)).map
      (·.sampleCount)).sum =
      measurements.length := by
  have nodup : (groupKeys (·.cohortKey) measurements).Nodup := groupKeys_ascending.imp ne_of_lt
  have covered : ∀ m ∈ measurements, m.cohortKey ∈ groupKeys (·.cohortKey) measurements :=
    fun m member => mem_groupKeys.mpr ⟨m, member, rfl⟩
  have total := sum_eq_sum_groups NormalizedMeasurement.cohortKey (fun _ => 1) nodup covered
  have ones (items : List NormalizedMeasurement) : (items.map fun _ => 1).sum = items.length := by
    rw [List.map_const', List.sum_replicate_nat, Nat.mul_one]
  rw [ones] at total
  rw [total, List.map_map]
  exact congrArg List.sum (List.map_congr_left fun key _ => (ones (keyed measurements key)).symm)

theorem stratumAt_stratified (measurements : List NormalizedMeasurement) :
    Stratified measurements ((groupKeys (·.cohortKey) measurements).map
      (stratumAt measurements)) := by
  refine ⟨?_, fun m member => ?_, ?_, sum_sampleCounts measurements, ?_, ?_, ?_, ?_⟩
  · have keys : (((groupKeys (·.cohortKey) measurements).map (stratumAt measurements)).map fun s =>
        cohortKey s.phyGeneration s.driver s.kernel) = groupKeys (·.cohortKey) measurements := by
      rw [List.map_map]
      exact (List.map_congr_left fun key occurs => stratumAt_key occurs).trans (List.map_id' _)
    have nodup : (groupKeys (·.cohortKey) measurements).Nodup := groupKeys_ascending.imp ne_of_lt
    have triples : (fun s : CohortStratum => cohortKey s.phyGeneration s.driver s.kernel) =
        (fun triple => cohortKey triple.1 triple.2.1 triple.2.2) ∘ CohortStratum.cohort := rfl
    rw [← keys, triples, ← List.map_map] at nodup
    exact nodup.of_map _
  · have occurs : m.cohortKey ∈ groupKeys (·.cohortKey) measurements :=
      mem_groupKeys.mpr ⟨m, member, rfl⟩
    exact ⟨_, List.mem_map_of_mem occurs, cohortKey_inj.mp (stratumAt_key occurs).symm⟩
  all_goals
    rw [List.forall_mem_map]
    intro key occurs
  · rw [cohortMembers_stratumAt occurs]
    rfl
  · rw [cohortMembers_stratumAt occurs, ← List.length_filterMap_eq_countP]
    rfl
  · rw [cohortMembers_stratumAt occurs]
    have values : (keyed measurements key).map (·.lossPercent) ≠ [] :=
      mt List.map_eq_nil_iff.mp (keyed_ne_nil occurs)
    have mean := isMean_of_ne_nil values
    rwa [List.length_map] at mean
  · intro mean averaged
    rw [cohortMembers_stratumAt occurs]
    simp only [stratumAt, stratumOf, Option.ite_none_left_eq_some, List.isEmpty_iff,
      Option.some.injEq] at averaged
    rw [← averaged.2]
    exact isMean_of_ne_nil averaged.1
  · simp only [stratumAt, stratumOf, List.isEmpty_iff, List.length_eq_zero_iff]
    split
    case isTrue empty => exact iff_of_true rfl empty
    case isFalse some => exact iff_of_false (by simp) some

/-- Strata account for every measurement under its own key, with the means of what they average, in
whatever order the measurements come. -/
theorem stratify_stratified (measurements : List NormalizedMeasurement) :
    ∃ strata, stratify measurements = some strata ∧ Stratified measurements strata ∧
      ∀ shuffled, shuffled.Perm measurements → stratify shuffled = some strata := by
  refine ⟨_, stratify_eq measurements, stratumAt_stratified measurements, fun shuffled perm => ?_⟩
  rw [stratify_perm perm, stratify_eq]

end Strata

end FragglePacket.NetworkTests
