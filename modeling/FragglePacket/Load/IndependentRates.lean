import FragglePacket.Lists.FirstCrossing
import FragglePacket.Lists.SortByKey
import Mathlib.Algebra.Order.Ring.Unbundled.Rat

/-! The first lossy rate of one direction's sweep, and when it says only what was measured. -/

namespace FragglePacket.Load

open FragglePacket.Lists

inductive Direction where
  | upload
  | download
  deriving DecidableEq

/-- A point without a loss was not measured, which is not a loss of zero. -/
structure RatePoint where
  targetMbps : ℚ
  achievedMbps : Option ℚ
  lossPercent : Option ℚ
  usable : Bool
  deriving DecidableEq

def RatePoint.isLossy (thresholdPct : ℚ) (point : RatePoint) : Option Bool :=
  if !point.usable then none else point.lossPercent.map fun loss => decide (thresholdPct < loss)

structure DirectionSweep where
  direction : Direction
  points : List RatePoint

inductive FirstLossyRate where
  | found (cleanMbps lossyMbps : ℚ)
  | noneObservedWithinTestedRange
  | allTestedRatesLossy
  | insufficientData
  deriving DecidableEq

/-- The scan of the sorted usable points, with the last clean rate it has passed. -/
def scanRates (thresholdPct : ℚ) (lastClean : Option ℚ) : List RatePoint → FirstLossyRate
  | [] => .noneObservedWithinTestedRange
  | point :: rest =>
    match point.isLossy thresholdPct with
    | some true =>
      match lastClean with
      | some cleanMbps => .found cleanMbps point.targetMbps
      | none => .allTestedRatesLossy
    | some false => scanRates thresholdPct (some point.targetMbps) rest
    | none => scanRates thresholdPct lastClean rest

def firstLossyRate (sweep : DirectionSweep) (thresholdPct : ℚ) : FirstLossyRate :=
  let usablePoints := sortByKey (·.targetMbps) (sweep.points.filter (·.usable))
  if usablePoints.length < 2 then .insufficientData else scanRates thresholdPct none usablePoints

section Measured

def RatePoint.measured (point : RatePoint) : Bool := point.usable && point.lossPercent.isSome

def RatePoint.Lossy (thresholdPct : ℚ) (point : RatePoint) : Prop :=
  point.usable = true ∧ ∃ loss, point.lossPercent = some loss ∧ thresholdPct < loss

def RatePoint.Clean (thresholdPct : ℚ) (point : RatePoint) : Prop :=
  point.usable = true ∧ ∃ loss, point.lossPercent = some loss ∧ loss ≤ thresholdPct

namespace DirectionSweep
variable (sweep : DirectionSweep) (thresholdPct : ℚ)

def usablePoints : List RatePoint := sweep.points.filter (·.usable)

def measuredPoints : List RatePoint := sweep.points.filter (·.measured)

def lossyRates : Set ℚ :=
  {rate | ∃ point ∈ sweep.points, point.Lossy thresholdPct ∧ point.targetMbps = rate}

def cleanRates : Set ℚ :=
  {rate | ∃ point ∈ sweep.points, point.Clean thresholdPct ∧ point.targetMbps = rate}

/-- The verdict on the sweep tells what was measured, and nothing else. -/
structure ReportsMeasured : Prop where
  found : ∀ {clean lossy}, firstLossyRate sweep thresholdPct = .found clean lossy →
    IsLeast (sweep.lossyRates thresholdPct) lossy ∧
      IsGreatest {rate ∈ sweep.cleanRates thresholdPct | rate < lossy} clean
  allLossy : firstLossyRate sweep thresholdPct = .allTestedRatesLossy →
    ∀ point ∈ sweep.measuredPoints, point.Lossy thresholdPct
  noneObserved : firstLossyRate sweep thresholdPct = .noneObservedWithinTestedRange ↔
    2 ≤ sweep.measuredPoints.length ∧ ∀ point ∈ sweep.measuredPoints, point.Clean thresholdPct
  insufficient : firstLossyRate sweep thresholdPct = .insufficientData ↔
    sweep.measuredPoints.length < 2
  orderFree : ∀ shuffled : List RatePoint, shuffled.Perm sweep.points →
    firstLossyRate { sweep with points := shuffled } thresholdPct =
      firstLossyRate sweep thresholdPct

/-- Enough of the usable points were measured, and some clean rate is below every lossy
one if any rate is clean. -/
structure Established : Prop where
  enough : 2 ≤ sweep.usablePoints.length → 2 ≤ sweep.measuredPoints.length
  baseline : (sweep.cleanRates thresholdPct).Nonempty →
    ∀ lossy ∈ sweep.lossyRates thresholdPct, ∃ clean ∈ sweep.cleanRates thresholdPct, clean < lossy

end DirectionSweep

variable {thresholdPct : ℚ} {point : RatePoint} {sweep : DirectionSweep}

theorem RatePoint.isLossy_eq_true_iff :
    point.isLossy thresholdPct = some true ↔ point.Lossy thresholdPct := by
  unfold RatePoint.isLossy RatePoint.Lossy
  cases point.usable <;> simp

theorem RatePoint.isLossy_eq_false_iff :
    point.isLossy thresholdPct = some false ↔ point.Clean thresholdPct := by
  unfold RatePoint.isLossy RatePoint.Clean
  cases point.usable <;> simp

theorem RatePoint.measured_iff :
    point.measured = true ↔ point.Lossy thresholdPct ∨ point.Clean thresholdPct := by
  unfold RatePoint.measured RatePoint.Lossy RatePoint.Clean
  cases point.usable <;> cases point.lossPercent <;> simp [lt_or_ge]

theorem RatePoint.Clean.not_lossy (clean : point.Clean thresholdPct) :
    ¬ point.Lossy thresholdPct := by
  rintro ⟨-, loss, reads, above⟩
  obtain ⟨-, loss', reads', below⟩ := clean
  obtain rfl := Option.some.inj (reads.symm.trans reads')
  exact absurd above (not_lt.mpr below)

theorem RatePoint.isLossy_usable (answer : Bool)
    (known : point.isLossy thresholdPct = some answer) :
    point.usable = true := by
  cases answer with
  | true => exact (RatePoint.isLossy_eq_true_iff.mp known).1
  | false => exact (RatePoint.isLossy_eq_false_iff.mp known).1

namespace DirectionSweep

/-- The usable points in the order they are scanned. -/
def scanned (sweep : DirectionSweep) : List RatePoint := sortByKey (·.targetMbps) sweep.usablePoints

theorem scanned_length : sweep.scanned.length = sweep.usablePoints.length :=
  (sortByKey_perm _).length_eq

theorem measuredPoints_length_le : sweep.measuredPoints.length ≤ sweep.usablePoints.length := by
  refine (List.monotone_filter_right sweep.points fun point measured => ?_).length_le
  exact (Bool.and_eq_true_iff.mp measured).1

/-- The scan meets every rate that is lossy, or clean. -/
theorem keysWhere_scanned (answer : Bool) :
    keysWhere (·.isLossy thresholdPct) (·.targetMbps) sweep.scanned answer =
    keysWhere (·.isLossy thresholdPct) (·.targetMbps) sweep.points answer := by
  rw [scanned, keysWhere_of_perm (sortByKey_perm _), usablePoints,
    keysWhere_filter fun point answer => RatePoint.isLossy_usable answer]

theorem keysWhere_scanned_lossy :
    keysWhere (·.isLossy thresholdPct) (·.targetMbps) sweep.scanned true =
      sweep.lossyRates thresholdPct := by
  rw [keysWhere_scanned]
  simp only [keysWhere, RatePoint.isLossy_eq_true_iff, lossyRates]

theorem keysWhere_scanned_clean :
    keysWhere (·.isLossy thresholdPct) (·.targetMbps) sweep.scanned false =
      sweep.cleanRates thresholdPct := by
  rw [keysWhere_scanned]
  simp only [keysWhere, RatePoint.isLossy_eq_false_iff, cleanRates]

theorem scanned_sorted (distinct : (sweep.points.map (·.targetMbps)).Nodup) :
    sweep.scanned.Pairwise (·.targetMbps < ·.targetMbps) := by
  have usable : (sweep.usablePoints.map (·.targetMbps)).Nodup :=
    distinct.sublist (List.filter_sublist.map _)
  have apart : (sweep.scanned.map (·.targetMbps)).Nodup :=
    ((sortByKey_perm _).map _).nodup_iff.mpr usable
  rw [List.Nodup, List.pairwise_map] at apart
  have ordered : sweep.scanned.Pairwise (·.targetMbps ≤ ·.targetMbps) :=
    sortByKey_sorted sweep.usablePoints
  exact (ordered.and apart).imp fun both => lt_of_le_of_ne both.1 both.2

theorem scanned_perm {shuffled : List RatePoint} (perm : shuffled.Perm sweep.points)
    (distinct : (sweep.points.map (·.targetMbps)).Nodup) :
    ({ sweep with points := shuffled } : DirectionSweep).scanned = sweep.scanned :=
  sortByKey_eq_of_perm (perm.filter _) (distinct.sublist (List.filter_sublist.map _))

theorem firstLossyRate_eq : firstLossyRate sweep thresholdPct =
    if sweep.usablePoints.length < 2 then .insufficientData
    else scanRates thresholdPct none sweep.scanned := by
  rw [← scanned_length]
  rfl

end DirectionSweep

theorem scanRates_eq (last : Option RatePoint) (points : List RatePoint) :
    scanRates thresholdPct (last.map (·.targetMbps)) points =
      match firstCrossing (·.isLossy thresholdPct) last points with
      | none => .noneObservedWithinTestedRange
      | some (none, _) => .allTestedRatesLossy
      | some (some clean, lossy) => .found clean.targetMbps lossy.targetMbps := by
  induction points generalizing last with
  | nil => rfl
  | cons point rest ih =>
    cases known : point.isLossy thresholdPct with
    | none => simpa only [scanRates, firstCrossing, known] using ih last
    | some answer =>
      cases answer with
      | true =>
        cases last <;> simp only [scanRates, firstCrossing, known, Option.map_none, Option.map_some]
      | false => simpa only [scanRates, firstCrossing, known, Option.map_some] using ih (some point)

namespace DirectionSweep

theorem firstLossyRate_few (few : sweep.usablePoints.length < 2) :
    firstLossyRate sweep thresholdPct = .insufficientData := by rw [firstLossyRate_eq, if_pos few]

variable (enough : 2 ≤ sweep.usablePoints.length)
include enough

theorem firstLossyRate_enough : firstLossyRate sweep thresholdPct =
    match firstCrossing (·.isLossy thresholdPct) none sweep.scanned with
    | none => .noneObservedWithinTestedRange
    | some (none, _) => .allTestedRatesLossy
    | some (some clean, lossy) => .found clean.targetMbps lossy.targetMbps := by
  rw [firstLossyRate_eq, if_neg (not_lt.mpr enough), ← scanRates_eq]
  rfl

theorem firstLossyRate_ne_insufficient : firstLossyRate sweep thresholdPct ≠ .insufficientData := by
  rw [firstLossyRate_enough enough]
  split <;> exact FirstLossyRate.noConfusion

theorem noneObserved_iff :
    firstLossyRate sweep thresholdPct = .noneObservedWithinTestedRange ↔
      sweep.lossyRates thresholdPct = ∅ := by
  have free : firstLossyRate sweep thresholdPct = .noneObservedWithinTestedRange ↔
      firstCrossing (·.isLossy thresholdPct) none sweep.scanned = none := by
    rw [firstLossyRate_enough enough]
    split <;> simp_all
  rw [free, firstCrossing_eq_none_iff, ← keysWhere_scanned_lossy, Set.eq_empty_iff_forall_notMem]
  constructor
  · rintro unknown rate ⟨point, member, crosses, -⟩
    exact unknown point member crosses
  · intro empty point member crosses
    exact empty _ (mem_keysWhere member crosses)

variable (distinct : (sweep.points.map (·.targetMbps)).Nodup)
include distinct

theorem found_rates {clean lossy : ℚ}
    (found : firstLossyRate sweep thresholdPct = .found clean lossy) :
    IsLeast (sweep.lossyRates thresholdPct) lossy ∧
      IsGreatest {rate ∈ sweep.cleanRates thresholdPct | rate < lossy} clean := by
  rw [firstLossyRate_enough enough] at found
  split at found
  · exact absurd found FirstLossyRate.noConfusion
  · exact absurd found FirstLossyRate.noConfusion
  · rename_i low high crossing
    obtain ⟨rfl, rfl⟩ := FirstLossyRate.found.inj found
    have sorted := scanned_sorted distinct
    have least := firstCrossing_isLeast sorted crossing
    have greatest := firstCrossing_isGreatest sorted crossing
    rw [keysWhere_scanned_lossy] at least
    rw [keysWhere_scanned_clean] at greatest
    exact ⟨least, greatest⟩

/-- No clean baseline is reported exactly where the lowest measured rate is lossy. -/
theorem allLossy_iff : firstLossyRate sweep thresholdPct = .allTestedRatesLossy ↔
    ∃ lossy ∈ sweep.lossyRates thresholdPct, ∀ clean ∈ sweep.cleanRates thresholdPct, lossy <
      clean := by
  have sorted := scanned_sorted distinct
  rw [firstLossyRate_enough enough, ← keysWhere_scanned_lossy, ← keysWhere_scanned_clean]
  cases crossing : firstCrossing (·.isLossy thresholdPct) none sweep.scanned with
  | none =>
    refine iff_of_false FirstLossyRate.noConfusion ?_
    rintro ⟨rate, ⟨point, member, crosses, -⟩, -⟩
    exact firstCrossing_eq_none_iff.mp crossing point member crosses
  | some pair =>
    obtain ⟨low, high⟩ := pair
    have least := firstCrossing_isLeast sorted crossing
    cases low with
    | none => exact iff_of_true rfl ⟨_, least.1, firstCrossing_none_below sorted crossing⟩
    | some clean =>
      refine iff_of_false FirstLossyRate.noConfusion ?_
      rintro ⟨rate, lossy, above⟩
      have greatest := firstCrossing_isGreatest sorted crossing
      exact lt_asymm (above _ greatest.1.1) (greatest.1.2.trans_le (least.2 lossy))

end DirectionSweep

namespace DirectionSweep

theorem mem_measuredPoints {point : RatePoint} : point ∈ sweep.measuredPoints ↔
    point ∈ sweep.points ∧ (point.Lossy thresholdPct ∨ point.Clean thresholdPct) :=
  List.mem_filter.trans (and_congr_right fun _ => RatePoint.measured_iff)

theorem allClean_iff :
    (∀ point ∈ sweep.measuredPoints, point.Clean thresholdPct) ↔
      sweep.lossyRates thresholdPct = ∅ := by
  rw [Set.eq_empty_iff_forall_notMem]
  constructor
  · rintro clean rate ⟨point, member, lossy, -⟩
    exact (clean point (mem_measuredPoints.mpr ⟨member, .inl lossy⟩)).not_lossy lossy
  · intro empty point measured
    obtain ⟨member, lossy | clean⟩ := mem_measuredPoints.mp measured
    · exact absurd ⟨point, member, lossy, rfl⟩ (empty point.targetMbps)
    · exact clean

theorem allLossy_measured_iff :
    (∀ point ∈ sweep.measuredPoints, point.Lossy thresholdPct) ↔
      ¬ (sweep.cleanRates thresholdPct).Nonempty := by
  constructor
  · rintro lossy ⟨rate, point, member, clean, -⟩
    exact clean.not_lossy (lossy point (mem_measuredPoints.mpr ⟨member, .inr clean⟩))
  · intro empty point measured
    obtain ⟨member, lossy | clean⟩ := mem_measuredPoints.mp measured
    · exact lossy
    · exact absurd ⟨point.targetMbps, point, member, clean, rfl⟩ empty

theorem lossy_ne_clean (distinct : (sweep.points.map (·.targetMbps)).Nodup) {lossy clean : ℚ}
    (isLossy : lossy ∈ sweep.lossyRates thresholdPct)
    (isClean : clean ∈ sweep.cleanRates thresholdPct) :
    lossy ≠ clean := by
  obtain ⟨point, member, crosses, rfl⟩ := isLossy
  obtain ⟨other, member', passes, rfl⟩ := isClean
  intro same
  obtain rfl := List.inj_on_of_nodup_map distinct member member' same
  exact passes.not_lossy crosses

theorem firstLossyRate_perm (distinct : (sweep.points.map (·.targetMbps)).Nodup)
    {shuffled : List RatePoint} (perm : shuffled.Perm sweep.points) :
    firstLossyRate { sweep with points := shuffled } thresholdPct =
      firstLossyRate sweep thresholdPct := by
  have usable : (shuffled.filter (·.usable)).Perm sweep.usablePoints := perm.filter _
  rw [firstLossyRate_eq, firstLossyRate_eq, scanned_perm perm distinct, usablePoints,
    usable.length_eq]

/-- Below two usable points nothing is reported, and nothing could be. -/
theorem reportsMeasured_of_few (distinct : (sweep.points.map (·.targetMbps)).Nodup)
    (few : sweep.usablePoints.length < 2) : sweep.ReportsMeasured thresholdPct where
  found found := absurd ((firstLossyRate_few few).symm.trans found) FirstLossyRate.noConfusion
  allLossy found := absurd ((firstLossyRate_few few).symm.trans found) FirstLossyRate.noConfusion
  noneObserved := by
    have fewer := measuredPoints_length_le.trans_lt few
    rw [firstLossyRate_few few]
    exact iff_of_false FirstLossyRate.noConfusion fun both => absurd both.1 (not_le.mpr fewer)
  insufficient := iff_of_true (firstLossyRate_few few) (measuredPoints_length_le.trans_lt few)
  orderFree _ perm := firstLossyRate_perm distinct perm

theorem established_of_few (few : sweep.usablePoints.length < 2) :
    sweep.Established thresholdPct where
  enough enough := absurd enough (not_le.mpr few)
  baseline := by
    rintro ⟨clean, other, member', passes, rfl⟩ lossy ⟨point, member, crosses, rfl⟩
    have usable : point ∈ sweep.usablePoints := List.mem_filter.mpr ⟨member, crosses.1⟩
    have usable' : other ∈ sweep.usablePoints := List.mem_filter.mpr ⟨member', passes.1⟩
    have one : sweep.usablePoints.length = 1 := by
      have present := List.length_pos_of_mem usable
      omega
    obtain ⟨only, single⟩ := List.length_eq_one_iff.mp one
    rw [single, List.mem_singleton] at usable usable'
    exact absurd (usable.trans usable'.symm ▸ crosses) passes.not_lossy

theorem reportsMeasured_of_established (distinct : (sweep.points.map (·.targetMbps)).Nodup)
    (enough : 2 ≤ sweep.usablePoints.length) (established : sweep.Established thresholdPct) :
    sweep.ReportsMeasured thresholdPct where
  found := found_rates enough distinct
  allLossy found := by
    obtain ⟨lossy, member, above⟩ := (allLossy_iff enough distinct).mp found
    refine allLossy_measured_iff.mpr fun some => ?_
    obtain ⟨clean, isClean, below⟩ := established.baseline some lossy member
    exact lt_asymm below (above clean isClean)
  noneObserved := by
    rw [noneObserved_iff enough, allClean_iff, and_iff_right (established.enough enough)]
  insufficient :=
    iff_of_false (firstLossyRate_ne_insufficient enough) (not_lt.mpr (established.enough enough))
  orderFree _ perm := firstLossyRate_perm distinct perm

theorem ReportsMeasured.established (reports : sweep.ReportsMeasured thresholdPct)
    (distinct : (sweep.points.map (·.targetMbps)).Nodup) (enough : 2 ≤ sweep.usablePoints.length) :
    sweep.Established thresholdPct where
  enough _ :=
    not_lt.mp fun few => firstLossyRate_ne_insufficient enough (reports.insufficient.mpr few)
  baseline some lossy isLossy := by
    by_contra unbased
    have above : ∀ clean ∈ sweep.cleanRates thresholdPct, lossy < clean := fun clean isClean =>
      (not_lt.mp fun below => unbased ⟨clean, isClean, below⟩).lt_of_ne
        (lossy_ne_clean distinct isLossy isClean)
    have verdict := (allLossy_iff enough distinct).mpr ⟨lossy, isLossy, above⟩
    exact allLossy_measured_iff.mp (reports.allLossy verdict) some

end DirectionSweep

/-- A sweep is reported as it was measured exactly where it establishes
what the verdicts presume. -/
theorem firstLossyRate_measured_iff (sweep : DirectionSweep) (thresholdPct : ℚ)
    (distinct : (sweep.points.map (·.targetMbps)).Nodup) :
    sweep.ReportsMeasured thresholdPct ↔ sweep.Established thresholdPct := by
  rcases lt_or_ge sweep.usablePoints.length 2 with few | enough
  · exact iff_of_true (DirectionSweep.reportsMeasured_of_few distinct few)
      (DirectionSweep.established_of_few few)
  · exact ⟨fun reports => reports.established distinct enough,
      DirectionSweep.reportsMeasured_of_established distinct enough⟩

def exampleSweep (losses : List (ℚ × Option ℚ)) : DirectionSweep :=
  ⟨.upload, losses.map fun (target, loss) => ⟨target, none, loss, true⟩⟩

theorem firstLossyRate_measured_cliff :
    (exampleSweep [(300, some 5.6), (250, some 0.02), (350, some 13.6)]).ReportsMeasured 2 ↔
      (exampleSweep [(300, some 5.6), (250, some 0.02), (350, some 13.6)]).Established 2 :=
  firstLossyRate_measured_iff _ _ (by decide)

/-- Two usable points of which no loss is known are reported as a range without loss. -/
theorem unmeasured_sweep_reported_clean :
    ((exampleSweep [(100, none), (200, none)]).points.map (·.targetMbps)).Nodup ∧
      ¬ (exampleSweep [(100, none), (200, none)]).ReportsMeasured 2 := by
  refine ⟨by decide, fun reports => ?_⟩
  have verdict : firstLossyRate (exampleSweep [(100, none), (200, none)]) 2 =
      .noneObservedWithinTestedRange := by decide
  exact absurd (reports.noneObserved.mp verdict).1 (by decide)

end Measured

end FragglePacket.Load
