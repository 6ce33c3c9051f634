import Mathlib.Tactic.Linarith
import Mathlib.Tactic.Ring
import FragglePacket.NetworkTests.CapacityKnee

/-! What decides the verdict on a sweep. -/

namespace FragglePacket.NetworkTests

open FragglePacket.Lists FragglePacket.Text

/-- Combined throughput gains less than the offered rate from the lower point to the higher
one, where it is offered twice over. -/
def Stalls (lo hi : SweepPoint) : Prop :=
  hi.combinedMbps.getD 0 - lo.combinedMbps.getD 0 < hi.offeredMbps - lo.offeredMbps

namespace SweepPoint

/-- One direction is far below the other. -/
def Collapsed (point : SweepPoint) : Prop := point.balance.getD 1 ≤ unfairBalance

/-- Two points that a verdict words alike: both collapsed, the same direction to the same
balance and with the same shown rates, or neither, with the same combined rate and the same
shown balance. -/
def FoundAlike (point other : SweepPoint) : Prop :=
  (point.Collapsed ∧ other.Collapsed ∧ point.weakerDirection = other.weakerDirection ∧
    point.balance.getD 1 = other.balance.getD 1 ∧ point.shownRates = other.shownRates) ∨
  (¬ point.Collapsed ∧ ¬ other.Collapsed ∧ point.combinedMbps.getD 0 = other.combinedMbps.getD 0 ∧
    fixed 2 (point.balance.getD 1) = fixed 2 (other.balance.getD 1))

end SweepPoint

section Pair
variable {lo hi lo' hi' : SweepPoint}

theorem kneeBetween_flat (flat : hi.offeredMbps ≤ lo.offeredMbps) : kneeBetween lo hi = none := by
  rw [kneeBetween, if_pos (by linarith)]

/-- Half of the gain offered in both directions is the gain of the offered rate. -/
theorem tracking_lt_iff (rises : lo.offeredMbps < hi.offeredMbps) :
    tracking lo hi < trackingEfficiency ↔ Stalls lo hi := by
  have gain : 0 < (hi.offeredMbps - lo.offeredMbps) * 2 := by linarith
  have half : trackingEfficiency * ((hi.offeredMbps - lo.offeredMbps) * 2) =
      hi.offeredMbps - lo.offeredMbps := by
    rw [trackingEfficiency]
    ring
  rw [tracking, div_lt_iff₀ gain, half, Stalls]

theorem kneeBetween_tracks (tracks : ¬ Stalls lo hi) : kneeBetween lo hi = none := by
  by_cases rises : lo.offeredMbps < hi.offeredMbps
  · rw [kneeBetween, if_neg (by linarith), if_neg (mt (tracking_lt_iff rises).mp tracks)]
  · exact kneeBetween_flat (not_lt.mp rises)

private theorem kneeBetween_stalls (rises : lo.offeredMbps < hi.offeredMbps)
    (stalls : Stalls lo hi) :
    kneeBetween lo hi =
      if hi.balance.getD 1 ≤ unfairBalance then
        some (directionalUnfairnessAt hi (hi.balance.getD 1))
      else some (capacityPlateauAt lo (hi.combinedMbps.getD 0) (hi.balance.getD 1)) := by
  rw [kneeBetween, if_neg (by linarith)]
  exact if_pos ((tracking_lt_iff rises).mpr stalls)

theorem kneeBetween_collapsed (rises : lo.offeredMbps < hi.offeredMbps) (stalls : Stalls lo hi)
    (collapsed : hi.Collapsed) :
    kneeBetween lo hi = some (directionalUnfairnessAt hi (hi.balance.getD 1)) :=
  (kneeBetween_stalls rises stalls).trans (if_pos collapsed)

theorem kneeBetween_balanced (rises : lo.offeredMbps < hi.offeredMbps) (stalls : Stalls lo hi)
    (balanced : ¬ hi.Collapsed) :
    kneeBetween lo hi = some (capacityPlateauAt lo (hi.combinedMbps.getD 0) (hi.balance.getD 1)) :=
  (kneeBetween_stalls rises stalls).trans (if_neg balanced)

theorem kneeBetween_ne_none_iff (rises : lo.offeredMbps < hi.offeredMbps) :
    kneeBetween lo hi ≠ none ↔ Stalls lo hi := by
  constructor
  · intro found
    by_contra tracks
    exact found (kneeBetween_tracks tracks)
  · intro stalls
    rw [kneeBetween_stalls rises stalls]
    split
    · exact Option.some_ne_none _
    · exact Option.some_ne_none _

/-- All that a scan can report of two points. -/
theorem kneeBetween_cases {verdict : KneeVerdict} (found : kneeBetween lo hi = some verdict) :
    lo.offeredMbps < hi.offeredMbps ∧
      (verdict = directionalUnfairnessAt hi (hi.balance.getD 1) ∨
        verdict = capacityPlateauAt lo (hi.combinedMbps.getD 0) (hi.balance.getD 1)) := by
  have rises : lo.offeredMbps < hi.offeredMbps := by
    by_contra flat
    rw [kneeBetween_flat (not_lt.mp flat)] at found
    cases found
  have stalls : Stalls lo hi :=
    (kneeBetween_ne_none_iff rises).mp (by rw [found]; exact Option.some_ne_none _)
  refine ⟨rises, ?_⟩
  by_cases collapsed : hi.Collapsed
  · rw [kneeBetween_collapsed rises stalls collapsed] at found
    exact Or.inl (Option.some.inj found).symm
  · rw [kneeBetween_balanced rises stalls collapsed] at found
    exact Or.inr (Option.some.inj found).symm

theorem directionalUnfairnessAt_eq_iff (same : hi'.offeredMbps = hi.offeredMbps)
    (balance balance' : ℚ) :
    directionalUnfairnessAt hi' balance' = directionalUnfairnessAt hi balance ↔
      hi'.weakerDirection = hi.weakerDirection ∧ balance' = balance ∧
        hi'.shownRates = hi.shownRates := by
  constructor
  · intro alike
    obtain ⟨-, weaker, balances, details⟩ := KneeVerdict.directionalUnfairness.inj alike
    rw [same, weaker, balances] at details
    simp only [String.append_left_inj, String.append_right_inj] at details
    exact ⟨weaker, balances, details⟩
  · rintro ⟨weaker, balances, rates⟩
    rw [directionalUnfairnessAt, directionalUnfairnessAt, same, weaker, balances, rates]

theorem capacityPlateauAt_eq_iff (same : lo'.offeredMbps = lo.offeredMbps)
    (combined combined' balance balance' : ℚ) :
    capacityPlateauAt lo' combined' balance' = capacityPlateauAt lo combined balance ↔
      combined' = combined ∧ fixed 2 balance' = fixed 2 balance := by
  constructor
  · intro alike
    obtain ⟨-, sums, details⟩ := KneeVerdict.capacityPlateau.inj alike
    rw [same, sums] at details
    simp only [String.append_left_inj, String.append_right_inj] at details
    exact ⟨sums, details⟩
  · rintro ⟨sums, balances⟩
    rw [capacityPlateauAt, capacityPlateauAt, same, sums, balances]

/-- When two pairs of points of the same rates are reported alike. -/
theorem kneeBetween_alike_iff (rises : lo.offeredMbps < hi.offeredMbps) (stalls : Stalls lo hi)
    (sameLow : lo'.offeredMbps = lo.offeredMbps) (sameHigh : hi'.offeredMbps = hi.offeredMbps) :
    kneeBetween lo' hi' = kneeBetween lo hi ↔ Stalls lo' hi' ∧ hi'.FoundAlike hi := by
  have rises' : lo'.offeredMbps < hi'.offeredMbps := by rw [sameLow, sameHigh]; exact rises
  by_cases stalls' : Stalls lo' hi'
  · simp only [stalls', true_and, SweepPoint.FoundAlike]
    by_cases collapsed : hi.Collapsed
    · rw [kneeBetween_collapsed rises stalls collapsed]
      by_cases collapsed' : hi'.Collapsed
      · rw [kneeBetween_collapsed rises' stalls' collapsed', Option.some_inj,
          directionalUnfairnessAt_eq_iff sameHigh]
        simp [collapsed, collapsed']
      · rw [kneeBetween_balanced rises' stalls' collapsed', Option.some_inj]
        simp [collapsed, collapsed', capacityPlateauAt, directionalUnfairnessAt]
    · rw [kneeBetween_balanced rises stalls collapsed]
      by_cases collapsed' : hi'.Collapsed
      · rw [kneeBetween_collapsed rises' stalls' collapsed', Option.some_inj]
        simp [collapsed, collapsed', capacityPlateauAt, directionalUnfairnessAt]
      · rw [kneeBetween_balanced rises' stalls' collapsed', Option.some_inj,
          capacityPlateauAt_eq_iff sameLow]
        simp [collapsed, collapsed']
  · rw [kneeBetween_tracks stalls']
    simp only [stalls', false_and, iff_false]
    exact ((kneeBetween_ne_none_iff rises).mpr stalls).symm

theorem kneeBetween_skips : SkipsEqual SweepPoint.offeredMbps kneeBetween :=
  fun _ _ flat => kneeBetween_flat flat

/-- The verdict names a rate of its step, so that no two steps share one. -/
theorem kneeBetween_tellsApart : TellsApart SweepPoint.offeredMbps kneeBetween := by
  intro lo hi lo' hi' verdict above found found'
  obtain ⟨rises, lower⟩ := kneeBetween_cases found
  obtain ⟨rises', higher⟩ := kneeBetween_cases found'
  rcases lower with rfl | rfl
  · rcases higher with same | same
    · have rates := (KneeVerdict.directionalUnfairness.inj same).1
      linarith
    · cases same
  · rcases higher with same | same
    · cases same
    · have rates := (KneeVerdict.capacityPlateau.inj same).1
      linarith

end Pair

/-- The usable points from the lowest offered rate to the highest. -/
def sortedSweep (points : List SweepPoint) : List SweepPoint :=
  sortByKey SweepPoint.offeredMbps (points.filter (·.usable))

def highestTested (points : List SweepPoint) : ℚ :=
  ((sortedSweep points).getLast?.map (·.offeredMbps)).getD 0

theorem detectKnee_few {points : List SweepPoint}
    (few : (points.filter (·.usable)).length < minPoints) :
    detectKnee points = .insufficientPoints (points.filter (·.usable)).length minPoints :=
      if_pos few

theorem detectKnee_enough {points : List SweepPoint}
    (enough : ¬ (points.filter (·.usable)).length < minPoints) :
    detectKnee points =
      (firstFinding kneeBetween (sortedSweep points)).getD
        (.noKneeWithinTestedRange (highestTested points)) :=
  if_neg enough

theorem highestTested_of_perm {points shuffled : List SweepPoint} (perm : shuffled.Perm points) :
    highestTested shuffled = highestTested points := by
  have rates : (sortedSweep shuffled).map (·.offeredMbps) =
      (sortedSweep points).map (·.offeredMbps) :=
    sortByKey_keys (perm.filter _)
  rw [highestTested, highestTested, ← List.getLast?_map, ← List.getLast?_map, rates]

theorem firstFinding_ne_noKnee {points : List SweepPoint} {verdict : KneeVerdict} {rate : ℚ}
    (found : firstFinding kneeBetween points = some verdict) :
    verdict ≠ .noKneeWithinTestedRange rate := by
  obtain ⟨-, lo, hi, -, -, judged⟩ := exists_neighbours_of_finding found
  rcases (kneeBetween_cases judged).2 with rfl | rfl
  · exact KneeVerdict.noConfusion
  · exact KneeVerdict.noConfusion

/-- With enough points, the verdicts are the same when the scans find the same. -/
theorem detectKnee_perm_eq_iff {points shuffled : List SweepPoint} (perm : shuffled.Perm points)
    (enough : ¬ (points.filter (·.usable)).length < minPoints) :
    detectKnee shuffled = detectKnee points ↔
      firstFinding kneeBetween (sortedSweep shuffled) =
        firstFinding kneeBetween (sortedSweep points) := by
  have enough' : ¬ (shuffled.filter (·.usable)).length < minPoints := by
    rw [(perm.filter (·.usable)).length_eq]
    exact enough
  rw [detectKnee_enough enough, detectKnee_enough enough', highestTested_of_perm perm]
  cases found : firstFinding kneeBetween (sortedSweep shuffled) with
  | none =>
    cases found' : firstFinding kneeBetween (sortedSweep points) with
    | none => simp
    | some verdict' => simpa using (firstFinding_ne_noKnee found').symm
  | some verdict =>
    cases found' : firstFinding kneeBetween (sortedSweep points) with
    | none => simpa using firstFinding_ne_noKnee found
    | some verdict' => simp

/-- The order of the sweep cannot matter: there are too few points for a verdict, or at the
lowest step between neighbouring offered rates where some two readings stall, every two
readings stall and all readings of the higher rate are found alike. -/
def OrderFreeSweep (points : List SweepPoint) : Prop :=
  let usable := points.filter (·.usable)
  usable.length < minPoints ∨
    ∀ lo hi, RateStep SweepPoint.offeredMbps usable lo hi →
      (∀ lo' hi', RateStep SweepPoint.offeredMbps usable lo' hi' →
        hi'.offeredMbps ≤ lo.offeredMbps → ¬ Stalls lo' hi') →
      Stalls lo hi →
      ∀ lo' hi', lo' ∈ usable → hi' ∈ usable → lo'.offeredMbps = lo.offeredMbps →
        hi'.offeredMbps = hi.offeredMbps → Stalls lo' hi' ∧ hi'.FoundAlike hi

theorem quiet_iff (points : List SweepPoint) (limit : ℚ) :
    QuietUpTo SweepPoint.offeredMbps kneeBetween points limit ↔
      ∀ lo hi, RateStep SweepPoint.offeredMbps points lo hi → hi.offeredMbps ≤ limit →
        ¬ Stalls lo hi := by
  constructor
  · intro quiet lo hi step upTo stalls
    exact (kneeBetween_ne_none_iff step.rises).mpr stalls (quiet lo hi step upTo)
  · intro quiet lo hi step upTo
    exact kneeBetween_tracks (quiet lo hi step upTo)

theorem orderFree_iff (points : List SweepPoint) :
    OrderFree SweepPoint.offeredMbps kneeBetween points ↔
      ∀ lo hi, RateStep SweepPoint.offeredMbps points lo hi →
        (∀ lo' hi', RateStep SweepPoint.offeredMbps points lo' hi' →
          hi'.offeredMbps ≤ lo.offeredMbps → ¬ Stalls lo' hi') →
        Stalls lo hi →
        ∀ lo' hi', lo' ∈ points → hi' ∈ points → lo'.offeredMbps = lo.offeredMbps →
          hi'.offeredMbps = hi.offeredMbps → Stalls lo' hi' ∧ hi'.FoundAlike hi := by
  constructor
  · intro free lo hi step quiet stalls lo' hi' lower higher sameLow sameHigh
    have judged := (kneeBetween_ne_none_iff step.rises).mpr stalls
    have alike :=
      free lo hi step ((quiet_iff points _).mpr quiet) judged lo' hi' lower higher sameLow sameHigh
    exact (kneeBetween_alike_iff step.rises stalls sameLow sameHigh).mp alike
  · intro free lo hi step quiet judged lo' hi' lower higher sameLow sameHigh
    have stalls := (kneeBetween_ne_none_iff step.rises).mp judged
    have found :=
      free lo hi step ((quiet_iff points _).mp quiet) stalls lo' hi' lower higher sameLow sameHigh
    exact (kneeBetween_alike_iff step.rises stalls sameLow sameHigh).mpr found

/-- An order of the usable points is that of some order of the sweep. -/
private theorem exists_sweep_order {points usable : List SweepPoint}
    (perm : usable.Perm (points.filter (·.usable))) :
    ∃ shuffled : List SweepPoint, shuffled.Perm points ∧ shuffled.filter (·.usable) = usable := by
  refine ⟨usable ++ points.filter fun point => !point.usable, ?_, ?_⟩
  · exact (perm.append_right _).trans (List.filter_append_perm _ points)
  · have allUsable : ∀ point ∈ usable, point.usable = true :=
      fun point present => (List.mem_filter.mp (perm.mem_iff.mp present)).2
    rw [List.filter_append, List.filter_eq_self.mpr allUsable, List.filter_filter]
    simp

/-- A sweep has the same verdict in every order exactly when the readings of its lowest
stalling step agree. -/
theorem verdict_order_free_iff (points : List SweepPoint) :
    (∀ shuffled, shuffled.Perm points → detectKnee shuffled = detectKnee points) ↔
      OrderFreeSweep points := by
  by_cases few : (points.filter (·.usable)).length < minPoints
  · refine iff_of_true ?_ (Or.inl few)
    intro shuffled perm
    have same := (perm.filter (·.usable)).length_eq
    rw [detectKnee_few few, detectKnee_few (same ▸ few), same]
  · have scans : (∀ shuffled, shuffled.Perm points → detectKnee shuffled = detectKnee points) ↔
        ∀ usable, usable.Perm (points.filter (·.usable)) →
          firstFinding kneeBetween (sortByKey SweepPoint.offeredMbps usable) =
            firstFinding kneeBetween (sortedSweep points) := by
      constructor
      · intro same usable perm
        obtain ⟨shuffled, whole, rfl⟩ := exists_sweep_order perm
        exact (detectKnee_perm_eq_iff whole few).mp (same shuffled whole)
      · intro same shuffled perm
        exact (detectKnee_perm_eq_iff perm few).mpr (same _ (perm.filter _))
    rw [scans]
    refine (firstFinding_perm_iff kneeBetween_skips kneeBetween_tellsApart _).trans ?_
    rw [orderFree_iff]
    exact (or_iff_right few).symm

def exampleReading (offered up down : ℚ) : SweepPoint :=
  ⟨offered, some up, some down, none, none, 0, none⟩

/-- A rate that is offered twice and measured differently decides the verdict by its order. -/
theorem repeated_rate_changes_verdict :
    [exampleReading 40 40 40, exampleReading 60 30 30, exampleReading 60 60 60].Perm
        [exampleReading 40 40 40, exampleReading 60 60 60, exampleReading 60 30 30] ∧
      detectKnee [exampleReading 40 40 40, exampleReading 60 30 30, exampleReading 60 60 60] ≠
        detectKnee [exampleReading 40 40 40, exampleReading 60 60 60, exampleReading 60 30 30] :=
  ⟨(List.Perm.swap _ _ _).cons _, by decide +kernel⟩

/-- A sweep that offers each rate once is judged the same in every order. -/
theorem orderFreeSweep_of_distinct {points : List SweepPoint}
    (distinct : ((points.filter (·.usable)).map (·.offeredMbps)).Nodup) :
    OrderFreeSweep points := by
  refine Or.inr ?_
  intro lo hi step _ stalls lo' hi' lower higher sameLow sameHigh
  have loSame : lo' = lo := List.inj_on_of_nodup_map distinct lower step.lower sameLow
  have hiSame : hi' = hi := List.inj_on_of_nodup_map distinct higher step.higher sameHigh
  rw [loSame, hiSame]
  refine ⟨stalls, ?_⟩
  by_cases collapsed : hi.Collapsed
  · exact Or.inl ⟨collapsed, collapsed, rfl, rfl, rfl⟩
  · exact Or.inr ⟨collapsed, collapsed, rfl, rfl⟩

end FragglePacket.NetworkTests
