import FragglePacket.NetworkTests.KneeVerdicts

/-! The report on a native sweep and an application sweep, and when it establishes a knee. -/

namespace FragglePacket.NetworkTests

open FragglePacket.Lists FragglePacket.Text

def PointRejection.reason : PointRejection → String
  | .durationInconsistent requestedSecs reportedSecs =>
    "reported a " ++ fixed 2 reportedSecs ++ "s interval for a " ++ fixed 2 requestedSecs ++
      "s request, so the measurement window is not trustworthy"
  | .processFailure detail => "the runner failed before measuring: " ++ detail
  | .schemaIncomplete missing =>
    "result schema lacked required field(s): " ++ ", ".intercalate missing

inductive CrossValidation where
  | reproduced (nativeKneeMbps applicationKneeMbps : ℚ)
  | notReproduced (detail : String)
  | notAttempted (reason : String)

def CrossValidation.permitsEstablishedClaim : CrossValidation → Bool
  | .reproduced _ _ => true
  | _ => false

def kneeAgreement : ℚ := 7 / 20

namespace KneeVerdict

def kneeOf : KneeVerdict → Option ℚ
  | .capacityPlateau knee _ _ => some knee
  | .directionalUnfairness knee _ _ _ => some knee
  | _ => none

/-- The detail that an established claim repeats. -/
def claim : KneeVerdict → Option String
  | .capacityPlateau _ _ detail => some detail
  | .directionalUnfairness _ _ _ detail => some detail
  | _ => none

end KneeVerdict

def crossValidate (native : KneeVerdict) (application : Option KneeVerdict) : CrossValidation :=
  match application with
  | none => .notAttempted "no application-method sweep was supplied"
  | some app =>
    match native.kneeOf, app.kneeOf with
    | some n, some a =>
      let hi := max n a
      if 0 < hi ∧ |n - a| / hi ≤ kneeAgreement then .reproduced n a
      else .notReproduced
        ("native found a knee at " ++ fixed 0 n ++
          " Mbps but the application method found one at " ++ fixed 0 a ++
          " Mbps, too far apart to be the same effect")
    | some n, none => .notReproduced
      ("native found a knee at " ++ fixed 0 n ++
        " Mbps per direction but the application method found none; a single-method knee may be a load-generator artifact " ++
        "rather than a network limit (see GAP-069) and is therefore unconfirmed")
    | none, some a => .notReproduced
      ("the application method found a knee at " ++ fixed 0 a ++
        " Mbps that native traffic did not reproduce")
    | none, none => .notAttempted "neither method found a knee to cross-validate"

structure KneeDriftBracket where
  openingCombinedMbps : Option ℚ
  closingCombinedMbps : Option ℚ

def driftTolerance : ℚ := 3 / 20

namespace KneeDriftBracket

def driftFraction (bracket : KneeDriftBracket) : Option ℚ :=
  match bracket.openingCombinedMbps, bracket.closingCombinedMbps with
  | some opening, some closing => if 0 < opening then some |(closing - opening) / opening| else none
  | _, _ => none

def exceedsTolerance (bracket : KneeDriftBracket) : Option Bool :=
  bracket.driftFraction.map fun drift => decide (driftTolerance < drift)

end KneeDriftBracket

structure KneeReport where
  interface : String
  nativePoints : List SweepPoint
  applicationPoints : List SweepPoint
  nativeVerdict : KneeVerdict
  applicationVerdict : Option KneeVerdict
  crossValidation : CrossValidation
  drift : KneeDriftBracket
  idleLatencyMs : Option ℚ
  rejectedPoints : List (ℚ × String)
  establishedClaim : Option String

def rejectedPoints (points : List SweepPoint) : List (ℚ × String) :=
  points.filterMap fun point => point.rejected.map fun rejection =>
    (point.offeredMbps, rejection.reason)

def buildReport (interface : String) (nativePoints applicationPoints : List SweepPoint)
    (drift : KneeDriftBracket) (idleLatencyMs : Option ℚ) : KneeReport :=
  let nativeVerdict := detectKnee nativePoints
  let applicationVerdict :=
    if applicationPoints.isEmpty then none else some (detectKnee applicationPoints)
  let crossValidation := crossValidate nativeVerdict applicationVerdict
  { interface, nativePoints, applicationPoints, nativeVerdict, applicationVerdict, crossValidation,
    drift, idleLatencyMs
    rejectedPoints := rejectedPoints (nativePoints ++ applicationPoints)
    establishedClaim :=
      if crossValidation.permitsEstablishedClaim && drift.exceedsTolerance == some false then
        nativeVerdict.claim else none }

/-- The lowest two neighbouring rates between which combined throughput stalls. -/
structure LowestStall (points : List SweepPoint) (lo hi : SweepPoint) : Prop where
  step : RateStep SweepPoint.offeredMbps points lo hi
  stalls : Stalls lo hi
  tracksBelow : ∀ lo' hi', RateStep SweepPoint.offeredMbps points lo' hi' →
    hi'.offeredMbps ≤ lo.offeredMbps → ¬ Stalls lo' hi'

/-- A plateau begins at the lower rate and a collapse shows at the higher one. -/
def kneeRate (lo hi : SweepPoint) : ℚ :=
  if hi.balance.getD 1 ≤ unfairBalance then hi.offeredMbps else lo.offeredMbps

/-- Two knees that count as the same one. -/
def SameKnee (first second : ℚ) : Prop :=
  0 < max first second ∧ |first - second| ≤ kneeAgreement * max first second

/-- Both controls ran, and the closing one stayed near the opening one. -/
def KneeDriftBracket.Steady (bracket : KneeDriftBracket) : Prop :=
  ∃ opening closing, bracket = ⟨some opening, some closing⟩ ∧ 0 < opening ∧
    |closing - opening| ≤ driftTolerance * opening

section Sweep
variable {points : List SweepPoint} {lo hi : SweepPoint} {verdict : KneeVerdict}

theorem LowestStall.of_perm {shuffled : List SweepPoint} (lowest : LowestStall points lo hi)
    (perm : shuffled.Perm points) : LowestStall shuffled lo hi where
  step := lowest.step.of_perm perm
  stalls := lowest.stalls
  tracksBelow := fun lo' hi' step upTo => lowest.tracksBelow lo' hi' (step.of_perm perm.symm) upTo

theorem kneeOf_kneeBetween (judged : kneeBetween lo hi = some verdict) :
    verdict.kneeOf = some (kneeRate lo hi) := by
  obtain ⟨rises, -⟩ := kneeBetween_cases judged
  have stalls : Stalls lo hi :=
    (kneeBetween_ne_none_iff rises).mp (by rw [judged]; exact Option.some_ne_none _)
  by_cases collapsed : hi.Collapsed
  · rw [kneeBetween_collapsed rises stalls collapsed] at judged
    rw [← Option.some.inj judged]
    exact congrArg some (if_pos collapsed).symm
  · rw [kneeBetween_balanced rises stalls collapsed] at judged
    rw [← Option.some.inj judged]
    exact congrArg some (if_neg collapsed).symm

/-- The scan of a sweep that offers each rate once finds what the lowest stall tells. -/
theorem firstFinding_iff (distinct : (points.map (·.offeredMbps)).Nodup) :
    firstFinding kneeBetween (sortByKey SweepPoint.offeredMbps points) = some verdict ↔
      ∃ lo hi, LowestStall points lo hi ∧ kneeBetween lo hi = some verdict := by
  have back : (sortByKey SweepPoint.offeredMbps points).Perm points := sortByKey_perm points
  have alike : ∀ {lo hi : SweepPoint}, RateStep SweepPoint.offeredMbps points lo hi →
      ∀ lo' hi', lo' ∈ sortByKey SweepPoint.offeredMbps points →
        hi' ∈ sortByKey SweepPoint.offeredMbps points →
        lo'.offeredMbps = lo.offeredMbps → hi'.offeredMbps = hi.offeredMbps →
          kneeBetween lo' hi' = kneeBetween lo hi := by
    intro lo hi step lo' hi' lower higher sameLow sameHigh
    rw [List.inj_on_of_nodup_map distinct (back.mem_iff.mp lower) step.lower sameLow,
      List.inj_on_of_nodup_map distinct (back.mem_iff.mp higher) step.higher sameHigh]
  have scanned : ∀ {lo hi : SweepPoint} {found : KneeVerdict}, LowestStall points lo hi →
      kneeBetween lo hi = some found →
      firstFinding kneeBetween (sortByKey SweepPoint.offeredMbps points) = some found := by
    intro lo hi found lowest judged
    have quiet : QuietUpTo SweepPoint.offeredMbps kneeBetween points lo.offeredMbps :=
      (quiet_iff points _).mpr lowest.tracksBelow
    refine firstFinding_of_agreeing kneeBetween_skips (sortByKey_sorted points)
      (lowest.step.of_perm back)
      (quiet.of_perm back) ?_
    intro lo' hi' lower higher sameLow sameHigh
    rw [alike lowest.step lo' hi' lower higher sameLow sameHigh, judged]
  constructor
  · intro found
    obtain ⟨before, low, high, rest, split, judged⟩ := exists_neighbours_of_finding found
    have rises := (kneeBetween_cases judged).1
    have sorted : (sortByKey SweepPoint.offeredMbps points).Pairwise
        (·.offeredMbps ≤ ·.offeredMbps) :=
      sortByKey_sorted points
    have neighbours := rateStep_of_neighbours (split ▸ sorted) rises
    rw [← split] at neighbours
    have seen : kneeBetween low high ≠ none := by rw [judged]; exact Option.some_ne_none _
    obtain ⟨lo, hi, lowest, someVerdict, quiet⟩ :=
      exists_lowest_judged (neighbours.of_perm back.symm) seen
    obtain ⟨first, judgedFirst⟩ := Option.ne_none_iff_exists'.mp someVerdict
    have stall : LowestStall points lo hi :=
      ⟨lowest, (kneeBetween_ne_none_iff lowest.rises).mp someVerdict, (quiet_iff points _).mp quiet⟩
    refine ⟨lo, hi, stall, ?_⟩
    rw [judgedFirst, ← scanned stall judgedFirst, found]
  · rintro ⟨lo, hi, lowest, judged⟩
    exact scanned lowest judged

/-- A sweep with a knee has a lowest stall that it is judged by. -/
theorem exists_lowestStall (distinct : ((points.filter (·.usable)).map (·.offeredMbps)).Nodup)
    (knee : (detectKnee points).kneeOf ≠ none) :
    minPoints ≤ (points.filter (·.usable)).length ∧
      ∃ lo hi, LowestStall (points.filter (·.usable)) lo hi ∧
        kneeBetween lo hi = some (detectKnee points) := by
  by_cases few : (points.filter (·.usable)).length < minPoints
  · rw [detectKnee_few few] at knee
    exact absurd rfl knee
  · refine ⟨not_lt.mp few, (firstFinding_iff distinct).mp ?_⟩
    rw [detectKnee_enough few] at knee ⊢
    cases found : firstFinding kneeBetween (sortedSweep points) with
    | none =>
      rw [found] at knee
      exact absurd rfl knee
    | some first => exact found

theorem detectKnee_of_lowestStall
    (distinct : ((points.filter (·.usable)).map (·.offeredMbps)).Nodup)
    (enough : minPoints ≤ (points.filter (·.usable)).length)
    (lowest : LowestStall (points.filter (·.usable)) lo hi) :
    kneeBetween lo hi = some (detectKnee points) := by
  obtain ⟨first, judged⟩ :=
    Option.ne_none_iff_exists'.mp ((kneeBetween_ne_none_iff lowest.step.rises).mpr lowest.stalls)
  have found : firstFinding kneeBetween (sortedSweep points) = some first :=
    (firstFinding_iff distinct).mpr ⟨lo, hi, lowest, judged⟩
  rw [detectKnee_enough (not_lt.mpr enough), found, judged]
  rfl

/-- Points that are not usable, and the order of the others, do not change the verdict. -/
theorem detectKnee_eq_of_usable_perm {shuffled : List SweepPoint}
    (distinct : ((points.filter (·.usable)).map (·.offeredMbps)).Nodup)
    (perm : (shuffled.filter (·.usable)).Perm (points.filter (·.usable))) :
    detectKnee shuffled = detectKnee points := by
  have sorted : sortedSweep shuffled = sortedSweep points :=
    sortByKey_eq_of_perm perm distinct
  by_cases few : (points.filter (·.usable)).length < minPoints
  · rw [detectKnee_few few, detectKnee_few (perm.length_eq ▸ few), perm.length_eq]
  · rw [detectKnee_enough few, detectKnee_enough (perm.length_eq ▸ few), highestTested,
      highestTested, sorted]

end Sweep

theorem driftTolerance_steady_iff (bracket : KneeDriftBracket) :
    bracket.exceedsTolerance = some false ↔ bracket.Steady := by
  obtain ⟨opening, closing⟩ := bracket
  have none_ne : (none : Option Bool) ≠ some false := fun same => by cases same
  cases opening with
  | none =>
    refine iff_of_false none_ne ?_
    rintro ⟨first, last, same, -⟩
    cases same
  | some opening =>
    cases closing with
    | none =>
      refine iff_of_false none_ne ?_
      rintro ⟨first, last, same, -⟩
      cases same
    | some closing =>
      by_cases positive : 0 < opening
      · have fraction :
            |(closing - opening) / opening| ≤ driftTolerance ↔
              |closing - opening| ≤ driftTolerance * opening := by
          rw [abs_div, abs_of_pos positive, div_le_iff₀ positive]
        simp only [KneeDriftBracket.exceedsTolerance, KneeDriftBracket.driftFraction,
          if_pos positive, Option.map_some, Option.some_inj, decide_eq_false_iff_not, not_lt,
          fraction]
        constructor
        · intro near
          exact ⟨opening, closing, rfl, positive, near⟩
        · rintro ⟨first, last, same, -, near⟩
          cases same
          exact near
      · have missing : (KneeDriftBracket.mk (some opening) (some closing)).exceedsTolerance =
            none := by
          simp only [KneeDriftBracket.exceedsTolerance, KneeDriftBracket.driftFraction,
            if_neg positive, Option.map_none]
        rw [missing]
        refine iff_of_false none_ne ?_
        rintro ⟨first, last, same, above, -⟩
        cases same
        exact positive above

theorem permitsEstablishedClaim_iff (native application : KneeVerdict) :
    (crossValidate native (some application)).permitsEstablishedClaim = true ↔
      ∃ n a, native.kneeOf = some n ∧ application.kneeOf = some a ∧ SameKnee n a := by
  cases nativeKnee : native.kneeOf with
  | none =>
    cases appKnee : application.kneeOf with
    | none => simp [crossValidate, nativeKnee, appKnee, CrossValidation.permitsEstablishedClaim]
    | some a => simp [crossValidate, nativeKnee, appKnee, CrossValidation.permitsEstablishedClaim]
  | some n =>
    cases appKnee : application.kneeOf with
    | none => simp [crossValidate, nativeKnee, appKnee, CrossValidation.permitsEstablishedClaim]
    | some a =>
      have near : (0 < max n a ∧ |n - a| / max n a ≤ kneeAgreement) ↔ SameKnee n a :=
        and_congr_right fun positive => div_le_iff₀ positive
      by_cases same : SameKnee n a
      · simp only [crossValidate, nativeKnee, appKnee, if_pos (near.mpr same),
          CrossValidation.permitsEstablishedClaim]
        exact iff_of_true trivial ⟨n, a, rfl, rfl, same⟩
      · simp only [crossValidate, nativeKnee, appKnee, if_neg (mt near.mp same),
          CrossValidation.permitsEstablishedClaim]
        refine iff_of_false Bool.false_ne_true ?_
        rintro ⟨n', a', first, second, agree⟩
        cases first
        cases second
        exact same agree

section Report
variable {native application : List SweepPoint} {drift : KneeDriftBracket} {interface : String}
  {idle : Option ℚ}

/-- What a report claims, by the verdicts on its sweeps. -/
theorem establishedClaim_eq_some_iff {detail : String} :
    (buildReport interface native application drift idle).establishedClaim = some detail ↔
      drift.Steady ∧ (detectKnee native).claim = some detail ∧
        ∃ n a, (detectKnee native).kneeOf = some n ∧ (detectKnee application).kneeOf = some a ∧
          SameKnee n a := by
  have noKnee : (detectKnee ([] : List SweepPoint)).kneeOf = none := rfl
  have permits : (crossValidate (detectKnee native)
        (if application.isEmpty then none else some
          (detectKnee application))).permitsEstablishedClaim = true ↔
      ∃ n a, (detectKnee native).kneeOf = some n ∧ (detectKnee application).kneeOf = some a ∧
        SameKnee n a := by
    cases application with
    | nil => simp [crossValidate, CrossValidation.permitsEstablishedClaim, noKnee]
    | cons first rest =>
      exact permitsEstablishedClaim_iff (detectKnee native) (detectKnee (first :: rest))
  have claimed : (buildReport interface native application drift idle).establishedClaim =
      if (crossValidate (detectKnee native)
          (if application.isEmpty then none else some
            (detectKnee application))).permitsEstablishedClaim &&
        drift.exceedsTolerance == some false then (detectKnee native).claim else none := rfl
  rw [claimed, Option.ite_none_right_eq_some, Bool.and_eq_true, permits, beq_iff_eq,
    driftTolerance_steady_iff]
  tauto

end Report

def examplePlateau : List SweepPoint :=
  [exampleReading 40 40 40, exampleReading 60 60 60, exampleReading 80 61 61]

def exampleDrift : KneeDriftBracket := ⟨some 120, some 117⟩

section Order
variable {native application native' application' : List SweepPoint} {drift : KneeDriftBracket}
  {interface interface' : String} {idle idle' : Option ℚ}

/-- Neither the order in which points were executed nor points that are not usable change what
is claimed. -/
theorem establishedClaim_eq_of_usable_perm
    (distinct : ((native.filter (·.usable)).map (·.offeredMbps)).Nodup)
    (distinctApp : ((application.filter (·.usable)).map (·.offeredMbps)).Nodup)
    (perm : (native'.filter (·.usable)).Perm (native.filter (·.usable)))
    (permApp : (application'.filter (·.usable)).Perm (application.filter (·.usable))) :
    (buildReport interface' native' application' drift idle').establishedClaim =
      (buildReport interface native application drift idle).establishedClaim := by
  have sameNative := detectKnee_eq_of_usable_perm distinct perm
  have sameApp := detectKnee_eq_of_usable_perm distinctApp permApp
  apply Option.ext
  intro detail
  rw [establishedClaim_eq_some_iff, establishedClaim_eq_some_iff, sameNative, sameApp]

end Order

/-- The same sweep in another order of execution, with a reading that the runner gave up. -/
def exampleShuffled : List SweepPoint :=
  [exampleReading 80 61 61, ⟨70, none, none, none, none, 1,
    some (.processFailure "unable to connect to server")⟩, exampleReading 40 40 40,
    exampleReading 60 60 60]

theorem establishedClaim_eq_of_usable_perm_plateau :
    (buildReport "en1" exampleShuffled examplePlateau exampleDrift (some 8)).establishedClaim =
      (buildReport "en0" examplePlateau examplePlateau exampleDrift none).establishedClaim := by
  have distinct : ((examplePlateau.filter (·.usable)).map (·.offeredMbps)).Nodup := by
    decide +kernel
  have perm : (exampleShuffled.filter (·.usable)).Perm (examplePlateau.filter (·.usable)) :=
    (List.Perm.swap (exampleReading 40 40 40) (exampleReading 80 61 61)
      [exampleReading 60 60 60]).trans
      ((List.Perm.swap (exampleReading 60 60 60) (exampleReading 80 61 61) []).cons
        (exampleReading 40 40 40))
  exact establishedClaim_eq_of_usable_perm distinct distinct perm (List.Perm.refl _)

end FragglePacket.NetworkTests
