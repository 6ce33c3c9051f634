import FragglePacket.NetworkTests.CapacityKnee
import FragglePacket.Text.Float

/-! The scan for the knee in the arithmetic that does it, where every operation rounds to
`f64`. A direction that delivers all it is offered gains half of what both are offered, so
that only the rounding can take the share of both below one half. -/

namespace FragglePacket.NetworkTests

open FragglePacket.Lists FragglePacket.Text

structure SweepPointF64 where
  offeredMbps : F64
  upMbps : Option F64
  downMbps : Option F64
  loadedLatencyMs : Option F64
  listenerLabel : Option String
  executionIndex : Nat
  rejected : Option PointRejection

namespace SweepPointF64

def usable (point : SweepPointF64) : Bool :=
  point.rejected.isNone && point.upMbps.isSome && point.downMbps.isSome

def combinedMbps (point : SweepPointF64) : Option F64 :=
  match point.upMbps, point.downMbps with
  | some up, some down => if point.rejected.isNone then some (up.add down).rounded else none
  | _, _ => none

def balance (point : SweepPointF64) : Option F64 :=
  match point.upMbps, point.downMbps with
  | some up, some down =>
    if point.rejected.isNone then
      if (up.max down).le (.finite 0) then none
      else some ((up.min down).div (up.max down)).rounded
    else none
  | _, _ => none

def weakerDirection (point : SweepPointF64) : String :=
  match point.upMbps, point.downMbps with
  | some up, some down => if up.lt down then "upload" else "download"
  | _, _ => "download"

/-- The two rates, as the detail of a collapse words them. -/
def shownRates (point : SweepPointF64) : String :=
  let up := point.upMbps.getD (.finite 0)
  let down := point.downMbps.getD (.finite 0)
  (up.min down).text 1 ++ " Mbps while the other held at " ++ (up.max down).text 1

end SweepPointF64

inductive KneeVerdictF64 where
  | capacityPlateau (kneeOfferedMbps plateauCombinedMbps : F64) (detail : String)
  | directionalUnfairness (kneeOfferedMbps : F64) (weakerDirection : String) (balance : F64)
    (detail : String)
  | noKneeWithinTestedRange (highestTestedMbps : F64)
  | insufficientPoints (usable required : Nat)
deriving DecidableEq

def unfairBalanceF64 : F64 := .nearest (4 / 5)
def trackingEfficiencyF64 : F64 := .finite (1 / 2)

def collapseAt (hi : SweepPointF64) (balance : F64) : KneeVerdictF64 :=
  .directionalUnfairness hi.offeredMbps hi.weakerDirection balance
    ("at " ++ hi.offeredMbps.text 0 ++ " Mbps per direction " ++ hi.weakerDirection ++
      " fell to " ++ hi.shownRates ++ " Mbps (balance " ++ balance.text 2 ++
      "); one direction collapsed rather than both sharing a ceiling")

def plateauAt (lo : SweepPointF64) (combined balance : F64) : KneeVerdictF64 :=
  .capacityPlateau lo.offeredMbps combined
    ("combined throughput tracked offered load through " ++ lo.offeredMbps.text 0 ++
      " Mbps per direction then flattened near " ++ combined.text 1 ++
      " Mbps combined while the split stayed balanced (balance " ++ balance.text 2 ++
      "); this is a shared capacity ceiling, not one direction losing")

/-- The gain offered in both directions, and the combined gain as a share of it. -/
def offeredGain (lower higher : F64) : F64 :=
  ((higher.sub lower).rounded.mul (.finite 2)).rounded

def trackingF64 (lower higher combined combinedAbove : F64) : F64 :=
  ((combinedAbove.sub combined).rounded.div (offeredGain lower higher)).rounded

/-- What the scan reports of two neighbouring points. -/
def kneeBetweenF64 (lo hi : SweepPointF64) : Option KneeVerdictF64 :=
  let combined := lo.combinedMbps.getD (.finite 0)
  let combinedAbove := hi.combinedMbps.getD (.finite 0)
  if (offeredGain lo.offeredMbps hi.offeredMbps).le (.finite 0) then none
  else if (trackingF64 lo.offeredMbps hi.offeredMbps combined combinedAbove).lt
      trackingEfficiencyF64 then
    let balance := hi.balance.getD (.finite 1)
    if balance.le unfairBalanceF64 then some (collapseAt hi balance)
    else some (plateauAt lo combinedAbove balance)
  else none

/-- `none` is the panic of `partial_cmp().unwrap()` on a NaN. -/
def detectKneeF64 (points : List SweepPointF64) : Option KneeVerdictF64 :=
  let usable := points.filter (·.usable)
  if usable.length < minPoints then some (.insufficientPoints usable.length minPoints)
  else if usable.any (·.offeredMbps = .nan) then none
  else
    let sorted := usable.insertionSort fun a b => a.offeredMbps.le b.offeredMbps = true
    some ((firstFinding kneeBetweenF64 sorted).getD
      (.noKneeWithinTestedRange ((sorted.getLast?.map (·.offeredMbps)).getD (.finite 0))))

/-- A sweep of rising rates in which one direction delivers all it is offered and the other
no more than a cap, that the highest rate goes far beyond. -/
structure CappedSweep (points : List SweepPointF64) (capped : String) (cap : F64) : Prop where
  enough : minPoints ≤ (points.filter (·.usable)).length
  rising : (points.filter (·.usable)).Pairwise fun lo hi => lo.offeredMbps.lt hi.offeredMbps = true
  delivers :
    (capped = "upload" ∧ ∀ point ∈ points.filter (·.usable),
      point.upMbps = some (point.offeredMbps.min cap) ∧ point.downMbps = some point.offeredMbps) ∨
    (capped = "download" ∧ ∀ point ∈ points.filter (·.usable),
      point.upMbps = some point.offeredMbps ∧ point.downMbps = some (point.offeredMbps.min cap))
  unfair : ∀ highest ∈ (points.filter (·.usable)).getLast?,
    (cap.div highest.offeredMbps).rounded.le unfairBalanceF64 = true

def NamesUnfair (verdict : Option KneeVerdictF64) (direction : String) : Prop :=
  ∃ knee balance detail, verdict = some (.directionalUnfairness knee direction balance detail)

section Cap
variable (cap : F64)

/-- What both directions deliver at a rate, the one of them up to the cap. -/
def deliveredAt (rate : F64) : F64 := (rate.add (rate.min cap)).rounded

/-- From the lower rate to the higher one, what is delivered more comes out below one half of
what is offered more. -/
def RoundsBelowHalf (lower higher : F64) : Prop :=
  (offeredGain lower higher).le (.finite 0) = false ∧
    (trackingF64 lower higher (deliveredAt cap lower) (deliveredAt cap higher)).lt
      trackingEfficiencyF64 = true

/-- At the rate the capped direction is far below the other. -/
def FarBelow (rate : F64) : Prop :=
  rate.le (.finite 0) = false ∧ ((rate.min cap).div rate).rounded.le unfairBalanceF64 = true

instance : DecidableRel (RoundsBelowHalf cap) := fun _ _ => inferInstanceAs (Decidable (_ ∧ _))

instance : DecidablePred (FarBelow cap) := fun _ => inferInstanceAs (Decidable (_ ∧ _))

/-- The first step between neighbouring rates that rounds below one half goes up to a rate far
beyond the cap. -/
def LossShows (rates : List F64) : Prop :=
  ∃ before lower higher rest, rates = before ++ lower :: higher :: rest ∧
    (before ++ [lower]).IsChain (fun lo hi => ¬ RoundsBelowHalf cap lo hi) ∧
    RoundsBelowHalf cap lower higher ∧ FarBelow cap higher

end Cap

section Ratio
variable {rate cap : F64}

theorem not_lt_min_self (known : rate ≠ .nan) (capKnown : cap ≠ .nan) :
    rate.lt (rate.min cap) = false := by
  cases rate <;> cases cap <;> grind [F64.min, F64.lt]

theorem min_lt_of_ne (known : rate ≠ .nan) (capKnown : cap ≠ .nan) (apart : rate.min cap ≠ rate) :
    (rate.min cap).lt rate = true := by
  cases rate <;> cases cap <;> grind [F64.min, F64.lt]

/-- A rate divided by itself is balanced, or no number. -/
theorem balanced_self (positive : rate.le (.finite 0) = false) :
    (rate.div rate).rounded.le unfairBalanceF64 = false := by
  cases rate with
  | finite value =>
    have known : value ≠ 0 := by
      rintro rfl
      exact absurd positive (by decide)
    rw [F64.div, if_pos known, div_self known]
    decide +kernel
  | infinite negative => rfl
  | nan => rfl

/-- Far below the other, the capped direction delivers less. -/
theorem FarBelow.weaker (far : FarBelow cap rate) (known : rate ≠ .nan) (capKnown : cap ≠ .nan) :
    (rate.min cap).lt rate = true := by
  refine min_lt_of_ne known capKnown fun same => ?_
  have balanced := balanced_self far.1
  have below := far.2
  rw [same, balanced] at below
  cases below

end Ratio

private theorem mem_of_split {usable before rest : List SweepPointF64} {lo hi : SweepPointF64}
    (split : usable = before ++ lo :: hi :: rest) :
    lo ∈ usable ∧ hi ∈ usable ∧ ∀ point ∈ before ++ [lo], point ∈ usable := by
  subst split
  refine ⟨by simp, by simp, fun point present => ?_⟩
  rcases List.mem_append.mp present with early | last
  · exact List.mem_append_left _ early
  · exact List.mem_append_right _ (List.mem_cons.mpr (.inl (List.mem_singleton.mp last)))

section Capped
variable {points : List SweepPointF64} {capped : String} {cap : F64} {lo hi point : SweepPointF64}

namespace CappedSweep

theorem cap_ne_nan (sweep : CappedSweep points capped cap) : cap ≠ .nan := by
  rintro rfl
  have some : points.filter (·.usable) ≠ [] := by
    intro empty
    have enough := sweep.enough
    rw [empty] at enough
    exact absurd enough (by decide)
  have unfair := sweep.unfair _ (List.getLast?_eq_some_getLast some)
  simp [F64.div, F64.rounded, F64.le] at unfair

theorem rate_ne_nan (sweep : CappedSweep points capped cap)
    (present : point ∈ points.filter (·.usable)) : point.offeredMbps ≠ .nan := by
  obtain ⟨place, inside, rfl⟩ := List.getElem_of_mem present
  have enough : 3 ≤ (points.filter (·.usable)).length := sweep.enough
  have rising := List.pairwise_iff_getElem.mp sweep.rising
  by_cases last : place + 1 < (points.filter (·.usable)).length
  · exact (F64.ne_nan_of_lt (rising place (place + 1) inside last (Nat.lt_succ_self place))).1
  · exact (F64.ne_nan_of_lt (rising (place - 1) place (by omega) inside (by omega))).2

theorem rejected_none (present : point ∈ points.filter (·.usable)) :
    point.rejected.isNone = true := by
  have measured := (List.mem_filter.mp present).2
  simp only [SweepPointF64.usable, Bool.and_eq_true] at measured
  exact measured.1.1

theorem combined (sweep : CappedSweep points capped cap)
    (present : point ∈ points.filter (·.usable)) :
    point.combinedMbps.getD (.finite 0) = deliveredAt cap point.offeredMbps := by
  have usable := rejected_none present
  rcases sweep.delivers with ⟨-, rates⟩ | ⟨-, rates⟩
  · obtain ⟨up, down⟩ := rates point present
    simp only [SweepPointF64.combinedMbps, up, down, usable, if_true, Option.getD_some, deliveredAt,
      F64.add_comm]
  · obtain ⟨up, down⟩ := rates point present
    simp only [SweepPointF64.combinedMbps, up, down, usable, if_true, Option.getD_some, deliveredAt]

theorem balance (sweep : CappedSweep points capped cap)
    (present : point ∈ points.filter (·.usable)) :
    point.balance = if point.offeredMbps.le (.finite 0) then none
      else some ((point.offeredMbps.min cap).div point.offeredMbps).rounded := by
  have usable := rejected_none present
  obtain ⟨least, least', most, most'⟩ :=
    F64.min_capped (sweep.rate_ne_nan present) sweep.cap_ne_nan
  rcases sweep.delivers with ⟨-, rates⟩ | ⟨-, rates⟩
  · obtain ⟨up, down⟩ := rates point present
    simp only [SweepPointF64.balance, up, down, usable, if_true, least, most]
  · obtain ⟨up, down⟩ := rates point present
    simp only [SweepPointF64.balance, up, down, usable, if_true, least', most']

theorem weakerDirection (sweep : CappedSweep points capped cap)
    (present : point ∈ points.filter (·.usable)) (far : FarBelow cap point.offeredMbps) :
    point.weakerDirection = capped := by
  have known := sweep.rate_ne_nan present
  rcases sweep.delivers with ⟨rfl, rates⟩ | ⟨rfl, rates⟩
  · obtain ⟨up, down⟩ := rates point present
    simp only [SweepPointF64.weakerDirection, up, down, far.weaker known sweep.cap_ne_nan, if_true]
  · obtain ⟨up, down⟩ := rates point present
    simp only [SweepPointF64.weakerDirection, up, down, not_lt_min_self known sweep.cap_ne_nan,
      Bool.false_eq_true, if_false]

/-- Two points of the sweep are reported where the step between them rounds below one half. -/
theorem kneeBetween_eq_none_iff (sweep : CappedSweep points capped cap)
    (lower : lo ∈ points.filter (·.usable)) (higher : hi ∈ points.filter (·.usable)) :
    kneeBetweenF64 lo hi = none ↔ ¬ RoundsBelowHalf cap lo.offeredMbps hi.offeredMbps := by
  simp only [kneeBetweenF64, sweep.combined lower, sweep.combined higher, RoundsBelowHalf]
  split
  · next flat => simp [flat]
  · next rises =>
    split
    · next below =>
      simp only [below, Bool.not_eq_true, and_true] at rises ⊢
      split <;> simp [rises]
    · next above => simp [above]

/-- They are reported as unfair where, besides, the higher rate is far beyond the cap. -/
theorem kneeBetween_unfair_iff (sweep : CappedSweep points capped cap)
    (lower : lo ∈ points.filter (·.usable)) (higher : hi ∈ points.filter (·.usable)) :
    NamesUnfair (kneeBetweenF64 lo hi) capped ↔
      RoundsBelowHalf cap lo.offeredMbps hi.offeredMbps ∧ FarBelow cap hi.offeredMbps := by
  by_cases below : RoundsBelowHalf cap lo.offeredMbps hi.offeredMbps
  · have judged : kneeBetweenF64 lo hi =
        if (hi.balance.getD (.finite 1)).le unfairBalanceF64 then
          some (collapseAt hi (hi.balance.getD (.finite 1)))
        else some (plateauAt lo (deliveredAt cap hi.offeredMbps)
          (hi.balance.getD (.finite 1))) := by
      simp only [kneeBetweenF64, sweep.combined lower, sweep.combined higher, below.1, below.2,
        Bool.false_eq_true, if_false, if_true]
    have far : (hi.balance.getD (.finite 1)).le unfairBalanceF64 = true ↔
        FarBelow cap hi.offeredMbps := by
      rw [sweep.balance higher, FarBelow]
      split
      · next flat =>
        simp only [flat, Option.getD_none, Bool.true_eq_false, false_and, iff_false]
        decide +kernel
      · next positive => simp [positive]
    rw [judged, and_iff_right below, ← far]
    split
    · next collapsed =>
      refine iff_of_true ?_ collapsed
      rw [collapseAt, sweep.weakerDirection higher (far.mp collapsed)]
      exact ⟨_, _, _, rfl⟩
    · next balanced =>
      refine iff_of_false ?_ balanced
      rintro ⟨knee, balance, detail, unfair⟩
      cases Option.some.inj unfair
  · rw [(sweep.kneeBetween_eq_none_iff lower higher).mpr below]
    refine iff_of_false ?_ fun both => below both.1
    rintro ⟨knee, balance, detail, unfair⟩
    cases unfair

/-- The rising points are in order already. -/
theorem detectKnee_eq (sweep : CappedSweep points capped cap) :
    detectKneeF64 points =
      some ((firstFinding kneeBetweenF64 (points.filter (·.usable))).getD
        (.noKneeWithinTestedRange
          (((points.filter (·.usable)).getLast?.map (·.offeredMbps)).getD (.finite 0)))) := by
  have sorted : (points.filter (·.usable)).insertionSort
      (fun a b => a.offeredMbps.le b.offeredMbps = true) = points.filter (·.usable) :=
    (sweep.rising.imp fun rises => F64.le_of_lt rises).insertionSort_eq
  have numbers : (points.filter (·.usable)).any (·.offeredMbps = .nan) = false := by
    simpa using fun point present usable =>
      sweep.rate_ne_nan (List.mem_filter.mpr ⟨present, usable⟩)
  simp only [detectKneeF64, sorted, numbers, Nat.not_lt.mpr sweep.enough, if_false,
    Bool.false_eq_true]

/-- Nothing is found among points no step of which rounds below one half. -/
theorem firstFinding_eq_none_iff (sweep : CappedSweep points capped cap)
    {some : List SweepPointF64} (within : ∀ point ∈ some, point ∈ points.filter (·.usable)) :
    firstFinding kneeBetweenF64 some = none ↔
      (some.map (·.offeredMbps)).IsChain fun lo hi => ¬ RoundsBelowHalf cap lo hi := by
  rw [Lists.firstFinding_eq_none_iff, List.isChain_map]
  apply List.IsChain.iff_of_mem_imp
  intro lo hi lower higher
  exact sweep.kneeBetween_eq_none_iff (within lo lower) (within hi higher)

/-- The first finding is an unfair one where the loss shows in the rates. -/
theorem firstFinding_unfair_iff (sweep : CappedSweep points capped cap) :
    NamesUnfair (firstFinding kneeBetweenF64 (points.filter (·.usable))) capped ↔
      LossShows cap ((points.filter (·.usable)).map (·.offeredMbps)) := by
  constructor
  · rintro ⟨knee, balance, detail, unfair⟩
    obtain ⟨before, lo, hi, rest, split, quiet, judged⟩ := firstFinding_eq_some_iff.mp unfair
    obtain ⟨lower, higher, within⟩ := mem_of_split split
    obtain ⟨below, far⟩ :=
      (sweep.kneeBetween_unfair_iff lower higher).mp ⟨knee, balance, detail, judged⟩
    have chain := (sweep.firstFinding_eq_none_iff within).mp quiet
    refine ⟨before.map (·.offeredMbps), _, _, rest.map (·.offeredMbps), ?_, ?_, below, far⟩
    · simp [split]
    · simpa using chain
  · rintro ⟨front, lower, higher, behind, split, chain, below, far⟩
    obtain ⟨before, later, usable, rfl, laterRates⟩ := List.map_eq_append_iff.mp split
    obtain ⟨lo, tail, rfl, rfl, tailRates⟩ := List.map_eq_cons_iff.mp laterRates
    obtain ⟨hi, rest, rfl, rfl, rfl⟩ := List.map_eq_cons_iff.mp tailRates
    obtain ⟨loPresent, hiPresent, within⟩ := mem_of_split usable
    obtain ⟨knee, balance, detail, judged⟩ :=
      (sweep.kneeBetween_unfair_iff loPresent hiPresent).mpr ⟨below, far⟩
    have quiet := (sweep.firstFinding_eq_none_iff within).mpr (by simpa using chain)
    exact ⟨knee, balance, detail,
      firstFinding_eq_some_iff.mpr ⟨before, lo, hi, rest, usable, quiet, judged⟩⟩

end CappedSweep

/-- A sweep with one capped direction is found unfair exactly where the first step that rounding
takes below one half goes up to a rate far beyond the cap; without such a step its verdict is
that there is no knee. -/
theorem cappedSweep_unfair_iff (sweep : CappedSweep points capped cap) :
    let rates := (points.filter (·.usable)).map (·.offeredMbps)
    (NamesUnfair (detectKneeF64 points) capped ↔ LossShows cap rates) ∧
      (rates.IsChain (fun lo hi => ¬ RoundsBelowHalf cap lo hi) →
        detectKneeF64 points =
          some (.noKneeWithinTestedRange (rates.getLast?.getD (.finite 0)))) := by
  intro rates
  rw [sweep.detectKnee_eq, ← sweep.firstFinding_unfair_iff]
  constructor
  · cases firstFinding kneeBetweenF64 (points.filter (·.usable)) with
    | none => simp [NamesUnfair]
    | some verdict => simp [NamesUnfair]
  · intro chain
    have quiet := (sweep.firstFinding_eq_none_iff fun _ present => present).mpr chain
    rw [quiet, Option.getD_none, List.getLast?_map]

end Capped

/-- A reading with the `f64` numbers nearest to these rates. -/
def exampleRates (offered up down : ℚ) : SweepPointF64 :=
  ⟨.nearest offered, some (.nearest up), some (.nearest down), none, none, 0, none⟩

/-- Download stays at 0.4 from the first rate on. -/
def exampleLostSweep : List SweepPointF64 :=
  [exampleRates (101 / 10) (101 / 10) (2 / 5), exampleRates (101 / 5) (101 / 5) (2 / 5),
    exampleRates (303 / 10) (303 / 10) (2 / 5)]

theorem exampleLostSweep_capped : CappedSweep exampleLostSweep "download" (.nearest (2 / 5)) where
  enough := by decide +kernel
  rising := by decide +kernel
  delivers := Or.inr ⟨rfl, by decide +kernel⟩
  unfair := by decide +kernel

/-- Here the rounding of a sum takes the gain below one half. -/
theorem cappedSweep_unfair_lost : NamesUnfair (detectKneeF64 exampleLostSweep) "download" := by
  refine (cappedSweep_unfair_iff exampleLostSweep_capped).1.mpr ?_
  refine ⟨[], .nearest (101 / 10), .nearest (101 / 5), [.nearest (303 / 10)], by decide +kernel,
    List.isChain_singleton _, ?_, ?_⟩
  · decide +kernel
  · decide +kernel

/-- Download stays at 50 while upload reaches 100, and no knee is reported. -/
def exampleCappedSweep : List SweepPointF64 :=
  [exampleRates 40 40 40, exampleRates 60 60 50, exampleRates 100 100 50]

theorem one_sided_collapse_missed :
    CappedSweep exampleCappedSweep "download" (.nearest 50) ∧
      ¬ NamesUnfair (detectKneeF64 exampleCappedSweep) "download" ∧
      detectKneeF64 exampleCappedSweep = some (.noKneeWithinTestedRange (.finite 100)) := by
  have verdict : detectKneeF64 exampleCappedSweep =
      some (.noKneeWithinTestedRange (.finite 100)) := by decide +kernel
  have capped : CappedSweep exampleCappedSweep "download" (.nearest 50) :=
    ⟨by decide +kernel, by decide +kernel, Or.inr ⟨rfl, by decide +kernel⟩, by decide +kernel⟩
  refine ⟨capped, ?_, verdict⟩
  rintro ⟨knee, balance, detail, unfair⟩
  rw [verdict] at unfair
  cases unfair

end FragglePacket.NetworkTests
