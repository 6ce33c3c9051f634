import Mathlib.Algebra.Order.Ring.Unbundled.Rat
import FragglePacket.Lists.AdjacentScan
import FragglePacket.Text.Decimal

/-! Where combined throughput stops tracking the offered load. Rates are exact rationals in
megabits per second. -/

namespace FragglePacket.NetworkTests

open FragglePacket.Lists FragglePacket.Text

inductive PointRejection where
  | durationInconsistent (requestedSecs reportedSecs : ℚ)
  | processFailure (detail : String)
  | schemaIncomplete (missing : List String)

structure SweepPoint where
  offeredMbps : ℚ
  upMbps : Option ℚ
  downMbps : Option ℚ
  loadedLatencyMs : Option ℚ
  listenerLabel : Option String
  executionIndex : Nat
  rejected : Option PointRejection

namespace SweepPoint

def usable (point : SweepPoint) : Bool :=
  point.rejected.isNone && point.upMbps.isSome && point.downMbps.isSome

def combinedMbps (point : SweepPoint) : Option ℚ :=
  match point.upMbps, point.downMbps with
  | some up, some down => if point.rejected.isNone then some (up + down) else none
  | _, _ => none

/-- Ratio of the weaker direction to the stronger. -/
def balance (point : SweepPoint) : Option ℚ :=
  match point.upMbps, point.downMbps with
  | some up, some down =>
    if point.rejected.isNone then
      if max up down ≤ 0 then none else some (min up down / max up down)
    else none
  | _, _ => none

def weakerDirection (point : SweepPoint) : String :=
  match point.upMbps, point.downMbps with
  | some up, some down => if up < down then "upload" else "download"
  | _, _ => "download"

/-- The two rates, as the detail of a collapse words them. -/
def shownRates (point : SweepPoint) : String :=
  fixed 1 (min (point.upMbps.getD 0) (point.downMbps.getD 0)) ++ " Mbps while the other held at " ++
    fixed 1 (max (point.upMbps.getD 0) (point.downMbps.getD 0))

end SweepPoint

inductive KneeVerdict where
  | capacityPlateau (kneeOfferedMbps plateauCombinedMbps : ℚ) (detail : String)
  | directionalUnfairness (kneeOfferedMbps : ℚ) (weakerDirection : String) (balance : ℚ)
      (detail : String)
  | noKneeWithinTestedRange (highestTestedMbps : ℚ)
  | insufficientPoints (usable required : Nat)
deriving DecidableEq

def unfairBalance : ℚ := 4 / 5
def trackingEfficiency : ℚ := 1 / 2
def minPoints : Nat := 3

def directionalUnfairnessAt (hi : SweepPoint) (balance : ℚ) : KneeVerdict :=
  .directionalUnfairness hi.offeredMbps hi.weakerDirection balance
    ("at " ++ fixed 0 hi.offeredMbps ++ " Mbps per direction " ++ hi.weakerDirection ++
      " fell to " ++ hi.shownRates ++ " Mbps (balance " ++ fixed 2 balance ++
        "); one direction collapsed rather than both sharing a ceiling")

def capacityPlateauAt (lo : SweepPoint) (combined balance : ℚ) : KneeVerdict :=
  .capacityPlateau lo.offeredMbps combined
    ("combined throughput tracked offered load through " ++ fixed 0 lo.offeredMbps ++
      " Mbps per direction then flattened near " ++ fixed 1 combined ++
      " Mbps combined while the split stayed balanced (balance " ++ fixed 2 balance ++
      "); this is a shared capacity ceiling, not one direction losing")

/-- The combined gain between two points as a share of the gain offered in both directions. -/
def tracking (lo hi : SweepPoint) : ℚ :=
  (hi.combinedMbps.getD 0 - lo.combinedMbps.getD 0) / ((hi.offeredMbps - lo.offeredMbps) * 2)

/-- What the scan reports of two neighbouring points. -/
def kneeBetween (lo hi : SweepPoint) : Option KneeVerdict :=
  if (hi.offeredMbps - lo.offeredMbps) * 2 ≤ 0 then none
  else if tracking lo hi < trackingEfficiency then
    let balance := hi.balance.getD 1
    if balance ≤ unfairBalance then some (directionalUnfairnessAt hi balance)
    else some (capacityPlateauAt lo (hi.combinedMbps.getD 0) balance)
  else none

def detectKnee (points : List SweepPoint) : KneeVerdict :=
  let usable := points.filter (·.usable)
  if usable.length < minPoints then .insufficientPoints usable.length minPoints
  else
    let sorted := sortByKey (·.offeredMbps) usable
    (firstFinding kneeBetween sorted).getD
      (.noKneeWithinTestedRange ((sorted.getLast?.map (·.offeredMbps)).getD 0))

end FragglePacket.NetworkTests
