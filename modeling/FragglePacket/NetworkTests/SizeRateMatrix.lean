import FragglePacket.Lists.SortByKey
import FragglePacket.Text.Decimal
import Mathlib.Tactic.Linarith
import Mathlib.Tactic.NormNum
import Mathlib.Tactic.Positivity

/-! Which pressure the losses over payload sizes point to, and what the order of
a sweep has to do with it. -/

namespace FragglePacket.NetworkTests

open FragglePacket.Lists FragglePacket.Text

/-- The family a point was sent over. -/
inductive IpFamily where
  | v4
  | v6
  deriving DecidableEq

structure SizePoint where
  payloadSize : Nat
  offeredCount : Nat
  offeredPps : ℚ
  offeredBps : ℚ
  receivedCount : Nat
  receivedPps : Option ℚ
  receivedBps : Option ℚ
  lossPercent : Option ℚ
  ipFamily : Option IpFamily
  mtuSafe : Bool

namespace SizePoint

def fromCounts (payloadSize offeredCount : Nat) (elapsedSecs : ℚ) (receivedCount : Nat)
    (ipFamily : Option IpFamily) (mtuSafe : Bool) : SizePoint :=
  let offeredPps : ℚ := if 0 < elapsedSecs then offeredCount / elapsedSecs else 0
  let receivedPps : Option ℚ :=
    if 0 < elapsedSecs ∧ 0 < offeredCount then some (receivedCount / elapsedSecs) else none
  { payloadSize
    offeredCount
    offeredPps
    offeredBps := offeredPps * payloadSize * 8
    receivedCount
    receivedPps
    receivedBps := receivedPps.map (· * payloadSize * 8)
    lossPercent :=
      if 0 < offeredCount then some (((offeredCount - min receivedCount offeredCount : Nat) : ℚ) /
        offeredCount * 100)
      else none
    ipFamily
    mtuSafe }

/-- The loss of a point that has one. -/
def loss (point : SizePoint) : ℚ := point.lossPercent.getD 0

/-- The point at another size. -/
def resize (reflect : Nat → Nat) (point : SizePoint) : SizePoint :=
  { point with payloadSize := reflect point.payloadSize }

@[simp] theorem resize_lossPercent (reflect : Nat → Nat) (point : SizePoint) :
    (point.resize reflect).lossPercent = point.lossPercent := rfl

@[simp] theorem resize_loss (reflect : Nat → Nat) (point : SizePoint) :
    (point.resize reflect).loss = point.loss := rfl

@[simp] theorem resize_payloadSize (reflect : Nat → Nat) (point : SizePoint) :
    (point.resize reflect).payloadSize = reflect point.payloadSize := rfl

theorem fromCounts_loss_bounds {payloadSize offeredCount receivedCount : Nat} {elapsedSecs : ℚ}
    {ipFamily : Option IpFamily} {mtuSafe : Bool} {loss : ℚ}
    (measured : (fromCounts payloadSize offeredCount elapsedSecs receivedCount
      ipFamily mtuSafe).lossPercent = some loss) :
    0 ≤ loss ∧ loss ≤ 100 := by
  simp only [fromCounts] at measured
  split at measured
  · rename_i sent
    have total : (0 : ℚ) < offeredCount := by exact_mod_cast sent
    have part : ((offeredCount - min receivedCount offeredCount : Nat) : ℚ) ≤ offeredCount := by
      exact_mod_cast Nat.sub_le offeredCount _
    rw [← Option.some.inj measured]
    refine ⟨by positivity, ?_⟩
    have share := (div_le_one total).mpr part
    linarith
  · cases measured

end SizePoint

inductive DirectionMode where
  | directional
  | bidirectional
  deriving DecidableEq

structure SizeRateMatrix where
  mode : DirectionMode
  constantByteRate : List SizePoint
  constantPacketRate : List SizePoint

inductive PressureVerdict where
  | packetRateCeiling (evidence : String)
  | byteRatePolicing (evidence : String)
  | inconclusive (reason : String)
  deriving DecidableEq

def usable (points : List SizePoint) : List SizePoint := points.filter (·.lossPercent.isSome)

/-- The smallest and the largest of the points with a loss. -/
def endpoints (points : List SizePoint) : Option (SizePoint × SizePoint) :=
  if (usable points).length < 2 then none
  else
    let sorted := sortByKey SizePoint.payloadSize (usable points)
    match sorted.head?, sorted.getLast? with
    | some smallest, some largest => some (smallest, largest)
    | _, _ => none

def materialRise (base reached : ℚ) : Bool := base * (3 / 2) < reached && 10 < reached - base

/-- Two losses as a verdict shows them. -/
def shownRise (base reached : ℚ) : String := fixed 1 base ++ "% to " ++ fixed 1 reached

/-- The signature of a packet-rate ceiling: more is lost of the smallest size. -/
def ceilingSignature (ends : SizePoint × SizePoint) : Bool := materialRise ends.2.loss ends.1.loss

/-- The signature of byte-rate policing: more is lost of the largest size. -/
def policingSignature (ends : SizePoint × SizePoint) : Bool := materialRise ends.1.loss ends.2.loss

/-- The verdict on the ends of both sweeps. -/
def pressureOf (byteRateEndpoints packetRateEndpoints : Option (SizePoint × SizePoint)) :
    PressureVerdict :=
  match byteRateEndpoints, packetRateEndpoints with
  | some byteEnds, some packetEnds =>
    match ceilingSignature byteEnds, policingSignature packetEnds with
    | true, false =>
      .packetRateCeiling ("loss rose from " ++ shownRise byteEnds.2.loss byteEnds.1.loss ++
        "% as payload shrank at constant byte rate, with no comparable rise when packet rate was instead held constant")
    | false, true =>
      .byteRatePolicing ("loss rose from " ++ shownRise packetEnds.1.loss packetEnds.2.loss ++
        "% as payload grew at constant packet rate, with no comparable rise when byte rate was instead held constant")
    | true, true =>
      .inconclusive
        ("both sweeps show a material loss rise; packet-rate and byte-rate pressure cannot be " ++
        "separated from this data alone")
    | false, false =>
      .inconclusive
        "neither sweep shows a material loss rise; no pressure signature detected at the tested sizes/rates"
  | _, _ =>
    .inconclusive
      ("insufficient measured points (need at least two sized points with a known loss percent " ++
      "in each sweep) to classify pressure")

def classifyPressure (data : SizeRateMatrix) : PressureVerdict :=
  pressureOf (endpoints data.constantByteRate) (endpoints data.constantPacketRate)

section Ends
variable {points : List SizePoint} {ends : SizePoint × SizePoint}

/-- Two measured points of a sweep, one of its smallest size and one of its largest. -/
def EndPair (points : List SizePoint) (ends : SizePoint × SizePoint) : Prop :=
  (∃ others, (usable points).Perm (ends.1 :: ends.2 :: others)) ∧
    ∀ point ∈ usable points, ends.1.payloadSize ≤ point.payloadSize ∧
      point.payloadSize ≤ ends.2.payloadSize

theorem endpoints_eq_some_iff :
    endpoints points = some ends ↔ 2 ≤ (usable points).length ∧
      (sortByKey SizePoint.payloadSize (usable points)).head? = some ends.1 ∧
      (sortByKey SizePoint.payloadSize (usable points)).getLast? = some ends.2 := by
  rw [endpoints]
  by_cases few : (usable points).length < 2
  · rw [if_pos few]
    constructor
    · intro found
      cases found
    · intro found
      omega
  · rw [if_neg few]
    obtain ⟨smallest, largest⟩ := ends
    cases begins : (sortByKey SizePoint.payloadSize (usable points)).head? with
    | none => simp [begins]
    | some first =>
      cases final : (sortByKey SizePoint.payloadSize (usable points)).getLast? with
      | none => simp [begins, final]
      | some last =>
        simp only [begins, final, Option.some_inj, Prod.mk.injEq]
        exact (and_iff_right (not_lt.mp few)).symm

/-- A sweep has ends as soon as two of its points have a loss: neither pick can fail. -/
theorem endpoints_eq_none_iff : endpoints points = none ↔ (usable points).length < 2 := by
  constructor
  · intro missing
    by_contra enough
    have nonempty : sortByKey SizePoint.payloadSize (usable points) ≠ [] := by
      rw [Ne, sortByKey_eq_nil_iff]
      intro empty
      rw [empty] at enough
      exact enough (by decide)
    have found : endpoints points = some (_, _) := endpoints_eq_some_iff.mpr
      ⟨not_lt.mp enough, List.head?_eq_some_head nonempty, List.getLast?_eq_some_getLast nonempty⟩
    rw [missing] at found
    cases found
  · intro few
    rw [endpoints, if_pos few]

/-- Any order of the measured points is that of some order of the sweep. -/
private theorem exists_perm_usable {arranged : List SizePoint}
    (perm : arranged.Perm (usable points)) :
    ∃ shuffled, shuffled.Perm points ∧ usable shuffled = arranged := by
  refine ⟨arranged ++ points.filter fun point => !point.lossPercent.isSome, ?_, ?_⟩
  · exact (perm.append_right _).trans (List.filter_append_perm _ points)
  · have measured : ∀ point ∈ arranged, point.lossPercent.isSome = true := fun point member =>
      (List.mem_filter.mp (perm.subset member)).2
    have dropped : (points.filter fun point => !point.lossPercent.isSome).filter
        (·.lossPercent.isSome) = [] := by
      rw [List.filter_filter, List.filter_eq_nil_iff]
      intro point _
      cases point.lossPercent with
      | none => simp
      | some _ => simp
    rw [usable, List.filter_append, List.filter_eq_self.mpr measured, dropped, List.append_nil]

/-- Which ends are compared in some order of the sweep. -/
theorem exists_endpoints_iff :
    (∃ shuffled, shuffled.Perm points ∧ endpoints shuffled = some ends) ↔ EndPair points ends := by
  rw [EndPair, ← exists_perm_ends_iff]
  constructor
  · rintro ⟨shuffled, perm, found⟩
    obtain ⟨two, begins, final⟩ := endpoints_eq_some_iff.mp found
    exact ⟨usable shuffled, perm.filter _, two, begins, final⟩
  · rintro ⟨arranged, perm, two, begins, final⟩
    obtain ⟨shuffled, reordered, same⟩ := exists_perm_usable perm
    exact ⟨shuffled, reordered, endpoints_eq_some_iff.mpr
      (by rw [same]; exact ⟨two, begins, final⟩)⟩

theorem endPair_of_endpoints (found : endpoints points = some ends) : EndPair points ends :=
  exists_endpoints_iff.mp ⟨points, List.Perm.refl points, found⟩

theorem endpoints_perm_none {shuffled : List SizePoint} (perm : shuffled.Perm points) :
    endpoints shuffled = none ↔ endpoints points = none := by
  rw [endpoints_eq_none_iff, endpoints_eq_none_iff, usable, usable, (perm.filter _).length_eq]

end Ends

section Orders
variable {data : SizeRateMatrix} {byteEnds byteEnds' packetEnds packetEnds' : SizePoint × SizePoint}

/-- Two choices of ends that a verdict words alike: the losses rise in the same sweeps, and where
they rise in one of them only, the verdict shows the same two losses of it. -/
def FoundAlike (byteEnds byteEnds' packetEnds packetEnds' : SizePoint × SizePoint) : Prop :=
  ceilingSignature byteEnds' = ceilingSignature byteEnds ∧
    policingSignature packetEnds' = policingSignature packetEnds ∧
    (ceilingSignature byteEnds = true → policingSignature packetEnds = false →
      shownRise byteEnds'.2.loss byteEnds'.1.loss = shownRise byteEnds.2.loss byteEnds.1.loss) ∧
    (ceilingSignature byteEnds = false → policingSignature packetEnds = true →
      shownRise packetEnds'.1.loss packetEnds'.2.loss =
        shownRise packetEnds.1.loss packetEnds.2.loss)

/-- Whichever points of the smallest and of the largest size are compared,
the verdict is worded alike. -/
def TiesAgree (data : SizeRateMatrix) : Prop :=
  ∀ byteEnds byteEnds' packetEnds packetEnds', EndPair data.constantByteRate byteEnds →
    EndPair data.constantByteRate byteEnds' → EndPair data.constantPacketRate packetEnds →
    EndPair data.constantPacketRate packetEnds' →
      FoundAlike byteEnds byteEnds' packetEnds packetEnds'

/-- The verdict is that of any order of the points of either sweep. -/
def FreeOfOrder (data : SizeRateMatrix) : Prop :=
  ∀ byteRate packetRate, byteRate.Perm data.constantByteRate →
    packetRate.Perm data.constantPacketRate →
    classifyPressure { data with constantByteRate := byteRate, constantPacketRate := packetRate } =
      classifyPressure data

theorem pressureOf_eq_iff :
    pressureOf (some byteEnds') (some packetEnds') = pressureOf (some byteEnds) (some packetEnds) ↔
    FoundAlike byteEnds byteEnds' packetEnds packetEnds' := by
  rw [FoundAlike]
  cases rises : ceilingSignature byteEnds with
  | true =>
    cases grows : policingSignature packetEnds with
    | true =>
      cases rises' : ceilingSignature byteEnds' <;> cases grows' : policingSignature packetEnds' <;>
        simp [pressureOf, rises, grows, rises', grows']
    | false =>
      cases rises' : ceilingSignature byteEnds' <;> cases grows' : policingSignature packetEnds' <;>
        simp [pressureOf, rises, grows, rises', grows', String.append_left_inj,
          String.append_right_inj]
  | false =>
    cases grows : policingSignature packetEnds with
    | true =>
      cases rises' : ceilingSignature byteEnds' <;> cases grows' : policingSignature packetEnds' <;>
        simp [pressureOf, rises, grows, rises', grows', String.append_left_inj,
          String.append_right_inj]
    | false =>
      cases rises' : ceilingSignature byteEnds' <;> cases grows' : policingSignature packetEnds' <;>
        simp [pressureOf, rises, grows, rises', grows']

theorem freeOfOrder_iff : FreeOfOrder data ↔ TiesAgree data := by
  constructor
  · intro free byteEnds byteEnds' packetEnds packetEnds' inBytes inBytes' inPackets inPackets'
    obtain ⟨bytes, bytesPerm, bytesFound⟩ := exists_endpoints_iff.mpr inBytes
    obtain ⟨bytes', bytesPerm', bytesFound'⟩ := exists_endpoints_iff.mpr inBytes'
    obtain ⟨packets, packetsPerm, packetsFound⟩ := exists_endpoints_iff.mpr inPackets
    obtain ⟨packets', packetsPerm', packetsFound'⟩ := exists_endpoints_iff.mpr inPackets'
    have same := (free bytes' packets' bytesPerm' packetsPerm').trans
      (free bytes packets bytesPerm packetsPerm).symm
    simp only [classifyPressure, bytesFound, bytesFound', packetsFound, packetsFound'] at same
    exact pressureOf_eq_iff.mp same
  · intro agree bytes packets bytesPerm packetsPerm
    simp only [classifyPressure]
    cases bytesFound : endpoints data.constantByteRate with
    | none => rw [(endpoints_perm_none bytesPerm).mpr bytesFound, pressureOf, pressureOf] <;> simp
    | some byteEnds =>
      cases packetsFound : endpoints data.constantPacketRate with
      | none =>
        rw [(endpoints_perm_none packetsPerm).mpr packetsFound, pressureOf, pressureOf] <;> simp
      | some packetEnds =>
        obtain ⟨byteEnds', bytesFound'⟩ := Option.ne_none_iff_exists'.mp
          (mt (endpoints_perm_none bytesPerm).mp (by rw [bytesFound]; exact Option.some_ne_none _))
        obtain ⟨packetEnds', packetsFound'⟩ := Option.ne_none_iff_exists'.mp
          (mt (endpoints_perm_none packetsPerm).mp
            (by rw [packetsFound]; exact Option.some_ne_none _))
        rw [bytesFound', packetsFound', pressureOf_eq_iff]
        exact agree byteEnds byteEnds' packetEnds packetEnds' (endPair_of_endpoints bytesFound)
          (exists_endpoints_iff.mp ⟨bytes, bytesPerm, bytesFound'⟩)
            (endPair_of_endpoints packetsFound)
          (exists_endpoints_iff.mp ⟨packets, packetsPerm, packetsFound'⟩)

end Orders

section Mirrors
variable {data : SizeRateMatrix} {reflect : Nat → Nat}

/-- The sweeps with their sizes mirrored, and each in place of the other. -/
def SizeRateMatrix.mirrored (reflect : Nat → Nat) (data : SizeRateMatrix) : SizeRateMatrix :=
  { data with
    constantByteRate := data.constantPacketRate.map (SizePoint.resize reflect)
    constantPacketRate := data.constantByteRate.map (SizePoint.resize reflect) }

/-- A larger size becomes a smaller one. -/
def Reverses (reflect : Nat → Nat) (points : List SizePoint) : Prop :=
  ∀ point ∈ points, ∀ other ∈ points, point.payloadSize < other.payloadSize →
    reflect other.payloadSize < reflect point.payloadSize

def PressureVerdict.isCeiling : PressureVerdict → Bool
  | .packetRateCeiling _ => true
  | _ => false

def PressureVerdict.isPolicing : PressureVerdict → Bool
  | .byteRatePolicing _ => true
  | _ => false

/-- Mirroring exchanges a packet-rate ceiling and byte-rate policing. -/
def MirrorExchanges (data : SizeRateMatrix) : Prop :=
  ∀ reflect, Reverses reflect data.constantByteRate → Reverses reflect data.constantPacketRate →
    (classifyPressure (data.mirrored reflect)).isCeiling = (classifyPressure data).isPolicing ∧
      (classifyPressure (data.mirrored reflect)).isPolicing = (classifyPressure data).isCeiling

theorem usable_resize (points : List SizePoint) :
    usable (points.map (SizePoint.resize reflect)) =
      (usable points).map (SizePoint.resize reflect) := by
  rw [usable, usable, List.filter_map]
  rfl

theorem endpoints_resize_none {points : List SizePoint} :
    endpoints (points.map (SizePoint.resize reflect)) = none ↔ endpoints points = none := by
  rw [endpoints_eq_none_iff, endpoints_eq_none_iff, usable_resize, List.length_map]

theorem exists_endpoints_resize (reflect : Nat → Nat) {points : List SizePoint}
    {ends : SizePoint × SizePoint} (found : endpoints points = some ends) :
    ∃ turned, endpoints (points.map (SizePoint.resize reflect)) = some turned := by
  apply Option.ne_none_iff_exists'.mp
  intro missing
  rw [endpoints_resize_none.mp missing] at found
  cases found

/-- The ends of mirrored points are ends of the points, the other way round. -/
theorem exists_endPair_of_resize {points : List SizePoint} {ends : SizePoint × SizePoint}
    (reverses : Reverses reflect points)
    (pair : EndPair (points.map (SizePoint.resize reflect)) ends) :
    ∃ smallest largest, EndPair points (smallest, largest) ∧ ends.1.loss = largest.loss ∧
      ends.2.loss = smallest.loss := by
  obtain ⟨⟨others, perm⟩, bounds⟩ := pair
  rw [usable_resize] at perm bounds
  have mapped :=
    congrFun (congrFun (List.eq_map_comp_perm (SizePoint.resize reflect))
      (ends.1 :: ends.2 :: others))
      (usable points)
  obtain ⟨originals, written, original⟩ := mapped.mpr perm.symm
  obtain ⟨largest, rest, rfl, first, more⟩ := List.map_eq_cons_iff.mp written.symm
  obtain ⟨smallest, rest, rfl, second, -⟩ := List.map_eq_cons_iff.mp more
  have measured (point : SizePoint) (member : point ∈ usable points) : point ∈ points :=
    (List.mem_filter.mp member).1
  have inLargest : largest ∈ usable points := original.subset List.mem_cons_self
  have inSmallest : smallest ∈ usable points :=
    original.subset (List.mem_cons_of_mem _ List.mem_cons_self)
  refine ⟨smallest, largest, ⟨⟨rest, original.symm.trans (List.Perm.swap _ _ _)⟩,
    fun point member => ?_⟩, ?_, ?_⟩
  · have bounded := bounds _ (List.mem_map_of_mem member)
    rw [← first, ← second] at bounded
    constructor
    · by_contra smaller
      have turned := reverses point (measured point member) smallest (measured smallest inSmallest)
        (not_le.mp smaller)
      exact absurd bounded.2 (not_le.mpr turned)
    · by_contra larger
      have turned := reverses largest (measured largest inLargest) point (measured point member)
        (not_le.mp larger)
      exact absurd bounded.1 (not_le.mpr turned)
  · rw [← first, SizePoint.resize_loss]
  · rw [← second, SizePoint.resize_loss]

theorem pressureOf_isCeiling (byteEnds packetEnds : SizePoint × SizePoint) :
    (pressureOf (some byteEnds) (some packetEnds)).isCeiling =
      (ceilingSignature byteEnds && !policingSignature packetEnds) := by
  cases rises : ceilingSignature byteEnds <;> cases grows : policingSignature packetEnds <;>
    simp [pressureOf, rises, grows, PressureVerdict.isCeiling]

theorem pressureOf_isPolicing (byteEnds packetEnds : SizePoint × SizePoint) :
    (pressureOf (some byteEnds) (some packetEnds)).isPolicing =
      (!ceilingSignature byteEnds && policingSignature packetEnds) := by
  cases rises : ceilingSignature byteEnds <;> cases grows : policingSignature packetEnds <;>
    simp [pressureOf, rises, grows, PressureVerdict.isPolicing]

theorem mirrorExchanges_of_tiesAgree (agree : TiesAgree data) : MirrorExchanges data := by
  intro reflect reversesBytes reversesPackets
  simp only [classifyPressure, SizeRateMatrix.mirrored]
  cases bytesFound : endpoints data.constantByteRate with
  | none =>
    rw [endpoints_resize_none.mpr bytesFound, pressureOf, pressureOf] <;>
      simp [PressureVerdict.isCeiling, PressureVerdict.isPolicing]
  | some byteEnds =>
    cases packetsFound : endpoints data.constantPacketRate with
    | none =>
      rw [endpoints_resize_none.mpr packetsFound, pressureOf, pressureOf] <;>
        simp [PressureVerdict.isCeiling, PressureVerdict.isPolicing]
    | some packetEnds =>
      obtain ⟨turnedBytes, turnedBytesFound⟩ := exists_endpoints_resize reflect bytesFound
      obtain ⟨turnedPackets, turnedPacketsFound⟩ := exists_endpoints_resize reflect packetsFound
      obtain ⟨smallByte, largeByte, bytePair, byteFirst, byteSecond⟩ :=
        exists_endPair_of_resize reversesBytes (endPair_of_endpoints turnedBytesFound)
      obtain ⟨smallPacket, largePacket, packetPair, packetFirst, packetSecond⟩ :=
        exists_endPair_of_resize reversesPackets (endPair_of_endpoints turnedPacketsFound)
      obtain ⟨sameCeiling, samePolicing, -, -⟩ :=
        agree byteEnds (smallByte, largeByte) packetEnds (smallPacket, largePacket)
          (endPair_of_endpoints bytesFound) bytePair (endPair_of_endpoints packetsFound) packetPair
      have turnedPolicing : policingSignature turnedBytes = ceilingSignature byteEnds := by
        rw [← sameCeiling, policingSignature, ceilingSignature, byteFirst, byteSecond]
      have turnedCeiling : ceilingSignature turnedPackets = policingSignature packetEnds := by
        rw [← samePolicing, policingSignature, ceilingSignature, packetFirst, packetSecond]
      rw [turnedBytesFound, turnedPacketsFound, pressureOf_isCeiling, pressureOf_isPolicing,
        pressureOf_isCeiling, pressureOf_isPolicing, turnedPolicing, turnedCeiling]
      exact ⟨Bool.and_comm _ _, Bool.and_comm _ _⟩

/-- A sweep can be run in any order exactly where the repeats at its ends agree. -/
theorem classifyPressure_freeOfOrder_iff (data : SizeRateMatrix) :
    (FreeOfOrder data ∧ MirrorExchanges data ∧
      ∀ payloadSize offeredCount elapsedSecs receivedCount ipFamily mtuSafe loss,
        (SizePoint.fromCounts payloadSize offeredCount elapsedSecs receivedCount
          ipFamily mtuSafe).lossPercent = some loss →
        0 ≤ loss ∧ loss ≤ 100) ↔ TiesAgree data := by
  constructor
  · rintro ⟨free, -, -⟩
    exact freeOfOrder_iff.mp free
  · intro agree
    exact ⟨freeOfOrder_iff.mpr agree, mirrorExchanges_of_tiesAgree agree,
      fun _ _ _ _ _ _ _ measured => SizePoint.fromCounts_loss_bounds measured⟩

/-- The smallest size is sent twice: once most of it is lost, once nothing. -/
def repeatedSize : SizeRateMatrix where
  mode := .directional
  constantByteRate :=
    [SizePoint.fromCounts 200 100 1 20 (some .v4) true, SizePoint.fromCounts 200 100 1 100
      (some .v4) true, SizePoint.fromCounts 1472 100 1 100 (some .v4) true]
  constantPacketRate :=
    [SizePoint.fromCounts 200 100 1 100 (some .v4) true, SizePoint.fromCounts 1472 100 1 100
      (some .v4) true]

theorem repeatedSize_not_freeOfOrder : ¬ FreeOfOrder repeatedSize := by
  intro free
  have swapped := free _ _ (List.Perm.swap _ _ _) (List.Perm.refl _)
  have verdicts := congrArg PressureVerdict.isCeiling swapped
  norm_num [classifyPressure, repeatedSize, endpoints, usable, SizePoint.fromCounts, sortByKey,
    pressureOf, ceilingSignature, policingSignature, materialRise, SizePoint.loss,
    PressureVerdict.isCeiling] at verdicts

end Mirrors

end FragglePacket.NetworkTests
