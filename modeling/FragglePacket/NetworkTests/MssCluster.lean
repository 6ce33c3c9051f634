import Mathlib.Data.List.Perm.Basic

/-! Segment sizes that several destinations negotiated: their spread, and whether the path, a
clamp or each peer is behind them. -/

namespace FragglePacket.NetworkTests

structure DestinationMss where
  destination : String
  negotiatedMss : UInt16

inductive ClusterVerdict where
  | peerSpecific
  | uniformClampOrProxy
  | truePmtuCeiling
  | inconclusive
deriving DecidableEq

structure GapTwentySixReport where
  destinations : List DestinationMss
  routeMtu : Option UInt16
  routeInterface : Option String
  routeIsTunnel : Bool
  largeDfProbeConfirmed : Option Bool
  mssSpread : Nat
  verdict : ClusterVerdict
  explanation : String

/-- Sizes this close to each other count as one. -/
def convergenceToleranceBytes : Nat := 24

def negotiatedSizes (destinations : List DestinationMss) : List Nat :=
  destinations.map (·.negotiatedMss.toNat)

def spreadOf (values : List Nat) : Nat :=
  match values.min?, values.max? with
  | some least, some greatest => greatest - least
  | _, _ => 0

/-- The verdict and its explanation, from the number of destinations and their spread. -/
def discriminate (count spread : Nat) (largeDfProbeConfirmed : Option Bool) :
    ClusterVerdict × String :=
  if count < 2 then
    (.inconclusive, "fewer than two independent destinations probed; cannot cluster")
  else if convergenceToleranceBytes < spread then
    (.peerSpecific, "MSS spread of " ++ toString spread ++ " bytes across " ++ toString count ++
      " destinations exceeds the " ++ toString convergenceToleranceBytes ++
      "-byte convergence tolerance -- values are destination-specific, no evidence of a uniform clamp")
  else
    let converged := "MSS converged to within " ++ toString spread ++ " bytes across " ++
      toString count ++ " independent destinations"
    match largeDfProbeConfirmed with
    | some true =>
      (.uniformClampOrProxy, converged ++
        ", but a large DF-marked probe on the same path was confirmed to succeed " ++
        "-- a true PMTU ceiling would have broken that probe too, so this is TCP-specific clamping or " ++
        "transparent proxying, not a low path MTU")
    | some false =>
      (.truePmtuCeiling, converged ++
        " AND a large DF-marked probe on the same path failed to be confirmed " ++
        "-- consistent with a true path MTU ceiling")
    | none =>
      (.inconclusive, converged ++
        ", but no large DF-marked probe result is available to discriminate " ++
        "a TCP clamp from a true PMTU ceiling")

def clusterDestinationMss (destinations : List DestinationMss) (routeMtu : Option UInt16)
    (routeInterface : Option String) (routeIsTunnel : Bool) (largeDfProbeConfirmed : Option Bool) :
    GapTwentySixReport :=
  let spread := spreadOf (negotiatedSizes destinations)
  let (verdict, explanation) := discriminate destinations.length spread largeDfProbeConfirmed
  { destinations := destinations, routeMtu := routeMtu, routeInterface := routeInterface
    routeIsTunnel := routeIsTunnel, largeDfProbeConfirmed := largeDfProbeConfirmed
    mssSpread := spread, verdict := verdict, explanation := explanation }

/-- Destinations of at least two names. -/
def Independent (destinations : List DestinationMss) : Prop :=
  ∃ first ∈ destinations, ∃ second ∈ destinations, first.destination ≠ second.destination

/-- No two sizes are further apart than the tolerance. -/
def Converged (values : List Nat) : Prop :=
  ∀ low ∈ values, ∀ high ∈ values, high ≤ low + convergenceToleranceBytes

/-- A full-size segment takes the route's MTU less 40 bytes of headers. Some destination
negotiated less than that, where the MTU is known. -/
def Reduced (destinations : List DestinationMss) (routeMtu : Option UInt16) : Prop :=
  ∀ mtu, routeMtu = some mtu → 40 ≤ mtu.toNat →
    ∃ d ∈ destinations, d.negotiatedMss.toNat < mtu.toNat - 40

/-- What a report has to say of its destinations. -/
structure GapTwentySixReport.Just (report : GapTwentySixReport) : Prop where
  independent : report.verdict ≠ .inconclusive → Independent report.destinations
  spread : ∀ least ∈ negotiatedSizes report.destinations,
    ∀ greatest ∈ negotiatedSizes report.destinations,
    (∀ size ∈ negotiatedSizes report.destinations, least ≤ size ∧ size ≤ greatest) →
      report.mssSpread = greatest - least
  peerSpecific : report.verdict = .peerSpecific → 24 < report.mssSpread
  clamp : report.verdict = .uniformClampOrProxy →
    report.mssSpread ≤ 24 ∧ report.largeDfProbeConfirmed = some true
  ceiling : report.verdict = .truePmtuCeiling →
    report.mssSpread ≤ 24 ∧ report.largeDfProbeConfirmed = some false
  reduced : report.verdict = .uniformClampOrProxy → Reduced report.destinations report.routeMtu
  permuted : ∀ destinations, report.destinations.Perm destinations →
    let again :=
      clusterDestinationMss destinations report.routeMtu report.routeInterface report.routeIsTunnel
        report.largeDfProbeConfirmed
    again.verdict = report.verdict ∧ again.mssSpread = report.mssSpread

/-- Two entries are two destinations wherever they are judged, and sizes that converge beside
a successful probe are below those of the route. -/
structure Discriminating (destinations : List DestinationMss) (routeMtu : Option UInt16)
    (largeDfProbeConfirmed : Option Bool) : Prop where
  independent : 2 ≤ destinations.length →
    (Converged (negotiatedSizes destinations) → largeDfProbeConfirmed ≠ none) →
      Independent destinations
  reduced : 2 ≤ destinations.length → Converged (negotiatedSizes destinations) →
    largeDfProbeConfirmed = some true → Reduced destinations routeMtu

section Spread
variable {values values' : List Nat}

theorem spreadOf_eq {least greatest : Nat} (first : least ∈ values) (last : greatest ∈ values)
    (between : ∀ size ∈ values, least ≤ size ∧ size ≤ greatest) :
    spreadOf values = greatest - least := by
  have min : values.min? = some least :=
    List.min?_eq_some_iff.mpr ⟨first, fun size member => (between size member).1⟩
  have max : values.max? = some greatest :=
    List.max?_eq_some_iff.mpr ⟨last, fun size member => (between size member).2⟩
  rw [spreadOf, min, max]

theorem spreadOf_perm (permuted : values.Perm values') : spreadOf values' = spreadOf values := by
  have min : values'.min? = values.min? := by
    apply Option.ext
    intro least
    simp only [List.min?_eq_some_iff, permuted.mem_iff]
  have max : values'.max? = values.max? := by
    apply Option.ext
    intro greatest
    simp only [List.max?_eq_some_iff, permuted.mem_iff]
  rw [spreadOf, spreadOf, min, max]

/-- The smallest and the largest of the sizes lie furthest apart. -/
theorem spreadOf_le_iff : spreadOf values ≤ convergenceToleranceBytes ↔ Converged values := by
  cases values with
  | nil => simp [spreadOf, Converged]
  | cons head rest =>
    have some : head ∈ head :: rest := List.mem_cons_self
    obtain ⟨least, min⟩ := Option.isSome_iff_exists.mp (List.isSome_min?_of_mem some)
    obtain ⟨greatest, max⟩ := Option.isSome_iff_exists.mp (List.isSome_max?_of_mem some)
    obtain ⟨first, below⟩ := List.min?_eq_some_iff.mp min
    obtain ⟨last, above⟩ := List.max?_eq_some_iff.mp max
    rw [spreadOf_eq first last fun size member => ⟨below size member, above size member⟩]
    constructor
    · intro near low lowMember high highMember
      have := below low lowMember
      have := above high highMember
      omega
    · intro converged
      have := converged least first greatest last
      omega

end Spread

section Verdict
variable {count spread : Nat} {largeDfProbeConfirmed : Option Bool}

theorem discriminate_eq_peerSpecific_iff :
    (discriminate count spread largeDfProbeConfirmed).1 = .peerSpecific ↔
      2 ≤ count ∧ convergenceToleranceBytes < spread := by
  fun_cases discriminate count spread largeDfProbeConfirmed <;> simp <;> omega

theorem discriminate_eq_uniformClampOrProxy_iff :
    (discriminate count spread largeDfProbeConfirmed).1 = .uniformClampOrProxy ↔
      2 ≤ count ∧ spread ≤ convergenceToleranceBytes ∧ largeDfProbeConfirmed = some true := by
  fun_cases discriminate count spread largeDfProbeConfirmed <;> simp <;> omega

theorem discriminate_eq_truePmtuCeiling_iff :
    (discriminate count spread largeDfProbeConfirmed).1 = .truePmtuCeiling ↔
      2 ≤ count ∧ spread ≤ convergenceToleranceBytes ∧ largeDfProbeConfirmed = some false := by
  fun_cases discriminate count spread largeDfProbeConfirmed <;> simp <;> omega

theorem discriminate_eq_inconclusive_iff :
    (discriminate count spread largeDfProbeConfirmed).1 = .inconclusive ↔
      count < 2 ∨ spread ≤ convergenceToleranceBytes ∧ largeDfProbeConfirmed = none := by
  fun_cases discriminate count spread largeDfProbeConfirmed <;> simp <;> omega

end Verdict

theorem clusterDestinationMss_perm {destinations destinations' : List DestinationMss}
    (permuted : destinations.Perm destinations') (routeMtu : Option UInt16)
    (routeInterface : Option String) (routeIsTunnel : Bool) (largeDfProbeConfirmed : Option Bool) :
    let report :=
      clusterDestinationMss destinations routeMtu routeInterface routeIsTunnel largeDfProbeConfirmed
    let again := clusterDestinationMss destinations' routeMtu routeInterface routeIsTunnel
      largeDfProbeConfirmed
    again.verdict = report.verdict ∧ again.mssSpread = report.mssSpread := by
  have spread : spreadOf (negotiatedSizes destinations') =
      spreadOf (negotiatedSizes destinations) :=
    spreadOf_perm (permuted.map _)
  simp only [clusterDestinationMss, spread, permuted.length_eq, and_self]

/-- The verdict is just exactly when every judged list has two names, and no converged one
beside a successful probe is as large as the route allows. -/
theorem clusterDestinationMss_just_iff (destinations : List DestinationMss)
    (routeMtu : Option UInt16) (routeInterface : Option String) (routeIsTunnel : Bool)
    (largeDfProbeConfirmed : Option Bool) :
    (clusterDestinationMss destinations routeMtu routeInterface
      routeIsTunnel largeDfProbeConfirmed).Just ↔
      Discriminating destinations routeMtu largeDfProbeConfirmed := by
  have converged : spreadOf (negotiatedSizes destinations) ≤ convergenceToleranceBytes ↔
      Converged (negotiatedSizes destinations) := spreadOf_le_iff
  constructor
  · intro just
    constructor
    · intro several probed
      apply just.independent
      intro inconclusive
      rcases discriminate_eq_inconclusive_iff.mp inconclusive with few | ⟨near, unprobed⟩
      · omega
      · exact probed (converged.mp near) unprobed
    · intro several near confirmed
      exact just.reduced (discriminate_eq_uniformClampOrProxy_iff.mpr
        ⟨several, converged.mpr near, confirmed⟩)
  · intro discriminating
    constructor
    · intro judged
      obtain ⟨several, conclusive⟩ := not_or.mp (mt discriminate_eq_inconclusive_iff.mpr judged)
      exact discriminating.independent (Nat.not_lt.mp several) fun near unprobed =>
        conclusive ⟨converged.mpr near, unprobed⟩
    · intro least first greatest last between
      exact spreadOf_eq first last between
    · intro verdict
      exact (discriminate_eq_peerSpecific_iff.mp verdict).2
    · intro verdict
      exact (discriminate_eq_uniformClampOrProxy_iff.mp verdict).2
    · intro verdict
      exact (discriminate_eq_truePmtuCeiling_iff.mp verdict).2
    · intro verdict
      obtain ⟨several, near, confirmed⟩ := discriminate_eq_uniformClampOrProxy_iff.mp verdict
      exact discriminating.reduced several (converged.mp near) confirmed
    · intro destinations' permuted
      exact clusterDestinationMss_perm permuted routeMtu routeInterface routeIsTunnel
        largeDfProbeConfirmed

/-- Two peers that negotiated full-size segments on an ordinary Ethernet route. -/
def fullSizePeers : List DestinationMss := [⟨"apple", 1460⟩, ⟨"google", 1460⟩]

/-- A healthy path is reported as clamped. -/
theorem clusterDestinationMss_blames_healthy_path :
    ¬ (clusterDestinationMss fullSizePeers (some 1500) (some "en0") false (some true)).Just := by
  intro just
  obtain ⟨d, member, reduced⟩ := just.reduced (by decide) 1500 rfl (by decide)
  revert reduced
  have full : ∀ d ∈ fullSizePeers, d.negotiatedMss.toNat = 1460 := by decide
  rw [full d member]
  decide

end FragglePacket.NetworkTests
