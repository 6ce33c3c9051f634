import FragglePacket.Load.Wdutil

/-! The radio diagnostic out of an unprivileged snapshot and the privileged
fields, and when the two agree. -/

namespace FragglePacket.Load

open FragglePacket.Text

/-- Whether the build traps an overflow or lets it wrap. -/
inductive OverflowChecks where
  | trapped
  | wrapping
  deriving DecidableEq

def FitsI32 (value : Int) : Prop := -2 ^ 31 ≤ value ∧ value < 2 ^ 31

instance (value : Int) : Decidable (FitsI32 value) := inferInstanceAs (Decidable (_ ∧ _))

/-- The difference of two `i32`; nothing is computed where the build traps. -/
def OverflowChecks.sub (checks : OverflowChecks) (left right : Int32) : Option Int32 :=
  if checks = .wrapping ∨ FitsI32 (left.toInt - right.toInt) then some (left - right) else none

/-- `snr_db`, with the difference that may trap in front. -/
def RadioSnapshot.checkedSnrDb (checks : OverflowChecks) (snap : RadioSnapshot) :
    Option (Option Int32) :=
  match snap.rssiDbm, snap.noiseDbm with
  | some rssi, some noise => (checks.sub rssi noise).map some
  | _, _ => some none

/-- `classify_rf`, which takes the difference of an associated snapshot only. -/
def checkedClassifyRf (checks : OverflowChecks) (snap : RadioSnapshot) : Option RfQuality :=
  if !snap.associated then some (classifyRf snap)
  else (snap.checkedSnrDb checks).map fun _ => classifyRf snap

structure RadioDiagnostic where
  associated : Bool
  band : Option String
  channel : Option UInt32
  widthMhz : Option UInt32
  rssiDbm : Option Int32
  noiseDbm : Option Int32
  snrDb : Option Int32
  mcsIndex : Option UInt32
  txRateMbps : Option F64
  rfQuality : RfQuality
  channelUtilizationPct : Option F64
  retries : Option UInt64
  wmmAccessCategory : Option String
  platformLimitations : List String
  privilegeNote : Option String

def retryLimitation : String :=
  "retry counters are not exposed by any known unprivileged or privileged macOS CLI path (system_profiler, ioreg, " ++
    "or wdutil info); this platform genuinely cannot report them, not a zero measurement"

def wmmLimitation : String :=
  "WMM access-category state is not exposed by any known unprivileged or privileged macOS CLI path on this platform"

/-- What limits the channel utilization, over what the platform never reports. -/
def platformLimitations (privileged : Except WdutilError WdutilFields) : List String :=
  [retryLimitation, wmmLimitation] ++
    match privileged with
    | .ok f =>
      if f.ccaPercent.isNone then
        ["channel utilization (CCA%) was not present in this wdutil info output"] else []
    | .error e => ["channel utilization (CCA%) requires elevated wdutil access: " ++ e.text]

def privilegeNote (privileged : Except WdutilError WdutilFields) : Option String :=
  match privileged with
  | .ok _ => none
  | .error (.privilegeRequired command) => some ("re-run as: " ++ command)
  | .error e => some e.text

/-- The base snapshot with the privileged figures in front of its own, where there are any. -/
def RadioSnapshot.merged (base : RadioSnapshot) (privileged : Except WdutilError WdutilFields) :
    RadioSnapshot :=
  match privileged with
  | .ok f =>
    { base with
      rssiDbm := f.rssiDbm.or base.rssiDbm
      noiseDbm := f.noiseDbm.or base.noiseDbm
      mcsIndex := f.mcsIndex.or base.mcsIndex
      txRateMbps := f.txRateMbps.or base.txRateMbps }
  | .error _ => base

/-- The quality is classified from the base, before the figures are merged. -/
def buildDiagnostic (checks : OverflowChecks) (base : RadioSnapshot)
    (privileged : Except WdutilError WdutilFields) :
    Option RadioDiagnostic := do
  let rfQuality ← checkedClassifyRf checks base
  let figures := base.merged privileged
  let snrDb ← figures.checkedSnrDb checks
  pure {
    associated := base.associated
    band := base.band
    channel := base.channel
    widthMhz := base.widthMhz
    rssiDbm := figures.rssiDbm
    noiseDbm := figures.noiseDbm
    snrDb := snrDb
    mcsIndex := figures.mcsIndex
    txRateMbps := figures.txRateMbps
    rfQuality := rfQuality
    channelUtilizationPct := privileged.toOption.bind (·.ccaPercent)
    retries := none
    wmmAccessCategory := none
    platformLimitations := platformLimitations privileged
    privilegeNote := privilegeNote privileged }

/-- The quality and the ratio are those of the figures reported beside them. -/
structure RadioDiagnostic.SelfConsistent (base : RadioSnapshot) (d : RadioDiagnostic) : Prop where
  quality : d.rfQuality = classifyRf
    { base with rssiDbm := d.rssiDbm, noiseDbm := d.noiseDbm, mcsIndex := d.mcsIndex,
                txRateMbps := d.txRateMbps }
  reported : d.snrDb.isSome = true ↔ d.rssiDbm.isSome = true ∧ d.noiseDbm.isSome = true
  exact : ∀ rssi noise snr, d.rssiDbm = some rssi → d.noiseDbm = some noise → d.snrDb = some snr →
    snr.toInt = rssi.toInt - noise.toInt

section Quality

def RadioSnapshot.NoOverflow (snap : RadioSnapshot) : Prop :=
  ∀ rssi noise, snap.rssiDbm = some rssi → snap.noiseDbm = some noise →
    FitsI32 (rssi.toInt - noise.toInt)

def RadioSnapshot.Weak (snap : RadioSnapshot) : Prop :=
  ∃ rssi, snap.rssiDbm = some rssi ∧ rssi ≤ weakRssiDbm

def RadioSnapshot.Unstable (snap : RadioSnapshot) : Prop :=
  ∃ rssi snr, snap.rssiDbm = some rssi ∧ weakRssiDbm < rssi ∧ snap.snrDb = some snr ∧
    snr < unstableSnrDb

/-- Both hold a signal or neither does, and both signals are weak or unstable alike. -/
structure SameBands (base figures : RadioSnapshot) : Prop where
  known : base.rssiDbm = none ↔ figures.rssiDbm = none
  weak : base.Weak ↔ figures.Weak
  unstable : base.Unstable ↔ figures.Unstable

variable {snap base figures : RadioSnapshot} {checks : OverflowChecks}

/-- What each quality of an associated radio says of its signal. -/
theorem classifyRf_bands (associated : snap.associated = true) :
    (classifyRf snap = .unknown ↔ snap.rssiDbm = none) ∧
    (classifyRf snap = .weak ↔ snap.Weak) ∧ (classifyRf snap = .unstable ↔ snap.Unstable) := by
  unfold classifyRf RadioSnapshot.Weak RadioSnapshot.Unstable
  rw [associated]
  cases snap.rssiDbm with
  | none => simp
  | some rssi =>
    have above : weakRssiDbm < rssi ↔ ¬ rssi ≤ weakRssiDbm := Int32.not_le.symm
    cases snap.snrDb with
    | none => by_cases weak : rssi ≤ weakRssiDbm <;> simp [weak]
    | some snr =>
      by_cases weak : rssi ≤ weakRssiDbm <;> by_cases noisy : snr <
        unstableSnrDb <;> simp [above, weak, noisy]

theorem classifyRf_eq_iff (associated : base.associated = true)
    (alike : figures.associated = base.associated) :
    classifyRf base = classifyRf figures ↔ SameBands base figures := by
  obtain ⟨unknown, weak, unstable⟩ := classifyRf_bands associated
  obtain ⟨unknown', weak', unstable'⟩ := classifyRf_bands (alike.trans associated)
  constructor
  · intro same
    refine ⟨?_, ?_, ?_⟩
    · rw [← unknown, same, unknown']
    · rw [← weak, same, weak']
    · rw [← unstable, same, unstable']
  · rintro ⟨known, weakAlike, unstableAlike⟩
    rw [← unknown, ← unknown'] at known
    rw [← weak, ← weak'] at weakAlike
    rw [← unstable, ← unstable'] at unstableAlike
    cases quality : classifyRf base <;> cases quality' : classifyRf figures <;> simp_all

theorem toInt_sub_eq_iff (left right : Int32) :
    (left - right).toInt = left.toInt - right.toInt ↔ FitsI32 (left.toInt - right.toInt) := by
  rw [Int32.toInt_sub, Int.bmod_eq_iff (by decide)]
  unfold FitsI32
  omega

theorem sub_eq_some_iff {left right difference : Int32} : checks.sub left right = some difference ↔
    difference = left - right ∧ (checks = .trapped → FitsI32 (left.toInt - right.toInt)) := by
  unfold OverflowChecks.sub
  cases checks with
  | wrapping => simp [eq_comm]
  | trapped => by_cases fits : FitsI32 (left.toInt - right.toInt) <;> simp [fits, eq_comm]

theorem checkedSnrDb_eq_some_iff {snr : Option Int32} :
    snap.checkedSnrDb checks = some snr ↔
      snr = snap.snrDb ∧ (checks = .trapped → snap.NoOverflow) := by
  unfold RadioSnapshot.checkedSnrDb RadioSnapshot.snrDb RadioSnapshot.NoOverflow
  cases snap.rssiDbm with
  | none => simp [eq_comm]
  | some rssi =>
    cases snap.noiseDbm with
    | none => simp [eq_comm]
    | some noise =>
      simp only [Option.map_eq_some_iff, sub_eq_some_iff, Option.some.injEq]
      constructor
      · rintro ⟨difference, ⟨rfl, fits⟩, rfl⟩
        refine ⟨rfl, fun trapped => ?_⟩
        rintro _ _ rfl rfl
        exact fits trapped
      · rintro ⟨rfl, fits⟩
        exact ⟨_, ⟨rfl, fun trapped => fits trapped rssi noise rfl rfl⟩, rfl⟩

theorem checkedClassifyRf_eq_some_iff {quality : RfQuality} :
    checkedClassifyRf checks snap = some quality ↔
    quality = classifyRf snap ∧ (checks = .trapped → snap.associated = true → snap.NoOverflow) := by
  unfold checkedClassifyRf
  cases snap.associated with
  | false => simp [eq_comm]
  | true =>
    simp only [Bool.not_true, Bool.false_eq_true, if_false, Option.map_eq_some_iff,
      checkedSnrDb_eq_some_iff]
    constructor
    · rintro ⟨snr, ⟨-, fits⟩, rfl⟩
      exact ⟨rfl, fun trapped _ => fits trapped⟩
    · rintro ⟨rfl, fits⟩
      exact ⟨_, ⟨rfl, fun trapped => fits trapped trivial⟩, rfl⟩

end Quality

section Build
variable {base : RadioSnapshot} {checks : OverflowChecks}
  {privileged : Except WdutilError WdutilFields}

theorem merged_associated : (base.merged privileged).associated = base.associated := by
  cases privileged <;> rfl

/-- Of the base only the figures the diagnostic reports are replaced. -/
theorem merged_eq : base.merged privileged =
    { base with
      rssiDbm := (base.merged privileged).rssiDbm, noiseDbm := (base.merged privileged).noiseDbm
      mcsIndex := (base.merged privileged).mcsIndex,
        txRateMbps := (base.merged privileged).txRateMbps } := by
  cases privileged <;> rfl

theorem snrDb_isSome (snap : RadioSnapshot) :
    snap.snrDb.isSome = true ↔ snap.rssiDbm.isSome = true ∧ snap.noiseDbm.isSome = true := by
  unfold RadioSnapshot.snrDb
  cases snap.rssiDbm <;> cases snap.noiseDbm <;> simp

theorem snrDb_exact_iff (snap : RadioSnapshot) :
    (∀ rssi noise snr, snap.rssiDbm = some rssi → snap.noiseDbm = some noise →
      snap.snrDb = some snr →
      snr.toInt = rssi.toInt - noise.toInt) ↔ snap.NoOverflow := by
  unfold RadioSnapshot.snrDb RadioSnapshot.NoOverflow
  cases snap.rssiDbm <;> cases snap.noiseDbm <;> simp [-Int32.toInt_sub, toInt_sub_eq_iff]

/-- The differences that are taken fit, and the base has the quality of the merged figures. -/
structure Agrees (checks : OverflowChecks) (base figures : RadioSnapshot) : Prop where
  fits : figures.NoOverflow
  baseFits : checks = .trapped → base.associated = true → base.NoOverflow
  bands : base.associated = true → SameBands base figures

theorem classifyRf_merged_iff : classifyRf base = classifyRf (base.merged privileged) ↔
    (base.associated = true → SameBands base (base.merged privileged)) := by
  cases associated : base.associated with
  | true =>
    exact (classifyRf_eq_iff associated merged_associated).trans
      ⟨fun same _ => same, fun same => same rfl⟩
  | false =>
    refine iff_of_true ?_ (fun off => absurd off Bool.false_ne_true)
    unfold classifyRf
    rw [merged_associated, associated]
    rfl

theorem selfConsistent_iff :
    (∃ d, buildDiagnostic checks base privileged = some d ∧ d.SelfConsistent base) ↔
    Agrees checks base (base.merged privileged) := by
  simp only [buildDiagnostic, Option.bind_eq_bind, Option.bind_eq_some_iff,
    checkedClassifyRf_eq_some_iff, checkedSnrDb_eq_some_iff, Option.pure_def, Option.some.injEq]
  constructor
  · rintro ⟨d, ⟨quality, ⟨rfl, baseFits⟩, snr, ⟨rfl, -⟩, rfl⟩, quality, -, exact⟩
    dsimp only at quality exact
    rw [← merged_eq] at quality
    exact ⟨(snrDb_exact_iff _).mp exact, baseFits, classifyRf_merged_iff.mp quality⟩
  · rintro ⟨fits, baseFits, bands⟩
    refine ⟨_, ⟨_, ⟨rfl, baseFits⟩, _, ⟨rfl, fun _ => fits⟩, rfl⟩, ?_, snrDb_isSome _,
      (snrDb_exact_iff _).mpr fits⟩
    dsimp only
    rw [← merged_eq]
    exact classifyRf_merged_iff.mpr bands

end Build

/-- Over any text of `wdutil` and any failure to read it, in either build, a diagnostic is that of
its own figures exactly where the base already had their quality and no difference overflows. -/
theorem buildDiagnostic_consistent_iff (checks : OverflowChecks) (base : RadioSnapshot)
    (source : Except WdutilError Str) :
    (∃ d, buildDiagnostic checks base (source.map parseWdutilInfo) = some d ∧
      d.SelfConsistent base) ↔
      Agrees checks base (base.merged (source.map parseWdutilInfo)) := selfConsistent_iff

def nearSnapshot : RadioSnapshot :=
  ⟨true, some "802.11ax", some "6GHz", some 37, some 80, some (-53), some (-93),
    some (.finite 900), some 9⟩

/-- A weak privileged signal is reported beside the strong quality of the base. -/
theorem weak_signal_reported_strong : ¬ ∃ d,
    buildDiagnostic .wrapping nearSnapshot
      ((Except.ok "WIFI\n    RSSI : -80 dBm\n".toList : Except WdutilError Str).map
        parseWdutilInfo) = some d ∧
      d.SelfConsistent nearSnapshot := by
  have mixed : (buildDiagnostic .wrapping nearSnapshot
      ((Except.ok "WIFI\n    RSSI : -80 dBm\n".toList : Except
        WdutilError Str).map parseWdutilInfo)).map
        (fun d => decide (d.rfQuality = classifyRf { nearSnapshot with
          rssiDbm := d.rssiDbm, noiseDbm := d.noiseDbm, mcsIndex := d.mcsIndex,
            txRateMbps := d.txRateMbps })) =
      some false := by rfl
  rintro ⟨d, built, consistent⟩
  rw [built, Option.map_some, decide_eq_true consistent.quality] at mixed
  exact absurd mixed (by decide)

end FragglePacket.Load
