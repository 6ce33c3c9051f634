import Mathlib.Data.Rat.Defs
import Mathlib.Algebra.Order.Ring.Unbundled.Rat
import FragglePacket.Load.Netstat
import FragglePacket.Text.Str

/-! Qualified deltas of interface counters over a phase. Rates are exact rationals. -/

namespace FragglePacket.Load

open FragglePacket.Text

inductive DeltaQualification where
  | clean
  | counterWrappedOrReset
  | sharedInterfaceUnrelatedTraffic
deriving DecidableEq

structure NormalizedDelta where
  hostDriverRxErrors : UInt64
  hostDriverTxErrors : UInt64
  rxPacketsDelta : UInt64
  txPacketsDelta : UInt64
  rxBytesDelta : UInt64
  txBytesDelta : UInt64
  rxErrorsPer1kPackets : ℚ
  txErrorsPer1kPackets : ℚ
  rxBytesPerSec : ℚ
  txBytesPerSec : ℚ

structure CounterDelta where
  interface : Str
  elapsedSecs : ℚ
  qualification : DeltaQualification
  before : InterfaceCounters
  after : InterfaceCounters
  normalized : Option NormalizedDelta

/-- `u64::saturating_sub`. -/
def saturatingSub (x y : UInt64) : UInt64 := if y ≤ x then x - y else 0

def interfaceLikelySharesTraffic (interface : Str) : Bool :=
  "en".toList.isPrefixOf interface || "eth".toList.isPrefixOf interface ||
    "wlan".toList.isPrefixOf interface

def per1k (errors packets : UInt64) : ℚ :=
  if packets = 0 then 0 else (errors.toNat : ℚ) / (packets.toNat : ℚ) * 1000

def perSec (elapsedSecs : ℚ) (bytes : UInt64) : ℚ :=
  if elapsedSecs ≤ 0 then 0 else (bytes.toNat : ℚ) / elapsedSecs

def deltaQualification (interface : Str) (before after : InterfaceCounters)
    (assumeIsolated : Bool) :
    DeltaQualification :=
  if !after.usableDeltaFrom before then .counterWrappedOrReset
  else if !assumeIsolated && interfaceLikelySharesTraffic interface then
    .sharedInterfaceUnrelatedTraffic
  else .clean

def normalizedDelta (before after : InterfaceCounters) (elapsedSecs : ℚ) : NormalizedDelta :=
  let rxPacketsDelta := after.rxPackets - before.rxPackets
  let txPacketsDelta := after.txPackets - before.txPackets
  let rxBytesDelta := after.rxBytes - before.rxBytes
  let txBytesDelta := after.txBytes - before.txBytes
  let hostDriverRxErrors := saturatingSub after.rxErrors before.rxErrors
  let hostDriverTxErrors := saturatingSub after.txErrors before.txErrors
  { hostDriverRxErrors := hostDriverRxErrors
    hostDriverTxErrors := hostDriverTxErrors
    rxPacketsDelta := rxPacketsDelta
    txPacketsDelta := txPacketsDelta
    rxBytesDelta := rxBytesDelta
    txBytesDelta := txBytesDelta
    rxErrorsPer1kPackets := per1k hostDriverRxErrors rxPacketsDelta
    txErrorsPer1kPackets := per1k hostDriverTxErrors txPacketsDelta
    rxBytesPerSec := perSec elapsedSecs rxBytesDelta
    txBytesPerSec := perSec elapsedSecs txBytesDelta }

def computeDelta (interface : Str) (before after : InterfaceCounters) (elapsedSecs : ℚ)
    (assumeIsolated : Bool) :
    CounterDelta :=
  let qualification := deltaQualification interface before after assumeIsolated
  { interface := interface
    elapsedSecs := elapsedSecs
    qualification := qualification
    before := before
    after := after
    normalized := if qualification = .clean then some (normalizedDelta before after elapsedSecs)
      else none }

/-- None of the six counters went backwards. -/
structure Forward (before after : InterfaceCounters) : Prop where
  traffic : after.usableDeltaFrom before = true
  rxErrors : before.rxErrors ≤ after.rxErrors
  txErrors : before.txErrors ≤ after.txErrors

/-- Each delta, added to the counter before, is the counter after. -/
structure NormalizedDelta.Exact (delta : NormalizedDelta) (before after : InterfaceCounters) :
    Prop where
  rxPackets : before.rxPackets.toNat + delta.rxPacketsDelta.toNat = after.rxPackets.toNat
  txPackets : before.txPackets.toNat + delta.txPacketsDelta.toNat = after.txPackets.toNat
  rxBytes : before.rxBytes.toNat + delta.rxBytesDelta.toNat = after.rxBytes.toNat
  txBytes : before.txBytes.toNat + delta.txBytesDelta.toNat = after.txBytes.toNat
  rxErrors : before.rxErrors.toNat + delta.hostDriverRxErrors.toNat = after.rxErrors.toNat
  txErrors : before.txErrors.toNat + delta.hostDriverTxErrors.toNat = after.txErrors.toNat

/-- Only counters that all went forward are normalized, and exactly; all others are
reported as wrapped or reset. -/
structure CounterDelta.Sound (delta : CounterDelta) : Prop where
  normalized : ∀ values, delta.normalized = some values →
    Forward delta.before delta.after ∧ values.Exact delta.before delta.after
  wrapped : ¬ Forward delta.before delta.after → delta.qualification = .counterWrappedOrReset

theorem add_sub_toNat {before after : UInt64} (forward : before ≤ after) :
    before.toNat + (after - before).toNat = after.toNat := by
  rw [UInt64.toNat_sub_of_le _ _ forward]
  exact Nat.add_sub_cancel' (UInt64.le_iff_toNat_le.mp forward)

theorem normalizedDelta_exact {before after : InterfaceCounters} (forward : Forward before after)
    (elapsedSecs : ℚ) :
    (normalizedDelta before after elapsedSecs).Exact before after := by
  obtain ⟨rxPackets, txPackets, rxBytes, txBytes⟩ :=
    (after.usableDeltaFrom_iff before).mp forward.traffic
  refine ⟨add_sub_toNat rxPackets, add_sub_toNat txPackets, add_sub_toNat rxBytes,
    add_sub_toNat txBytes, ?_, ?_⟩
  · rw [normalizedDelta, saturatingSub, if_pos forward.rxErrors]
    exact add_sub_toNat forward.rxErrors
  · rw [normalizedDelta, saturatingSub, saturatingSub, if_pos forward.txErrors]
    exact add_sub_toNat forward.txErrors

section Delta
variable (interface : Str) (before after : InterfaceCounters) (elapsedSecs : ℚ)
  (assumeIsolated : Bool)

theorem qualification_wrapped_iff :
    (computeDelta interface before after elapsedSecs assumeIsolated).qualification =
      .counterWrappedOrReset ↔
      after.usableDeltaFrom before = false := by
  change deltaQualification interface before after assumeIsolated = _ ↔ _
  rw [deltaQualification]
  cases after.usableDeltaFrom before with
  | false => simp
  | true =>
    simp only [Bool.not_true, Bool.false_eq_true, if_false, Bool.true_eq_false, iff_false]
    split
    · exact DeltaQualification.noConfusion
    · exact DeltaQualification.noConfusion

/-- Normalized values come from counters that are usable. -/
theorem normalized_usable {values : NormalizedDelta}
    (normalized : (computeDelta interface before after elapsedSecs assumeIsolated).normalized =
      some values) :
    after.usableDeltaFrom before = true ∧ values = normalizedDelta before after elapsedSecs := by
  change (if deltaQualification interface before after assumeIsolated = .clean then
    some (normalizedDelta before after elapsedSecs) else none) = some values at normalized
  by_cases clean : deltaQualification interface before after assumeIsolated = .clean
  · rw [if_pos clean] at normalized
    refine ⟨?_, (Option.some.inj normalized).symm⟩
    by_contra unusable
    rw [deltaQualification, Bool.not_eq_true _ |>.mp unusable] at clean
    cases clean
  · rw [if_neg clean] at normalized
    cases normalized

/-- The delta is sound exactly where no error counter went backwards, or a packet or byte
counter did too. -/
theorem computeDelta_sound_iff :
    (computeDelta interface before after elapsedSecs assumeIsolated).Sound ↔
    (before.rxErrors ≤ after.rxErrors ∧ before.txErrors ≤ after.txErrors) ∨
      after.usableDeltaFrom before = false := by
  have wrapped := qualification_wrapped_iff interface before after elapsedSecs assumeIsolated
  constructor
  · intro sound
    by_cases forward : Forward before after
    · exact .inl ⟨forward.rxErrors, forward.txErrors⟩
    · exact .inr (wrapped.mp (sound.wrapped forward))
  · intro condition
    constructor
    · intro values normalized
      obtain ⟨usable, rfl⟩ :=
        normalized_usable interface before after elapsedSecs assumeIsolated normalized
      rcases condition with ⟨rxErrors, txErrors⟩ | unusable
      · have forward : Forward before after := ⟨usable, rxErrors, txErrors⟩
        exact ⟨forward, normalizedDelta_exact forward elapsedSecs⟩
      · rw [usable] at unusable
        cases unusable
    · intro backward
      apply wrapped.mpr
      rcases condition with ⟨rxErrors, txErrors⟩ | unusable
      · exact Bool.eq_false_iff.mpr fun usable => backward ⟨usable, rxErrors, txErrors⟩
      · exact unusable

end Delta

/-- An error counter that was reset alone is normalized as if it had stood still. -/
theorem reset_errors_normalized :
    ¬ ∀ (interface : Str) (before after : InterfaceCounters) (elapsedSecs : ℚ)
    (assumeIsolated : Bool),
      (computeDelta interface before after elapsedSecs assumeIsolated).Sound := by
  intro claim
  have sound := claim "lo0".toList ⟨0, 0, 0, 0, 5, 0⟩ ⟨1000, 1000, 64000, 64000, 0, 0⟩ 1 true
  have reset : ¬ Forward ⟨0, 0, 0, 0, 5, 0⟩ ⟨1000, 1000, 64000, 64000, 0, 0⟩ :=
    fun forward => absurd forward.rxErrors (by decide)
  have unusable := (qualification_wrapped_iff _ _ _ _ _).mp (sound.wrapped reset)
  exact absurd unusable (by decide)

end FragglePacket.Load
