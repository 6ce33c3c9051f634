import FragglePacket.Fuzzing.Build
import FragglePacket.Fuzzing.Fragment

/-! When the splitting loop of `fragment` ends. A size of zero is a multiple of eight
and leaves the offset where it is. -/

namespace FragglePacket.Fuzzing

open FragglePacket.Wire

/-- Every round of the splitting loop moves the offset, and `fragment` comes back with
packets or an error. -/
structure Terminates (crate : Etherparse) (overflowChecks : Bool) (draw : Nat → UInt16)
    (fragsize : Nat) (packet : Packet) : Prop where
  progress : ∀ before ip upper upperBytes, splitAtIp packet.layers = some (before, ip, upper) →
    buildLayers crate overflowChecks draw upper = .ok upperBytes →
      ∀ offsetBytes < upperBytes.length, offsetBytes <
        min (offsetBytes + fragsize) upperBytes.length
  returns : ∃ fuel result, packet.fragment crate overflowChecks draw fuel fragsize = some result ∧
    result ≠ .error .overflow

/-- The layers above the first IPv4 layer do not panic, and a size of zero has no bytes
of theirs to split. -/
def Splits (overflowChecks : Bool) (fragsize : Nat) (packet : Packet) : Prop :=
  ∀ before ip upper, splitAtIp packet.layers = some (before, ip, upper) →
    ¬ Panics overflowChecks upper ∧
      (fragsize = 0 → Buildable overflowChecks upper → encodedSize upper = 0)

/-- With nothing to advance by, the loop outruns any fuel. -/
theorem fragmentLoop_stuck {before : List Layer} {ip : Ip} {protoHint : Option UInt8}
    {upperBytes : Bytes} (fuel : Nat) {offsetBytes : Nat} (more : offsetBytes < upperBytes.length) :
    fragmentLoop before ip protoHint upperBytes 0 fuel offsetBytes = none := by
  induction fuel with
  | zero => rfl
  | succ fuel ih =>
    have stay : min offsetBytes upperBytes.length = offsetBytes :=
      Nat.min_eq_left (Nat.le_of_lt more)
    simp [fragmentLoop, more, stay, ih]

section Outcome
variable {crate : Etherparse} {overflowChecks : Bool} {draw : Nat → UInt16} {packet : Packet}
  {fragsize : Nat}

theorem fragment_without_ip (aligned : fragsize % 8 = 0) (absent : splitAtIp packet.layers = none)
    (fuel : Nat) : packet.fragment crate overflowChecks draw fuel fragsize =
      some (.error (.build "fragment() requires an IP layer")) := by
  simp [Packet.fragment, aligned, absent]

section Split
variable {before upper : List Layer} {ip : Ip}
  (aligned : fragsize % 8 = 0) (split : splitAtIp packet.layers = some (before, ip, upper))
include aligned split

theorem fragment_of_failure {failure : Failure}
    (failed : buildLayers crate overflowChecks draw upper = .error failure) (fuel : Nat) :
    packet.fragment crate overflowChecks draw fuel fragsize = some (.error failure) := by
  simp [Packet.fragment, aligned, split, failed]

theorem fragment_of_bytes {upperBytes : Bytes}
    (built : buildLayers crate overflowChecks draw upper = .ok upperBytes) (fuel : Nat) :
    packet.fragment crate overflowChecks draw fuel fragsize =
      if upperBytes.length = 0 then some (.ok [packet])
      else (fragmentLoop before ip (inferProtoFromLayers upper) upperBytes fragsize fuel 0).map
        .ok := by
  simp [Packet.fragment, aligned, split, built]

/-- Bytes are split to the end exactly when there is a size to advance by. -/
theorem fragment_of_bytes_returns {upperBytes : Bytes}
    (built : buildLayers crate overflowChecks draw upper = .ok upperBytes)
    (advances : fragsize = 0 → upperBytes.length = 0) :
    ∃ fuel packets, packet.fragment crate overflowChecks draw fuel fragsize =
      some (.ok packets) := by
  by_cases empty : upperBytes.length = 0
  · exact ⟨0, [packet], by rw [fragment_of_bytes aligned split built, if_pos empty]⟩
  · have positive : 0 < fragsize := Nat.pos_of_ne_zero fun zero => empty (advances zero)
    have looped : ∃ packets, fragmentLoop before ip (inferProtoFromLayers upper) upperBytes fragsize
        (upperBytes.length + 1) 0 = some packets :=
      fragmentLoop_returns positive _ 0 (by omega)
    obtain ⟨packets, looped⟩ := looped
    refine ⟨upperBytes.length + 1, packets, ?_⟩
    rw [fragment_of_bytes aligned split built, if_neg empty, looped, Option.map_some]

/-- With a size of zero and bytes to split, no fuel is enough. -/
theorem fragment_stuck {upperBytes : Bytes}
    (built : buildLayers crate overflowChecks draw upper = .ok upperBytes) (zero : fragsize = 0)
    (bytes : upperBytes.length ≠ 0) (fuel : Nat) :
    packet.fragment crate overflowChecks draw fuel fragsize = none := by
  subst zero
  rw [fragment_of_bytes aligned split built, if_neg bytes,
    fragmentLoop_stuck fuel (Nat.pos_of_ne_zero bytes), Option.map_none]

end Split

end Outcome

/-- `fragment` with a size it admits ends exactly on packets it can split. -/
theorem fragment_terminates_iff {crate : Etherparse} (documented : crate.Documented)
    (overflowChecks : Bool) (draw : Nat → UInt16) (packet : Packet) (fragsize : Nat)
    (aligned : fragsize % 8 = 0) :
    Terminates crate overflowChecks draw fragsize packet ↔
      Splits overflowChecks fragsize packet := by
  constructor
  · intro ⟨progress, fuel, result, returned, settled⟩ before ip upper split
    refine ⟨fun panics => ?_, fun zero buildable => ?_⟩
    · have failed := (buildLayers_overflow_iff documented overflowChecks draw upper).mpr panics
      rw [fragment_of_failure aligned split failed] at returned
      exact settled (Option.some.inj returned).symm
    · obtain ⟨upperBytes, built⟩ :=
        (buildLayers_ok_iff documented overflowChecks draw upper).mpr buildable
      rw [← buildLayers_length documented built]
      by_contra bytes
      have moved := progress before ip upper upperBytes split built 0 (Nat.pos_of_ne_zero bytes)
      omega
  · intro splits
    constructor
    · intro before ip upper upperBytes split built offsetBytes more
      obtain ⟨_, advances⟩ := splits before ip upper split
      have size := buildLayers_length documented built
      have buildable :=
        (buildLayers_ok_iff documented overflowChecks draw upper).mp ⟨upperBytes, built⟩
      have positive : fragsize ≠ 0 := fun zero => by
        have none := advances zero buildable
        omega
      omega
    · cases split : splitAtIp packet.layers with
      | none => exact ⟨0, _, fragment_without_ip aligned split 0, by simp⟩
      | some parts =>
        obtain ⟨before, ip, upper⟩ := parts
        obtain ⟨calm, advances⟩ := splits before ip upper split
        rcases buildLayers_outcome documented overflowChecks draw upper with
          ⟨buildable, _, upperBytes, built⟩ | ⟨_, panics, _⟩ | ⟨_, _, message, failed⟩
        · have size := buildLayers_length documented built
          obtain ⟨fuel, packets, returned⟩ := fragment_of_bytes_returns aligned split built
            fun zero => size.trans (advances zero buildable)
          exact ⟨fuel, _, returned, by simp⟩
        · exact absurd panics calm
        · exact ⟨0, _, fragment_of_failure aligned split failed 0, by simp⟩

theorem fragment_terminates_raw : Terminates .reference true (fun _ => 0) 8
    ⟨[.ip (.new 1), .raw ⟨List.replicate 20 67⟩]⟩ :=
  (fragment_terminates_iff Etherparse.reference_documented true (fun _ => 0) _ 8 rfl).mpr
    fun _ _ _ split => by
      obtain ⟨rfl, rfl, rfl⟩ : [] = _ ∧ Ip.new 1 = _ ∧ [Layer.raw ⟨List.replicate 20 67⟩] = _ := by
        simpa [splitAtIp, Layer.ip?] using split
      exact ⟨id, by simp⟩

/-- One byte to split into fragments of no bytes keeps the loop at its first round. -/
theorem fragment_zero_runs_on :
    ¬ ∀ (crate : Etherparse), crate.Documented → ∀ (overflowChecks : Bool)
    (draw : Nat → UInt16) (packet : Packet) (fragsize : Nat), fragsize % 8 = 0 →
      Terminates crate overflowChecks draw fragsize packet := by
  intro claim
  obtain ⟨_, fuel, result, returned, _⟩ :=
    claim .reference Etherparse.reference_documented true (fun _ => 0)
      ⟨[.ip (.new 1), .raw ⟨[67]⟩]⟩ 0 rfl
  have split : splitAtIp [.ip (.new 1), .raw ⟨[67]⟩] = some ([], .new 1, [.raw ⟨[67]⟩]) := rfl
  have built : buildLayers .reference true (fun _ => 0) [.raw ⟨[67]⟩] = .ok [67] := rfl
  rw [fragment_stuck rfl split built rfl (by decide)] at returned
  cases returned

end FragglePacket.Fuzzing
