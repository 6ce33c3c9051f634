import FragglePacket.Fuzzing.ProbeRound
import FragglePacket.NetworkTests.Mtu

/-! When the two path MTU searches find the path MTU. -/

namespace FragglePacket.Fuzzing

open FragglePacket.Wire FragglePacket.Search FragglePacket.NetworkTests

/-- The probe returns the largest size in its range that the path lets through, and the
sizes it records are the sizes of the packets it sent. -/
def FindsPathMtu (rig : Rig) (target : Vector UInt8 4) (threshold : Nat)
    (minMtu maxMtu : UInt16) : Prop :=
  ∃ rounds result sent,
    (∀ spare, activePmtuProbe rig target minMtu maxMtu (rounds + spare) =
      some (.ok (result, sent))) ∧
    result.estimatedMtu.map UInt16.toNat = lastAdmitted threshold minMtu.toNat maxMtu.toNat ∧
    sent.map ipv4Size = result.samplesTried.map UInt16.toNat

/-- The largest size a round may ask for: its frame has to fit the capture file, and
after 65535 got through the lower bound would overflow. -/
def Rig.largest (rig : Rig) (threshold : Nat) : Nat :=
  min (rig.pcap.longest 65535 - 14) (if 65535 ≤ threshold then 65534 else 65535)

section Search
variable {rig : Rig} {target : Vector UInt8 4} {threshold : Nat} {minMtu maxMtu : UInt16}

theorem probeSize_eq {size : Nat} (room : 28 ≤ size) : probeSize size = size := Nat.max_eq_left room

theorem Rig.answer_inside {size : Nat} (room : 28 ≤ size) (fits : size ≤ rig.largest threshold) :
    rig.answer threshold size = some (decide (size ≤ threshold)) := by
  have carried := rig.pcap.carries 65535
  simp only [Rig.largest, Nat.le_min] at fits
  simp only [Rig.answer, probeSize_eq room]
  rw [if_neg (by omega)]
  by_cases admitted : size ≤ threshold
  · have inside : ¬ 65535 ≤ size := by
      intro edge
      rw [if_pos (Nat.le_trans edge admitted)] at fits
      omega
    simp only [admitted, if_true, if_neg inside, decide_true]
  · simp only [admitted, if_false, decide_false]

theorem Rig.answer_beyond {size : Nat} (small : size ≤ 65535)
    (beyond : rig.largest threshold < size) :
    rig.answer threshold size = none := by
  have carried := rig.pcap.carries 65535
  have large := Nat.le_max_left size 28
  have cause : rig.pcap.longest 65535 - 14 < size ∨
      (if 65535 ≤ threshold then 65534 else 65535) < size := by
    rw [Rig.largest] at beyond
    omega
  rw [Rig.answer]
  by_cases tooLong : rig.pcap.longest 65535 < 14 + probeSize size
  · rw [if_pos tooLong]
  · have edge : 65535 ≤ threshold ∧ 65535 ≤ size := by
      simp only [probeSize] at tooLong
      rcases cause with frame | top
      · omega
      · by_cases all : 65535 ≤ threshold
        · rw [if_pos all] at top
          exact ⟨all, top⟩
        · rw [if_neg all] at top
          omega
    have admitted : probeSize size ≤ threshold := by
      simp only [probeSize]
      omega
    rw [if_neg tooLong, if_pos admitted, if_pos edge.2]

theorem sized_iff {asked : List Nat} : asked.map probeSize = asked ↔ ∀ size ∈ asked, 28 ≤ size := by
  constructor
  · intro same size member
    have kept : probeSize size = id size :=
      List.map_inj_left.mp (same.trans (List.map_id asked).symm) size member
    calc 28 ≤ probeSize size := Nat.le_max_right size 28
      _ = size := kept
  · intro room
    exact (List.map_congr_left fun size member => probeSize_eq (room size member)).trans
      (List.map_id' asked)

theorem activePmtuProbe_eq_some {fuel : Nat} {result : PmtuProbeResult} {sent : List Bytes} :
    activePmtuProbe rig target minMtu maxMtu fuel = some (.ok (result, sent)) ↔
      ∃ final, loopWhile (fun state => decide (state.lo ≤ state.hi)) (probeRound rig target) fuel
        (.start minMtu maxMtu) = some (.ok final) ∧ final.result = result ∧ final.sent = sent := by
  rw [activePmtuProbe, map_eq_ok_iff]
  simp only [Prod.mk.injEq]

/-- On a threshold path the probe fails exactly when it asks for a size that the headers
alone exceed, or for one that is too large for the capture file or the search. -/
theorem findsPathMtu_iff (documented : rig.crate.Documented)
    (path : ThresholdPath rig target threshold) (ordered : minMtu ≤ maxMtu) :
    FindsPathMtu rig target threshold minMtu maxMtu ↔
      StaysAbove 28 threshold minMtu.toNat maxMtu.toNat ∧
        StaysBelow (rig.largest threshold) threshold minMtu.toNat maxMtu.toNat := by
  have bisects := probe_bisects documented path
  have sized : (ProbeState.start minMtu maxMtu).Sized := rfl
  have top := maxMtu.toNat_lt
  rw [← bisects.returns_iff (fun size => rig.answer_inside)
    (fun size small => rig.answer_beyond (by omega))
    (UInt16.le_iff_toNat_le.mp ordered) (.start minMtu maxMtu) sized rfl]
  constructor
  · intro ⟨rounds, result, sent, returned, best, sizes⟩
    obtain ⟨final, run, rfl, rfl⟩ := activePmtuProbe_eq_some.mp (returned 0)
    have sizedFinal := (bisects.sound run sized).2
    exact ⟨_, final, run, sizedFinal, sized_iff.mp (sizedFinal.symm.trans sizes), best⟩
  · intro ⟨fuel, final, run, sizedFinal, asked, best⟩
    refine ⟨fuel, final.result, final.sent, fun spare => ?_, best,
      sizedFinal.trans (sized_iff.mpr asked)⟩
    exact activePmtuProbe_eq_some.mpr ⟨final, loopWhile_spare run spare, rfl, rfl⟩

/-- Both searches, over every 16-bit range: which of their questions make them fail. -/
theorem path_mtu_search_iff (documented : rig.crate.Documented)
    (path : ThresholdPath rig target threshold) {ping : Nat → PingCommand → Except String Bool}
    (pings : ThresholdPing ping threshold) (test : IcmpMtuTest) (host : String)
    (ordered : minMtu ≤ maxMtu) :
    (FindsPathMtu rig target threshold minMtu maxMtu ↔
      StaysAbove 28 threshold minMtu.toNat maxMtu.toNat ∧
        StaysBelow (rig.largest threshold) threshold minMtu.toNat maxMtu.toNat) ∧
    ((test.withRange minMtu.toNat maxMtu.toNat).FindsMtu ping host threshold ↔
      StaysAbove 28 threshold minMtu.toNat maxMtu.toNat) :=
  ⟨findsPathMtu_iff documented path ordered,
    IcmpMtuTest.findsMtu_iff pings (Nat.le_of_lt_succ maxMtu.toNat_lt)
      (UInt16.le_iff_toNat_le.mp ordered)⟩

end Search

/-- An echo reply from `target`, as a host sends it. -/
def echoReplyFrame (target : Vector UInt8 4) : Bytes :=
  Ethernet2Header.layout ⟨.replicate 6 2, .replicate 6 2, 0x0800⟩ ++
    ((Ipv4Header.fresh 8 64 1 target (Ip.new 0).src).layout 0 ++ [0, 0, 0, 0, 0, 0, 0, 0])

/-- A rig whose crates behave as documented, over a path with a threshold and no noise. -/
def thresholdRig (target : Vector UInt8 4) (threshold : Nat) : Rig where
  crate := .reference
  pcap := ⟨id, "PcapPacket: incl_len > snap_len", Nat.le_refl⟩
  overflowChecks := true
  draws _ := ⟨.replicate 6 0, .replicate 6 0, 0, 0, fun _ => 0⟩
  network _ sent := .ok (if ipv4Size sent ≤ threshold then [echoReplyFrame target] else [])

theorem thresholdRig_path (target : Vector UInt8 4) (threshold : Nat) :
    ThresholdPath (thresholdRig target threshold) target threshold where
  passes round payload sent _ admitted :=
    ⟨[], echoReplyFrame target, [], congrArg Except.ok (if_pos admitted),
      echoReply_layout _ _ 0 rfl rfl (Nat.le_refl 8) rfl, by simp⟩
  blocks round payload sent _ blocked :=
    ⟨[], congrArg Except.ok (if_neg (Nat.not_le.mpr blocked)), by simp⟩

theorem path_mtu_search_jumbo :
    FindsPathMtu (thresholdRig #v[192, 0, 2, 1] 1500) #v[192, 0, 2, 1] 1500 576 9000 ∧
      (IcmpMtuTest.new.withRange 576 9000).FindsMtu
        (fun _ command => .ok (decide (command.packetSize + 28 ≤ 1500))) "192.0.2.1" 1500 := by
  have ordered : (576 : UInt16) ≤ 9000 := by decide
  have both := path_mtu_search_iff Etherparse.reference_documented
    (thresholdRig_path #v[192, 0, 2, 1] 1500) (fun _ _ => rfl) IcmpMtuTest.new "192.0.2.1" ordered
  have above : StaysAbove 28 1500 576 9000 := .inl (by decide)
  exact ⟨both.1.mpr ⟨above, .inl (by decide)⟩, both.2.mpr above⟩

/-- A range below the headers is asked with packets larger than recorded; the top of the
16-bit range is never reached. -/
theorem path_mtu_search_misses :
    ¬ FindsPathMtu (thresholdRig #v[192, 0, 2, 1] 1500) #v[192, 0, 2, 1] 1500 0 20 ∧
      ¬ FindsPathMtu (thresholdRig #v[192, 0, 2, 1] 65535) #v[192, 0, 2, 1] 65535 65535 65535 := by
  constructor
  · rw [findsPathMtu_iff Etherparse.reference_documented (thresholdRig_path _ _) (by decide)]
    intro ⟨above, _⟩
    rcases above with start | ⟨rounds, high, _⟩
    · exact absurd start (by decide)
    · exact absurd (Nat.le_trans high (descent_le 0 20 rounds)) (by decide)
  · rw [findsPathMtu_iff Etherparse.reference_documented (thresholdRig_path _ _) (by decide)]
    intro ⟨_, below⟩
    rcases below with stop | ⟨rounds, rejected, _⟩
    · exact absurd stop (by decide)
    · exact absurd rejected (Nat.not_lt.mpr (Nat.sub_le _ _))

end FragglePacket.Fuzzing
