import FragglePacket.Fuzzing.Probe

/-! The path MTU search over a path that lets through what fits its threshold: what one
round does, and that the loop is a bisection. -/

namespace FragglePacket.Fuzzing

open FragglePacket.Wire FragglePacket.Search

/-- The IPv4 packet of an Ethernet frame and the ICMP message in it. -/
def icmpMessage (frame : Bytes) : Option (Bytes × Bytes) :=
  let ip := frame.drop 14
  if 42 ≤ frame.length ∧ wordAt frame 12 = some 0x0800 ∧ ip.getD 9 0 = 1 ∧
    ihlBytes ip + 8 ≤ ip.length then
    some (ip, ip.drop (ihlBytes ip))
  else none

def EchoReply (source : Vector UInt8 4) (frame : Bytes) : Prop :=
  ∃ ip icmp, icmpMessage frame = some (ip, icmp) ∧ icmp.getD 0 0 = 0 ∧
    (ip.drop 12).take 4 = source.toList

def FragmentationNeeded (frame : Bytes) : Prop :=
  ∃ ip icmp, icmpMessage frame = some (ip, icmp) ∧ icmp.getD 0 0 = 3 ∧ icmp.getD 1 0 = 4

def ipv4Size (frame : Bytes) : Nat := frame.length - 14

/-- A path that answers a probe with an echo reply exactly when its IPv4 packet takes at
most `threshold` bytes. It stays silent otherwise, or says that fragmentation is needed;
frames that have nothing to do with the probe may be captured as well. -/
structure ThresholdPath (rig : Rig) (target : Vector UInt8 4) (threshold : Nat) : Prop where
  passes : ∀ round payload sent,
    buildProbe rig round (probePacket (rig.draws round) target payload) = .ok sent →
    ipv4Size sent ≤ threshold →
    ∃ before reply after, rig.network round sent = .ok (before ++ reply :: after) ∧
      EchoReply target reply ∧ ∀ frame ∈ before, ¬ EchoReply target frame ∧
        ¬ FragmentationNeeded frame
  blocks : ∀ round payload sent,
    buildProbe rig round (probePacket (rig.draws round) target payload) = .ok sent →
    threshold < ipv4Size sent →
    ∃ frames, rig.network round sent = .ok frames ∧ ∀ frame ∈ frames, ¬ EchoReply target frame

private theorem source_iff {ip : Bytes} (long : 16 ≤ ip.length) (source : Vector UInt8 4) :
    (ip.drop 12).take 4 = source.toList ↔
      #v[ip.getD 12 0, ip.getD 13 0, ip.getD 14 0, ip.getD 15 0] = source := by
  rw [drop_take_four long, ← Vector.toList_inj]
  exact Iff.rfl

theorem icmpMessage_eq_some {frame ip icmp : Bytes}
    (message : icmpMessage frame = some (ip, icmp)) :
    42 ≤ frame.length ∧ ip = frame.drop 14 ∧ icmp = ip.drop (ihlBytes ip) := by
  simp only [icmpMessage, Option.ite_none_right_eq_some, Option.some.injEq, Prod.mk.injEq]
    at message
  obtain ⟨⟨long, _⟩, rfl, rfl⟩ := message
  exact ⟨long, rfl, rfl⟩

theorem icmpMessage_layout (ether : Ethernet2Header) (ip : Ipv4Header) (checksum : UInt16)
    {icmp : Bytes} (etherType : ether.etherType = 0x0800) (protocol : ip.protocol = 1)
    (long : 8 ≤ icmp.length) :
    icmpMessage (ether.layout ++ (ip.layout checksum ++ icmp)) =
      some (ip.layout checksum ++ icmp, icmp) := by
  have behind : (ether.layout ++ (ip.layout checksum ++ icmp)).drop 14 =
      ip.layout checksum ++ icmp :=
    List.drop_left' ether.layout_length
  have word : wordAt (ether.layout ++ (ip.layout checksum ++ icmp)) 12 = some 0x0800 := by
    have front : (ether.destination.toList ++ ether.source.toList).length = 12 := by simp
    rw [Ethernet2Header.layout, List.append_assoc, wordAt_append front, etherType, wordAt_be16]
  have header : ihlBytes (ip.layout checksum ++ icmp) = 20 := by
    show (0x45 &&& 0x0F : UInt8).toNat * 4 = 20
    decide
  have number : (ip.layout checksum ++ icmp).getD 9 0 = 1 := protocol
  have size : (ip.layout checksum ++ icmp).length = 20 + icmp.length := by simp
  have room : 42 ≤ (ether.layout ++ (ip.layout checksum ++ icmp)).length := by
    rw [List.length_append, ether.layout_length, size]
    omega
  rw [icmpMessage, behind, if_pos ⟨room, word, number, by omega⟩, header,
    List.drop_left' (ip.layout_length checksum)]

/-- What a host sends as an echo reply is one. -/
theorem echoReply_layout (ether : Ethernet2Header) (ip : Ipv4Header) (checksum : UInt16)
    {icmp : Bytes} (etherType : ether.etherType = 0x0800) (protocol : ip.protocol = 1)
    (long : 8 ≤ icmp.length) (icmpType : icmp.getD 0 0 = 0) :
    EchoReply ip.source (ether.layout ++ (ip.layout checksum ++ icmp)) := by
  refine ⟨_, icmp, icmpMessage_layout ether ip checksum etherType protocol long, icmpType, ?_⟩
  rw [Ipv4Header.layout, List.append_assoc, List.append_assoc, List.drop_left' (by simp)]
  exact List.take_left' (by simp)

/-- What a router sends as fragmentation needed is that. -/
theorem fragmentationNeeded_layout (ether : Ethernet2Header) (ip : Ipv4Header) (checksum : UInt16)
    {icmp : Bytes} (etherType : ether.etherType = 0x0800) (protocol : ip.protocol = 1)
    (long : 8 ≤ icmp.length) (icmpType : icmp.getD 0 0 = 3) (code : icmp.getD 1 0 = 4) :
    FragmentationNeeded (ether.layout ++ (ip.layout checksum ++ icmp)) :=
  ⟨_, icmp, icmpMessage_layout ether ip checksum etherType protocol long, icmpType, code⟩

/-- The filter judges the ICMP message of a frame by its first two bytes. -/
theorem probeFilter_eq (target : Vector UInt8 4) (frame : Bytes) :
    probeFilter target frame = match icmpMessage frame with
      | none => false
      | some (ip, icmp) =>
        if icmp.getD 0 0 = 0 then #v[ip.getD 12 0, ip.getD 13 0, ip.getD 14 0,
          ip.getD 15 0] = target
        else icmp.getD 0 0 = 3 && icmp.getD 1 0 = 4 := by
  by_cases long : 42 ≤ frame.length
  · have word := wordAt_of_lt (Nat.lt_of_lt_of_le (show 12 + 1 < 42 by omega) long)
    simp only [probeFilter, icmpMessage, word, long, Nat.not_lt.mpr long, Option.some.injEq,
      true_and, Nat.reduceAdd, if_false]
    by_cases etherType : readBe16 (frame.getD 12 0) (frame.getD 13 0) = 0x0800
    · by_cases protocol : (frame.drop 14).getD 9 0 = 1
      · by_cases room : ihlBytes (frame.drop 14) + 8 ≤ (frame.drop 14).length
        · simp only [etherType, protocol, room, Nat.not_lt.mpr room, ne_eq, not_true, if_false,
            and_self, if_true]
        · simp only [etherType, protocol, room, Nat.not_le.mp room, ne_eq, not_true, if_false,
            and_false, if_true]
      · simp only [etherType, protocol, ne_eq, not_true, not_false_eq_true, if_false, false_and,
          and_false, if_true]
    · simp only [etherType, ne_eq, not_false_eq_true, if_false, false_and, if_true]
  · simp only [probeFilter, icmpMessage, long, Nat.not_le.mp long, false_and, if_true, if_false]

/-- The filter lets through what the search takes for an answer, and nothing else. -/
theorem probeFilter_iff (target : Vector UInt8 4) (frame : Bytes) :
    probeFilter target frame = true ↔ EchoReply target frame ∨ FragmentationNeeded frame := by
  rw [probeFilter_eq]
  cases message : icmpMessage frame with
  | none => simp [EchoReply, FragmentationNeeded, message]
  | some found =>
    obtain ⟨ip, icmp⟩ := found
    obtain ⟨long, rfl, _⟩ := icmpMessage_eq_some message
    have behind : 16 ≤ (frame.drop 14).length := by
      rw [List.length_drop]
      omega
    simp only [EchoReply, FragmentationNeeded, message, Option.some.injEq, Prod.mk.injEq,
      ↓existsAndEq, and_true, source_iff behind]
    by_cases echo : icmp.getD 0 0 = 0
    · have other : ¬ (0 : UInt8) = 3 := by decide
      simp only [echo, other, if_true, decide_eq_true_eq, true_and, false_and, or_false]
    · simp only [echo, if_false, Bool.and_eq_true, decide_eq_true_eq, false_and, and_false,
        true_and, false_or]

private theorem builds_cons {crate : Etherparse} (documented : crate.Documented)
    {overflowChecks : Bool} {draw : Nat → UInt16} {upper : List Layer} (layer : Layer)
    (below : layer.isRaw = false) {rest : Bytes}
    (built : buildLayers crate overflowChecks draw upper = .ok rest)
    (accepts : layer.Accepts overflowChecks rest.length) :
    ∃ bytes, buildLayers crate overflowChecks draw (layer :: upper) = .ok bytes ∧
      bytes.length = layer.headerSize + rest.length := by
  refine ⟨_, buildLayers_cons_accepts documented below built accepts, ?_⟩
  rw [List.length_append, Layer.headerBytes_length]

/-- Every probe whose IPv4 packet takes at most 65535 bytes is built. -/
theorem buildProbe_ok {rig : Rig} (documented : rig.crate.Documented) (round : Nat) (draws : Draws)
    (target : Vector UInt8 4) {payload : Nat} (small : payload ≤ 65507) :
    ∃ sent, buildProbe rig round (probePacket draws target payload) = .ok sent ∧
      sent.length = 42 + payload := by
  have raw :=
    buildLayers_raw rig.crate rig.overflowChecks (rig.draws round).words (Raw.ofSize payload 81) []
  have rawSize : (Raw.ofSize payload 81).load.length = payload := List.length_replicate
  obtain ⟨icmp, builtIcmp, icmpSize⟩ :=
    builds_cons documented (.icmp (Icmp.echoRequest draws.icmpId)) rfl raw trivial
  rw [rawSize] at icmpSize
  have room : icmp.length % 65536 ≤ 65515 := by
    rw [icmpSize, Layer.headerSize]
    omega
  obtain ⟨ip, builtIp, ipSize⟩ :=
    builds_cons documented (.ip ((Ip.new draws.ipId).dstAddr target).df) rfl builtIcmp room
  obtain ⟨frame, builtFrame, frameSize⟩ :=
    builds_cons documented (.ether (Ether.new draws.src draws.dst)) rfl builtIp trivial
  refine ⟨frame, ?_, ?_⟩
  · rw [buildProbe, Packet.build, probePacket, builtFrame]
    rfl
  · rw [frameSize, ipSize, icmpSize]
    simp only [Layer.headerSize]
    omega

section Round
variable {rig : Rig} {target : Vector UInt8 4} {threshold : Nat}

theorem ProbeState.mid_toNat {state : ProbeState} (opened : state.lo ≤ state.hi) :
    state.mid.toNat = state.lo.toNat + (state.hi.toNat - state.lo.toNat) / 2 := by
  have order := UInt16.le_iff_toNat_le.mp opened
  have top := state.hi.toNat_lt
  rw [ProbeState.mid, UInt16.toNat_add, UInt16.toNat_div, UInt16.toNat_sub_of_le _ _ opened]
  show (_ + (_ - _) / 2) % 65536 = _
  omega

/-- A state of the search as the bracket of a bisection. -/
def ProbeState.bracket (state : ProbeState) : Bracket where
  lo := state.lo.toNat
  hi := state.hi.toNat
  best := state.result.estimatedMtu.map UInt16.toNat
  asked := state.result.samplesTried.map UInt16.toNat

theorem ProbeState.bracket_mid {state : ProbeState} (opened : state.lo ≤ state.hi) :
    state.bracket.mid = state.mid.toNat :=
  (state.mid_toNat opened).symm

/-- The size of the IPv4 packet that asks for `size`. -/
def probeSize (size : Nat) : Nat := max size 28

/-- What a round gets to know about a size: nothing when the frame does not fit the
capture file, or when the next size would not fit 16 bits. -/
def Rig.answer (rig : Rig) (threshold size : Nat) : Option Bool :=
  if rig.pcap.longest 65535 < 14 + probeSize size then none
  else if probeSize size ≤ threshold then if 65535 ≤ size then none else some true
  else some false

theorem raiseBound_ok {mid : UInt16} (inside : ¬ 65535 ≤ mid.toNat) :
    ∃ lo, raiseBound mid = .ok lo ∧ lo.toNat = mid.toNat + 1 := by
  have other : mid ≠ 65535 := by
    intro edge
    exact inside (edge ▸ Nat.le_refl _)
  refine ⟨mid + 1, if_neg other, ?_⟩
  rw [UInt16.toNat_add]
  show (_ + 1) % 65536 = _
  omega

theorem raiseBound_overflow {mid : UInt16} (edge : 65535 ≤ mid.toNat) :
    raiseBound mid = .error .overflow := by
  have bound := mid.toNat_lt
  refine if_pos (UInt16.toNat_inj.mp ?_)
  show mid.toNat = 65535
  omega

theorem lowerBound_ok {mid : UInt16} (positive : mid.toNat ≠ 0) :
    ∃ hi, lowerBound mid = .ok hi ∧ hi.toNat = mid.toNat - 1 := by
  have other : mid ≠ 0 := fun zero => positive (zero ▸ rfl)
  refine ⟨mid - 1, if_neg other, ?_⟩
  have one : (1 : UInt16) ≤ mid := UInt16.le_iff_toNat_le.mpr (Nat.one_le_iff_ne_zero.mpr positive)
  rw [UInt16.toNat_sub_of_le _ _ one]
  rfl

theorem lowerBound_overflow {mid : UInt16} (zero : mid.toNat = 0) :
    lowerBound mid = .error .overflow :=
  if_pos (UInt16.toNat_inj.mp zero)

theorem sendAndWait_carried {round : Nat} {packet : Packet} {sent : Bytes} {captured : List Bytes}
    (built : buildProbe rig round packet = .ok sent) (fits : sent.length ≤ rig.pcap.longest 65535)
    (answered : rig.network round sent = .ok captured) (filter : Bytes → Bool) :
    sendAndWait rig round packet filter = .ok (sent, captured.find? filter) := by
  simp only [sendAndWait, built, writeTmpPcap, if_pos fits, answered, bind, pure, Except.bind,
    Except.pure, Except.mapError]

theorem sendAndWait_tooLong {round : Nat} {packet : Packet} {sent : Bytes}
    (built : buildProbe rig round packet = .ok sent)
    (tooLong : ¬ sent.length ≤ rig.pcap.longest 65535) (filter : Bytes → Bool) :
    sendAndWait rig round packet filter = .error (.error (.pcap rig.pcap.refusal)) := by
  simp only [sendAndWait, built, writeTmpPcap, if_neg tooLong, bind, Except.bind, Except.mapError]

/-- The filter picks the echo reply out of the noise. -/
theorem find?_echoReply {before after : List Bytes} {reply : Bytes} (echo : EchoReply target reply)
    (noise : ∀ frame ∈ before, ¬ EchoReply target frame ∧ ¬ FragmentationNeeded frame) :
    (before ++ reply :: after).find? (probeFilter target) = some reply := by
  have passed : probeFilter target reply = true := (probeFilter_iff target reply).mpr (.inl echo)
  have skipped : before.find? (probeFilter target) = none := by
    rw [List.find?_eq_none]
    intro frame member matched
    rcases (probeFilter_iff target frame).mp matched with isEcho | isNeeded
    · exact (noise frame member).1 isEcho
    · exact (noise frame member).2 isNeeded
  rw [List.find?_append, skipped, Option.none_or, List.find?_cons_of_pos passed]

/-- Without an echo reply the filter picks a report, if anything. -/
theorem find?_noEchoReply {frames : List Bytes}
    (noEcho : ∀ frame ∈ frames, ¬ EchoReply target frame) :
    ∀ frame ∈ frames.find? (probeFilter target), FragmentationNeeded frame := by
  intro frame found
  rcases (probeFilter_iff target frame).mp (List.find?_some found) with isEcho | isNeeded
  · exact absurd isEcho (noEcho frame (List.mem_of_find?_eq_some found))
  · exact isNeeded

/-- What `sendAndWait` returns for the probe of a round. -/
def ProbeState.exchange (rig : Rig) (target : Vector UInt8 4) (state : ProbeState) :
    Except Halt (Bytes × Option Bytes) :=
  sendAndWait rig state.sent.length
    (probePacket (rig.draws state.sent.length) target (state.mid.toNat - 28))
    (probeFilter target)

/-- The three ways a probe ends on a threshold path. -/
theorem exchange_cases (documented : rig.crate.Documented)
    (path : ThresholdPath rig target threshold) (state : ProbeState) :
    ∃ sent : Bytes, ipv4Size sent = probeSize state.mid.toNat ∧
      ((rig.pcap.longest 65535 < 14 + probeSize state.mid.toNat ∧
          ∃ halt, state.exchange rig target = .error halt) ∨
        (14 + probeSize state.mid.toNat ≤ rig.pcap.longest 65535 ∧
          probeSize state.mid.toNat ≤ threshold ∧
          ∃ reply, EchoReply target reply ∧ state.exchange rig target = .ok (sent, some reply)) ∨
        (14 + probeSize state.mid.toNat ≤ rig.pcap.longest 65535 ∧
          threshold < probeSize state.mid.toNat ∧
          ∃ reply : Option Bytes, (∀ frame ∈ reply, FragmentationNeeded frame) ∧
            state.exchange rig target = .ok (sent, reply))) := by
  have bound := state.mid.toNat_lt
  obtain ⟨sent, built, length⟩ :=
    buildProbe_ok documented state.sent.length (rig.draws state.sent.length) target
      (show state.mid.toNat - 28 ≤ 65507 by omega)
  have frame : sent.length = 14 + probeSize state.mid.toNat := by
    simp only [probeSize]
    omega
  have size : ipv4Size sent = probeSize state.mid.toNat := by
    rw [ipv4Size, frame, Nat.add_sub_cancel_left]
  refine ⟨sent, size, ?_⟩
  rw [← frame]
  by_cases carried : sent.length ≤ rig.pcap.longest 65535
  · by_cases admitted : probeSize state.mid.toNat ≤ threshold
    · obtain ⟨before, reply, after, answered, echo, noise⟩ :=
        path.passes _ _ _ built (size ▸ admitted)
      have exchanged := sendAndWait_carried built carried answered (probeFilter target)
      rw [find?_echoReply echo noise] at exchanged
      exact .inr (.inl ⟨carried, admitted, reply, echo, exchanged⟩)
    · have blocked := Nat.not_le.mp admitted
      obtain ⟨frames, answered, noEcho⟩ := path.blocks _ _ _ built (size ▸ blocked)
      exact .inr (.inr ⟨carried, blocked, _, find?_noEchoReply noEcho,
        sendAndWait_carried built carried answered (probeFilter target)⟩)
  · exact .inl ⟨Nat.not_le.mp carried, _, sendAndWait_tooLong built carried (probeFilter target)⟩

/-- The answer of a round as the search reads it. -/
theorem icmpType_of_echoReply {frame : Bytes} (echo : EchoReply target frame) :
    ((frame.drop 14).drop (ihlBytes (frame.drop 14))).getD 0 0 = 0 := by
  obtain ⟨ip, icmp, message, type, _⟩ := echo
  obtain ⟨_, rfl, rfl⟩ := icmpMessage_eq_some message
  exact type

theorem icmpType_of_fragmentationNeeded {frame : Bytes} (needed : FragmentationNeeded frame) :
    ((frame.drop 14).drop (ihlBytes (frame.drop 14))).getD 0 0 ≠ 0 := by
  obtain ⟨ip, icmp, message, type, _⟩ := needed
  obtain ⟨_, rfl, rfl⟩ := icmpMessage_eq_some message
  rw [type]
  decide

def ProbeState.samples (state : ProbeState) : List UInt16 :=
  state.result.samplesTried ++ [state.mid]

theorem probeRound_echo {state : ProbeState} {sent reply : Bytes}
    (answered : state.exchange rig target = .ok (sent, some reply))
    (echo : EchoReply target reply) :
    probeRound rig target state = (raiseBound state.mid).map fun lo =>
      ⟨lo, state.hi, { state.result with
        estimatedMtu := some state.mid, samplesTried := state.samples },
        state.sent ++ [sent]⟩ := by
  simp only [ProbeState.exchange] at answered
  simp only [probeRound, answered, bind, Except.bind, if_pos (icmpType_of_echoReply echo)]
  cases raiseBound state.mid <;> rfl

theorem probeRound_noEcho {state : ProbeState} {sent : Bytes} {reply : Option Bytes}
    (answered : state.exchange rig target = .ok (sent, reply))
    (needed : ∀ frame ∈ reply, FragmentationNeeded frame) :
    ∃ reported, probeRound rig target state = (lowerBound state.mid).map fun hi =>
      ⟨state.lo, hi, ⟨state.result.estimatedMtu, reported, state.samples⟩,
        state.sent ++ [sent]⟩ := by
  simp only [ProbeState.exchange] at answered
  cases reply with
  | none =>
    refine ⟨state.result.fragNeededReported, ?_⟩
    simp only [probeRound, answered, bind, Except.bind]
    cases lowerBound state.mid <;> rfl
  | some frame =>
    refine ⟨true, ?_⟩
    simp only [probeRound, answered, bind, Except.bind,
      if_neg (icmpType_of_fragmentationNeeded (needed frame rfl))]
    cases lowerBound state.mid <;> rfl

theorem probeRound_failed {state : ProbeState} {halt : Halt}
    (failed : state.exchange rig target = .error halt) :
    probeRound rig target state = .error halt := by
  simp only [ProbeState.exchange] at failed
  simp only [probeRound, failed, bind, Except.bind]

/-- A round that goes on sends one more frame, of the size it records unless the headers
take more, and takes one step of the bisection; a round that stops ends the bisection. -/
theorem probeRound_cases (documented : rig.crate.Documented)
    (path : ThresholdPath rig target threshold) {state : ProbeState}
    (opened : state.lo ≤ state.hi) :
    ((∃ halt, probeRound rig target state = .error halt) ∧
      state.bracket.step (rig.answer threshold) = none) ∨
      ∃ next sent, probeRound rig target state = .ok next ∧
        state.bracket.step (rig.answer threshold) = some next.bracket ∧
        next.sent = state.sent ++ [sent] ∧ ipv4Size sent = probeSize state.mid.toNat ∧
        next.result.samplesTried = state.samples := by
  have mid := state.bracket_mid opened
  have asked : state.samples.map UInt16.toNat = state.bracket.asked ++ [state.bracket.mid] := by
    rw [ProbeState.samples, List.map_append, mid]
    rfl
  obtain ⟨sent, size, outcome⟩ := exchange_cases documented path state
  rcases outcome with ⟨tooLong, halt, failed⟩ | ⟨carried, admitted, reply, echo, answered⟩ |
    ⟨carried, blocked, reply, needed, answered⟩
  · refine .inl ⟨⟨halt, probeRound_failed failed⟩, Bracket.step_unanswered ?_⟩
    rw [mid, Rig.answer, if_pos tooLong]
  · have round := probeRound_echo answered echo
    by_cases edge : 65535 ≤ state.mid.toNat
    · refine .inl ⟨⟨.overflow, ?_⟩, Bracket.step_unanswered ?_⟩
      · rw [round, raiseBound_overflow edge]
        rfl
      · rw [mid, Rig.answer, if_neg (Nat.not_lt.mpr carried), if_pos admitted, if_pos edge]
    · obtain ⟨lo, raised, value⟩ := raiseBound_ok edge
      rw [raised] at round
      refine .inr ⟨_, sent, round, ?_, rfl, size, rfl⟩
      have answer : rig.answer threshold state.bracket.mid = some true := by
        rw [mid, Rig.answer, if_neg (Nat.not_lt.mpr carried), if_pos admitted, if_neg edge]
      rw [Bracket.step_admitted answer, ← asked, mid, ← value]
      rfl
  · obtain ⟨reported, round⟩ := probeRound_noEcho answered needed
    have answer : rig.answer threshold state.bracket.mid = some false := by
      rw [mid, Rig.answer, if_neg (Nat.not_lt.mpr carried), if_neg (Nat.not_le.mpr blocked)]
    by_cases zero : state.mid.toNat = 0
    · refine .inl ⟨⟨.overflow, ?_⟩, ?_⟩
      · rw [round, lowerBound_overflow zero]
        rfl
      · rw [Bracket.step_rejected answer, if_pos (mid.trans zero)]
    · obtain ⟨hi, lowered, value⟩ := lowerBound_ok zero
      rw [lowered] at round
      refine .inr ⟨_, sent, round, ?_, rfl, size, rfl⟩
      rw [Bracket.step_rejected answer, if_neg (mid ▸ zero), ← asked, mid, ← value]
      rfl

/-- The frames sent have the sizes recorded, as far as the headers leave them. -/
def ProbeState.Sized (state : ProbeState) : Prop :=
  state.sent.map ipv4Size = state.bracket.asked.map probeSize

/-- The search over a threshold path is a bisection. -/
theorem probe_bisects (documented : rig.crate.Documented)
    (path : ThresholdPath rig target threshold) :
    Bisects (fun state => decide (state.lo ≤ state.hi)) (probeRound rig target)
      (rig.answer threshold)
      ProbeState.bracket ProbeState.Sized where
  guard state := by
    rw [decide_eq_true_eq]
    exact UInt16.le_iff_toNat_le
  rounds state sized opened := by
    rcases probeRound_cases documented path (UInt16.le_iff_toNat_le.mpr opened) with stops |
      ⟨next, sent, round, stepped, trace, size, samples⟩
    · exact .inl stops
    · have sizedNext : next.Sized := by
        simp only [ProbeState.Sized, ProbeState.bracket, trace, samples, ProbeState.samples,
          List.map_append, List.map_cons, List.map_nil, size]
        exact congrArg (· ++ [probeSize state.mid.toNat]) sized
      exact .inr ⟨next, round, sizedNext, stepped⟩

end Round

end FragglePacket.Fuzzing
