import FragglePacket.Search.Bisection
import FragglePacket.Wire.Checksum

/-! Path MTU discovery by probes of many sizes, over ICMP, UDP and TCP. -/

namespace FragglePacket.Probe

open FragglePacket.Search FragglePacket.Wire

def icmpHeaderSize : Nat := 8
def ipHeaderSize : Nat := 20
def udpHeaderSize : Nat := 8

/-- The `while` of a checksum: the carries come back in. -/
def foldCarries (sum : Nat) : Nat :=
  if 0 < sum / 65536 then foldCarries (sum % 65536 + sum / 65536) else sum
termination_by sum
decreasing_by omega

def icmpChecksum (data : Bytes) : UInt16 :=
  ~~~ UInt16.ofNat
    (foldCarries ((words data).foldl (fun sum word => (sum + word.toNat) % 2 ^ 32) 0))

def echoPayload (size : Nat) : Bytes := (List.range size).map UInt8.ofNat

/-- An echo request before its checksum is known, and with it. -/
def echoRequestWith (checksum id seq : UInt16) (payloadLen : Nat) : Bytes :=
  [8, 0] ++ (be16 checksum ++ (be16 id ++ (be16 seq ++ echoPayload payloadLen)))

def echoRequest (id seq : UInt16) (payloadLen : Nat) : Bytes :=
  echoRequestWith (icmpChecksum (echoRequestWith 0 id seq payloadLen)) id seq payloadLen

/-- Whether a datagram counts as the reply: neither its sequence number
nor its size is looked at. -/
def acceptsReply (id : UInt16) (received : Bytes) : Bool :=
  let ipHeaderLen := ((received[0]?.getD 0 &&& 0x0F) * 4).toNat
  let icmp := received.drop ipHeaderLen
  if received.length < 20 + icmpHeaderSize ||
    received.length < ipHeaderLen + icmpHeaderSize then false
  else icmp[0]?.getD 0 == 0 && readBe16 (icmp[4]?.getD 0) (icmp[5]?.getD 0) == id

/-- How one echo request goes: what was read before the time was up or a read failed. -/
inductive EchoAttempt where
  | noSocket
  | notSent
  | heard (received : List Bytes)

def sendIcmpProbe (id : UInt16) : EchoAttempt → Except Unit Bool
  | .noSocket => .error ()
  | .notSent => .ok false
  | .heard received => .ok (received.any (acceptsReply id))

/-- How one UDP datagram goes. -/
inductive UdpAttempt where
  | failed
  | sendTooLong
  | received
  | readTooLong
  | readFailed

/-- A datagram that nothing came back for counts as arrived. -/
def sendUdpProbe : UdpAttempt → Except Unit Bool
  | .failed => .error ()
  | .sendTooLong => .ok false
  | .received => .ok true
  | .readTooLong => .ok false
  | .readFailed => .ok true

/-- A probe that was sent, and whether it counts as answered. -/
structure Sent where
  payload : Nat
  answered : Bool
deriving DecidableEq

/-- What an attempt comes to, by the attempts before it. -/
abbrev Attempts := List Sent → Nat → Except Unit Bool

/-- Some more attempts, until one is answered. -/
def probeTimes (attempt : Attempts) (payload : Nat) : Nat → List Sent → Bool × List Sent
  | 0, sent => (false, sent)
  | left + 1, sent =>
    if (attempt sent payload).toOption.getD false then (true, sent ++ [⟨payload, true⟩])
    else probeTimes attempt payload left (sent ++ [⟨payload, false⟩])

def probeIcmp (attempt : Attempts) (payload retries : Nat) (sent : List Sent) : Bool × List Sent :=
  probeTimes attempt payload (retries + 1) sent

def probeUdp (attempt : Attempts) (payload retries : Nat) (sent : List Sent) : Bool × List Sent :=
  probeTimes attempt payload (retries + 1) sent

def binarySearchMtuIcmp (attempt : Attempts) (min max retries : Nat)
    (sent : List Sent) : Nat × List Sent :=
  searchIn (fun sent mid => probeIcmp attempt (mid - (ipHeaderSize + icmpHeaderSize)) retries sent)
    id min max min sent

def binarySearchMtuUdp (attempt : Attempts) (min max retries : Nat)
    (sent : List Sent) : Option Nat × List Sent :=
  let works := probeUdp attempt 64 1 sent
  if works.1 then
    let out :=
      searchIn (fun sent mid => probeUdp attempt (mid - (ipHeaderSize + udpHeaderSize)) retries
        sent) id min max min works.2
    (some out.1, out.2)
  else (none, works.2)

/-- A connection that is made and dropped again: the size plays no part. -/
def probeTcp (connects : List Sent → Bool) (payload : Nat) (sent : List Sent) : Bool × List Sent :=
  (connects sent, sent ++ [⟨payload, connects sent⟩])

def binarySearchMtuTcp (resolves : Bool) (connects : List Sent → Bool) (min max : Nat)
    (sent : List Sent) :
    Option Nat × List Sent :=
  if resolves then searchIn (fun sent mid => probeTcp connects (mid - 40) sent) some min max
    none sent
  else (none, sent)

/-! The checksum of a request. -/

theorem foldCarries_facts (sum : Nat) :
    foldCarries sum < 65536 ∧ foldCarries sum ≤ sum ∧ foldCarries sum % 65535 = sum % 65535 := by
  induction sum using Nat.strong_induction_on with
  | _ sum ih =>
    rw [foldCarries]
    split
    case isTrue carries =>
      obtain ⟨small, below, same⟩ := ih (sum % 65536 + sum / 65536) (by omega)
      exact ⟨small, by omega, by omega⟩
    case isFalse none => exact ⟨by omega, le_refl sum, rfl⟩

theorem wrapped_words (list : List UInt16) (start : Nat)
    (small : start + (list.map UInt16.toNat).sum < 2 ^ 32) :
    list.foldl (fun sum word => (sum + word.toNat) % 2 ^ 32) start =
      start + (list.map UInt16.toNat).sum := by
  induction list generalizing start with
  | nil => rfl
  | cons word rest ih =>
    rw [List.map_cons, List.sum_cons] at small ⊢
    have fits : start + word.toNat < 2 ^ 32 := by omega
    rw [List.foldl_cons, Nat.mod_eq_of_lt fits, ih (start + word.toNat) (by omega)]
    omega

theorem wordSum_le (bytes : Bytes) : 2 * wordSum bytes ≤ (bytes.length + 1) * 65535 := by
  induction bytes using words.induct with
  | case1 => exact Nat.zero_le _
  | case2 last =>
    have bound := (readBe16 last 0).toNat_lt
    have single : wordSum [last] = (readBe16 last 0).toNat := by simp [wordSum, words]
    rw [single, List.length_singleton]
    omega
  | case3 high low rest ih =>
    have highBound := high.toNat_lt
    have lowBound := low.toNat_lt
    rw [wordSum_cons, List.length_cons, List.length_cons]
    omega

/-- The checksum of what does not overflow the sum completes it to a multiple of 65535. -/
theorem icmpChecksum_completes (data : Bytes) (small : data.length ≤ 131000) :
    (wordSum data + (icmpChecksum data).toNat) % 65535 = 0 := by
  have bound := wordSum_le data
  have summed : (words data).foldl (fun sum word => (sum + word.toNat) % 2 ^ 32) 0 =
      wordSum data := by
    have fits : 0 + ((words data).map UInt16.toNat).sum < 2 ^ 32 := by
      rw [Nat.zero_add]
      change wordSum data < 2 ^ 32
      omega
    rw [wrapped_words _ _ fits, Nat.zero_add]
    rfl
  obtain ⟨folded, below, same⟩ := foldCarries_facts (wordSum data)
  have complement : (icmpChecksum data).toNat = 65535 - foldCarries (wordSum data) := by
    rw [icmpChecksum, summed, UInt16.toNat_not, UInt16.toNat_ofNat', Nat.mod_eq_of_lt folded]
    rfl
  rw [complement]
  omega

theorem wordSum_echoRequestWith (checksum id seq : UInt16) (payloadLen : Nat) :
    wordSum (echoRequestWith checksum id seq payloadLen) =
      2048 + checksum.toNat + id.toNat + seq.toNat + wordSum (echoPayload payloadLen) := by
  rw [echoRequestWith, List.cons_append, List.cons_append, List.nil_append, wordSum_cons]
  have kind : (8 : UInt8).toNat * 256 + (0 : UInt8).toNat = 2048 := rfl
  simp only [wordSum_be16_append, kind, Nat.add_assoc]

/-- Every echo request that fits an IPv4 datagram verifies at the host that receives it. -/
theorem echo_request_verifies (id seq : UInt16) {payloadLen : Nat} (fits : payloadLen ≤ 65507) :
    onesSum (echoRequest id seq payloadLen) = 0xFFFF := by
  have length : (echoRequestWith 0 id seq payloadLen).length = 8 + payloadLen := by
    simp [echoRequestWith, echoPayload]
    omega
  have completes := icmpChecksum_completes (echoRequestWith 0 id seq payloadLen) (by omega)
  have without := wordSum_echoRequestWith 0 id seq payloadLen
  have full :=
    wordSum_echoRequestWith (icmpChecksum (echoRequestWith 0 id seq payloadLen)) id seq payloadLen
  rw [onesSum_eq_max_iff, echoRequest, full]
  rw [without] at completes
  have zero : (0 : UInt16).toNat = 0 := rfl
  omega

theorem echo_request_verifies_ping : onesSum (echoRequest 4660 7 56) = 0xFFFF :=
  echo_request_verifies 4660 7 (by decide)

/-- Any echo reply to this process is accepted, whatever options its IP header has, and whichever of
the requests it answers. -/
theorem acceptsReply_reply {id : UInt16} {header rest : Bytes} {code high low : UInt8}
    (headed : header.length = ((header[0]?.getD 0 &&& 0x0F) * 4).toNat) (whole : 20 ≤ header.length)
    (numbered : 2 ≤ rest.length) :
    acceptsReply id (header ++ ([0, code, high, low] ++ (be16 id ++ rest))) = true := by
  generalize begins : [0, code, high, low] ++ (be16 id ++ rest) = icmp
  have sized : 8 ≤ icmp.length := by
    rw [← begins]
    simp
    omega
  have start : (header ++ icmp)[0]?.getD 0 = header[0]?.getD 0 := by
    rw [List.getElem?_append_left (by omega)]
  have dropped : (header ++ icmp).drop header.length = icmp := List.drop_left
  have long : ¬ ((header ++ icmp).length < 20 + icmpHeaderSize ||
      (header ++ icmp).length < header.length + icmpHeaderSize) = true := by
    simp [icmpHeaderSize]
    omega
  rw [acceptsReply, start, ← headed, dropped, if_neg long, ← begins]
  simp [be16]

/-! What a search has to show for its answer. -/

/-- A probe of this size was answered. -/
def Confirmed (header : Nat) (sent : List Sent) (size : Nat) : Prop :=
  (⟨size - header, true⟩ : Sent) ∈ sent

/-- A probe of this size and all its retries went unanswered, one after the other. -/
def Rejected (header retries : Nat) (sent : List Sent) (size : Nat) : Prop :=
  ∃ before after, sent = before ++ List.replicate (retries + 1) ⟨size - header, false⟩ ++ after

section Probes
variable {attempt : Attempts} {payload : Nat}

/-- The attempts of a probe are appended: unanswered ones, the last one answered if the probe is. -/
theorem probeTimes_cases (attempt : Attempts) (payload times : Nat) (sent : List Sent) :
    ((probeTimes attempt payload times sent).1 = true ∧
      ∃ lost < times, (probeTimes attempt payload times sent).2 =
        sent ++ (List.replicate lost ⟨payload, false⟩ ++ [⟨payload, true⟩])) ∨
      ((probeTimes attempt payload times sent).1 = false ∧
        (probeTimes attempt payload times sent).2 =
          sent ++ List.replicate times ⟨payload, false⟩) := by
  induction times generalizing sent with
  | zero => exact Or.inr ⟨rfl, (List.append_nil sent).symm⟩
  | succ times ih =>
    rw [probeTimes]
    split
    · exact Or.inl ⟨rfl, 0, Nat.succ_pos times, rfl⟩
    · rcases ih (sent ++ [⟨payload, false⟩]) with ⟨answered, lost, fewer, appended⟩ |
        ⟨silent, appended⟩
      · refine Or.inl ⟨answered, lost + 1, Nat.succ_lt_succ fewer, ?_⟩
        rw [appended, List.replicate_succ, List.append_assoc]
        rfl
      · refine Or.inr ⟨silent, ?_⟩
        rw [appended, List.replicate_succ, List.append_assoc]
        rfl

theorem probeTimes_append (attempt : Attempts) (payload times : Nat) (sent : List Sent) :
    ∃ more, (probeTimes attempt payload times sent).2 = sent ++ more ∧ more.length ≤ times := by
  rcases probeTimes_cases attempt payload times sent with ⟨-, lost, fewer, appended⟩ | ⟨-, appended⟩
  · refine ⟨_, appended, ?_⟩
    rw [List.length_append, List.length_replicate, List.length_singleton]
    exact fewer
  · exact ⟨_, appended, le_of_eq List.length_replicate⟩

theorem leaves_probeTimes (attempt : Attempts) (header retries : Nat) :
    Leaves (fun sent mid => probeTimes attempt (mid - header) (retries + 1) sent) (Confirmed header)
      (Rejected header retries) where
  yes := by
    intro sent mid answered
    rcases probeTimes_cases attempt (mid - header) (retries + 1) sent with ⟨-, lost, -, appended⟩ |
      ⟨silent, -⟩
    · rw [appended, Confirmed]
      simp
    · rw [silent] at answered
      cases answered
  no := by
    intro sent mid silent
    rcases probeTimes_cases attempt (mid - header) (retries + 1) sent with ⟨answered, -⟩ |
      ⟨-, appended⟩
    · rw [answered] at silent
      cases silent
    · exact ⟨sent, [], appended.trans (List.append_nil _).symm⟩
  keepsYes := by
    intro sent mid size confirmed
    obtain ⟨more, appended, -⟩ := probeTimes_append attempt (mid - header) (retries + 1) sent
    rw [appended]
    exact List.mem_append_left more confirmed
  keepsNo := by
    rintro sent mid size ⟨before, after, split⟩
    obtain ⟨more, appended, -⟩ := probeTimes_append attempt (mid - header) (retries + 1) sent
    refine ⟨before, after ++ more, ?_⟩
    rw [appended, split, List.append_assoc]

end Probes

/-- Whatever the network answers, the ICMP search ends at a size that was confirmed and whose
successor was rejected, or at the smallest size where that was rejected; and it sends no more than
its retries for each time the interval can be halved. -/
theorem icmp_search_brackets (attempt : Attempts) {min max : Nat} (nonempty : min ≤ max)
    (retries : Nat) (sent : List Sent) :
    let out := binarySearchMtuIcmp attempt min max retries sent
    ((out.1 = min ∧ Rejected 28 retries out.2 min) ∨
      (min ≤ out.1 ∧ out.1 ≤ max ∧ Confirmed 28 out.2 out.1 ∧
        (out.1 = max ∨ Rejected 28 retries out.2 (out.1 + 1)))) ∧
      ∀ rounds, max + 1 - min < 2 ^ rounds →
        out.2.length ≤ sent.length + (retries + 1) * rounds := by
  intro out
  constructor
  · have ends : Ends (Confirmed 28) (Rejected 28 retries) id min max min out :=
      ends_searchIn (leaves_probeTimes attempt 28 retries) nonempty sent
    clear_value out
    cases ends with
    | none rejected => exact Or.inl ⟨rfl, rejected⟩
    | some lower upper confirmed rejected => exact Or.inr ⟨lower, upper, confirmed, rejected⟩
  · intro rounds short
    refine searchIn_cost List.length (fun sent mid => ?_) short
    obtain ⟨more, appended, few⟩ := probeTimes_append attempt (mid - 28) (retries + 1) sent
    show (probeTimes attempt (mid - 28) (retries + 1) sent).2.length ≤ sent.length + (retries + 1)
    rw [appended, List.length_append]
    omega

theorem icmp_search_brackets_unreachable :
    let out := binarySearchMtuIcmp (fun _ _ => .error ()) 576 1500 2 []
    ((out.1 = 576 ∧ Rejected 28 2 out.2 576) ∨
      (576 ≤ out.1 ∧ out.1 ≤ 1500 ∧ Confirmed 28 out.2 out.1 ∧
        (out.1 = 1500 ∨ Rejected 28 2 out.2 (out.1 + 1)))) ∧
      out.2.length ≤ 0 + 3 * 10 := by
  obtain ⟨bracketed, cost⟩ := icmp_search_brackets (fun _ _ => .error ())
    (show 576 ≤ 1500 by decide) 2 []
  exact ⟨bracketed, cost 10 (by decide)⟩

/-! What the answer says about the path. -/

theorem exists_answered {attempt : Attempts} {payload : Nat} (times : Nat) {sent : List Sent}
    (answered : (probeTimes attempt payload times sent).1 = true) :
    ∃ earlier, attempt earlier payload = .ok true := by
  induction times generalizing sent with
  | zero => cases answered
  | succ times ih =>
    by_cases first : (attempt sent payload).toOption.getD false = true
    · refine ⟨sent, ?_⟩
      cases result : attempt sent payload with
      | error e =>
        rw [result] at first
        cases first
      | ok value =>
        rw [result] at first
        exact congrArg Except.ok first
    · rw [probeTimes, if_neg first] at answered
      exact ih answered

/-- A size fits where its datagram, at least the headers, is no larger than the path takes. -/
def Fits (mtu size : Nat) : Prop := size - 28 + 28 ≤ mtu

instance (mtu size : Nat) : Decidable (Fits mtu size) :=
  inferInstanceAs (Decidable (size - 28 + 28 ≤ mtu))

/-- The probes that would have fitted and went unanswered. -/
def lostTo (mtu : Nat) (sent : List Sent) : Nat :=
  sent.countP fun p => !p.answered && p.payload + 28 ≤ mtu

theorem not_fits_of_rejected {mtu retries size : Nat} {sent : List Sent}
    (few : lostTo mtu sent ≤ retries) (rejected : Rejected 28 retries sent size) :
    ¬ Fits mtu size := by
  obtain ⟨before, after, rfl⟩ := rejected
  intro fits
  have all : lostTo mtu (List.replicate (retries + 1) ⟨size - 28, false⟩) = retries + 1 := by
    rw [lostTo, List.countP_replicate, if_pos]
    exact decide_eq_true fits
  have part : lostTo mtu (List.replicate (retries + 1) ⟨size - 28, false⟩) ≤
      lostTo mtu (before ++ List.replicate (retries + 1) ⟨size - 28, false⟩ ++ after) := by
    rw [lostTo, lostTo, List.countP_append, List.countP_append]
    omega
  omega

/-- The largest size of a range that fits, or else its smallest. -/
def largestFitting (mtu min max : Nat) : Nat :=
  if mtu < min ∨ mtu < 28 then min else if mtu < max then mtu else max

theorem eq_largestFitting {mtu min max : Nat} {out : Nat × List Sent} {No : List Sent → Nat → Prop}
    (ends : Ends (fun _ size => Fits mtu size) No id min max min out) (nonempty : min ≤ max)
    (rejects : ∀ size, No out.2 size → ¬ Fits mtu size) : out.1 = largestFitting mtu min max := by
  cases ends with
  | none rejected =>
    have tooBig : ¬ min - 28 + 28 ≤ mtu := rejects min rejected
    rw [largestFitting, if_pos (by omega)]
  | @some world m lower upper admitted rejected =>
    change m - 28 + 28 ≤ mtu at admitted
    show m = _
    rw [largestFitting, if_neg (by omega)]
    rcases rejected with rfl | rejected
    · rw [if_neg (by omega)]
    · have tooBig : ¬ m + 1 - 28 + 28 ≤ mtu := rejects (m + 1) rejected
      split
      · omega
      · omega

/-- Where a request is only answered if it fits the path, the ICMP search ends between a size that
fits and one that was rejected. -/
theorem ends_search_fits {attempt : Attempts} {mtu : Nat}
    (fits : ∀ sent payload, attempt sent payload = .ok true → payload + 28 ≤ mtu) {min max : Nat}
    (nonempty : min ≤ max) (retries : Nat) (sent : List Sent) :
    Ends (fun _ size => Fits mtu size) (Rejected 28 retries) id min max min
      (binarySearchMtuIcmp attempt min max retries sent) := by
  have leaves : Leaves (fun sent mid => probeTimes attempt (mid - 28) (retries + 1) sent)
      (fun _ size => Fits mtu size)
      (Rejected 28 retries) :=
    { yes := fun sent mid answered => by
        obtain ⟨earlier, arrived⟩ := exists_answered (retries + 1) answered
        exact fits earlier (mid - 28) arrived
      no := (leaves_probeTimes attempt 28 retries).no
      keepsYes := fun _ _ _ known => known
      keepsNo := (leaves_probeTimes attempt 28 retries).keepsNo }
  exact ends_searchIn leaves nonempty sent

/-- Where a request is only answered if it fits the path, the ICMP search finds the largest size
that fits, as long as the path loses no more probes in all than the search retries. -/
theorem icmp_search_exact {attempt : Attempts} {mtu : Nat}
    (fits : ∀ sent payload, attempt sent payload = .ok true → payload + 28 ≤ mtu) {min max : Nat}
    (nonempty : min ≤ max) (retries : Nat) (sent : List Sent)
    (few : lostTo mtu (binarySearchMtuIcmp attempt min max retries sent).2 ≤ retries) :
    (binarySearchMtuIcmp attempt min max retries sent).1 = largestFitting mtu min max :=
  eq_largestFitting (ends_search_fits fits nonempty retries sent) nonempty fun _ rejected =>
    not_fits_of_rejected few rejected

/-- A path that takes 1400 bytes and loses the first probe. -/
def lossyAttempt : Attempts := fun sent payload => .ok (!sent.isEmpty && payload + 28 ≤ 1400)

/-- 1038 bytes are lost once, and every size beyond 1400 is asked for twice. -/
theorem lossyAttempt_probes : (binarySearchMtuIcmp lossyAttempt 576 1500 1 []).2 =
    [⟨1010, false⟩, ⟨1010, true⟩, ⟨1241, true⟩, ⟨1357, true⟩, ⟨1415, false⟩, ⟨1415, false⟩,
      ⟨1386, false⟩, ⟨1386, false⟩, ⟨1371, true⟩, ⟨1378, false⟩, ⟨1378, false⟩, ⟨1374, false⟩,
      ⟨1374, false⟩, ⟨1372, true⟩, ⟨1373, false⟩, ⟨1373, false⟩] := by
  simp [binarySearchMtuIcmp, searchIn, probeIcmp, probeTimes, lossyAttempt, ipHeaderSize,
    icmpHeaderSize, Except.toOption]

theorem icmp_search_exact_lossy :
    (binarySearchMtuIcmp lossyAttempt 576 1500 1 []).1 = largestFitting 1400 576 1500 := by
  refine icmp_search_exact (fun sent payload arrived => ?_) (by decide) 1 [] ?_
  · have both := Except.ok.inj arrived
    simp only [Bool.and_eq_true, decide_eq_true_eq] at both
    exact both.2
  · rw [lossyAttempt_probes]
    decide

/-- The host's own interface takes datagrams of some size; what is behind it never says that one
was too big. -/
def SilentBeyond (localMtu : Nat) (network : List Sent → Nat → UdpAttempt) : Prop :=
  ∀ sent payload, (payload + 28 ≤ localMtu ∧
    (network sent payload = .received ∨ network sent payload = .readFailed)) ∨
    (localMtu < payload + 28 ∧ network sent payload = .sendTooLong)

theorem probeTimes_silent {localMtu : Nat} {network : List Sent → Nat → UdpAttempt}
    (silent : SilentBeyond localMtu network) (payload times : Nat) (sent : List Sent) :
    (probeTimes (fun sent payload => sendUdpProbe (network sent payload)) payload
      (times + 1) sent).1 =
      decide (payload + 28 ≤ localMtu) := by
  induction times generalizing sent with
  | zero =>
    rw [probeTimes]
    rcases silent sent payload with ⟨fits, answer | answer⟩ | ⟨large, answer⟩
    · rw [answer, decide_eq_true fits]
      rfl
    · rw [answer, decide_eq_true fits]
      rfl
    · rw [answer, decide_eq_false (Nat.not_le.mpr large)]
      rfl
  | succ times ih =>
    rw [probeTimes]
    rcases silent sent payload with ⟨fits, answer | answer⟩ | ⟨-, answer⟩
    · rw [answer, decide_eq_true fits]
      rfl
    · rw [answer, decide_eq_true fits]
      rfl
    · rw [answer]
      exact ih _

/-- Beyond the host's own interface the UDP search sees nothing: a path that drops large datagrams
without a word is given the interface's size, or the largest one asked for. -/
theorem udp_search_local {localMtu : Nat} {network : List Sent → Nat → UdpAttempt}
    (silent : SilentBeyond localMtu network) (usable : 92 ≤ localMtu) {min max : Nat}
    (nonempty : min ≤ max) (retries : Nat) (sent : List Sent) :
    (binarySearchMtuUdp (fun sent payload => sendUdpProbe (network sent payload)) min max
      retries sent).1 =
      some (largestFitting localMtu min max) := by
  have works : (probeUdp (fun sent payload => sendUdpProbe (network sent payload)) 64 1 sent).1 =
      true := by
    rw [probeUdp, probeTimes_silent silent]
    exact decide_eq_true usable
  have leaves : Leaves (fun sent mid =>
      probeTimes (fun sent payload => sendUdpProbe (network sent payload)) (mid - 28)
        (retries + 1) sent)
      (fun _ size => Fits localMtu size) (fun _ size => ¬ Fits localMtu size) :=
    { yes := fun sent mid answered => by
        rw [probeTimes_silent silent] at answered
        exact of_decide_eq_true answered
      no := fun sent mid refused => by
        rw [probeTimes_silent silent] at refused
        exact of_decide_eq_false refused
      keepsYes := fun _ _ _ known => known
      keepsNo := fun _ _ _ known => known }
  rw [binarySearchMtuUdp]
  dsimp only
  rw [if_pos works]
  exact congrArg some (eq_largestFitting
    (ends_searchIn leaves nonempty _) nonempty fun _ known => known)

theorem udp_search_local_ethernet :
    (binarySearchMtuUdp (fun _ payload =>
      sendUdpProbe (if payload + 28 ≤ 1500 then .readFailed else .sendTooLong)) 576 9000 2
      []).1 = some (largestFitting 1500 576 9000) := by
  refine @udp_search_local 1500 (fun _ payload => if payload + 28 ≤
    1500 then .readFailed else .sendTooLong)
    (fun _ payload => ?_) (by decide) 576 9000 (by decide) 2 []
  by_cases small : payload + 28 ≤ 1500
  · exact Or.inl ⟨small, Or.inr (if_pos small)⟩
  · exact Or.inr ⟨Nat.not_le.mp small, if_neg small⟩

/-- Where every connection is made, the TCP search gives the largest size
asked for: it sends none. -/
theorem tcp_search_accepted {connects : List Sent → Bool} (accepted : ∀ sent, connects sent = true)
    {min max : Nat} (nonempty : min ≤ max) (sent : List Sent) :
    (binarySearchMtuTcp true connects min max sent).1 = some max :=
  searchIn_always (fun sent _ => accepted sent) nonempty sent

/-- An echo reply that carries an identifier, in a datagram with any IP
options and any sequence number. -/
def RepliesTo (id : UInt16) (datagram : Bytes) : Prop :=
  ∃ header code high low rest, datagram = header ++ ([0, code, high, low] ++ (be16 id ++ rest)) ∧
    header.length = ((header[0]?.getD 0 &&& 0x0F) * 4).toNat ∧ 20 ≤ header.length ∧ 2 ≤ rest.length

section Overheard
variable {id : UInt16} {network : List Sent → Nat → List Bytes}
  (overhears : ∀ sent payload, ∃ datagram ∈ network sent payload, RepliesTo id datagram)
include overhears

theorem probeIcmp_overhears (payload retries : Nat) (sent : List Sent) :
    (probeIcmp (fun sent payload => sendIcmpProbe id (.heard (network sent payload))) payload
      retries sent).1 = true := by
  obtain ⟨datagram, heard, header, code, high, low, rest, rfl, headed, whole, numbered⟩ :=
    overhears sent payload
  have accepted : (network sent payload).any (acceptsReply id) = true :=
    List.any_eq_true.mpr ⟨_, heard, acceptsReply_reply headed whole numbered⟩
  rw [probeIcmp, probeTimes, sendIcmpProbe, accepted]
  rfl

/-- Replies are told apart by the process only: a search whose sockets hear any reply to it in time
finds every size answered. -/
theorem icmp_search_overhears {min max : Nat} (nonempty : min ≤ max) (retries : Nat)
    (sent : List Sent) :
    (binarySearchMtuIcmp (fun sent payload => sendIcmpProbe id (.heard (network sent payload))) min
      max retries sent).1 =
      max :=
  searchIn_always (fun sent _ => probeIcmp_overhears overhears _ retries sent) nonempty sent

end Overheard

end FragglePacket.Probe
