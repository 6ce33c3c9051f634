import FragglePacket.Text.Fields
import Mathlib.Data.List.Basic
import Mathlib.Order.Basic

/-! Path MTU evidence by acknowledged writes: one attempt for each tested size, and the
verdict over all of them. The sockets and quinn are parameters of an attempt. -/

namespace FragglePacket.Probe

open FragglePacket.Text

/-- Below this size no QUIC handshake can test. -/
def quicMinTestableMtu : Nat := 1200

inductive SizeOutcome where
  | confirmed
  | sendFailedLocally
  | icmpTooBig
  | noResponse
  | notTestable
deriving DecidableEq

def SizeOutcome.isPathEvidence (outcome : SizeOutcome) : Bool := outcome == .confirmed

structure SizeResult where
  size : Nat
  outcome : SizeOutcome
  detail : String
  elapsedMs : Nat

structure DfStatus where
  requested : Bool
  applied : Bool
  detail : String

structure PmtuEvidence where
  target : String
  resolvedIp : Option String
  port : Nat
  df : DfStatus
  sizes : List SizeResult
  confirmedPmtu : Option Nat
  verdict : String

/-- What the stream of one connection came to. -/
inductive StreamRun where
  | acknowledged
  | writeFailed (error : String)
  | writeStalled
  | refused (error : String)
  | openStalled

/-- How far quinn gets with datagrams pinned to one size. `observed` is its
`max_datagram_size()` behind the write. -/
inductive QuicRun where
  | tlsConfig (error : String)
  | invalidIdleTimeout
  | bindParse (error : String)
  | endpointBind (error : String)
  | connectSetup (error : String)
  | handshakeFailed (message : String)
  | handshakeStalled
  | connected (alpn : String) (stream : StreamRun) (observed : Option Nat)

/-- What the system calls of the local check return. -/
structure LocalSend where
  bind : Except String Unit
  setDontFragment : Except String Unit
  sendTo : Except String Nat

/-- One tested size with what happens to it. -/
structure Attempt where
  size : Nat
  localSend : LocalSend
  quic : QuicRun
  elapsedMs : Nat

/-- `set_dont_fragment` on Linux. -/
def setDontFragment (result : Except String Unit) : DfStatus :=
  match result with
  | .ok () => { requested := true, applied := true, detail := "IP_MTU_DISCOVER=IP_PMTUDISC_DO" }
  | .error lastOsError =>
    { requested := true, applied := false, detail := "setsockopt IP_MTU_DISCOVER failed: " ++
        lastOsError }

def localSendCheck (size : Nat) (send : LocalSend) : SizeOutcome × String × DfStatus :=
  match send.bind with
  | .error error =>
    (.sendFailedLocally, "bind: " ++ error,
      { requested := false, applied := false, detail := "socket bind failed" })
  | .ok () =>
    let df := setDontFragment send.setDontFragment
    match send.sendTo with
    | .ok n =>
      if n = size then (.noResponse, "local stack accepted the datagram; no path evidence", df)
      else (.sendFailedLocally, "short send: " ++ toString n ++ " of " ++ toString size ++
        " bytes", df)
    | .error error => (.sendFailedLocally, error, df)

/-- The outcome of the stream, before quinn's own estimate is looked at. -/
def streamOutcome (size : Nat) (timeout alpn : String) : StreamRun → SizeOutcome × String
  | .acknowledged =>
    (.confirmed, toString (size * 4) ++ " bytes of stream data acknowledged with " ++
      toString size ++ "-byte datagrams (alpn=" ++ alpn ++ ")")
  | .writeFailed error =>
    (.noResponse, "stream write with " ++ toString size ++ "-byte datagrams failed: " ++ error)
  | .writeStalled =>
    (.noResponse, "stream write stalled with " ++ toString size ++
      "-byte datagrams: no acknowledgement within " ++
      timeout ++ ", consistent with the path not carrying this size")
  | .refused error => (.noResponse, "peer refused a stream (" ++ error ++ "), size unconfirmed")
  | .openStalled =>
    (.noResponse, "opening a stream stalled at " ++ toString size ++ "-byte datagrams")

/-- A handshake error that is the local stack's EMSGSIZE. -/
def isLocalRefusal (message : String) : Bool :=
  contains message.toList "too long".toList || contains message.toList "message size".toList

/-- `timeout` is the text of the timeout. -/
def confirmSizeViaQuic (size : Nat) (timeout : String) (quic : QuicRun) : SizeOutcome × String :=
  if size < quicMinTestableMtu then
    (.notTestable, "below quinn's " ++ toString quicMinTestableMtu ++ "-byte floor")
  else
    match quic with
    | .tlsConfig error => (.noResponse, "quic tls config: " ++ error)
    | .invalidIdleTimeout => (.noResponse, "invalid idle timeout")
    | .bindParse error => (.noResponse, "bind parse: " ++ error)
    | .endpointBind error => (.sendFailedLocally, "endpoint bind: " ++ error)
    | .connectSetup error => (.sendFailedLocally, "connect setup: " ++ error)
    | .handshakeFailed message =>
      if isLocalRefusal message then (.sendFailedLocally, message) else (.noResponse, message)
    | .handshakeStalled => (.noResponse, "no handshake response within " ++ timeout)
    | .connected alpn stream observed =>
      let outcome := streamOutcome size timeout alpn stream
      match outcome.1, observed with
      | .confirmed, some obs =>
        -- the datagram capacity is cast to 16 bits and compared with the packet size
        if obs % 65536 < size then
          (.noResponse, "write succeeded but quinn's path estimate stayed at " ++ toString obs ++
            " bytes, below the requested " ++ toString size ++
              "; not treated as confirmation of " ++ toString size)
        else outcome
      | _, _ => outcome

/-- The size an attempt pins its datagrams to. -/
def Attempt.pinned (attempt : Attempt) : Nat := if 65535 < attempt.size then 65535 else attempt.size

/-- One round of the sweep. `runtime` is the result of building the runtime. -/
def probeSize (runtime : Except String Unit) (timeout : String)
    (attempt : Attempt) : SizeResult × DfStatus :=
  let (localOutcome, localDetail, df) := localSendCheck attempt.size attempt.localSend
  let (outcome, detail) :=
    if localOutcome = .sendFailedLocally then (localOutcome, localDetail)
    else
      match runtime with
      | .ok () => confirmSizeViaQuic attempt.pinned timeout attempt.quic
      | .error error => (.noResponse, "runtime: " ++ error)
  ({ size := attempt.size, outcome := outcome, detail := detail,
     elapsedMs := attempt.elapsedMs }, df)

def PmtuEvidence.largestConfirmed (e : PmtuEvidence) : Option Nat :=
  ((e.sizes.filter (·.outcome.isPathEvidence)).map (·.size)).max?

/-- The sizes that got no answer. -/
def PmtuEvidence.unanswered (e : PmtuEvidence) : List Nat :=
  (e.sizes.filter fun result => result.outcome = .noResponse ||
    result.outcome = .icmpTooBig).map (·.size)

def PmtuEvidence.smallestUnanswered (e : PmtuEvidence) : Option Nat := e.unanswered.min?

/-- A sentence of the verdict. -/
inductive VerdictPart where
  | largest (c : Nat)
  | ceiling (c u : Nat)
  | undetermined
  | ambiguous (count : Nat)
  | refused (count : Nat)
  | fragmentable (detail : String)
deriving DecidableEq

def VerdictPart.text : VerdictPart → String
  | .largest c => "largest response-confirmed UDP payload: " ++ toString c ++ " bytes"
  | .ceiling c u => "path ceiling lies between " ++ toString c ++ " and " ++ toString u ++ " bytes"
  | .undetermined => "path MTU undetermined: no tested size produced a protocol-valid response"
  | .ambiguous count =>
    toString count ++ " size(s) sent without a reply, which is ambiguous between path MTU, " ++
      "response filtering, and an endpoint that does not answer"
  | .refused count => toString count ++ " size(s) refused by the local stack (local evidence only)"
  | .fragmentable detail =>
    "WARNING: don't-fragment could not be set (" ++ detail ++
      "), so any confirmation may describe " ++
      "fragmented delivery rather than path MTU"

def PmtuEvidence.count (e : PmtuEvidence) (outcome : SizeOutcome) : Nat :=
  (e.sizes.filter (·.outcome = outcome)).length

/-- What the verdict says of the sizes. -/
def sizeParts (e : PmtuEvidence) : List VerdictPart :=
  match e.confirmedPmtu with
  | some c =>
    .largest c ::
      match e.smallestUnanswered with
      | some u => if c < u then [.ceiling c u] else []
      | none => []
  | none =>
    .undetermined ::
      ((if 0 < e.count .noResponse then [.ambiguous (e.count .noResponse)] else []) ++
        (if 0 < e.count .sendFailedLocally then [.refused (e.count .sendFailedLocally)] else []))

def verdictParts (e : PmtuEvidence) : List VerdictPart :=
  sizeParts e ++ if e.df.applied then [] else [.fragmentable e.df.detail]

def buildVerdict (e : PmtuEvidence) : String :=
  "; ".intercalate ((verdictParts e).map VerdictPart.text)

def dfBefore : DfStatus := { requested := true, applied := false, detail := "not yet attempted" }

def probePmtuEvidence (host ip : String) (port : Nat) (runtime : Except String Unit)
    (timeout : String) (attempts : List Attempt) : PmtuEvidence :=
  let rounds := attempts.map (probeSize runtime timeout)
  let evidence : PmtuEvidence := {
    target := host
    resolvedIp := some ip
    port := port
    df := rounds.foldl (fun _ round => round.2) dfBefore
    sizes := rounds.map (·.1)
    confirmedPmtu := none
    verdict := "" }
  let evidence := { evidence with confirmedPmtu := evidence.largestConfirmed }
  { evidence with verdict := buildVerdict evidence }

def QuicRun.acknowledged : QuicRun → Bool
  | .connected _ .acknowledged _ => true
  | _ => false

def QuicRun.observed : QuicRun → Option Nat
  | .connected _ _ observed => observed
  | _ => none

/-- The local check accepts the size. -/
def Attempt.Accepted (attempt : Attempt) : Prop :=
  (localSendCheck attempt.size attempt.localSend).1 ≠ .sendFailedLocally

/-- The don't-fragment bit was set on the check of this size. -/
def Attempt.dfApplied (attempt : Attempt) : Bool :=
  (localSendCheck attempt.size attempt.localSend).2.2.applied

/-- A path that carries datagrams up to `T`: the write is acknowledged exactly there, and
quinn then gives no datagram capacity or one with an overhead taken off. -/
structure OnPath (T : Nat) (attempt : Attempt) : Prop where
  acknowledged : attempt.quic.acknowledged = true ↔ attempt.pinned ≤ T
  observed : attempt.quic.acknowledged = true → attempt.quic.observed = none ∨
    ∃ overhead, 0 < overhead ∧ attempt.quic.observed = some (attempt.pinned - overhead)

/-- A tested size that the path carries. -/
def Attempt.Carried (T : Nat) (attempt : Attempt) : Prop :=
  attempt.Accepted ∧ 1200 ≤ attempt.size ∧ attempt.size ≤ min T 65535

/-- A size that comes out confirmed: only without a datagram capacity to compare with. -/
def Attempt.Confirmed (T : Nat) (attempt : Attempt) : Prop :=
  attempt.Accepted ∧ 1200 ≤ attempt.size ∧ attempt.pinned ≤ T ∧ attempt.quic.observed = none

/-- The largest of some sizes, or `none` of no size. -/
def IsLargest (sizes : Nat → Prop) : Option Nat → Prop
  | some c => sizes c ∧ ∀ s, sizes s → s ≤ c
  | none => ∀ s, ¬ sizes s

/-- The evidence reports the largest size that the path carries, a ceiling right above it,
and a warning when the proof is void. -/
structure Reports (T : Nat) (attempts : List Attempt) (timeout : String)
    (e : PmtuEvidence) : Prop where
  largest : IsLargest (fun s => ∃ attempt ∈ attempts, attempt.Carried T ∧ attempt.size = s)
    e.confirmedPmtu
  verdict : e.verdict = "; ".intercalate ((verdictParts e).map VerdictPart.text)
  ceiling : ∀ c u, .ceiling c u ∈ verdictParts e →
    e.confirmedPmtu = some c ∧ c < u ∧ u ∈ e.unanswered ∧ ∀ v ∈ e.unanswered, c < v → u ≤ v
  warning : ∀ attempt ∈ attempts, (probeSize (.ok ()) timeout attempt).1.outcome = .confirmed →
    attempt.dfApplied = false → ∃ detail, .fragmentable detail ∈ verdictParts e

/-- No size above 65535 is confirmed at the clamped size, the largest carried size has an
attempt without a datagram capacity, and the last check speaks for every confirmed one. -/
structure Trusted (T : Nat) (attempts : List Attempt) : Prop where
  inRange : ∀ attempt ∈ attempts, attempt.Confirmed T → attempt.size ≤ 65535
  uncapped : ∀ attempt ∈ attempts, attempt.Carried T →
    ∃ other ∈ attempts, other.Carried T ∧ other.quic.observed = none ∧ attempt.size ≤ other.size
  dontFragment : (∃ attempt ∈ attempts, attempt.Confirmed T ∧ attempt.dfApplied = false) →
    ∀ last ∈ attempts.getLast?, last.dfApplied = false

theorem isLargest_max? (sizes : List Nat) : IsLargest (· ∈ sizes) sizes.max? := by
  cases found : sizes.max? with
  | none =>
    rw [List.max?_eq_none_iff] at found
    simp [IsLargest, found]
  | some c => exact List.max?_eq_some_iff.mp found

theorem pinned_small {attempt : Attempt} (small : attempt.size ≤ 65535) :
    attempt.pinned = attempt.size :=
  if_neg (Nat.not_lt.mpr small)

theorem pinned_testable {attempt : Attempt} (testable : 1200 ≤ attempt.size) :
    1200 ≤ attempt.pinned := by
  unfold Attempt.pinned
  split
  · decide
  · exact testable

theorem carried_iff_of_uncapped {T : Nat} {attempt : Attempt}
    (uncapped : attempt.quic.observed = none) :
    attempt.Carried T ↔ attempt.Confirmed T ∧ attempt.size ≤ 65535 := by
  constructor
  · intro ⟨accepted, testable, bound⟩
    have small : attempt.size ≤ 65535 := Nat.le_trans bound (Nat.min_le_right _ _)
    refine ⟨⟨accepted, testable, ?_, uncapped⟩, small⟩
    rw [pinned_small small]
    exact Nat.le_trans bound (Nat.min_le_left _ _)
  · intro ⟨⟨accepted, testable, carried, _⟩, small⟩
    rw [pinned_small small] at carried
    exact ⟨accepted, testable, Nat.le_min.mpr ⟨carried, small⟩⟩

section Sweep
variable {T : Nat} {timeout : String} {attempt : Attempt}

/-- Pinned to a testable size, only an acknowledged write without a capacity confirms. -/
theorem confirmSizeViaQuic_confirmed_iff (testable : 1200 ≤ attempt.pinned)
    (path : OnPath T attempt) :
    (confirmSizeViaQuic attempt.pinned timeout attempt.quic).1 = .confirmed ↔
      attempt.pinned ≤ T ∧ attempt.quic.observed = none := by
  have small : attempt.pinned ≤ 65535 := by
    unfold Attempt.pinned
    split <;> omega
  rw [← path.acknowledged]
  have observed := path.observed
  have above : ¬ attempt.pinned < quicMinTestableMtu := Nat.not_lt.mpr testable
  unfold confirmSizeViaQuic
  rw [if_neg above]
  clear above
  generalize attempt.pinned = size at observed small testable ⊢
  generalize attempt.quic = quic at observed ⊢
  cases quic with
  | connected alpn stream capacity =>
    cases stream with
    | acknowledged =>
      cases capacity with
      | none => simp [streamOutcome, QuicRun.acknowledged, QuicRun.observed]
      | some obs =>
        have below : obs % 65536 < size := by
          rcases observed rfl with absent | ⟨overhead, positive, same⟩
          · cases absent
          · obtain rfl : obs = size - overhead := Option.some.inj same
            omega
        simp [streamOutcome, QuicRun.acknowledged, QuicRun.observed, below]
    | _ => simp [streamOutcome, QuicRun.acknowledged]
  | handshakeFailed message =>
    cases refusal : isLocalRefusal message <;> simp [QuicRun.acknowledged, refusal]
  | _ => simp [QuicRun.acknowledged]

theorem probeSize_confirmed_iff (path : attempt.Accepted → 1200 ≤ attempt.size → OnPath T attempt) :
    (probeSize (.ok ()) timeout attempt).1.outcome = .confirmed ↔ attempt.Confirmed T := by
  by_cases accepted : attempt.Accepted
  · have proceeds : (localSendCheck attempt.size attempt.localSend).1 ≠
        .sendFailedLocally := accepted
    simp only [probeSize, if_neg proceeds]
    by_cases testable : 1200 ≤ attempt.size
    · rw [confirmSizeViaQuic_confirmed_iff (pinned_testable testable) (path accepted testable)]
      simp [Attempt.Confirmed, accepted, testable]
    · have pinned : attempt.pinned < quicMinTestableMtu := by
        rw [pinned_small (by omega), quicMinTestableMtu]
        omega
      simp [confirmSizeViaQuic, pinned, Attempt.Confirmed, testable]
  · have refused : (localSendCheck attempt.size attempt.localSend).1 = .sendFailedLocally := by
      simpa [Attempt.Accepted] using accepted
    simp [probeSize, refused, Attempt.Confirmed, accepted]

end Sweep

section Evidence
variable (host ip timeout : String) (port : Nat) {T : Nat} {attempts : List Attempt}

/-- Which sizes the sweep confirms, of any attempts. -/
theorem confirmedPmtu_isLargest
    (path : ∀ attempt ∈ attempts, attempt.Accepted → 1200 ≤ attempt.size →
    OnPath T attempt) :
    IsLargest (fun s => ∃ attempt ∈ attempts, attempt.Confirmed T ∧ attempt.size = s)
      (probePmtuEvidence host ip port (.ok ()) timeout attempts).confirmedPmtu := by
  have members : (fun s => ∃ attempt ∈ attempts, attempt.Confirmed T ∧ attempt.size = s) =
      fun s => s ∈ (((attempts.map (probeSize (.ok ()) timeout)).map (·.1)).filter
        (·.outcome.isPathEvidence)).map (·.size) := by
    funext s
    apply propext
    simp only [List.mem_map, List.mem_filter, SizeOutcome.isPathEvidence, beq_iff_eq]
    constructor
    · intro ⟨attempt, member, confirmed, same⟩
      have outcome : (probeSize (.ok ()) timeout attempt).1.outcome = .confirmed :=
        (probeSize_confirmed_iff (path attempt member)).mpr confirmed
      exact ⟨_, ⟨⟨_, ⟨attempt, member, rfl⟩, rfl⟩, outcome⟩, same⟩
    · intro ⟨_, ⟨⟨_, ⟨attempt, member, rfl⟩, rfl⟩, confirmed⟩, same⟩
      exact ⟨attempt, member, (probeSize_confirmed_iff (path attempt member)).mp confirmed, same⟩
  rw [members]
  exact isLargest_max? _

/-- The status that the verdict sees is the last one. -/
theorem df_last (last : Attempt) (front : List Attempt) :
    (probePmtuEvidence host ip port (.ok ()) timeout (front ++ [last])).df.applied =
      last.dfApplied := by
  simp [probePmtuEvidence, probeSize, Attempt.dfApplied]

theorem ceiling_mem_iff (e : PmtuEvidence) (c u : Nat) : .ceiling c u ∈ verdictParts e ↔
    e.confirmedPmtu = some c ∧ e.smallestUnanswered = some u ∧ c < u := by
  have apart : .ceiling c u ∉ if e.df.applied then [] else
      [VerdictPart.fragmentable e.df.detail] := by
    split <;> simp
  rw [verdictParts, List.mem_append, or_iff_left apart, sizeParts]
  cases e.confirmedPmtu with
  | none => simp
  | some confirmed =>
    cases e.smallestUnanswered with
    | none => simp
    | some unanswered =>
      by_cases below : confirmed < unanswered
      · simp only [if_pos below, List.mem_cons, List.not_mem_nil, or_false, reduceCtorEq, false_or,
          VerdictPart.ceiling.injEq, Option.some.injEq]
        exact ⟨fun ⟨sameC, sameU⟩ => ⟨sameC.symm, sameU.symm, sameC ▸ sameU ▸ below⟩,
          fun ⟨sameC, sameU, _⟩ => ⟨sameC.symm, sameU.symm⟩⟩
      · simp only [if_neg below, List.mem_singleton, reduceCtorEq, Option.some.injEq, false_iff]
        exact fun ⟨sameC, sameU, larger⟩ => below (sameC ▸ sameU ▸ larger)

theorem fragmentable_mem_iff (e : PmtuEvidence) :
    (∃ detail, .fragmentable detail ∈ verdictParts e) ↔ e.df.applied = false := by
  have silent : ∀ detail, .fragmentable detail ∉ sizeParts e := by
    intro detail
    unfold sizeParts
    split
    · split
      · split <;> simp
      · simp
    · simp only [List.mem_cons, reduceCtorEq, List.mem_append, false_or, not_or]
      constructor <;> split <;> simp
  cases applied : e.df.applied with
  | true => simp [verdictParts, applied, silent]
  | false => simp [verdictParts, applied]

/-- Sizes and their confirmations agree as long as no clamp and no capacity is in the way. -/
theorem largest_carried_iff {result : Option Nat}
    (confirmed : IsLargest (fun s => ∃ attempt ∈ attempts, attempt.Confirmed T ∧ attempt.size = s)
      result) :
    IsLargest (fun s => ∃ attempt ∈ attempts, attempt.Carried T ∧ attempt.size = s) result ↔
      (∀ attempt ∈ attempts, attempt.Confirmed T → attempt.size ≤ 65535) ∧
        ∀ attempt ∈ attempts, attempt.Carried T →
          ∃ other ∈ attempts, other.Carried T ∧ other.quic.observed = none ∧
            attempt.size ≤ other.size := by
  cases result with
  | none =>
    constructor
    · intro carried
      exact ⟨fun attempt member here => absurd ⟨attempt, member, here, rfl⟩
        (confirmed attempt.size),
        fun attempt member here => absurd ⟨attempt, member, here, rfl⟩ (carried attempt.size)⟩
    · intro ⟨_, uncapped⟩ s ⟨attempt, member, carried, _⟩
      obtain ⟨other, there, carriedOther, none, _⟩ := uncapped attempt member carried
      exact confirmed other.size ⟨other, there,
        ((carried_iff_of_uncapped none).mp carriedOther).1, rfl⟩
  | some c =>
    obtain ⟨⟨best, here, sure, size⟩, largest⟩ := confirmed
    constructor
    · intro ⟨⟨carrier, _, carried, same⟩, above⟩
      have bound : c ≤ 65535 := same ▸ Nat.le_trans carried.2.2 (Nat.min_le_right _ _)
      refine ⟨fun attempt member confirmed => ?_, fun attempt member carried => ?_⟩
      · exact Nat.le_trans (largest attempt.size ⟨attempt, member, confirmed, rfl⟩) bound
      · refine ⟨best, here, (carried_iff_of_uncapped sure.2.2.2).mpr ⟨sure, size ▸ bound⟩,
          sure.2.2.2, ?_⟩
        rw [size]
        exact above attempt.size ⟨attempt, member, carried, rfl⟩
    · intro ⟨inRange, uncapped⟩
      have carriedBest := (carried_iff_of_uncapped sure.2.2.2).mpr ⟨sure, inRange best here sure⟩
      refine ⟨⟨best, here, carriedBest, size⟩, ?_⟩
      rintro s ⟨attempt, member, carried, rfl⟩
      obtain ⟨other, there, carriedOther, none, below⟩ := uncapped attempt member carried
      have confirmedOther := ((carried_iff_of_uncapped none).mp carriedOther).1
      exact Nat.le_trans below (largest other.size ⟨other, there, confirmedOther, rfl⟩)

/-- The evidence reports what the path carries exactly when the attempts can be trusted. -/
theorem probePmtuEvidence_reports_iff (T : Nat) (attempts : List Attempt)
    (path : ∀ attempt ∈ attempts, attempt.Accepted → 1200 ≤ attempt.size → OnPath T attempt) :
    Reports T attempts timeout (probePmtuEvidence host ip port (.ok ()) timeout attempts) ↔
      Trusted T attempts := by
  have largest := largest_carried_iff (confirmedPmtu_isLargest host ip timeout port path)
  constructor
  · intro reports
    obtain ⟨inRange, uncapped⟩ := largest.mp reports.largest
    refine ⟨inRange, uncapped, ?_⟩
    intro ⟨attempt, member, confirmed, unset⟩ last isLast
    obtain ⟨front, rfl⟩ := List.getLast?_eq_some_iff.mp isLast
    have warned := reports.warning attempt member
      ((probeSize_confirmed_iff (path attempt member)).mpr confirmed) unset
    rw [fragmentable_mem_iff, df_last] at warned
    exact warned
  · intro trusted
    constructor
    · exact largest.mpr ⟨trusted.inRange, trusted.uncapped⟩
    · rfl
    · intro c u part
      obtain ⟨confirmed, smallest, below⟩ := (ceiling_mem_iff _ c u).mp part
      obtain ⟨member, least⟩ := List.min?_eq_some_iff.mp smallest
      exact ⟨confirmed, below, member, fun v other _ => least v other⟩
    · intro attempt member outcome unset
      have confirmed := (probeSize_confirmed_iff (path attempt member)).mp outcome
      cases isLast : attempts.getLast? with
      | none =>
        rw [List.getLast?_eq_none_iff.mp isLast] at member
        cases member
      | some last =>
        have unsetLast := trusted.dontFragment ⟨attempt, member, confirmed, unset⟩ last isLast
        obtain ⟨front, rfl⟩ := List.getLast?_eq_some_iff.mp isLast
        rw [fragmentable_mem_iff, df_last]
        exact unsetLast

end Evidence

/-- An accepted check of this size, and an acknowledged write. -/
def acknowledgedAttempt (size : Nat) (observed : Option Nat) : Attempt where
  size := size
  localSend := { bind := .ok (), setDontFragment := .ok (), sendTo := .ok size }
  quic := .connected "h3" .acknowledged observed
  elapsedMs := 0

/-- The local check takes 1500 bytes, and the path does not. -/
def stalledAttempt : Attempt :=
  { acknowledgedAttempt 1500 none with
    quic := .connected "h3" .writeStalled none, elapsedMs := 4000 }

/-- The capacity of the smallest size undoes its confirmation, and the next one stands. -/
def sweepAttempts : List Attempt :=
  [acknowledgedAttempt 1200 (some 1171), acknowledgedAttempt 1400 none, stalledAttempt]

theorem sweepAttempts_onPath : ∀ attempt ∈ sweepAttempts, OnPath 1450 attempt := by
  intro attempt member
  simp only [sweepAttempts, List.mem_cons, List.not_mem_nil, or_false] at member
  rcases member with rfl | rfl | rfl
  · exact ⟨by decide, fun _ => .inr ⟨29, by decide, rfl⟩⟩
  · exact ⟨by decide, fun _ => .inl rfl⟩
  · exact ⟨by decide, fun _ => .inl rfl⟩

theorem sweepAttempts_trusted : Trusted 1450 sweepAttempts where
  inRange := by simp [sweepAttempts, acknowledgedAttempt, stalledAttempt]
  uncapped := by
    intro attempt member carried
    have confirmed : (acknowledgedAttempt 1400 none).Carried 1450 :=
      ⟨by simp [Attempt.Accepted, localSendCheck, acknowledgedAttempt], by decide, by decide⟩
    refine ⟨acknowledgedAttempt 1400 none, by simp [sweepAttempts], confirmed, rfl, ?_⟩
    simp only [sweepAttempts, List.mem_cons, List.not_mem_nil, or_false] at member
    rcases member with rfl | rfl | rfl
    · decide
    · decide
    · exact absurd carried.2.2 (by decide)
  dontFragment := by
    rintro ⟨attempt, member, -, unset⟩
    simp only [sweepAttempts, List.mem_cons, List.not_mem_nil, or_false] at member
    rcases member with rfl | rfl | rfl
    · cases unset
    · cases unset
    · cases unset

theorem probePmtuEvidence_reports_1400 : Reports 1450 sweepAttempts "4s"
    (probePmtuEvidence "example.test" "192.0.2.1" 443 (.ok ()) "4s" sweepAttempts) :=
  (probePmtuEvidence_reports_iff "example.test" "192.0.2.1" "4s" 443 1450 sweepAttempts
    fun attempt member _ _ => sweepAttempts_onPath attempt member).mpr sweepAttempts_trusted

/-- A capacity below the packet size, as quinn always gives it, undoes the confirmation. -/
theorem probePmtuEvidence_denies_1400 :
    ¬ ∀ (host ip timeout : String) (port T : Nat) (attempts : List Attempt),
    (∀ attempt ∈ attempts, attempt.Accepted → 1200 ≤ attempt.size → OnPath T attempt) →
      Reports T attempts timeout (probePmtuEvidence host ip port (.ok ()) timeout attempts) := by
  intro claim
  have reports :=
    claim "example.test" "192.0.2.1" "4s" 443 1500 [acknowledgedAttempt 1400 (some 1371)] (by
      intro attempt member _ _
      obtain rfl := List.mem_singleton.mp member
      exact ⟨by decide, fun _ => .inr ⟨29, by decide, rfl⟩⟩)
  refine reports.largest 1400 ⟨acknowledgedAttempt 1400 (some 1371),
    List.mem_singleton.mpr rfl, ?_, rfl⟩
  exact ⟨by simp [Attempt.Accepted, localSendCheck, acknowledgedAttempt], by decide, by decide⟩

end FragglePacket.Probe
