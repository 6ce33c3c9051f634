import FragglePacket.Text.Fields
import FragglePacket.Text.Float
import Mathlib.Tactic.Ring
import Mathlib.Tactic.NormNum

/-! The clock guard: an `sntp` run read to an offset with its uncertainty, the verdict
on it, and the merge of event lists under such verdicts. -/

namespace FragglePacket.NetworkTests

open FragglePacket.Text

inductive DetailKind where
  | connectionRefused
  | connectionReset
  | timedOut
  | tlsHandshakeFailed
  | other
deriving DecidableEq

inductive DependencyVerdict where
  | healthy
  | unhealthy (detailKind : DetailKind)
  | blockedByPolicy (detailKind : DetailKind)
  | notApplicable

structure NtpOffsetResult where
  server : String
  offsetMs : Option F64
  roundTripDelayMs : Option F64
  verdict : DependencyVerdict

/-- The field between an offset and its uncertainty. -/
def plusMinus : Str := ['+', '/', '-']

/-- The line begins with a sign. -/
def startsSigned (line : Str) : Bool := line.head? = some '+' || line.head? = some '-'

/-- `parse_sntp_output` over the trimmed lines: the first line that fails to parse ends
the search. -/
def parseSntpLines : List Str → Option (F64 × F64)
  | [] => none
  | line :: rest =>
    if !startsSigned line then parseSntpLines rest
    else
      match splitWhitespace line with
      | offsetStr :: pm :: delayStr :: _ =>
        if pm ≠ plusMinus then parseSntpLines rest
        else do
          let offset ← parseF64 offsetStr
          let delay ← parseF64 delayStr
          return (offset.thousandfold, delay.thousandfold)
      | _ => none

def parseSntpOutput (text : Str) : Option (F64 × F64) := parseSntpLines ((lines text).map trim)

/-- `measure_ntp_offset` on the output of `sntp`; `none` when it could not be run. -/
def measureNtpOffset (server : String) (stdout : Option Str) : NtpOffsetResult :=
  match stdout.bind parseSntpOutput with
  | some (offset, delay) =>
    { server := server, offsetMs := some offset, roundTripDelayMs := some delay,
      verdict := .healthy }
  | none =>
    { server := server, offsetMs := none, roundTripDelayMs := none, verdict := .unhealthy .other }

structure DualTimestamp where
  wallClockUnixMs : Nat
  monotonicNanosSinceProcessStart : Nat

structure OffsetWithBound where
  offsetMs : F64
  uncertaintyMs : F64

inductive SkewOutcome where
  | withinTolerance
  | exceedsTolerance
deriving DecidableEq

structure ClockVerdict where
  nodeLabel : String
  ntpServer : String
  offset : Option OffsetWithBound
  maxSkewMs : ℚ
  outcome : SkewOutcome
  timestamp : DualTimestamp
  explanation : String

def ClockVerdict.permitsOneWayClaim (verdict : ClockVerdict) : Bool :=
  verdict.offset.isSome && verdict.outcome == .withinTolerance

def OffsetWithBound.bound (offset : OffsetWithBound) : F64 :=
  offset.offsetMs.abs.add offset.uncertaintyMs

/-- The figures of an explanation. -/
def OffsetWithBound.text (offset : OffsetWithBound) (server : String) : String :=
  "offset " ++ offset.offsetMs.text 3 ++ "ms +/- " ++ offset.uncertaintyMs.text 3 ++
    "ms against " ++ server

def DependencyVerdict.reason : DependencyVerdict → String
  | .blockedByPolicy _ => "\"blocked by policy\""
  | .unhealthy _ => "\"unhealthy/unreachable\""
  | _ => "\"no result\""

/-- `now` is the time of the decision. -/
def fromNtpResult (nodeLabel : String) (maxSkewMs : ℚ) (now : DualTimestamp)
    (ntpResult : NtpOffsetResult) :
    ClockVerdict :=
  let offset := match ntpResult.offsetMs, ntpResult.roundTripDelayMs with
    | some offsetMs, some delayMs => some { offsetMs := offsetMs, uncertaintyMs := delayMs }
    | _, _ => none
  let (outcome, explanation) := match offset with
    | none =>
      (SkewOutcome.exceedsTolerance, "NTP query to " ++ ntpResult.server ++
        " did not produce a usable offset (" ++
        ntpResult.verdict.reason ++
        "); a one-way claim cannot be gated by an unmeasured skew, so it is refused")
    | some o =>
      if o.bound.AtMost maxSkewMs then
        (.withinTolerance, OffsetWithBound.text o ntpResult.server ++ " is within the " ++
          fixed 1 maxSkewMs ++ "ms configured skew threshold")
      else
        (.exceedsTolerance, OffsetWithBound.text o ntpResult.server ++ " exceeds the " ++
          fixed 1 maxSkewMs ++
          "ms configured skew threshold; refusing the one-way claim rather than correcting for an " ++
          "imprecisely measured offset")
  { nodeLabel := nodeLabel
    ntpServer := ntpResult.server
    offset := offset
    maxSkewMs := maxSkewMs
    outcome := outcome
    timestamp := now
    explanation := explanation }

structure CorrelatedEvent where
  sourceLabel : String
  description : String
  timestamp : DualTimestamp

inductive CorrelationConfidence where
  | sameNodeMonotonic
  | crossNodeVerified (combinedUncertaintyMs : F64)
  | crossNodeUnverified

structure MergedEvents where
  events : List CorrelatedEvent
  confidence : CorrelationConfidence

/-- The uncertainty of a verdict, infinite without an offset. -/
def ClockVerdict.uncertainty (verdict : ClockVerdict) : F64 :=
  (verdict.offset.map (·.uncertaintyMs)).getD (.infinite false)

def mergeEvents (eventsA eventsB : List CorrelatedEvent) (verdictA verdictB : Option ClockVerdict) :
    MergedEvents where
  events := eventsA ++ eventsB
  confidence :=
    match verdictA, verdictB with
    | none, none => .sameNodeMonotonic
    | some a, some b =>
      if a.permitsOneWayClaim && b.permitsOneWayClaim then
        .crossNodeVerified (a.uncertainty.add b.uncertainty)
      else .crossNodeUnverified
    | _, _ => .crossNodeUnverified

/-- A success line: a signed offset, plus or minus, and an uncertainty that is not negative. -/
def successLine (line : Str) : Option (ℚ × ℚ) :=
  match splitWhitespace line with
  | o :: pm :: u :: _ =>
    if startsSigned line && pm == plusMinus then
      match parseF64 o, parseF64 u with
      | some (.finite offset), some (.finite uncertainty) =>
        if 0 ≤ uncertainty then some (offset, uncertainty) else none
      | _, _ => none
    else none
  | _ => none

/-- The first success line of a text bounds the skew within the threshold. -/
def FirstWithin (maxSkewMs : ℚ) (text : Str) : Prop :=
  ∃ offset uncertainty, ((lines text).map trim).findSome? successLine = some (offset, uncertainty) ∧
    1000 * (|offset| + uncertainty) ≤ maxSkewMs

/-- The search ends at this line: it begins with a sign, and has plus-or-minus in the middle
or fewer than three fields. -/
def stops (line : Str) : Bool :=
  startsSigned line &&
    match splitWhitespace line with
    | _ :: pm :: _ :: _ => pm == plusMinus
    | _ => true

/-- The line gives an uncertainty below zero, small enough to hide the offset. -/
def Underbids (maxSkewMs : ℚ) (line : Str) : Prop :=
  ∃ o pm u rest offset, splitWhitespace line = o :: pm :: u :: rest ∧
    parseF64 o = some (.finite offset) ∧
    ((∃ uncertainty < 0, parseF64 u = some (.finite uncertainty) ∧
        1000 * (|offset| + uncertainty) ≤ maxSkewMs) ∨
      parseF64 u = some (.infinite true))

/-- The line at which the search ends is a success line, or decides as the first success
line does. -/
def FirstDecides (maxSkewMs : ℚ) (text : Str) : Prop :=
  ∀ line, ((lines text).map trim).find? stops = some line → successLine line = none →
    (Underbids maxSkewMs line ↔ FirstWithin maxSkewMs text)

/-- What the fields of a line read as. -/
def readFields (line : Str) : Option (F64 × F64) :=
  match splitWhitespace line with
  | o :: _ :: u :: _ => do
    let offset ← parseF64 o
    let delay ← parseF64 u
    return (offset.thousandfold, delay.thousandfold)
  | _ => none

theorem parseSntpLines_eq (rows : List Str) :
    parseSntpLines rows = (rows.find? stops).bind readFields := by
  induction rows with
  | nil => rfl
  | cons line rest ih =>
    cases signed : startsSigned line with
    | false => simp [parseSntpLines, stops, signed, ih]
    | true =>
      rcases fields : splitWhitespace line with _ | ⟨o, _ | ⟨pm, _ | ⟨u, more⟩⟩⟩
      · simp [parseSntpLines, stops, readFields, signed, fields]
      · simp [parseSntpLines, stops, readFields, signed, fields]
      · simp [parseSntpLines, stops, readFields, signed, fields]
      · by_cases middle : pm = plusMinus
        · simp [parseSntpLines, stops, readFields, signed, fields, middle]
        · simp [parseSntpLines, stops, signed, fields, middle, ih]

/-- What the fields of a success line are. -/
theorem successLine_fields {line : Str} {offset uncertainty : ℚ}
    (success : successLine line = some (offset, uncertainty)) :
    startsSigned line = true ∧ ∃ o u more, splitWhitespace line = o :: plusMinus :: u :: more ∧
      parseF64 o = some (.finite offset) ∧ parseF64 u = some (.finite uncertainty) := by
  rcases fields : splitWhitespace line with _ | ⟨o, _ | ⟨pm, _ | ⟨u, more⟩⟩⟩
  · simp [successLine, fields] at success
  · simp [successLine, fields] at success
  · simp [successLine, fields] at success
  · simp only [successLine, fields] at success
    split at success
    · rename_i candidate
      obtain ⟨signed, middle⟩ := (Bool.and_eq_true _ _).mp candidate
      obtain rfl : pm = plusMinus := eq_of_beq middle
      split at success
      · rename_i first second readO readU
        split at success
        · obtain ⟨rfl, rfl⟩ := Prod.mk.inj (Option.some.inj success)
          exact ⟨signed, o, u, more, rfl, readO, readU⟩
        · cases success
      · cases success
    · cases success

theorem stops_of_success {line : Str} {result : ℚ × ℚ} (success : successLine line = some result) :
    stops line = true := by
  obtain ⟨signed, o, u, more, fields, -⟩ := successLine_fields success
  simp [stops, signed, fields]

/-- The first success line is the line at which the search ends, or comes behind it. -/
theorem findSome?_success {rows : List Str} {line : Str} (found : rows.find? stops = some line)
    {result : ℚ × ℚ} (success : successLine line = some result) :
    rows.findSome? successLine = some result := by
  induction rows with
  | nil => cases found
  | cons head rest ih =>
    rw [List.find?_cons] at found
    cases here : stops head with
    | true =>
      rw [here] at found
      obtain rfl := Option.some.inj found
      simp [success]
    | false =>
      rw [here] at found
      have skipped : successLine head = none := by
        by_contra some
        obtain ⟨other, other'⟩ := Option.ne_none_iff_exists'.mp some
        rw [stops_of_success other'] at here
        cases here
      simpa [skipped] using ih found

theorem findSome?_none {rows : List Str} (absent : rows.find? stops = none) :
    rows.findSome? successLine = none := by
  rw [List.findSome?_eq_none_iff]
  intro line member
  by_contra some
  obtain ⟨result, success⟩ := Option.ne_none_iff_exists'.mp some
  exact List.find?_eq_none.mp absent line member (stops_of_success success)

/-- A line permits the claim when its two figures stay within the threshold together. -/
def LineWithin (maxSkewMs : ℚ) (line : Str) : Prop :=
  ∃ offset delay, readFields line = some (offset, delay) ∧ (offset.abs.add delay).AtMost maxSkewMs

theorem scaled_atMost_iff (offset uncertainty maxSkewMs : ℚ) :
    (((F64.finite offset).thousandfold).abs.add (F64.finite uncertainty).thousandfold).AtMost
      maxSkewMs ↔
      1000 * (|offset| + uncertainty) ≤ maxSkewMs := by
  have scaled : |offset * 1000| + uncertainty * 1000 = 1000 * (|offset| + uncertainty) := by
    rw [abs_mul, abs_of_pos (by norm_num : (0 : ℚ) < 1000)]
    ring
  rw [← scaled]
  rfl

theorem lineWithin_of_success {line : Str} {offset uncertainty : ℚ} (maxSkewMs : ℚ)
    (success : successLine line = some (offset, uncertainty)) :
    LineWithin maxSkewMs line ↔ 1000 * (|offset| + uncertainty) ≤ maxSkewMs := by
  obtain ⟨-, o, u, more, fields, readO, readU⟩ := successLine_fields success
  rw [← scaled_atMost_iff]
  simp [LineWithin, readFields, fields, readO, readU]

/-- A line that ends the search without success permits only what it underbids. -/
theorem lineWithin_of_failure {line : Str} (maxSkewMs : ℚ) (ended : stops line = true)
    (failed : successLine line = none) : LineWithin maxSkewMs line ↔ Underbids maxSkewMs line := by
  rcases fields : splitWhitespace line with _ | ⟨o, _ | ⟨pm, _ | ⟨u, more⟩⟩⟩
  · simp [LineWithin, Underbids, readFields, fields]
  · simp [LineWithin, Underbids, readFields, fields]
  · simp [LineWithin, Underbids, readFields, fields]
  · have candidate : (startsSigned line && pm == plusMinus) = true := by
      simpa [stops, fields] using ended
    have within : LineWithin maxSkewMs line ↔ ∃ offset delay, parseF64 o = some offset ∧
        parseF64 u = some delay ∧
          (offset.thousandfold.abs.add delay.thousandfold).AtMost maxSkewMs := by
      simp only [LineWithin, readFields, fields]
      constructor
      · intro ⟨_, _, read, within⟩
        obtain ⟨offset, readO, read⟩ := Option.bind_eq_some_iff.mp read
        obtain ⟨delay, readU, read⟩ := Option.bind_eq_some_iff.mp read
        obtain ⟨rfl, rfl⟩ := Prod.mk.inj (Option.some.inj read)
        exact ⟨offset, delay, readO, readU, within⟩
      · intro ⟨offset, delay, readO, readU, within⟩
        exact ⟨_, _, by rw [readO, readU]; rfl, within⟩
    rw [within]
    constructor
    · intro ⟨offset, delay, readO, readU, within⟩
      cases offset with
      | finite offset =>
        refine ⟨o, pm, u, more, offset, fields, readO, ?_⟩
        cases delay with
        | finite uncertainty =>
          have below : uncertainty < 0 := by
            by_contra large
            simp [successLine, fields, candidate, readO, readU, not_lt.mp large] at failed
          exact .inl ⟨uncertainty, below, readU, (scaled_atMost_iff _ _ _).mp within⟩
        | infinite negative =>
          obtain rfl : negative = true := within
          exact .inr readU
        | nan => exact within.elim
      | infinite negative =>
        cases delay with
        | finite uncertainty => cases within
        | infinite other => cases other <;> cases within
        | nan => exact within.elim
      | nan => exact within.elim
    · intro ⟨o', pm', u', rest, offset, same, readO, choice⟩
      obtain ⟨rfl, -, rfl, -⟩ : o = o' ∧ pm = pm' ∧ u = u' ∧ more = rest := by
        simpa [fields] using same
      rcases choice with ⟨uncertainty, _, readU, within⟩ | readU
      · exact ⟨_, _, readO, readU, (scaled_atMost_iff _ _ _).mpr within⟩
      · exact ⟨_, _, readO, readU, rfl⟩

/-- The verdict on an `sntp` run permits a claim by the line at which the search ends. -/
theorem permits_iff (nodeLabel server : String) (maxSkewMs : ℚ) (now : DualTimestamp) (text : Str) :
    (fromNtpResult nodeLabel maxSkewMs now
      (measureNtpOffset server (some text))).permitsOneWayClaim = true ↔
      ∃ line, ((lines text).map trim).find? stops = some line ∧ LineWithin maxSkewMs line := by
  have parsed : parseSntpOutput text = (((lines text).map trim).find? stops).bind readFields :=
    parseSntpLines_eq _
  cases found : ((lines text).map trim).find? stops with
  | none =>
    rw [found] at parsed
    simp [measureNtpOffset, parsed, fromNtpResult, ClockVerdict.permitsOneWayClaim]
  | some line =>
    rw [found, Option.bind_some] at parsed
    cases read : readFields line with
    | none =>
      rw [read] at parsed
      simp [measureNtpOffset, parsed, fromNtpResult, ClockVerdict.permitsOneWayClaim,
        LineWithin, read]
    | some figures =>
      obtain ⟨offset, delay⟩ := figures
      rw [read] at parsed
      by_cases within : (offset.abs.add delay).AtMost maxSkewMs
      · simp [measureNtpOffset, parsed, fromNtpResult, ClockVerdict.permitsOneWayClaim,
          LineWithin, read, OffsetWithBound.bound, within]
      · simp [measureNtpOffset, parsed, fromNtpResult, ClockVerdict.permitsOneWayClaim,
          LineWithin, read, OffsetWithBound.bound, within]

/-- The verdict permits a claim exactly when the first success line is within the threshold. -/
def GateSound (maxSkewMs : ℚ) (text : Str) (verdict : ClockVerdict) : Prop :=
  verdict.permitsOneWayClaim = true ↔ FirstWithin maxSkewMs text

/-- A merge keeps all events, and claims an order across nodes only on verified clocks. -/
structure MergeSound (eventsA eventsB : List CorrelatedEvent)
    (verdictA verdictB : Option ClockVerdict) (merged : MergedEvents) : Prop where
  events : merged.events = eventsA ++ eventsB
  sameNode : merged.confidence = .sameNodeMonotonic →
    ∀ first ∈ eventsA ++ eventsB, ∀ second ∈ eventsA ++ eventsB, first.sourceLabel =
      second.sourceLabel
  verified : ∀ combined, merged.confidence = .crossNodeVerified combined →
    ∃ a b offsetA offsetB, verdictA = some a ∧ verdictB = some b ∧ a.permitsOneWayClaim = true ∧
      b.permitsOneWayClaim = true ∧ a.offset = some offsetA ∧ b.offset = some offsetB ∧
        combined = offsetA.uncertaintyMs.add offsetB.uncertaintyMs

/-- Without any verdict the events carry one label. -/
def OneNode (eventsA eventsB : List CorrelatedEvent)
    (verdictA verdictB : Option ClockVerdict) : Prop :=
  verdictA = none → verdictB = none →
    ∀ first ∈ eventsA ++ eventsB, ∀ second ∈ eventsA ++ eventsB, first.sourceLabel =
      second.sourceLabel

theorem gateSound_iff (nodeLabel server : String) (maxSkewMs : ℚ) (now : DualTimestamp)
    (text : Str) :
    GateSound maxSkewMs text
        (fromNtpResult nodeLabel maxSkewMs now (measureNtpOffset server (some text))) ↔
      FirstDecides maxSkewMs text := by
  rw [GateSound, permits_iff, FirstDecides]
  cases found : ((lines text).map trim).find? stops with
  | none =>
    have none := findSome?_none found
    exact iff_of_true (by simp [FirstWithin, none]) (fun line other => nomatch other)
  | some line =>
    cases success : successLine line with
    | none =>
      have ended : stops line = true := List.find?_some found
      simp [lineWithin_of_failure maxSkewMs ended success, success]
    | some figures =>
      obtain ⟨offset, uncertainty⟩ := figures
      refine iff_of_true ?_ (fun other same failed => ?_)
      · simp [FirstWithin, findSome?_success found success, lineWithin_of_success maxSkewMs success]
      · obtain rfl := Option.some.inj same
        rw [success] at failed
        cases failed

theorem permits_offset {verdict : ClockVerdict} (permits : verdict.permitsOneWayClaim = true) :
    ∃ offset, verdict.offset = some offset :=
  Option.isSome_iff_exists.mp ((Bool.and_eq_true _ _).mp permits).1

theorem mergeSound_iff (eventsA eventsB : List CorrelatedEvent)
    (verdictA verdictB : Option ClockVerdict) :
    MergeSound eventsA eventsB verdictA verdictB (mergeEvents eventsA eventsB verdictA verdictB) ↔
      OneNode eventsA eventsB verdictA verdictB := by
  constructor
  · intro sound noneA noneB
    subst noneA noneB
    exact sound.sameNode rfl
  · intro oneNode
    cases verdictA with
    | none =>
      cases verdictB with
      | none => exact ⟨rfl, fun _ => oneNode rfl rfl, fun _ same => nomatch same⟩
      | some b => exact ⟨rfl, fun same => (nomatch same), fun _ same => nomatch same⟩
    | some a =>
      cases verdictB with
      | none => exact ⟨rfl, fun same => (nomatch same), fun _ same => nomatch same⟩
      | some b =>
        refine ⟨rfl, fun same => ?_, fun combined same => ?_⟩
        · simp only [mergeEvents] at same
          split at same <;> cases same
        · simp only [mergeEvents] at same
          split at same
          · rename_i both
            obtain ⟨permitsA, permitsB⟩ := (Bool.and_eq_true _ _).mp both
            obtain ⟨offsetA, hasA⟩ := permits_offset permitsA
            obtain ⟨offsetB, hasB⟩ := permits_offset permitsB
            refine ⟨a, b, offsetA, offsetB, rfl, rfl, permitsA, permitsB, hasA, hasB, ?_⟩
            simpa [ClockVerdict.uncertainty, hasA, hasB] using
              (CorrelationConfidence.crossNodeVerified.inj same).symm
          · cases same

/-- The gate and the merge are sound exactly where the first line that can end the search
decides, and where events without verdicts come from one node. -/
theorem clockGuard_sound_iff (nodeLabel server : String) (maxSkewMs : ℚ) (now : DualTimestamp)
    (text : Str) (eventsA eventsB : List CorrelatedEvent)
    (verdictA verdictB : Option ClockVerdict) :
    (GateSound maxSkewMs text
        (fromNtpResult nodeLabel maxSkewMs now (measureNtpOffset server (some text))) ↔
      FirstDecides maxSkewMs text) ∧
    (MergeSound eventsA eventsB verdictA verdictB (mergeEvents eventsA eventsB verdictA verdictB) ↔
      OneNode eventsA eventsB verdictA verdictB) :=
  ⟨gateSound_iff nodeLabel server maxSkewMs now text,
    mergeSound_iff eventsA eventsB verdictA verdictB⟩

/-- A lone sign in front of the success line ends the search, and two nodes without
verdicts pass for one. -/
theorem clockGuard_unsound :
    (¬ ∀ (nodeLabel server : String) (maxSkewMs : ℚ) (now : DualTimestamp) (text : Str),
      GateSound maxSkewMs text (fromNtpResult nodeLabel maxSkewMs now
        (measureNtpOffset server (some text)))) ∧
    ¬ ∀ (eventsA eventsB : List CorrelatedEvent) (verdictA verdictB : Option ClockVerdict),
      MergeSound eventsA eventsB verdictA verdictB
        (mergeEvents eventsA eventsB verdictA verdictB) := by
  constructor
  · intro claim
    have permits :=
      (claim "node-a" "time.example.test" 50 ⟨0, 0⟩
        ['+', '\n', '+', '0', ' ', '+', '/', '-', ' ', '0']).mpr
        ⟨0, 0, by decide +kernel, by norm_num⟩
    revert permits
    decide
  · intro claim
    have sound := claim [⟨"client", "send", ⟨0, 0⟩⟩] [⟨"server", "recv", ⟨0, 0⟩⟩] none none
    have same :=
      sound.sameNode rfl ⟨"client", "send", ⟨0, 0⟩⟩ (by simp) ⟨"server", "recv", ⟨0, 0⟩⟩ (by simp)
    revert same
    decide

end FragglePacket.NetworkTests
