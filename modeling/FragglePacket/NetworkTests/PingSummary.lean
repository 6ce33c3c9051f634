import FragglePacket.Text.Tokens

/-! The summary line of `ping`, read by its commas for the round-trip times and by
its keywords for the loss. -/

namespace FragglePacket.NetworkTests

open FragglePacket.Text

/-- `str::parse::<f64>`, with the rounding of what is written. -/
def readF64 (text : Str) : Option F64 := (parseF64 text).map F64.rounded

/-- `(part / whole) * 100.0`. -/
def percentage (part whole : F64) : F64 := ((part.div whole).rounded.mul (.finite 100)).rounded

structure PingStats where
  min : Option F64 := none
  max : Option F64 := none
  avg : Option F64 := none
  stddev : Option F64 := none
  lossPercent : Option F64 := none
  jitter : Option F64 := none
deriving DecidableEq

/-- The numbers behind the first equals sign of a line. -/
def statsNumbers (line : Str) : Option (List F64) :=
  (line.splitOn '=')[1]?.map fun statsPart =>
    (((trim statsPart).splitOn '/').filterMap fun s =>
      (splitWhitespace (trim s)).head?).filterMap readF64

/-- The number in front of the per-cent sign of a line's third part, `none` inside
for a part that holds none. -/
def lossNumber (line : Str) : Option (Option F64) :=
  ((line.splitOn ',')[2]?.bind fun percentStr => ((trim percentStr).splitOn '%').head?).bind
    fun numStr =>
    (splitWhitespace numStr).getLast?.map readF64

def readStatsLine (stats : PingStats) (line : Str) : PingStats :=
  let isSummaryLine :=
    contains line "rtt min/avg/max".toList || contains line "round-trip min/avg/max".toList
  let stats :=
    match if isSummaryLine then statsNumbers line else none with
    | some (first :: second :: third :: fourth :: _) =>
      { stats with min := some first, avg := some second, max := some third, stddev := some fourth }
    | _ => stats
  match if contains line "packet loss".toList then lossNumber line else none with
  | some number => { stats with lossPercent := number }
  | none => stats

def parsePingStats (output : Str) : PingStats :=
  let stats := (lines output).foldl readStatsLine {}
  { stats with
    jitter :=
      match stats.stddev, stats.avg with
      | some stddev, some avg =>
        if F64.lt (.finite 0) avg then some (percentage stddev avg) else none
      | _, _ => none }

/-- How `parse_packet_loss` ends without a result: with its error, or in the `usize` subtraction,
which panics in a debug build and wraps in a release build. -/
inductive LossHalt where
  | error (message : String)
  | underflow
deriving DecidableEq

/-- The first field of a part, as a count. -/
def countIn (part : Option Str) : Option Nat :=
  (part.bind fun s => (splitWhitespace s).head?).bind (parseUnsigned (2 ^ 64))

/-- The percentage that did not come back, with the counts, their quotient and its hundredfold
each rounded to `f64`. -/
def countedLoss (transmitted received : Nat) : F64 :=
  percentage (.nearest (transmitted - received : Nat)) (.nearest transmitted)

/-- The loss of the counts. -/
def lossOf (transmitted received : Nat) : Except LossHalt F64 :=
  if 0 < transmitted then
    if transmitted < received then .error .underflow
    else .ok (countedLoss transmitted received)
  else .ok (.finite 0)

def parseLossLine (line : Str) : Except LossHalt (Nat × Nat × F64) :=
  let parts := line.splitOn ','
  match countIn parts[0]? with
  | none => .error (.error "Failed to parse transmitted count")
  | some transmitted =>
    match countIn parts[1]? with
    | none => .error (.error "Failed to parse received count")
    | some received =>
      (lossOf transmitted received).map fun lossPercent => (transmitted, received, lossPercent)

def countsLine (line : Str) : Bool :=
  contains line "packets transmitted".toList && contains line "received".toList

def parsePacketLoss (output : Str) : Except LossHalt (Nat × Nat × F64) :=
  match (lines output).find? countsLine with
  | some line => parseLossLine line
  | none => .error (.error "Could not parse packet loss statistics")

section Summary

inductive ExtraKind where
  | duplicates
  | errors
  | corrupted

def ExtraKind.word : ExtraKind → Str
  | duplicates => "duplicates".toList
  | errors => "errors".toList
  | corrupted => "corrupted".toList

/-- A summary: the counts, the further counts of a bad link, the loss, and
what may stand behind it. -/
structure PingSummary where
  darwin : Bool
  transmitted : UInt64
  received : UInt64
  extras : List (Nat × ExtraKind)
  loss : DecimalNumber
  time : Option Str

namespace PingSummary

def transmittedPart (summary : PingSummary) : Str :=
  Nat.toDigits 10 summary.transmitted.toNat ++ " packets transmitted".toList

def receivedPart (summary : PingSummary) : Str :=
  " ".toList ++ Nat.toDigits 10 summary.received.toNat ++
    (if summary.darwin then " packets received" else " received").toList

def extraPart (extra : Nat × ExtraKind) : Str :=
  " +".toList ++ Nat.toDigits 10 extra.1 ++ " ".toList ++ extra.2.word

def lossPart (summary : PingSummary) : Str :=
  " ".toList ++ summary.loss.text ++ "% packet loss".toList

def line (summary : PingSummary) : Str :=
  summary.transmittedPart ++ ',' :: summary.receivedPart ++
    summary.extras.flatMap (fun extra => ',' :: extraPart extra) ++
    ',' :: summary.lossPart ++
    match summary.time with
    | none => []
    | some time => ", time ".toList ++ time

/-- An output with the summary as its only line about counts or loss. -/
def In (summary : PingSummary) (output : Str) : Prop :=
  ∃ before after, lines output = before ++ summary.line :: after ∧
    ∀ other ∈ before ++ after, contains other "packet loss".toList = false ∧
      countsLine other = false

end PingSummary

section Parts
variable (summary : PingSummary)

open PingSummary

theorem comma_not_mem_transmittedPart : ',' ∉ summary.transmittedPart := by
  rw [transmittedPart, List.mem_append]
  exact fun member => member.elim (not_mem_toDigits (by decide) _) (by decide)

theorem comma_not_mem_receivedPart : ',' ∉ summary.receivedPart := by
  have words : ',' ∉ (if summary.darwin then " packets received" else " received").toList := by
    split <;> decide
  rw [receivedPart, List.mem_append, List.mem_append]
  exact fun member => member.elim
    (fun early => early.elim (by decide) (not_mem_toDigits (by decide) _)) words

theorem comma_not_mem_extraPart (extra : Nat × ExtraKind) : ',' ∉ extraPart extra := by
  have word : ',' ∉ extra.2.word := by cases extra.2 <;> decide
  rw [extraPart, List.mem_append, List.mem_append, List.mem_append]
  rintro (((sign | number) | blank) | kind)
  · exact absurd sign (by decide)
  · exact not_mem_toDigits (by decide) _ number
  · exact absurd blank (by decide)
  · exact word kind

theorem comma_not_mem_lossPart : ',' ∉ summary.lossPart := by
  rw [lossPart, List.mem_append, List.mem_append]
  rintro ((blank | number) | words)
  · exact absurd blank (by decide)
  · exact summary.loss.not_mem_text (by decide) number
  · exact absurd words (by decide)

/-- What stands in the third place between the commas. -/
def thirdPart : Str :=
  match summary.extras with
  | [] => summary.lossPart
  | extra :: _ => extraPart extra

theorem line_parts : ∃ more, summary.line.splitOn ',' =
    summary.transmittedPart :: summary.receivedPart :: thirdPart summary :: more := by
  have trailer :
      (match summary.time with | none => [] | some time => ", time ".toList ++ time) = [] ∨
      ∃ more, (match summary.time with | none => [] | some time => ", time ".toList ++ time) =
        ',' :: more := by
    cases summary.time with
    | none => exact Or.inl rfl
    | some time => exact Or.inr ⟨" time ".toList ++ time, rfl⟩
  obtain ⟨behind, laid, third⟩ : ∃ behind,
      summary.line = summary.transmittedPart ++ ',' :: (summary.receivedPart ++ ',' :: behind) ∧
        ∃ more, behind.splitOn ',' = thirdPart summary :: more := by
    unfold line thirdPart
    cases summary.extras with
    | nil =>
      refine ⟨_, by
        simp only [List.flatMap_nil, List.append_nil, List.append_assoc, List.cons_append]; rfl, ?_⟩
      exact splitOn_first (comma_not_mem_lossPart summary) trailer
    | cons extra extras =>
      refine ⟨_, by simp only [List.flatMap_cons, List.append_assoc, List.cons_append]; rfl, ?_⟩
      refine splitOn_first (comma_not_mem_extraPart extra) (Or.inr ?_)
      cases extras with
      | nil => exact ⟨_, rfl⟩
      | cons next extras => exact ⟨_, rfl⟩
  obtain ⟨more, split⟩ := third
  refine ⟨more, ?_⟩
  rw [laid, List.splitOn_append_cons_self_of_not_mem (comma_not_mem_transmittedPart summary),
    List.splitOn_append_cons_self_of_not_mem (comma_not_mem_receivedPart summary), split]

theorem lossNumber_loss {line : Str} {more : List Str} {transmitted received : Str}
    (parts : line.splitOn ',' = transmitted :: received :: summary.lossPart :: more) :
    lossNumber line = some (some (.nearest summary.loss.value)) := by
  have token := summary.loss.text_token
  obtain ⟨digit, digits, number⟩ := List.exists_cons_of_ne_nil token.1
  have trimmed : trim summary.lossPart = summary.loss.text ++ '%' :: " packet loss".toList :=
    calc trimMatches isWhitespace (" ".toList ++ summary.loss.text ++ "% packet loss".toList)
      _ = trimMatches isWhitespace ([' '] ++
        (digit :: (digits ++ "% packet los".toList ++ ['s']) ++ [])) := by
        rw [number]
        simp
      _ = trimMatches isWhitespace (digit :: (digits ++ "% packet los".toList ++ ['s'])) :=
        trimMatches_wrapped (List.forall_mem_singleton.mpr (by decide))
          (fun c member => absurd member List.not_mem_nil)
      _ = digit :: (digits ++ "% packet los".toList ++ ['s']) :=
        trimMatches_solid (token.2 digit (number ▸ List.mem_cons_self)) (by decide)
      _ = summary.loss.text ++ '%' :: " packet loss".toList := by
        rw [number]
        simp
  have percent : '%' ∉ summary.loss.text := summary.loss.not_mem_text (by decide)
  simp only [lossNumber, parts, List.getElem?_cons_succ, List.getElem?_cons_zero,
    Option.bind_some, trimmed, List.splitOn_append_cons_self_of_not_mem percent, List.head?_cons,
    splitWhitespace_of_token token, List.getLast?_singleton, Option.map_some, readF64,
    summary.loss.parseF64_text, F64.rounded]

/-- A further count in the third place is read instead of the loss, and is no number. -/
theorem lossNumber_extra {line : Str} {more : List Str} {transmitted received : Str}
    {extra : Nat × ExtraKind}
    (parts : line.splitOn ',' = transmitted :: received :: extraPart extra :: more) :
    lossNumber line = some none := by
  have number : Token ('+' :: Nat.toDigits 10 extra.1) := by
    refine ⟨List.cons_ne_nil _ _, fun c member => ?_⟩
    rcases List.mem_cons.mp member with rfl | digit
    · decide
    · exact not_whitespace_of_digit (toDigits_isAsciiDigit extra.1 c digit)
  have word : Token extra.2.word ∧ readF64 extra.2.word = none ∧ '%' ∉ extra.2.word := by
    cases extra.2 <;> decide
  obtain ⟨kind, last, ends, solid⟩ : ∃ kind last, extra.2.word = kind ++ [last] ∧
      isWhitespace last = false := by
    refine ⟨_, extra.2.word.getLast word.1.1, (List.dropLast_append_getLast word.1.1).symm, ?_⟩
    exact word.1.2 _ (List.getLast_mem word.1.1)
  have trimmed : trim (extraPart extra) = '+' :: Nat.toDigits 10 extra.1 ++ ' ' :: extra.2.word :=
    calc trimMatches isWhitespace (" +".toList ++ Nat.toDigits 10 extra.1 ++ " ".toList ++
           extra.2.word)
      _ = trimMatches isWhitespace ([' '] ++
        ('+' :: (Nat.toDigits 10 extra.1 ++ ' ' :: kind ++ [last]) ++ [])) := by
        rw [ends]
        simp
      _ = trimMatches isWhitespace ('+' :: (Nat.toDigits 10 extra.1 ++ ' ' :: kind ++ [last])) :=
        trimMatches_wrapped (List.forall_mem_singleton.mpr (by decide))
          (fun c member => absurd member List.not_mem_nil)
      _ = '+' :: (Nat.toDigits 10 extra.1 ++ ' ' :: kind ++ [last]) :=
        trimMatches_solid (by decide) solid
      _ = '+' :: Nat.toDigits 10 extra.1 ++ ' ' :: extra.2.word := by
        rw [ends]
        simp
  have percent : '%' ∉ '+' :: Nat.toDigits 10 extra.1 ++ ' ' :: extra.2.word := by
    simp only [List.cons_append, List.mem_cons, List.mem_append, word.2.2,
      not_mem_toDigits (by decide : isAsciiDigit '%' = false), or_false]
    decide
  have fields : splitWhitespace ('+' :: Nat.toDigits 10 extra.1 ++ ' ' :: extra.2.word) =
      ['+' :: Nat.toDigits 10 extra.1, extra.2.word] := by
    rw [splitWhitespace_append_blank _ _ (by decide), splitWhitespace_of_token number,
      splitWhitespace_of_token word.1]
    rfl
  simp only [lossNumber, parts, List.getElem?_cons_succ, List.getElem?_cons_zero,
    Option.bind_some, trimmed, List.splitOn_eq_singleton percent, List.head?_cons, fields,
    List.getLast?_cons_cons, List.getLast?_singleton, Option.map_some, word.2.1]

theorem countIn_transmittedPart :
    countIn (some summary.transmittedPart) = some summary.transmitted.toNat := by
  have fields : splitWhitespace summary.transmittedPart =
      [Nat.toDigits 10 summary.transmitted.toNat, "packets".toList, "transmitted".toList] := by
    change splitWhitespace (Nat.toDigits 10 summary.transmitted.toNat ++ ' ' ::
      "packets transmitted".toList) = _
    rw [splitWhitespace_append_blank _ _ (by decide), splitWhitespace_of_token (toDigits_token _)]
    rfl
  rw [countIn, Option.bind_some, fields, List.head?_cons, Option.bind_some,
    parseUnsigned_toDigits summary.transmitted.toNat_lt]

theorem countIn_receivedPart :
    countIn (some summary.receivedPart) = some summary.received.toNat := by
  obtain ⟨words, blank⟩ :
      ∃ words, (if summary.darwin then " packets received" else " received").toList =
        ' ' :: words := by
    split
    · exact ⟨"packets received".toList, rfl⟩
    · exact ⟨"received".toList, rfl⟩
  have space : " ".toList = [' '] := rfl
  have fields : splitWhitespace summary.receivedPart =
      Nat.toDigits 10 summary.received.toNat :: splitWhitespace words := by
    rw [receivedPart, blank, List.append_assoc, space,
      splitWhitespace_blank_append (List.forall_mem_singleton.mpr (by decide)),
      splitWhitespace_append_blank _ _ (by decide), splitWhitespace_of_token (toDigits_token _)]
    rfl
  rw [countIn, Option.bind_some, fields, List.head?_cons, Option.bind_some,
    parseUnsigned_toDigits summary.received.toNat_lt]

end Parts

section Outputs
variable {summary : PingSummary} {output : Str}

open PingSummary

theorem line_packetLoss : contains summary.line "packet loss".toList = true := by
  apply contains_append_right
  apply contains_append_left
  apply contains_append_left [',']
  apply contains_append_left
  decide

theorem line_counts : countsLine summary.line = true := by
  have words : contains (if summary.darwin then " packets received" else " received").toList
      "received".toList = true := by
    split <;> decide
  rw [countsLine, Bool.and_eq_true_iff]
  constructor
  · iterate 4 apply contains_append_right
    exact contains_append_left _ (by decide)
  · iterate 3 apply contains_append_right
    apply contains_append_left
    apply contains_append_left [',']
    exact contains_append_left _ words

theorem readStatsLine_other {stats : PingStats} {line : Str}
    (other : contains line "packet loss".toList = false) :
    (readStatsLine stats line).lossPercent = stats.lossPercent := by
  simp only [readStatsLine, other, Bool.false_eq_true, if_false]
  split <;> rfl

theorem foldl_others {others : List Str}
    (silent : ∀ line ∈ others, contains line "packet loss".toList = false) (stats : PingStats) :
    (others.foldl readStatsLine stats).lossPercent = stats.lossPercent := by
  induction others generalizing stats with
  | nil => rfl
  | cons line others ih =>
    rw [List.foldl_cons, ih fun later member => silent later (List.mem_cons_of_mem line member)]
    exact readStatsLine_other (silent line List.mem_cons_self)

/-- The loss is read where no further count takes its place. -/
theorem readStatsLine_summary (stats : PingStats) :
    (readStatsLine stats summary.line).lossPercent =
      if summary.extras = [] then some (.nearest summary.loss.value) else none := by
  obtain ⟨more, parts⟩ := line_parts summary
  simp only [readStatsLine, line_packetLoss, if_true]
  cases extras : summary.extras with
  | nil =>
    simp only [thirdPart, extras] at parts
    rw [lossNumber_loss summary parts, if_pos rfl]
  | cons extra rest =>
    simp only [thirdPart, extras] at parts
    rw [lossNumber_extra parts, if_neg (List.cons_ne_nil extra rest)]

theorem parsePingStats_loss (printed : summary.In output) :
    (parsePingStats output).lossPercent =
      if summary.extras = [] then some (.nearest summary.loss.value) else none := by
  obtain ⟨before, after, laid, others⟩ := printed
  have silent : ∀ line ∈ after, contains line "packet loss".toList = false := fun line listed =>
    (others line (List.mem_append_right before listed)).1
  simp only [parsePingStats]
  rw [laid, List.foldl_append, List.foldl_cons, foldl_others silent, readStatsLine_summary]

theorem parsePacketLoss_counts (printed : summary.In output) :
    parsePacketLoss output = (lossOf summary.transmitted.toNat summary.received.toNat).map
      fun loss =>
      (summary.transmitted.toNat, summary.received.toNat, loss) := by
  obtain ⟨before, after, laid, others⟩ := printed
  obtain ⟨more, parts⟩ := line_parts summary
  have none : before.find? countsLine = none := by
    rw [List.find?_eq_none]
    intro line listed
    rw [(others line (List.mem_append_left after listed)).2]
    decide
  rw [parsePacketLoss, laid, List.find?_append, none, Option.none_or,
    List.find?_cons_of_pos line_counts]
  simp only [parseLossLine, parts, List.getElem?_cons_succ, List.getElem?_cons_zero,
    countIn_transmittedPart, countIn_receivedPart]

theorem map_ok_iff {transmitted received : Nat} {loss : F64} :
    ((lossOf transmitted received).map fun found => (transmitted, received, found)) =
        .ok (transmitted, received, loss) ↔
      transmitted = 0 ∧ loss = .finite 0 ∨
        0 < transmitted ∧ received ≤ transmitted ∧ loss = countedLoss transmitted received := by
  unfold lossOf
  rcases Nat.eq_zero_or_pos transmitted with rfl | some
  · simp [Except.map, eq_comm]
  · rw [if_pos some]
    by_cases under : transmitted < received
    · simp [Except.map, under, some.ne', Nat.not_le.mpr under]
    · simp [Except.map, under, some, some.ne', Nat.not_lt.mp under, eq_comm]

/-- Both parsers report the printed loss, and one of them the counts, exactly where no further
count stands in front of the loss and the number nearest to the loss is the one that is computed
from the counts, of which fewer were received. -/
theorem ping_parsers_agree_iff (summary : PingSummary) (output : Str)
    (printed : summary.In output) :
    ((parsePingStats output).lossPercent = some (.nearest summary.loss.value) ∧
      parsePacketLoss output =
        .ok (summary.transmitted.toNat, summary.received.toNat, .nearest summary.loss.value)) ↔
    summary.extras = [] ∧
      (summary.transmitted.toNat = 0 ∧ F64.nearest summary.loss.value = .finite 0 ∨
        0 < summary.transmitted.toNat ∧ summary.received.toNat ≤ summary.transmitted.toNat ∧
          F64.nearest summary.loss.value =
            countedLoss summary.transmitted.toNat summary.received.toNat) := by
  rw [parsePingStats_loss printed, parsePacketLoss_counts printed, map_ok_iff]
  refine and_congr_left fun _ => ?_
  constructor
  · intro read
    by_contra extras
    rw [if_neg extras] at read
    cases read
  · intro extras
    rw [if_pos extras]

/-- Ten packets of which so many came back. -/
def tenPackets (received : UInt64) (extras : List (Nat × ExtraKind)) (loss : Str)
    (written : loss ≠ []) (numeric : (loss ++ []).all isAsciiDigit = true) : PingSummary where
  darwin := false
  transmitted := 10
  received := received
  extras := extras
  loss := { whole := loss, fraction := [], written, numeric := List.all_eq_true.mp numeric }
  time := some "9013ms".toList

def halfLost : PingSummary := tenPackets 5 [] "50".toList (by decide) (by decide)

theorem ping_parsers_agree_iff_halfLost :
    ((parsePingStats halfLost.line).lossPercent = some (.nearest halfLost.loss.value) ∧
      parsePacketLoss halfLost.line =
        .ok (halfLost.transmitted.toNat, halfLost.received.toNat, .nearest halfLost.loss.value)) ↔
    halfLost.extras = [] ∧
      (halfLost.transmitted.toNat = 0 ∧ F64.nearest halfLost.loss.value = .finite 0 ∨
        0 < halfLost.transmitted.toNat ∧ halfLost.received.toNat ≤ halfLost.transmitted.toNat ∧
          F64.nearest halfLost.loss.value =
            countedLoss halfLost.transmitted.toNat halfLost.received.toNat) :=
  ping_parsers_agree_iff halfLost halfLost.line
    ⟨[], [], by decide +kernel, fun other member => absurd member List.not_mem_nil⟩

/-- With duplicates the loss is missed, and with more replies than requests the counts run under. -/
theorem duplicates_hide_loss :
    (parsePingStats (tenPackets 5 [(2, .duplicates)] "50".toList (by decide)
      (by decide)).line).lossPercent = none ∧
      parsePacketLoss (tenPackets 12 [] "0".toList (by decide) (by decide)).line =
        .error .underflow := by
  decide +kernel

end Outputs

end Summary

end FragglePacket.NetworkTests
