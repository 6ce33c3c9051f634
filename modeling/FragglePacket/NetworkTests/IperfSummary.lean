import FragglePacket.NetworkTests.Iperf

/-! The flat summary of an `iperf3 -J` document, next to the typed reader of the same
document. Each filters hollow blocks by itself. -/

namespace FragglePacket.NetworkTests

structure IperfSummary where
  version : Option String
  error : Option String
  connected : Bool
  streamsEstablished : Nat
  numStreamsRequested : Option Nat
  requestedDurationSecs : Option ℚ
  senderBytes : Option Nat
  senderSeconds : Option ℚ
  senderBitsPerSecond : Option ℚ
  receiverBytes : Option Nat
  receiverSeconds : Option ℚ
  receiverBitsPerSecond : Option ℚ
  udpLostPackets : Option Nat
  udpPackets : Option Nat
  udpLostPercent : Option ℚ

/-- The run connected and produced no error. -/
def IperfSummary.usable (summary : IperfSummary) : Bool := summary.connected && summary.error.isNone

/-- A block of `end` that measured nothing. -/
def isHollowBlock (block : Json) : Bool :=
  match (block.get "packets").bind Json.asU64 with
  | some packets => packets == 0
  | none => ((block.get "bytes").bind Json.asU64).getD 0 == 0

def IperfSummary.fromJson (document : Json) : IperfSummary :=
  let error := (document.get "error").bind Json.asStr
  let start := document.get "start"
  let version := (start.bind (·.get "version")).bind Json.asStr
  let connectedListLen :=
    (((start.bind (·.get "connected")).bind Json.asArray).map List.length).getD 0
  let testStart := start.bind (·.get "test_start")
  let numStreamsRequested := (testStart.bind (·.get "num_streams")).bind Json.asU64
  let requestedDurationSecs := (testStart.bind (·.get "duration")).bind Json.asF64
  if error.isNone && 0 < connectedListLen then
    let summary := document.get "end"
    let receiverBlock := ((summary.bind (·.get "sum_received")).filter (! isHollowBlock ·)).or
      ((summary.bind (·.get "sum")).filter (! isHollowBlock ·))
    let senderBlock := (summary.bind (·.get "sum_sent")).filter (! isHollowBlock ·)
    { version := version
      error := error
      connected := true
      streamsEstablished :=
        (((summary.bind (·.get "streams")).bind Json.asArray).map List.length).getD 0
      numStreamsRequested := numStreamsRequested
      requestedDurationSecs := requestedDurationSecs
      senderBytes := (senderBlock.bind (·.get "bytes")).bind Json.asU64
      senderSeconds := (senderBlock.bind (·.get "seconds")).bind Json.asF64
      senderBitsPerSecond := (senderBlock.bind (·.get "bits_per_second")).bind Json.asF64
      receiverBytes := (receiverBlock.bind (·.get "bytes")).bind Json.asU64
      receiverSeconds := (receiverBlock.bind (·.get "seconds")).bind Json.asF64
      receiverBitsPerSecond := (receiverBlock.bind (·.get "bits_per_second")).bind Json.asF64
      udpLostPackets := (receiverBlock.bind (·.get "lost_packets")).bind Json.asU64
      udpPackets := (receiverBlock.bind (·.get "packets")).bind Json.asU64
      udpLostPercent := (receiverBlock.bind (·.get "lost_percent")).bind Json.asF64 }
  else
    { version := version
      error := error
      connected := false
      streamsEstablished := 0
      numStreamsRequested := numStreamsRequested
      requestedDurationSecs := requestedDurationSecs
      senderBytes := none
      senderSeconds := none
      senderBitsPerSecond := none
      receiverBytes := none
      receiverSeconds := none
      receiverBitsPerSecond := none
      udpLostPackets := none
      udpPackets := none
      udpLostPercent := none }

/-- Every rate block under `end` carries a numeric rate and an unsigned byte count. -/
def RatesGiven (document : Json) : Prop :=
  ∀ summary, document.get "end" = some summary → ∀ key ∈ ["sum_sent", "sum_received", "sum"],
    ∀ block, summary.get key = some block →
      ((block.get "bits_per_second").bind Json.asF64).isSome ∧
        ((block.get "bytes").bind Json.asU64).isSome

/-- `start.connected` lists a connection. -/
def Connected (document : Json) : Prop :=
  ∃ first rest, ((document.get "start").bind (·.get "connected")).bind Json.asArray =
    some (first :: rest)

/-- The receiver's own measurement, or else the legacy one when it measured something. -/
def RateEvidence.achieved (evidence : RateEvidence) : Option RateSample :=
  evidence.received.or (evidence.estimatedReceived.filter (! ·.isHollow))

/-- The figures of the summary are those of the typed evidence, and absent with it. -/
structure FiguresAgree (summary : IperfSummary) (evidence : RateEvidence) : Prop where
  senderBytes : summary.senderBytes = evidence.sent.map (·.bytes)
  senderRate : summary.senderBitsPerSecond = evidence.sent.map (·.bitsPerSecond)
  receiverBytes : summary.receiverBytes = evidence.achieved.map (·.bytes)
  receiverRate : summary.receiverBitsPerSecond = evidence.achieved.map (·.bitsPerSecond)
  packets : summary.udpPackets = evidence.achieved.bind (·.packets)
  lostPercent : summary.udpLostPercent = evidence.achieved.bind (·.lostPercent)

/-- The sender's seconds are the same: absent where nothing was sent, and where the
summary has none the typed sample has its default of zero. -/
structure SecondsAgree (summary : IperfSummary) (evidence : RateEvidence) : Prop where
  present : ∀ sample, evidence.sent = some sample → sample.seconds = summary.senderSeconds.getD 0
  absent : evidence.sent = none → summary.senderSeconds = none

/-- Both readers on one document: usable without an error, and then one account. -/
structure ParsersAgree (fromStr : String → Except String Json) (text : String) (document : Json)
    (figures : IperfSummary → RateEvidence → Prop) : Prop where
  usable : (IperfSummary.fromJson document).usable = true ↔
    (document.get "error").bind Json.asStr = none
  same : (IperfSummary.fromJson document).usable = true → (document.get "end").isSome →
    ∃ result, parseIperfJson fromStr text = .ok result ∧ figures (.fromJson document) result.forward

/-- A rate block and the sample that the typed reader makes of it. -/
structure Reads (block : Json) (sample : RateSample) : Prop where
  parsed : parseRateSample block = some sample
  bytes : (block.get "bytes").bind Json.asU64 = some sample.bytes
  rate : (block.get "bits_per_second").bind Json.asF64 = some sample.bitsPerSecond
  seconds : ((block.get "seconds").bind Json.asF64).getD 0 = sample.seconds
  packets : (block.get "packets").bind Json.asU64 = sample.packets
  lostPercent : (block.get "lost_percent").bind Json.asF64 = sample.lostPercent
  hollow : isHollowBlock block = sample.isHollow

theorem reads_of_given {block : Json}
    (given : ((block.get "bits_per_second").bind Json.asF64).isSome ∧
      ((block.get "bytes").bind Json.asU64).isSome) : ∃ sample, Reads block sample := by
  obtain ⟨rate, hasRate⟩ := Option.isSome_iff_exists.mp given.1
  obtain ⟨bytes, hasBytes⟩ := Option.isSome_iff_exists.mp given.2
  obtain ⟨rateField, atRate, isRate⟩ := Option.bind_eq_some_iff.mp hasRate
  obtain ⟨bytesField, atBytes, isBytes⟩ := Option.bind_eq_some_iff.mp hasBytes
  refine ⟨⟨rate, bytes, ((block.get "seconds").bind Json.asF64).getD 0,
    (block.get "packets").bind Json.asU64, (block.get "lost_percent").bind Json.asF64⟩, ?_⟩
  constructor
  · simp [parseRateSample, atRate, isRate, atBytes, isBytes]
  · exact hasBytes
  · exact hasRate
  · rfl
  · rfl
  · rfl
  · cases packets : (block.get "packets").bind Json.asU64 with
    | none => simp [isHollowBlock, RateSample.isHollow, packets, hasBytes]
    | some count => simp [isHollowBlock, RateSample.isHollow, packets]

section Slots
variable {slot other : Option Json} {sample second : Option RateSample}

theorem rel_parsed (given : ∀ block, slot = some block →
    ((block.get "bits_per_second").bind Json.asF64).isSome ∧
      ((block.get "bytes").bind Json.asU64).isSome) :
    Option.Rel Reads slot (slot.bind parseRateSample) := by
  cases slot with
  | none => exact .none
  | some block =>
    obtain ⟨sample, reads⟩ := reads_of_given (given block rfl)
    rw [Option.bind_some, reads.parsed]
    exact .some reads

/-- Both filters keep the same blocks. -/
theorem rel_measured (reads : Option.Rel Reads slot sample) :
    Option.Rel Reads (slot.filter (! isHollowBlock ·)) (sample.filter (! ·.isHollow)) := by
  cases reads with
  | none => exact .none
  | some reads =>
    rw [Option.filter_some, Option.filter_some, reads.hollow]
    split
    · exact .some reads
    · exact .none

theorem rel_or (first : Option.Rel Reads slot sample) (next : Option.Rel Reads other second) :
    Option.Rel Reads (slot.or other) (sample.or second) := by
  cases first with
  | none => exact next
  | some reads => exact .some reads

/-- A field that both readers take from a block as it is. -/
theorem rel_field {γ : Type} {key : String} {read : Json → Option γ} {field : RateSample → Option γ}
    (agree : ∀ block sample, Reads block sample → (block.get key).bind read = field sample)
    (reads : Option.Rel Reads slot sample) :
    (slot.bind (·.get key)).bind read = sample.bind field := by
  cases reads with
  | none => rfl
  | some reads => exact agree _ _ reads

theorem rel_figure {γ : Type} {key : String} {read : Json → Option γ} {figure : RateSample → γ}
    (agree : ∀ block sample, Reads block sample → (block.get key).bind read = some (figure sample))
    (reads : Option.Rel Reads slot sample) :
    (slot.bind (·.get key)).bind read = sample.map figure := by
  rw [rel_field agree reads, Option.map_eq_bind]
  rfl

theorem rel_seconds (reads : Option.Rel Reads slot sample) :
    (∀ measured, sample = some measured →
      measured.seconds = ((slot.bind (·.get "seconds")).bind Json.asF64).getD 0) ∧
      (sample = none → (slot.bind (·.get "seconds")).bind Json.asF64 = none) := by
  cases reads with
  | none => exact ⟨fun _ same => (nomatch same), fun _ => rfl⟩
  | some reads =>
    refine ⟨fun measured same => ?_, fun absent => (nomatch absent)⟩
    obtain rfl := Option.some.inj same
    exact reads.seconds.symm

end Slots

/-- The error of a document, and a connection without one, decide what is usable. -/
theorem fromJson_usable_iff {document : Json} (connected : Connected document) :
    (IperfSummary.fromJson document).usable = true ↔
      (document.get "error").bind Json.asStr = none := by
  obtain ⟨first, rest, listed⟩ := connected
  cases failed : (document.get "error").bind Json.asStr with
  | none => simp [IperfSummary.fromJson, IperfSummary.usable, failed, listed]
  | some detail => simp [IperfSummary.fromJson, IperfSummary.usable, failed]

/-- What the typed reader has for the forward direction of a document without error. -/
theorem parseIperfJson_ok {fromStr : String → Except String Json} {text : String}
    {document summary : Json} (read : fromStr text = .ok document)
    (clean : (document.get "error").bind Json.asStr = none)
    (ended : document.get "end" = some summary) :
    ∃ result, parseIperfJson fromStr text = .ok result ∧
      result.forward.sent = measuredBlock summary "sum_sent" ∧
      result.forward.received = measuredBlock summary "sum_received" ∧
      result.forward.estimatedReceived = (summary.get "sum").bind parseRateSample := by
  have reading : parseIperfJson fromStr text = readIperfDocument document := by
    rw [parseIperfJson, read]
    rfl
  rw [reading, readIperfDocument, clean, ended]
  exact ⟨_, rfl, rfl, rfl, rfl⟩

/-- On a document that gives its rates, the summary and the typed evidence agree. -/
theorem fromJson_agrees (fromStr : String → Except String Json) (text : String) (document : Json)
    (read : fromStr text = .ok document) (rates : RatesGiven document)
    (connected : Connected document) :
    ParsersAgree fromStr text document fun summary evidence =>
      FiguresAgree summary evidence ∧ SecondsAgree summary evidence := by
  refine ⟨fromJson_usable_iff connected, fun usable ended => ?_⟩
  have clean := (fromJson_usable_iff connected).mp usable
  obtain ⟨summary, ended⟩ := Option.isSome_iff_exists.mp ended
  obtain ⟨first, rest, listed⟩ := connected
  obtain ⟨result, parsed, sentEq, receivedEq, estimatedEq⟩ := parseIperfJson_ok read clean ended
  have slot (key : String) (member : key ∈ ["sum_sent", "sum_received", "sum"]) :
      Option.Rel Reads (summary.get key) ((summary.get key).bind parseRateSample) :=
    rel_parsed (rates summary ended key member)
  have sent : Option.Rel Reads ((summary.get "sum_sent").filter (! isHollowBlock ·))
      result.forward.sent := by
    rw [sentEq]
    exact rel_measured (slot "sum_sent" (by simp))
  have achieved : Option.Rel Reads (((summary.get "sum_received").filter (! isHollowBlock ·)).or
      ((summary.get "sum").filter (! isHollowBlock ·))) result.forward.achieved := by
    rw [RateEvidence.achieved, receivedEq, estimatedEq]
    exact rel_or (rel_measured (slot "sum_received" (by simp)))
      (rel_measured (slot "sum" (by simp)))
  refine ⟨result, parsed, ?_, ?_⟩
  · constructor
    · simpa [IperfSummary.fromJson, clean, listed, ended] using rel_figure
        (fun _ _ => Reads.bytes) sent
    · simpa [IperfSummary.fromJson, clean, listed, ended] using rel_figure
        (fun _ _ => Reads.rate) sent
    · simpa [IperfSummary.fromJson, clean, listed, ended] using rel_figure
        (fun _ _ => Reads.bytes) achieved
    · simpa [IperfSummary.fromJson, clean, listed, ended] using rel_figure
        (fun _ _ => Reads.rate) achieved
    · simpa [IperfSummary.fromJson, clean, listed, ended] using rel_field
        (fun _ _ => Reads.packets) achieved
    · simpa [IperfSummary.fromJson, clean, listed, ended] using rel_field
        (fun _ _ => Reads.lostPercent) achieved
  · constructor
    · simpa [IperfSummary.fromJson, clean, listed, ended] using (rel_seconds sent).1
    · simpa [IperfSummary.fromJson, clean, listed, ended] using (rel_seconds sent).2

/-- One connection, a sent block without seconds and a received one with them. -/
def secondsMissing : Json :=
  .object [
    ("start", .object [("connected", .array [.object [("socket", .posInt 5)]])]),
    ("end", .object [
      ("sum_sent", .object [("bits_per_second", .posInt 16), ("bytes", .posInt 2)]),
      ("sum_received",
        .object [("seconds", .posInt 1), ("bits_per_second", .posInt 8), ("bytes", .posInt 1)])])]

/-- The document as it is printed. -/
def secondsMissingText : String :=
  "\x7b\"start\":\x7b\"connected\":[\x7b\"socket\":5\x7d]\x7d,\"end\":\x7b" ++
    "\"sum_sent\":\x7b\"bits_per_second\":16,\"bytes\":2\x7d," ++
    "\"sum_received\":\x7b\"seconds\":1,\"bits_per_second\":8,\"bytes\":1\x7d\x7d\x7d"

/-- What the reader of JSON makes of that text. -/
def readsSecondsMissing (text : String) : Except String Json :=
  if text = secondsMissingText then .ok secondsMissing else .error "another document"

theorem readsSecondsMissing_text :
    readsSecondsMissing secondsMissingText = .ok secondsMissing := if_pos rfl

theorem secondsMissing_ratesGiven : RatesGiven secondsMissing := by
  intro summary ended key member block found
  obtain rfl := Option.some.inj ended
  simp only [List.mem_cons, List.not_mem_nil, or_false] at member
  rcases member with rfl | rfl | rfl
  · obtain rfl := Option.some.inj found
    exact ⟨rfl, rfl⟩
  · obtain rfl := Option.some.inj found
    exact ⟨rfl, rfl⟩
  · cases found

theorem secondsMissing_connected : Connected secondsMissing := ⟨_, [], rfl⟩

theorem fromJson_agrees_secondsMissing :
    ParsersAgree readsSecondsMissing secondsMissingText secondsMissing fun summary evidence =>
      FiguresAgree summary evidence ∧ SecondsAgree summary evidence :=
  fromJson_agrees readsSecondsMissing secondsMissingText secondsMissing readsSecondsMissing_text
    secondsMissing_ratesGiven secondsMissing_connected

/-- Seconds that a block does not give are absent in the summary and zero in the sample. -/
theorem fromJson_seconds_differ :
    ¬ ∀ (fromStr : String → Except String Json) (text : String) (document : Json),
      fromStr text = .ok document → RatesGiven document → Connected document →
        ParsersAgree fromStr text document fun summary evidence =>
          FiguresAgree summary evidence ∧
            summary.senderSeconds = evidence.sent.map (·.seconds) := by
  intro claim
  obtain ⟨result, parsed, _, seconds⟩ :=
    (claim readsSecondsMissing secondsMissingText secondsMissing
      readsSecondsMissing_text secondsMissing_ratesGiven secondsMissing_connected).same rfl rfl
  rw [parseIperfJson, readsSecondsMissing_text] at parsed
  obtain rfl := Except.ok.inj parsed
  cases seconds

end FragglePacket.NetworkTests
