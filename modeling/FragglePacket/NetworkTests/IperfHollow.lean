import FragglePacket.NetworkTests.IperfSummary

/-! The samples that the typed reader of `iperf3 -J` documents gives out, and what was
measured behind them. -/

namespace FragglePacket.NetworkTests

/-- Something arrived: packets where they are counted, and otherwise bytes. -/
def RateSample.Measured (sample : RateSample) : Prop :=
  match sample.packets with
  | some packets => 0 < packets
  | none => 0 < sample.bytes

theorem RateSample.measured_iff (sample : RateSample) :
    sample.Measured ↔ sample.isHollow = false := by
  unfold Measured isHollow
  cases sample.packets with
  | none => simp [Nat.pos_iff_ne_zero]
  | some packets => simp [Nat.pos_iff_ne_zero]

def RateEvidence.samples (evidence : RateEvidence) : List RateSample :=
  evidence.sent.toList ++ evidence.received.toList ++ evidence.estimatedReceived.toList

/-- The samples of both directions. -/
def IperfResult.samples (result : IperfResult) : List RateSample :=
  result.forward.samples ++ result.bidirReverse.toList.flatMap RateEvidence.samples

/-- Every sample of an accepted document measured something, and no document with an error is
accepted. -/
structure NothingHollow (fromStr : String → Except String Json) (text : String) : Prop where
  measured : ∀ result, parseIperfJson fromStr text = .ok result →
    ∀ sample ∈ result.samples, sample.Measured
  refused : ∀ document detail, fromStr text = .ok document →
    (document.get "error").bind Json.asStr = some detail →
    parseIperfJson fromStr text = .error (.serverError detail)

/-- A block has the two numbers that make it a sample. -/
def Json.IsRate (block : Json) : Prop :=
  ((block.get "bits_per_second").bind Json.asF64).isSome ∧
    ((block.get "bytes").bind Json.asU64).isSome

theorem parseRateSample_eq_some_iff {block : Json} {sample : RateSample} :
    parseRateSample block = some sample ↔ block.IsRate ∧ Reads block sample := by
  constructor
  · intro parsed
    have given : block.IsRate := by
      simp only [parseRateSample, Option.bind_eq_bind, Option.bind_eq_some_iff] at parsed
      obtain ⟨rateField, atRate, rate, isRate, bytesField, atBytes, bytes, isBytes, -⟩ := parsed
      simp [Json.IsRate, atRate, isRate, atBytes, isBytes]
    obtain ⟨other, reads⟩ := reads_of_given given
    obtain rfl := Option.some.inj (reads.parsed.symm.trans parsed)
    exact ⟨given, reads⟩
  · rintro ⟨-, reads⟩
    exact reads.parsed

theorem measuredBlock_measured {summary : Json} {key : String} {sample : RateSample}
    (found : measuredBlock summary key = some sample) : sample.Measured := by
  have kept := (Option.filter_eq_some_iff.mp found).2
  exact sample.measured_iff.mpr (by simpa using kept)

/-- Only the estimate is taken as it comes. -/
theorem RateEvidence.measured_or_estimated {evidence : RateEvidence} {summary : Json}
    {sentKey receivedKey : String} (sent : evidence.sent = measuredBlock summary sentKey)
    (received : evidence.received = measuredBlock summary receivedKey) {sample : RateSample}
    (listed : sample ∈ evidence.samples) :
    sample.Measured ∨ evidence.estimatedReceived = some sample := by
  rcases List.mem_append.mp listed with measured | estimated
  · rcases List.mem_append.mp measured with isSent | isReceived
    · exact Or.inl (measuredBlock_measured (sent ▸ Option.mem_toList.mp isSent))
    · exact Or.inl (measuredBlock_measured (received ▸ Option.mem_toList.mp isReceived))
  · exact Or.inr (Option.mem_toList.mp estimated)

/-- What an accepted document was read from. -/
structure ReadFrom (document summary : Json) (result : IperfResult) : Prop where
  clean : (document.get "error").bind Json.asStr = none
  ended : document.get "end" = some summary
  sent : result.forward.sent = measuredBlock summary "sum_sent"
  received : result.forward.received = measuredBlock summary "sum_received"
  estimated : result.forward.estimatedReceived = (summary.get "sum").bind parseRateSample
  reverse : ∀ evidence, result.bidirReverse = some evidence →
    evidence.sent = measuredBlock summary "sum_sent_bidir_reverse" ∧
      evidence.received = measuredBlock summary "sum_received_bidir_reverse" ∧
        evidence.estimatedReceived = none

theorem readIperfDocument_ok {document : Json} {result : IperfResult}
    (accepted : readIperfDocument document = .ok result) :
    ∃ summary, ReadFrom document summary result := by
  unfold readIperfDocument at accepted
  cases failed : (document.get "error").bind Json.asStr with
  | some detail => simp [failed] at accepted
  | none =>
    cases ended : document.get "end" with
    | none => simp [failed, ended] at accepted
    | some summary =>
      simp only [failed, ended] at accepted
      obtain rfl := Except.ok.inj accepted
      refine ⟨summary, failed, ended, rfl, rfl, rfl, ?_⟩
      intro evidence present
      obtain ⟨-, same⟩ := Option.ite_none_right_eq_some.mp present
      obtain rfl := Option.some.inj same
      exact ⟨rfl, rfl, rfl⟩

theorem ReadFrom.measured_or_sum {document summary : Json} {result : IperfResult}
    (read : ReadFrom document summary result) {sample : RateSample}
    (listed : sample ∈ result.samples) :
    sample.Measured ∨ (summary.get "sum").bind parseRateSample = some sample := by
  rcases List.mem_append.mp listed with forward | reverse
  · rw [← read.estimated]
    exact RateEvidence.measured_or_estimated read.sent read.received forward
  · obtain ⟨evidence, present, listed⟩ := List.mem_flatMap.mp reverse
    obtain ⟨sent, received, nothing⟩ := read.reverse evidence (Option.mem_toList.mp present)
    rcases RateEvidence.measured_or_estimated sent received listed with measured | estimated
    · exact Or.inl measured
    · rw [nothing] at estimated
      cases estimated

section Parse
variable {fromStr : String → Except String Json} {text : String}

theorem parseIperfJson_eq {document : Json} (accepted : fromStr text = .ok document) :
    parseIperfJson fromStr text = readIperfDocument document := by
  rw [parseIperfJson, accepted]
  rfl

theorem parseIperfJson_ok_iff {result : IperfResult} :
    parseIperfJson fromStr text = .ok result ↔
      ∃ document, fromStr text = .ok document ∧ readIperfDocument document = .ok result := by
  cases accepted : fromStr text with
  | error detail => simp [parseIperfJson, accepted, Except.mapError, bind, Except.bind]
  | ok document => simp [parseIperfJson_eq accepted]

theorem parseIperfJson_refused {document : Json} {detail : String}
    (accepted : fromStr text = .ok document)
    (failed : (document.get "error").bind Json.asStr = some detail) :
    parseIperfJson fromStr text = .error (.serverError detail) := by
  rw [parseIperfJson_eq accepted, readIperfDocument, failed]

end Parse

/-- Nothing hollow comes through just when the legacy block, in a document without an error,
is no rate block or not a hollow one. -/
theorem nothingHollow_iff (fromStr : String → Except String Json) (text : String) :
    NothingHollow fromStr text ↔ ∀ document summary block, fromStr text = .ok document →
      (document.get "error").bind Json.asStr = none → document.get "end" = some summary →
      summary.get "sum" = some block → block.IsRate → isHollowBlock block = false := by
  constructor
  · intro nothing document summary block accepted clean ended found rate
    obtain ⟨sample, reads⟩ := reads_of_given rate
    obtain ⟨result, parsed, -, -, estimated⟩ := parseIperfJson_ok accepted clean ended
    rw [found, Option.bind_some, reads.parsed] at estimated
    have listed : sample ∈ result.samples :=
      List.mem_append_left _ (List.mem_append_right _ (Option.mem_toList.mpr estimated))
    rw [reads.hollow]
    exact sample.measured_iff.mp (nothing.measured result parsed sample listed)
  · intro kept
    refine ⟨?_, fun document detail accepted failed => parseIperfJson_refused accepted failed⟩
    intro result parsed sample listed
    obtain ⟨document, accepted, read⟩ := parseIperfJson_ok_iff.mp parsed
    obtain ⟨summary, read⟩ := readIperfDocument_ok read
    rcases read.measured_or_sum listed with measured | estimated
    · exact measured
    · obtain ⟨block, found, parsed⟩ := Option.bind_eq_some_iff.mp estimated
      obtain ⟨rate, reads⟩ := parseRateSample_eq_some_iff.mp parsed
      have full := kept document summary block accepted read.clean read.ended found rate
      rw [reads.hollow] at full
      exact sample.measured_iff.mpr full

/-- A legacy block of no packets. -/
def hollowSum : Json :=
  .object [("end", .object [("sum", .object [
    ("bits_per_second", .posInt 0), ("bytes", .posInt 0), ("packets", .posInt 0),
      ("lost_percent", .posInt 0)])])]

/-- Its loss of nothing sent is an estimate like any other. -/
theorem hollow_sum_estimated : ¬ NothingHollow (fun _ => .ok hollowSum)
    "\x7b\"end\":\x7b\"sum\":\x7b\"bits_per_second\":0,\"bytes\":0,\"packets\":0,\"lost_percent\":0\x7d\x7d\x7d" := by
  intro nothing
  have measured := nothing.measured _ rfl ⟨0, 0, 0, some 0, some 0⟩ List.mem_cons_self
  exact absurd measured (Nat.lt_irrefl 0)

end FragglePacket.NetworkTests
