import FragglePacket.Diagnostics.Rules
import FragglePacket.Framework.Result
import FragglePacket.Net.IpAddr
import FragglePacket.Text.Unicode

/-! The sweep over upload sizes, and the stall signature in the sizes that failed. -/

namespace FragglePacket.NetworkTests

open FragglePacket.Framework FragglePacket.Net FragglePacket.Text FragglePacket.Wire

structure SweepSample where
  size : Nat
  httpStatus : Nat
  connectMs : Nat
  appconnectMs : Nat
  ttfbMs : Nat
  totalMs : Nat
  error : Option String

def SweepSample.ok (sample : SweepSample) : Bool := sample.error.isNone && sample.httpStatus != 0

structure UploadSizeSweepTest where
  timeoutSecs : Nat
  sizes : List Nat
  port : Nat
  useTls : Bool
  path : String

def defaultSizes : List Nat := [256, 1024, 4096, 16384, 65536, 262144]

namespace UploadSizeSweepTest

def new : UploadSizeSweepTest where
  timeoutSecs := 20
  sizes := defaultSizes
  port := 443
  useTls := true
  path := "/"

def withPort (test : UploadSizeSweepTest) (port : Nat) : UploadSizeSweepTest :=
  { test with port, useTls := port == 443 || port == 8443 }

def withTls (test : UploadSizeSweepTest) (useTls : Bool) : UploadSizeSweepTest :=
  { test with useTls }

def withSizes (test : UploadSizeSweepTest) (sizes : List Nat) : UploadSizeSweepTest :=
  { test with sizes }

def withTimeout (test : UploadSizeSweepTest) (timeoutSecs : Nat) : UploadSizeSweepTest :=
  { test with timeoutSecs }

end UploadSizeSweepTest

/-- What the calls of one upload return, and the times that its clocks show. -/
structure UploadAttempt where
  lookup : Except String (List SocketAddr)
  connect : SocketAddr → Except String Unit
  tlsInit : Except String Unit
  tlsConnect : Except String Unit
  writeHeaders : Except String Unit
  writeBody : Except String Unit
  flush : Except String Unit
  read : Except String Bytes
  connectMs : Nat
  appconnectMs : Nat
  ttfbMs : Nat
  totalMs : Nat

/-- The attempt at a place of the sweep, with the address it looks up, its timeout, the request
and the size of the body. -/
abbrev UploadHost := Nat → String → Nat → String → Nat → UploadAttempt

def buildPostRequest (host path : String) (bodyLen : Nat) : String :=
  "POST " ++ path ++ " HTTP/1.1\r\nHost: " ++ host ++
    "\r\nUser-Agent: FragglePacket/UploadSweep\r\nContent-Type: application/octet-stream\r\nContent-Length: " ++
    toString bodyLen ++ "\r\nConnection: close\r\n\r\n"

/-- The number in the second field of the first line. -/
def responseStatus (text : Str) : Option Nat := do
  let firstLine ← (lines text).head?
  let codeStr ← (splitWhitespace firstLine)[1]?
  parseUnsigned (2 ^ 16) codeStr

def doPostAndRead (attempt : UploadAttempt) (sample : SweepSample) : SweepSample :=
  match attempt.writeHeaders with
  | .error e => { sample with error := some ("write headers: " ++ e) }
  | .ok _ =>
    match attempt.writeBody with
    | .error e => { sample with error := some ("write body: " ++ e) }
    | .ok _ =>
      match attempt.flush with
      | .error e => { sample with error := some ("flush: " ++ e) }
      | .ok _ =>
        match attempt.read with
        | .error e => { sample with error := some ("read: " ++ e) }
        | .ok received =>
          match received.take 4096 with
          | [] => { sample with error := some "empty response" }
          | buf =>
            { sample with
              ttfbMs := attempt.ttfbMs
              httpStatus := (responseStatus (fromUtf8Lossy buf)).getD sample.httpStatus }

def runSingleSweep (host : UploadHost) (place : Nat) (target : String) (port : Nat) (useTls : Bool)
    (path : String) (size timeoutSecs : Nat) : SweepSample :=
  let attempt :=
    host place (target ++ ":" ++ toString port) timeoutSecs (buildPostRequest target path size) size
  let sample : SweepSample := ⟨size, 0, 0, 0, 0, attempt.totalMs, none⟩
  match attempt.lookup with
  | .error e => { sample with error := some ("DNS: " ++ e) }
  | .ok [] => { sample with error := some "DNS resolved but no addresses" }
  | .ok (addr :: _) =>
    match attempt.connect addr with
    | .error e => { sample with error := some ("TCP: " ++ e) }
    | .ok _ =>
      let sample := { sample with connectMs := attempt.connectMs }
      if useTls then
        match attempt.tlsInit with
        | .error e => { sample with error := some ("TLS init: " ++ e) }
        | .ok _ =>
          match attempt.tlsConnect with
          | .error e => { sample with error := some ("TLS: " ++ e) }
          | .ok _ => doPostAndRead attempt { sample with appconnectMs := attempt.appconnectMs }
      else doPostAndRead attempt sample

/-- One turn of the loop over the samples, with the sizes that failed so far. -/
def recordSample (swept : TestResult × List Nat) (sample : SweepSample) : TestResult × List Nat :=
  let named := "size_" ++ toString sample.size
  let result := swept.1.addMetric (named ++ "_connect_ms") sample.connectMs
  let result := result.addMetric (named ++ "_appconnect_ms") sample.appconnectMs
  let result := result.addMetric (named ++ "_ttfb_ms") sample.ttfbMs
  let result := result.addMetric (named ++ "_total_ms") sample.totalMs
  let result := result.addMetric (named ++ "_http") sample.httpStatus
  let result :=
    match sample.error with
    | some err => result.addMetadata (named ++ "_error") err
    | none => result
  (result, if sample.ok then swept.2 else swept.2 ++ [sample.size])

def stallLead : String := "Small uploads succeeded but larger sizes failed: "

def stallReading : String :=
  ". This is a strong MTU/MSS blackhole indicator where TCP connects and small payloads flow but larger segments are silently dropped."

def stallDiagnosis (failSizes : List Nat) : Diagnosis :=
  (((((Diagnosis.new .critical "Data-Stall Signature Detected"
    (stallLead ++ Diagnostics.sizesText failSizes ++ stallReading)).withRecommendation
    "Lower interface MTU to 1400 and retest").withRecommendation
    "Enable TCP MSS clamping on the egress path").withRecommendation
    "Check ICMP fragmentation-needed is not being filtered upstream").withRelatedTest
    "ICMP MTU Discovery").withRelatedTest "HTTPS Stage-by-Stage"

def failuresLead : String := "Some upload sizes did not complete cleanly: "

def failuresReading : String :=
  ". Pattern is not a textbook blackhole " ++
    ("(small sizes also failed)" ++
      " so the cause may be rate limits, WAF rules, or a flaky connection.")

def failuresDiagnosis (failSizes : List Nat) : Diagnosis :=
  ((Diagnosis.new .warning "Upload Sweep Failures"
    (failuresLead ++ Diagnostics.sizesText failSizes ++ failuresReading)).withRecommendation
    "Re-run with --timeout 40 to exclude slow responses").withRecommendation
      "Check server-side upload limits"

def judgeSweep (failSizes : List Nat) (result : TestResult) : TestResult :=
  if failSizes = [] then result.setStatus .success
  else
    let smallFailed := failSizes.any (· ≤ 1024)
    let largeFailed := failSizes.any (16384 ≤ ·)
    if !smallFailed && largeFailed then
      (result.setStatus .warning).addDiagnosis (stallDiagnosis failSizes)
    else (result.setStatus .warning).addDiagnosis (failuresDiagnosis failSizes)

namespace UploadSizeSweepTest

/-- The samples of the sizes, in their order. -/
def samples (test : UploadSizeSweepTest) (host : UploadHost) (target : String) : List SweepSample :=
  test.sizes.mapIdx fun place size =>
    runSingleSweep host place target test.port test.useTls test.path size test.timeoutSecs

/-- The result before the first upload, with the command that does the same by hand. -/
def started (test : UploadSizeSweepTest) (target : String) : TestResult :=
  (TestResult.new "HTTP Upload Size Sweep" .https target).addMetadata "cli_command"
    ("for s in 256 1024 4096 16384 65536 262144; do head -c $s /dev/zero | curl -X POST --data-binary @- https://" ++
      target ++ ":" ++ toString test.port ++
        "/ -w \"%\x7bsize_upload\x7d %\x7bhttp_code\x7d\\n\"; done")

def run (test : UploadSizeSweepTest) (host : UploadHost) (target : String) : TestResult :=
  let samples := test.samples host target
  let swept := samples.foldl recordSample (test.started target, [])
  let failSizes := swept.2
  let result := swept.1.addMetadata "upload_fail_sizes" (",".intercalate (failSizes.map toString))
  let result :=
    (result.addMetric "total_samples" samples.length).addMetric "failed_samples" failSizes.length
  judgeSweep failSizes result

end UploadSizeSweepTest

section Signature
variable {samples : List SweepSample} {failSizes : List Nat} {result : TestResult} {words : String}

/-- The sizes of the samples that failed. -/
def failedSizes (samples : List SweepSample) : List Nat :=
  (samples.filter fun sample => !sample.ok).map (·.size)

theorem mem_failedSizes_iff {size : Nat} :
    size ∈ failedSizes samples ↔ ∃ sample ∈ samples, sample.ok = false ∧ sample.size = size := by
  simp only [failedSizes, List.mem_map, List.mem_filter, Bool.not_eq_true', and_assoc]

theorem failedSizes_eq_nil_iff :
    failedSizes samples = [] ↔ ∀ sample ∈ samples, sample.ok = true := by
  rw [failedSizes, List.map_eq_nil_iff, List.filter_eq_nil_iff]
  simp only [Bool.not_eq_true', Bool.not_eq_false]

theorem diagnoses_recordSample (swept : TestResult × List Nat) (sample : SweepSample) :
    (recordSample swept sample).1.diagnoses = swept.1.diagnoses := by
  unfold recordSample
  cases sample.error <;> simp only [TestResult.addMetric, TestResult.addMetadata]

theorem foldl_recordSample (samples : List SweepSample) (swept : TestResult × List Nat) :
    (samples.foldl recordSample swept).2 = swept.2 ++ failedSizes samples ∧
      (samples.foldl recordSample swept).1.diagnoses = swept.1.diagnoses := by
  induction samples generalizing swept with
  | nil => exact ⟨(List.append_nil _).symm, rfl⟩
  | cons sample rest ih =>
    obtain ⟨sizes, diagnoses⟩ := ih (recordSample swept sample)
    rw [List.foldl_cons, sizes, diagnoses, diagnoses_recordSample]
    refine ⟨?_, rfl⟩
    cases ok : sample.ok with
    | true =>
      simp only [recordSample, ok, if_true, failedSizes, List.filter_cons, Bool.not_true,
        Bool.false_eq_true, if_false]
    | false =>
      simp only [recordSample, ok, Bool.false_eq_true, if_false, failedSizes, List.filter_cons,
        Bool.not_false, if_true, List.map_cons, List.append_assoc, List.singleton_append]

/-- A diagnosis of the result says these words. -/
def Says (result : TestResult) (words : String) : Prop :=
  ∃ diagnosis ∈ result.diagnoses, words.toList <:+: diagnosis.description.toList

def stallWords : String := "Small uploads succeeded but larger sizes failed"

def smallWords : String := "(small sizes also failed)"

/-- A letter of the words that neither the text around the sizes nor the sizes have. -/
theorem not_isInfix_sized (c : Char) {lead words reading : String} (needed : c ∈ words.toList)
    (other : isAsciiDigit c = false) (apart : c ∉ ['[', ',', ' ', ']']) (before : c ∉ lead.toList)
    (after : c ∉ reading.toList) (sizes : List Nat) :
    ¬ words.toList <:+: (lead ++ Diagnostics.sizesText sizes ++ reading).toList := fun within => by
  have member := within.subset needed
  rw [String.toList_append, String.toList_append, List.mem_append, List.mem_append] at member
  exact member.elim (fun earlier => earlier.elim before
    (Diagnostics.not_mem_sizesText other apart sizes)) after

set_option maxRecDepth 1000 in
theorem stallDiagnosis_words (failSizes : List Nat) :
    stallWords.toList <:+: (stallDiagnosis failSizes).description.toList ∧
      ¬ smallWords.toList <:+: (stallDiagnosis failSizes).description.toList := by
  constructor
  · change stallWords.toList <:+: (stallLead ++ _ ++ stallReading).toList
    have begins : stallLead = stallWords ++ ": " := by decide
    rw [String.toList_append, String.toList_append, List.append_assoc, begins, String.toList_append,
      List.append_assoc]
    exact (List.prefix_append _ _).isInfix
  · have before : '(' ∉ stallLead.toList := not_mem_literal (by decide)
    have after : '(' ∉ stallReading.toList := not_mem_literal (by decide)
    exact not_isInfix_sized '(' (by decide) rfl (by decide) before after failSizes

theorem failuresDiagnosis_words (failSizes : List Nat) :
    smallWords.toList <:+: (failuresDiagnosis failSizes).description.toList ∧
      ¬ stallWords.toList <:+: (failuresDiagnosis failSizes).description.toList := by
  constructor
  · change smallWords.toList <:+: (failuresLead ++ _ ++ failuresReading).toList
    have within : smallWords.toList <:+: failuresReading.toList := by
      change smallWords.toList <:+: (_ ++ (smallWords ++ _)).toList
      rw [String.toList_append, String.toList_append]
      exact ⟨_, _, List.append_assoc ..⟩
    rw [String.toList_append]
    exact within.trans (List.suffix_append _ _).isInfix
  · have before : 'g' ∉ failuresLead.toList := not_mem_literal (by decide)
    have after : 'g' ∉ failuresReading.toList := by
      change 'g' ∉ (_ ++ (smallWords ++ _)).toList
      rw [String.toList_append, String.toList_append, List.mem_append, List.mem_append,
        not_or, not_or]
      exact ⟨not_mem_literal (by decide), not_mem_literal (by decide), not_mem_literal (by decide)⟩
    exact not_isInfix_sized 'g' (by decide) rfl (by decide) before after failSizes

/-- What is said of the failed sizes, kind by kind. -/
theorem judgeSweep_cases (fresh : result.diagnoses = []) :
    (failSizes = [] → (judgeSweep failSizes result).status = .success ∧
      ¬ Says (judgeSweep failSizes result) stallWords ∧
        ¬ Says (judgeSweep failSizes result) smallWords) ∧
    ((∀ size ∈ failSizes, 1024 < size) → (∃ size ∈ failSizes, 16384 ≤ size) →
      (judgeSweep failSizes result).status = .warning ∧
      Says (judgeSweep failSizes result) stallWords ∧
        ¬ Says (judgeSweep failSizes result) smallWords) ∧
    (failSizes ≠ [] → ¬ ((∀ size ∈ failSizes, 1024 < size) ∧ ∃ size ∈ failSizes, 16384 ≤ size) →
      (judgeSweep failSizes result).status = .warning ∧
      ¬ Says (judgeSweep failSizes result) stallWords ∧
        Says (judgeSweep failSizes result) smallWords) := by
  have signature : (!failSizes.any (· ≤ 1024) && failSizes.any (16384 ≤ ·)) = true ↔
      (∀ size ∈ failSizes, 1024 < size) ∧ ∃ size ∈ failSizes, 16384 ≤ size := by
    simp [List.any_eq_true, List.any_eq_false]
  have alone (diagnosis : Diagnosis) (words : String) :
      Says ((result.setStatus .warning).addDiagnosis diagnosis) words ↔
        words.toList <:+: diagnosis.description.toList := by
    simp only [Says, TestResult.addDiagnosis, TestResult.setStatus, fresh, List.nil_append,
      List.mem_singleton, exists_eq_left]
  refine ⟨?_, ?_, ?_⟩
  · rintro rfl
    have silent (words : String) : ¬ Says (judgeSweep [] result) words := by
      rintro ⟨diagnosis, member, -⟩
      change diagnosis ∈ result.diagnoses at member
      rw [fresh] at member
      exact List.not_mem_nil member
    exact ⟨rfl, silent _, silent _⟩
  · intro spared large
    have some_failed : failSizes ≠ [] := fun empty => by
      obtain ⟨size, member, -⟩ := large
      exact List.not_mem_nil (empty ▸ member)
    rw [judgeSweep, if_neg some_failed]
    simp only [signature.mpr ⟨spared, large⟩, if_true, alone]
    exact ⟨rfl, stallDiagnosis_words failSizes⟩
  · intro some_failed other
    rw [judgeSweep, if_neg some_failed]
    simp only [signature, other, if_false, alone]
    exact ⟨rfl, (failuresDiagnosis_words failSizes).symm⟩

end Signature

section Run
variable {samples : List SweepSample}

/-- The result tells the stall signature, and nothing of the small sizes or of
success that was not seen. -/
structure SignatureSound (samples : List SweepSample) (result : TestResult) : Prop where
  stall : Says result stallWords ↔
    (∃ sample ∈ samples, sample.size ≤ 1024) ∧
      (∀ sample ∈ samples, sample.size ≤ 1024 → sample.ok = true) ∧
      ∃ sample ∈ samples, 16384 ≤ sample.size ∧ sample.ok = false
  small : Says result smallWords → ∃ sample ∈ samples, sample.size ≤ 1024 ∧ sample.ok = false
  success : result.status = .success → samples ≠ [] ∧ ∀ sample ∈ samples, sample.ok = true

/-- A size was tested; a small one was, or no large one failed; and a failure is of a
small or of a large size. -/
structure Telling (samples : List SweepSample) : Prop where
  tested : samples ≠ []
  small : (∃ sample ∈ samples, sample.size ≤ 1024) ∨ ∀ sample ∈ samples, 16384 ≤ sample.size →
    sample.ok = true
  failed : (∃ sample ∈ samples, sample.ok = false ∧ (sample.size ≤ 1024 ∨ 16384 ≤ sample.size)) ∨
    ∀ sample ∈ samples, sample.ok = true

theorem forall_failedSizes_iff :
    (∀ size ∈ failedSizes samples, 1024 < size) ↔ ∀ sample ∈ samples, sample.size ≤ 1024 →
      sample.ok = true := by
  constructor
  · intro spared sample member small
    by_contra failed
    have large :=
      spared _ (mem_failedSizes_iff.mpr ⟨sample, member, Bool.eq_false_iff.mpr failed, rfl⟩)
    omega
  · intro spared size listed
    obtain ⟨sample, member, failed, rfl⟩ := mem_failedSizes_iff.mp listed
    by_contra small
    rw [spared sample member (Nat.le_of_not_lt small)] at failed
    cases failed

theorem exists_failedSizes_iff :
    (∃ size ∈ failedSizes samples, 16384 ≤ size) ↔
      ∃ sample ∈ samples, 16384 ≤ sample.size ∧ sample.ok = false := by
  constructor
  · rintro ⟨size, listed, large⟩
    obtain ⟨sample, member, failed, rfl⟩ := mem_failedSizes_iff.mp listed
    exact ⟨sample, member, large, failed⟩
  · rintro ⟨sample, member, large, failed⟩
    exact ⟨sample.size, mem_failedSizes_iff.mpr ⟨sample, member, failed, rfl⟩, large⟩

section Judged
variable {result : TestResult}

theorem signatureSound_of_clean (clean : ∀ sample ∈ samples, sample.ok = true)
    (fresh : result.diagnoses = []) :
    SignatureSound samples (judgeSweep (failedSizes samples) result) ↔ samples ≠ [] := by
  obtain ⟨success, noStall, noSmall⟩ :=
    (judgeSweep_cases fresh).1 (failedSizes_eq_nil_iff.mpr clean)
  constructor
  · exact fun sound => (sound.success success).1
  · intro tested
    refine ⟨iff_of_false noStall ?_, fun said => absurd said noSmall, fun _ => ⟨tested, clean⟩⟩
    rintro ⟨-, -, sample, member, -, failed⟩
    rw [clean sample member] at failed
    cases failed

theorem signatureSound_of_stalled
    (spared : ∀ sample ∈ samples, sample.size ≤ 1024 → sample.ok = true)
    (large : ∃ sample ∈ samples, 16384 ≤ sample.size ∧ sample.ok = false)
    (fresh : result.diagnoses = []) :
    SignatureSound samples (judgeSweep (failedSizes samples) result) ↔
      ∃ sample ∈ samples, sample.size ≤ 1024 := by
  obtain ⟨warning, stall, noSmall⟩ :=
    (judgeSweep_cases fresh).2.1 (forall_failedSizes_iff.mpr spared)
      (exists_failedSizes_iff.mpr large)
  constructor
  · exact fun sound => (sound.stall.mp stall).1
  · intro small
    refine ⟨iff_of_true stall ⟨small, spared, large⟩, fun said => absurd said noSmall,
      fun success => ?_⟩
    rw [warning] at success
    cases success

theorem signatureSound_of_failing (failing : ∃ sample ∈ samples, sample.ok = false)
    (other : ¬ ((∀ sample ∈ samples, sample.size ≤ 1024 → sample.ok = true) ∧
      ∃ sample ∈ samples, 16384 ≤ sample.size ∧ sample.ok = false))
        (fresh : result.diagnoses = []) :
    SignatureSound samples (judgeSweep (failedSizes samples) result) ↔
      ∃ sample ∈ samples, sample.size ≤ 1024 ∧ sample.ok = false := by
  have listed : failedSizes samples ≠ [] := fun empty => by
    obtain ⟨sample, member, failed⟩ := failing
    rw [failedSizes_eq_nil_iff.mp empty sample member] at failed
    cases failed
  obtain ⟨warning, noStall, saysSmall⟩ := (judgeSweep_cases fresh).2.2 listed
    fun both => other ⟨forall_failedSizes_iff.mp both.1, exists_failedSizes_iff.mp both.2⟩
  constructor
  · exact fun sound => sound.small saysSmall
  · intro small
    refine ⟨iff_of_false noStall fun said => other said.2, fun _ => small, fun success => ?_⟩
    rw [warning] at success
    cases success

theorem signatureSound_judgeSweep_iff (fresh : result.diagnoses = []) :
    SignatureSound samples (judgeSweep (failedSizes samples) result) ↔ Telling samples := by
  by_cases clean : ∀ sample ∈ samples, sample.ok = true
  · rw [signatureSound_of_clean clean fresh]
    exact ⟨fun tested => ⟨tested, .inr fun sample member _ => clean sample member, .inr clean⟩,
      Telling.tested⟩
  · have failing : ∃ sample ∈ samples, sample.ok = false := by simpa using clean
    have tested : samples ≠ [] := fun empty => by
      obtain ⟨sample, member, -⟩ := failing
      exact List.not_mem_nil (empty ▸ member)
    by_cases stalled : (∀ sample ∈ samples, sample.size ≤ 1024 → sample.ok = true) ∧
        ∃ sample ∈ samples, 16384 ≤ sample.size ∧ sample.ok = false
    · obtain ⟨spared, sample, member, large, failed⟩ := stalled
      rw [signatureSound_of_stalled spared ⟨sample, member, large, failed⟩ fresh]
      constructor
      · exact fun small => ⟨tested, .inl small, .inl ⟨sample, member, failed, .inr large⟩⟩
      · refine fun telling => telling.small.resolve_right fun allOk => ?_
        rw [allOk sample member large] at failed
        cases failed
    · rw [signatureSound_of_failing failing stalled fresh]
      constructor
      · rintro ⟨sample, member, small, failed⟩
        exact ⟨tested, .inl ⟨sample, member, small⟩, .inl ⟨sample, member, failed, .inl small⟩⟩
      · intro telling
        by_contra noSmall
        have spared : ∀ sample ∈ samples, sample.size ≤ 1024 → sample.ok = true :=
          fun sample member small =>
            Bool.not_eq_false _ ▸ fun failed => noSmall ⟨sample, member, small, failed⟩
        obtain ⟨sample, member, failed, small | large⟩ := telling.failed.resolve_right clean
        · exact noSmall ⟨sample, member, small, failed⟩
        · exact stalled ⟨spared, sample, member, large, failed⟩

end Judged

namespace UploadSizeSweepTest
variable (test : UploadSizeSweepTest) (host : UploadHost) (target : String)

theorem size_doPostAndRead (attempt : UploadAttempt) (sample : SweepSample) :
    (doPostAndRead attempt sample).size = sample.size := by
  unfold doPostAndRead
  split
  · rfl
  · split
    · rfl
    · split
      · rfl
      · split
        · rfl
        · split <;> rfl

theorem size_runSingleSweep (place port : Nat) (useTls : Bool) (path : String)
    (size timeoutSecs : Nat) :
    (runSingleSweep host place target port useTls path size timeoutSecs).size = size := by
  simp only [runSingleSweep]
  split
  · rfl
  · rfl
  · split
    · rfl
    · split
      · split
        · rfl
        · split
          · rfl
          · exact size_doPostAndRead _ _
      · exact size_doPostAndRead _ _

theorem sizes_samples : (test.samples host target).map (·.size) = test.sizes := by
  apply List.ext_getElem?
  intro place
  simp only [samples, List.getElem?_map, List.getElem?_mapIdx, Option.map_map]
  cases test.sizes[place]? with
  | none => rfl
  | some size => exact congrArg some (size_runSingleSweep ..)

theorem signatureSound_run_iff :
    SignatureSound (test.samples host target) (test.run host target) ↔
      Telling (test.samples host target) := by
  obtain ⟨sizes, diagnoses⟩ :=
    foldl_recordSample (test.samples host target) (test.started target, [])
  simp only [run, sizes, List.nil_append]
  exact signatureSound_judgeSweep_iff diagnoses

/-- There is one sample for each size, and the signature is told as it should be exactly
where the samples tell it. -/
theorem run_signatureSound_iff :
    (test.samples host target).map (·.size) = test.sizes ∧
      (SignatureSound (test.samples host target) (test.run host target) ↔
        Telling (test.samples host target)) :=
  ⟨sizes_samples test host target, signatureSound_run_iff test host target⟩

end UploadSizeSweepTest

/-- An upload that the server answers, and one that it does not. -/
def uploadAttempt (answered : Bool) : UploadAttempt where
  lookup := .ok [⟨.v4 ⟨192, 0, 2, 1⟩, 443⟩]
  connect := fun _ => .ok ()
  tlsInit := .ok ()
  tlsConnect := .ok ()
  writeHeaders := .ok ()
  writeBody := .ok ()
  flush := .ok ()
  read := if answered then .ok (encodeUtf8 "HTTP/1.1 200 OK\r\n".toList) else .error "timed out"
  connectMs := 10
  appconnectMs := 20
  ttfbMs := 30
  totalMs := 60

/-- The server that answers no upload of more than a size. -/
def stallsOver (limit : Nat) : UploadHost :=
  fun _ _ _ _ size => uploadAttempt (decide (size ≤ limit))

def answeredSample (size : Nat) : SweepSample := ⟨size, 200, 10, 20, 30, 60, none⟩

def stalledSample (size : Nat) : SweepSample := ⟨size, 0, 10, 20, 0, 60, some "read: timed out"⟩

theorem samples_middle :
    (UploadSizeSweepTest.new.withSizes [256, 4096]).samples (stallsOver 1024) "example.net" =
    [answeredSample 256, stalledSample 4096] := by
  rfl

theorem samples_large :
    (UploadSizeSweepTest.new.withSizes [65536]).samples (stallsOver 1024) "example.net" =
    [stalledSample 65536] := by
  rfl

/-- A sweep over the sizes on a host that stalls over 1024 bytes is judged as the samples say. -/
def SweptSoundly (sizes : List Nat) : Prop :=
  SignatureSound ((UploadSizeSweepTest.new.withSizes sizes).samples (stallsOver 1024) "example.net")
    ((UploadSizeSweepTest.new.withSizes sizes).run (stallsOver 1024) "example.net")

/-- A middle size alone fails, large sizes alone are tested, or no size is. -/
theorem unsound_signature :
    ¬ SweptSoundly [256, 4096] ∧ ¬ SweptSoundly [65536] ∧ ¬ SweptSoundly [] := by
  refine ⟨?_, ?_, ?_⟩
  · rw [SweptSoundly, UploadSizeSweepTest.signatureSound_run_iff, samples_middle]
    rintro ⟨-, -, ⟨sample, member, failed, far⟩ | clean⟩
    · simp only [List.mem_cons, List.not_mem_nil, or_false] at member
      obtain rfl | rfl := member
      · cases failed
      · exact absurd far (by decide)
    · cases clean (stalledSample 4096) (List.mem_cons_of_mem _ List.mem_cons_self)
  · rw [SweptSoundly, UploadSizeSweepTest.signatureSound_run_iff, samples_large]
    rintro ⟨-, ⟨sample, member, small⟩ | clean, -⟩
    · obtain rfl := List.mem_singleton.mp member
      exact absurd small (by decide)
    · cases clean (stalledSample 65536) List.mem_cons_self (by decide)
  · rw [SweptSoundly, UploadSizeSweepTest.signatureSound_run_iff]
    exact fun telling => telling.tested rfl

end Run

end FragglePacket.NetworkTests
