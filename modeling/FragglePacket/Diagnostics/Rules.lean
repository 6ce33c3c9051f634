import FragglePacket.NocMetrics.Threshold
import FragglePacket.Text.Decimal
import FragglePacket.Text.Tokens

/-! The diagnosis rules: what each of them reads from the evidence and what it finds. -/

namespace FragglePacket.Diagnostics

open FragglePacket.Lists FragglePacket.NocMetrics FragglePacket.Text

inductive DiagnosisIssue where
  | mtuBlackhole
  | tcpSegmentationLimit
  | dnsFailure
  | portBlocking
  | highLatency
  | packetLoss
  | pathMtuMismatch
  | blackholeScore
deriving DecidableEq

/-- The severities in the order of their declaration, which is the derived order. -/
inductive Severity where
  | critical
  | high
  | medium
  | low
  | info
deriving DecidableEq

def Severity.discriminant : Severity → Nat
  | critical => 0
  | high => 1
  | medium => 2
  | low => 3
  | info => 4

theorem Severity.discriminant_injective : Function.Injective Severity.discriminant := by
  intro first second same
  cases first <;> cases second <;> first | rfl | cases same

instance : LinearOrder Severity :=
  LinearOrder.lift' Severity.discriminant Severity.discriminant_injective

structure Diagnosis where
  issue : DiagnosisIssue
  severity : Severity
  description : String
  recommendation : String
  relatedTests : List String
deriving DecidableEq

inductive HttpsDiagnosis where
  | success
  | dnsFailure
  | tcpConnectFailed
  | tlsTimeout
  | tlsHandshakeFailed
  | httpRequestFailed
  | httpResponseTimeout
  | mtuBlackhole
deriving DecidableEq

structure HttpsTestResult where
  target : String
  tcpSuccess : Bool
  diagnosis : HttpsDiagnosis

structure DiagnosisEvidence where
  httpsResult : Option HttpsTestResult := none
  interfaceMtu : Option Nat := none
  icmpMtu : Option Nat := none
  tcpMtu : Option Nat := none
  tcpSegmentLimit : Option Nat := none
  pingSuccess : Option Bool := none
  tcpConnectSuccess : Option Bool := none
  dnsResolutionTimeMs : Option ℚ := none
  dnsSuccess : Option Bool := none
  packetLossPercent : Option ℚ := none
  rttMs : Option ℚ := none
  packetLossSamples : List Sample := []
  rttSamples : List Sample := []
  uploadFailSizes : List Nat := []
  sshBannerOk : Option Bool := none
  sshExecOk : Option Bool := none
  printerFailSizes : List Nat := []
  icmpFragNeededReceived : Option Bool := none

/-- How a rule ends without an answer: `usize` arithmetic left its range, which panics in a
debug build and wraps in a release build, or the evaluation of a profile panicked. -/
inductive RulePanic where
  | overflow
  | profile (halt : ThresholdHalt)

structure DiagnosisRule where
  name : String
  check : DiagnosisEvidence → Except RulePanic (Option Diagnosis)

/-- The `usize` subtraction `mtu - 100`. -/
def safetyMargin (mtu : Nat) : Except RulePanic Nat :=
  if 100 ≤ mtu then .ok (mtu - 100) else .error .overflow

def suggestedMtu (evidence : DiagnosisEvidence) : Except RulePanic Nat :=
  match evidence.tcpMtu.or evidence.icmpMtu with
  | some mtu => safetyMargin mtu
  | none => .ok 1400

def mtuBlackholeRule : DiagnosisRule where
  name := "MTU Blackhole Detector"
  check evidence :=
    match evidence.httpsResult with
    | none => .ok none
    | some https =>
      if https.tcpSuccess ∧ https.diagnosis = .tlsTimeout ∧
        1500 ≤ evidence.interfaceMtu.getD 0 then do
        let suggested := toString (← suggestedMtu evidence)
        return some {
          issue := .mtuBlackhole
          severity := .critical
          description :=
            "MTU blackhole detected on " ++ https.target ++ ". TCP connects but TLS times out. " ++
              "This occurs when intermediate routers drop large packets without " ++
              "sending ICMP 'Packet Too Big' messages."
          recommendation := "Lower interface MTU to " ++ suggested ++ " bytes:\n" ++
            "Linux: sudo ip link set dev eth0 mtu " ++ suggested ++ "\n" ++
            "Windows: netsh interface ipv4 set subinterface \"Ethernet\" mtu=" ++ suggested ++
              " store=persistent\n" ++
            "macOS: sudo ifconfig en0 mtu " ++ suggested
          relatedTests := ["HTTPS Test", "MTU Test"] }
      else .ok none

def pathMtuMismatchRule : DiagnosisRule where
  name := "Path MTU Mismatch Detector"
  check evidence :=
    match evidence.interfaceMtu, evidence.icmpMtu with
    | some interfaceMtu, some icmpMtu =>
      if icmpMtu < interfaceMtu ∧ 50 < interfaceMtu - icmpMtu then
        .ok (some {
          issue := .pathMtuMismatch
          severity := .high
          description :=
            "Path MTU (" ++ toString icmpMtu ++ " bytes) is lower than interface MTU (" ++
              toString interfaceMtu ++ " bytes). This can cause fragmentation or dropped packets."
          recommendation :=
            "Consider lowering interface MTU to " ++ toString icmpMtu ++ " bytes to match path MTU."
          relatedTests := ["MTU Test"] })
      else .ok none
    | _, _ => .ok none

def portBlockingRule : DiagnosisRule where
  name := "Port Blocking Detector"
  check evidence :=
    match evidence.pingSuccess with
    | none => .ok none
    | some pingOk =>
      if pingOk ∧ ¬ evidence.tcpConnectSuccess.getD true then
        .ok (some {
          issue := .portBlocking
          severity := .high
          description :=
            "Port blocking detected. ICMP (ping) succeeds but TCP connection fails. " ++
              "This indicates a firewall is blocking TCP traffic while allowing ICMP."
          recommendation := "Check firewall rules:\n" ++
            "- Verify target firewall allows TCP on the tested port\n" ++
            "- Check intermediate firewalls/routers\n" ++
            "- Try different ports (80, 443, 8080)\n" ++
            "- Contact network administrator if persistent"
          relatedTests := ["Packet Loss Test", "TCP Health Test"] })
      else .ok none

def dnsIssuesRule : DiagnosisRule where
  name := "DNS Issues Detector"
  check evidence :=
    if evidence.dnsSuccess = some false then
      .ok (some {
        issue := .dnsFailure
        severity := .critical
        description := "DNS resolution failed. Unable to resolve hostname to IP address."
        recommendation := "DNS troubleshooting steps:\n" ++
          "- Check /etc/resolv.conf (Linux/macOS) or DNS settings (Windows)\n" ++
          "- Try alternative DNS servers: 1.1.1.1 (Cloudflare), 8.8.8.8 (Google)\n" ++
          "- Verify network connectivity\n" ++
          "- Check if hostname is correct\n" ++
          "- Test with: dig <hostname> or nslookup <hostname>"
        relatedTests := ["DNS Test"] })
    else
      match evidence.dnsResolutionTimeMs with
      | none => .ok none
      | some timeMs =>
        if 1000 < timeMs then
          .ok (some {
            issue := .dnsFailure
            severity := .medium
            description := "Slow DNS resolution detected (" ++ fixed 0 timeMs ++
              "ms). This can significantly impact application performance."
            recommendation := "Improve DNS performance:\n" ++
              "- Switch to faster DNS servers (current: " ++ fixed 0 timeMs ++ "ms)\n" ++
              "- Try 1.1.1.1 (Cloudflare) or 8.8.8.8 (Google)\n" ++
              "- Check local DNS cache\n" ++
              "- Verify DNS server is not overloaded"
            relatedTests := ["DNS Test"] })
        else .ok none

def tcpSegmentationLimitRule : DiagnosisRule where
  name := "TCP Segmentation Limit Detector"
  check evidence :=
    match evidence.tcpSegmentLimit with
    | none => .ok none
    | some segmentLimit =>
      if segmentLimit < 1000 then
        .ok (some {
          issue := .tcpSegmentationLimit
          severity := .high
          description := "Artificial TCP segment size limit detected (" ++ toString segmentLimit ++
            " bytes). " ++
            "A firewall or middlebox is limiting TCP segment sizes, which severely impacts performance."
          recommendation := "Address TCP segmentation restriction:\n" ++
            "- Check firewall rules for TCP segment size limits\n" ++
            "- Review DPI (Deep Packet Inspection) settings\n" ++
            "- Contact ISP if using VPN or proxy\n" ++
            "- Current limit: " ++ toString segmentLimit ++ " bytes (normal: ~1460 bytes)"
          relatedTests := ["TCP Segmentation Test", "TCP Health Test"] })
      else .ok none

def latencyProfile : ThresholdProfile where
  name := "latency"
  windowType := .measurements
  window := 5
  windowFunction := "avg"
  thresholds := [⟨"medium", .gt, 200, .le, 180⟩]

/-- The evaluation with its errors dropped. -/
def matchedRung (profile : ThresholdProfile) (samples : List Sample) :
    Except RulePanic (Option (ℚ × ThresholdConfig)) :=
  match profile.evaluate samples with
  | .ok answer => .ok answer
  | .error (.error _) => .ok none
  | .error halt => .error (.profile halt)

/-- A window of samples, or the scalar as a window of its own. -/
def windowOr (samples : List Sample) (scalar : Option ℚ) : Option (List Sample) :=
  if samples = [] then scalar.map fun value => [(0, value)] else some samples

def highPacketLossRule : DiagnosisRule where
  name := "High Packet Loss Detector"
  check evidence :=
    match windowOr evidence.packetLossSamples evidence.packetLossPercent with
    | none => .ok none
    | some samples => do
      match ← matchedRung packetLossProfile samples with
      | none => return none
      | some (lossPercent, matched) =>
        let relatedTests := ["Packet Loss Test", "Path Analysis Test"]
        if matched.label = "high" then
          return some {
            issue := .packetLoss
            severity := .high
            description := "High packet loss detected (" ++ fixed 1 lossPercent ++
              "%). This will significantly impact application performance."
            recommendation := "Investigate packet loss:\n" ++
              "- Check physical cable connections\n" ++
              "- Test with different network interfaces\n" ++
              "- Check for network congestion\n" ++
              "- Run path analysis to identify problematic hop\n" ++
              "- Contact ISP if issue persists"
            relatedTests := relatedTests }
        else
          return some {
            issue := .packetLoss
            severity := .medium
            description := "Moderate packet loss detected (" ++ fixed 1 lossPercent ++
              "%). May affect real-time applications."
            recommendation := "Monitor packet loss:\n" ++
              "- Continue monitoring\n" ++
              "- May affect VoIP, video conferencing\n" ++
              "- Consider running path analysis"
            relatedTests := relatedTests }

def highLatencyRule : DiagnosisRule where
  name := "High Latency Detector"
  check evidence :=
    match windowOr evidence.rttSamples evidence.rttMs with
    | none => .ok none
    | some samples => do
      match ← matchedRung latencyProfile samples with
      | none => return none
      | some (rttMs, _) =>
        return some {
          issue := .highLatency
          severity := .medium
          description := "High latency detected (" ++ fixed 1 rttMs ++
            "ms). This may impact interactive applications."
          recommendation := "Reduce latency:\n" ++
            "- Check for network congestion\n" ++
            "- Use closer/faster DNS servers\n" ++
            "- Consider CDN for content delivery\n" ++
            "- Run path analysis to find slow hops\n" ++
            "- Current RTT: " ++ fixed 1 rttMs ++ "ms (good: <50ms, acceptable: <150ms)"
          relatedTests := ["RTT Test", "Path Analysis Test"] }

/-- The format `{:?}` of a list of sizes. -/
def sizesText (sizes : List Nat) : String := "[" ++ ", ".intercalate (sizes.map toString) ++ "]"

theorem not_mem_toString {c : Char} (other : isAsciiDigit c = false)
    (number : Nat) : c ∉ (toString number).toList := by
  change c ∉ number.repr.toList
  rw [Nat.toList_repr]
  exact not_mem_toDigits other number

theorem not_mem_sizesText {c : Char} (other : isAsciiDigit c = false)
    (apart : c ∉ ['[', ',', ' ', ']']) (sizes : List Nat) :
    c ∉ (sizesText sizes).toList := by
  simp only [List.mem_cons, List.not_mem_nil, or_false, not_or] at apart
  obtain ⟨opening, comma, blank, closing⟩ := apart
  have inside : c ∉ (", ".intercalate (sizes.map toString)).toList := by
    rw [String.toList_intercalate]
    refine not_mem_intercalate (not_mem_literal (by simp [comma, blank])) fun piece listed => ?_
    obtain ⟨_, shown, rfl⟩ := List.mem_map.mp listed
    obtain ⟨size, -, rfl⟩ := List.mem_map.mp shown
    exact not_mem_toString other size
  have before : c ∉ "[".toList := not_mem_literal (by simp [opening])
  have after : c ∉ "]".toList := not_mem_literal (by simp [closing])
  rw [sizesText, String.toList_append, String.toList_append, List.mem_append, List.mem_append]
  exact fun member => member.elim (fun front => front.elim before inside) after

/-- What one indicator adds to the score, with its findings. -/
def reducedMtuScore (evidence : DiagnosisEvidence) : List (Nat × String) :=
  match evidence.icmpMtu.or evidence.tcpMtu with
  | none => []
  | some mtu =>
    (if mtu < 1500 then [(2, "Observed path MTU appears reduced: ~" ++ toString mtu)] else []) ++
      if mtu < 1400 then [(2, "Path MTU low enough to strongly suspect tunnel overhead")] else []

def httpsScore (evidence : DiagnosisEvidence) : List (Nat × String) :=
  match evidence.httpsResult with
  | none => []
  | some https =>
    if https.tcpSuccess ∧
        (https.diagnosis = .tlsTimeout ∨ https.diagnosis = .httpResponseTimeout ∨
          https.diagnosis = .mtuBlackhole) then
      [(3, "TCP connect succeeded but TLS/HTTP path looked unhealthy")]
    else []

/-- The indicators in the order in which they are scored. -/
def scoredFindings (evidence : DiagnosisEvidence) : List (Nat × String) :=
  reducedMtuScore evidence ++ httpsScore evidence ++
    (if evidence.uploadFailSizes = [] then []
     else
       [(3, "HTTP POST upload showed trouble at sizes: " ++ sizesText evidence.uploadFailSizes)]) ++
    (if evidence.sshBannerOk = some true ∧ evidence.sshExecOk = some false then
       [(3, "SSH banner reachable but authenticated data-path test did not complete")]
     else []) ++
    (if evidence.printerFailSizes = [] then []
     else [(3, "Raw printer bulk stream showed failures at sizes: " ++
       sizesText evidence.printerFailSizes)]) ++
    if evidence.icmpFragNeededReceived = some true then
      [(2, "ICMP fragmentation-needed responses observed")] else []

def blackholeScore (evidence : DiagnosisEvidence) : Nat × List String :=
  let scored := scoredFindings evidence
  ((scored.map (·.1)).sum, scored.map (·.2))

def severityForScore (score : Nat) : Severity :=
  if 6 ≤ score then .critical else if 3 ≤ score then .high else .info

def blackholeScoreRule : DiagnosisRule where
  name := "Blackhole Score"
  check evidence :=
    let (score, findings) := blackholeScore evidence
    if findings = [] ∧ score = 0 then .ok none
    else
      let severity := severityForScore score
      let verdict :=
        match severity with
        | .critical => "high"
        | .high => "moderate"
        | _ => "low"
      .ok (some {
        issue := .blackholeScore
        severity := severity
        description := "Aggregated blackhole score " ++ toString score ++ " (" ++ verdict ++
          " likelihood). Findings:\n" ++
          String.join (findings.map fun finding => "- " ++ finding ++ "\n")
        recommendation := "Compare against MTU tests and upload sweep before changing MTU. " ++
          "For tunnels, clamp MSS conservatively (max(1200, MSS-20))."
        relatedTests := ["HTTPS Test", "Upload Size Sweep", "SSH Data-Path", "Raw 9100 Bulk Sweep",
          "ICMP MTU Discovery"] })

structure DiagnosisEngine where
  rules : List DiagnosisRule

namespace DiagnosisEngine

def new : DiagnosisEngine where
  rules := [mtuBlackholeRule, pathMtuMismatchRule, portBlockingRule, dnsIssuesRule,
    tcpSegmentationLimitRule, highPacketLossRule, highLatencyRule, blackholeScoreRule]

/-- The loop over the rules, with what it has found so far. -/
def collect (evidence : DiagnosisEvidence) (diagnoses : List Diagnosis) :
    List DiagnosisRule → Except RulePanic (List Diagnosis)
  | [] => .ok diagnoses
  | rule :: rest =>
    match rule.check evidence with
    | .error halt => .error halt
    | .ok (some diagnosis) => collect evidence (diagnoses ++ [diagnosis]) rest
    | .ok none => collect evidence diagnoses rest

/-- The comparison has its arguments exchanged, which reverses the order of the severities. -/
def diagnose (engine : DiagnosisEngine) (evidence : DiagnosisEvidence) :
    Except RulePanic (List Diagnosis) :=
  (collect evidence [] engine.rules).map
    (sortByKey fun diagnosis => OrderDual.toDual diagnosis.severity)

end DiagnosisEngine

end FragglePacket.Diagnostics
