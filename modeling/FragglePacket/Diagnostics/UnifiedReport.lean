import FragglePacket.Diagnostics.Rules
import FragglePacket.Lists.Readings
import FragglePacket.Text.Tokens

/-! The text report of a diagnosis, and the MTU and MSS advice in it. -/

namespace FragglePacket.Diagnostics

open FragglePacket.Lists FragglePacket.Text

/-- The format `{:?}` of a severity. -/
def Severity.debug : Severity → String
  | critical => "Critical"
  | high => "High"
  | medium => "Medium"
  | low => "Low"
  | info => "Info"

/-- The format `{:?}` of an issue. -/
def DiagnosisIssue.debug : DiagnosisIssue → String
  | mtuBlackhole => "MtuBlackhole"
  | tcpSegmentationLimit => "TcpSegmentationLimit"
  | dnsFailure => "DnsFailure"
  | portBlocking => "PortBlocking"
  | highLatency => "HighLatency"
  | packetLoss => "PacketLoss"
  | pathMtuMismatch => "PathMtuMismatch"
  | blackholeScore => "BlackholeScore"

def scoreVerdict (score : Nat) : String :=
  if 6 ≤ score then "LIKELY_MTU_OR_MSS_BLACKHOLE=high"
  else if 3 ≤ score then "LIKELY_MTU_OR_MSS_BLACKHOLE=moderate"
  else "LIKELY_MTU_OR_MSS_BLACKHOLE=low"

def baseMssKey : Str := "SUGGESTED_BASE_MSS_IPV4=".toList

def clampKey : Str := "SUGGESTED_CONSERVATIVE_CLAMP=".toList

/-- `saturating_sub` is the subtraction of `Nat`. -/
def baseMss (mtu : Nat) : Nat := mtu - 40

def conservativeClamp (mss : Nat) : Nat := max (mss - 20) 1200

/-- The line of a ranked diagnosis, with the first line of its description. -/
def rankedLine (d : Diagnosis) : Str :=
  "- [".toList ++ d.severity.debug.toList ++ "] ".toList ++ d.issue.debug.toList ++ ": ".toList ++
    (lines d.description.toList).head?.getD []

/-- A line with its newline. -/
def ended (line : Str) : Str := line ++ ['\n']

def renderUnifiedReport (diagnoses : List Diagnosis) (evidence : DiagnosisEvidence) : Str :=
  let (score, findings) := blackholeScore evidence
  ended "=== Findings ===".toList ++
    (if findings = [] then ended "- No strong blackhole indicators found from these probes".toList
     else findings.flatMap fun f => ended ("- ".toList ++ f.toList)) ++
    ended [] ++ ended "=== Interpretation ===".toList ++ ended (scoreVerdict score).toList ++
    (match evidence.icmpMtu.or evidence.tcpMtu with
     | none => []
     | some mtu =>
       let mssV4 := baseMss mtu
       ended (baseMssKey ++ Nat.toDigits 10 mssV4) ++
         ended (clampKey ++ Nat.toDigits 10 (conservativeClamp mssV4))) ++
    (if diagnoses = [] then []
     else ended [] ++ ended "=== Ranked Diagnoses ===".toList ++ diagnoses.flatMap fun d =>
       ended (rankedLine d)) ++
    ended [] ++ ended "=== Notes ===".toList ++
      ended "- This score is heuristic, not proof.".toList ++
    ended "- Strongest evidence: small/control traffic works but larger transfers stall.".toList ++
    ended "- If a VPN is involved, clamp slightly below the theoretical max.".toList

section Lines

/-- The lines of the advice. -/
def adviceLines (evidence : DiagnosisEvidence) : List Str :=
  match evidence.icmpMtu.or evidence.tcpMtu with
  | none => []
  | some mtu =>
    [baseMssKey ++ Nat.toDigits 10 (baseMss mtu),
      clampKey ++ Nat.toDigits 10 (conservativeClamp (baseMss mtu))]

def findingLines (findings : List String) : List Str :=
  if findings = [] then ["- No strong blackhole indicators found from these probes".toList]
  else findings.map fun f => "- ".toList ++ f.toList

def rankedLines (diagnoses : List Diagnosis) : List Str :=
  if diagnoses = [] then [] else [] :: "=== Ranked Diagnoses ===".toList :: diagnoses.map rankedLine

def noteLines : List Str :=
  [[], "=== Notes ===".toList, "- This score is heuristic, not proof.".toList,
    "- Strongest evidence: small/control traffic works but larger transfers stall.".toList,
    "- If a VPN is involved, clamp slightly below the theoretical max.".toList]

def reportLines (diagnoses : List Diagnosis) (evidence : DiagnosisEvidence) : List Str :=
  "=== Findings ===".toList :: findingLines (blackholeScore evidence).2 ++
    [[], "=== Interpretation ===".toList, (scoreVerdict (blackholeScore evidence).1).toList] ++
    adviceLines evidence ++ rankedLines diagnoses ++ noteLines

theorem renderUnifiedReport_eq (diagnoses : List Diagnosis) (evidence : DiagnosisEvidence) :
    renderUnifiedReport diagnoses evidence = (reportLines diagnoses evidence).flatMap ended := by
  have findings (found : List String) :
      (if found = [] then ended "- No strong blackhole indicators found from these probes".toList
        else found.flatMap fun f => ended ("- ".toList ++ f.toList)) =
          (findingLines found).flatMap ended := by
    unfold findingLines
    split
    · exact (List.append_nil _).symm
    · rw [List.flatMap_map]
  have advice : (match evidence.icmpMtu.or evidence.tcpMtu with
      | none => []
      | some mtu => ended (baseMssKey ++ Nat.toDigits 10 (baseMss mtu)) ++
          ended (clampKey ++ Nat.toDigits 10 (conservativeClamp (baseMss mtu)))) =
            (adviceLines evidence).flatMap ended := by
    unfold adviceLines
    cases evidence.icmpMtu.or evidence.tcpMtu with
    | none => rfl
    | some mtu => simp only [List.flatMap_cons, List.flatMap_nil, List.append_nil]
  have ranked : (if diagnoses = [] then []
      else ended [] ++ (ended "=== Ranked Diagnoses ===".toList ++ diagnoses.flatMap fun d =>
        ended (rankedLine d))) =
      (rankedLines diagnoses).flatMap ended := by
    unfold rankedLines
    split
    · rfl
    · rw [List.flatMap_cons, List.flatMap_cons, List.flatMap_map]
  simp only [renderUnifiedReport, reportLines, noteLines, findings, advice, ranked,
    List.flatMap_append, List.flatMap_cons, List.flatMap_nil, List.append_nil, List.append_assoc]

theorem newline_not_mem_labelled {label value : String} (plain : '\n' ∉ label.toList)
    (single : '\n' ∉ value.toList) :
    '\n' ∉ (label ++ value).toList := by
  rw [String.toList_append, List.mem_append]
  exact fun member => member.elim plain single

theorem newline_not_mem_scored (evidence : DiagnosisEvidence) :
    ∀ scored ∈ scoredFindings evidence, '\n' ∉ scored.2.toList := by
  have optional {condition : Prop} [Decidable condition] {points : Nat} {finding : String}
      (single : '\n' ∉ finding.toList) :
      ∀ scored ∈ (if condition then [(points, finding)] else []), '\n' ∉ scored.2.toList :=
    forall_mem_entry_iff.mpr fun _ => single
  have failing {sizes : List Nat} {points : Nat} {finding : String}
      (single : '\n' ∉ finding.toList) :
      ∀ scored ∈ (if sizes = [] then [] else [(points, finding)]), '\n' ∉ scored.2.toList := by
    split
    · exact fun scored listed => absurd listed List.not_mem_nil
    · exact fun scored listed => List.mem_singleton.mp listed ▸ single
  have reduced : ∀ scored ∈ reducedMtuScore evidence, '\n' ∉ scored.2.toList := by
    unfold reducedMtuScore
    split
    · exact fun scored listed => absurd listed List.not_mem_nil
    · next mtu _ =>
      rw [List.forall_mem_append]
      exact ⟨optional (newline_not_mem_labelled (not_mem_literal (by decide))
        (not_mem_toString rfl mtu)),
        optional (not_mem_literal (by decide))⟩
  have https : ∀ scored ∈ httpsScore evidence, '\n' ∉ scored.2.toList := by
    unfold httpsScore
    split
    · exact fun scored listed => absurd listed List.not_mem_nil
    · exact optional (not_mem_literal (by decide))
  have listed (sizes : List Nat) : '\n' ∉ (sizesText sizes).toList :=
    not_mem_sizesText rfl (by decide) sizes
  simp only [scoredFindings, List.forall_mem_append]
  exact ⟨⟨⟨⟨⟨reduced, https⟩, failing
    (newline_not_mem_labelled (not_mem_literal (by decide)) (listed _))⟩,
    optional (not_mem_literal (by decide))⟩,
    failing (newline_not_mem_labelled (not_mem_literal (by decide)) (listed _))⟩,
    optional (not_mem_literal (by decide))⟩

theorem newline_not_mem_finding {evidence : DiagnosisEvidence} {finding : String}
    (found : finding ∈ (blackholeScore evidence).2) : '\n' ∉ finding.toList := by
  obtain ⟨scored, listed, rfl⟩ := List.mem_map.mp found
  exact newline_not_mem_scored evidence scored listed

theorem newline_not_mem_rankedLine (d : Diagnosis) : '\n' ∉ rankedLine d := by
  have severity : '\n' ∉ d.severity.debug.toList := by
    cases d.severity <;> exact not_mem_literal (by decide)
  have issue : '\n' ∉ d.issue.debug.toList := by cases d.issue <;> exact not_mem_literal (by decide)
  have described : '\n' ∉ (lines d.description.toList).head?.getD [] := by
    cases first : (lines d.description.toList).head? with
    | none => exact List.not_mem_nil
    | some line => exact newline_not_mem_line (List.mem_of_head? first)
  refine List.not_mem_append (List.not_mem_append
    (List.not_mem_append (List.not_mem_append (List.not_mem_append ?_ severity)
    ?_) issue) ?_) described
  · exact not_mem_literal (by decide)
  · exact not_mem_literal (by decide)
  · exact not_mem_literal (by decide)

theorem newline_not_mem_reportLines (diagnoses : List Diagnosis) (evidence : DiagnosisEvidence) :
    ∀ line ∈ reportLines diagnoses evidence, '\n' ∉ line := by
  have found : ∀ line ∈ findingLines (blackholeScore evidence).2, '\n' ∉ line := by
    unfold findingLines
    split
    · exact List.forall_mem_singleton.mpr (not_mem_literal (by decide))
    · intro line listed
      obtain ⟨finding, inFindings, rfl⟩ := List.mem_map.mp listed
      exact List.not_mem_append (not_mem_literal (by decide)) (newline_not_mem_finding inFindings)
  have verdict (score : Nat) : '\n' ∉ (scoreVerdict score).toList := by
    unfold scoreVerdict
    split
    · exact not_mem_literal (by decide)
    · split <;> exact not_mem_literal (by decide)
  have advice : ∀ line ∈ adviceLines evidence, '\n' ∉ line := by
    unfold adviceLines
    split
    · exact fun line listed => absurd listed List.not_mem_nil
    · have number (value : Nat) : '\n' ∉ Nat.toDigits 10 value := not_mem_toDigits (by decide) value
      rw [List.forall_mem_cons, List.forall_mem_singleton]
      exact ⟨List.not_mem_append (not_mem_literal (by decide)) (number _),
        List.not_mem_append (not_mem_literal (by decide)) (number _)⟩
  have ranked : ∀ line ∈ rankedLines diagnoses, '\n' ∉ line := by
    unfold rankedLines
    split
    · exact fun line listed => absurd listed List.not_mem_nil
    · rw [List.forall_mem_cons, List.forall_mem_cons]
      refine ⟨List.not_mem_nil, not_mem_literal (by decide), fun line listed => ?_⟩
      obtain ⟨d, -, rfl⟩ := List.mem_map.mp listed
      exact newline_not_mem_rankedLine d
  have notes : ∀ line ∈ noteLines, '\n' ∉ line := by
    simp only [noteLines, List.forall_mem_cons, -String.reduceToList]
    exact ⟨List.not_mem_nil, not_mem_literal (by decide), not_mem_literal (by decide),
      not_mem_literal (by decide), not_mem_literal (by decide), fun line listed =>
        absurd listed List.not_mem_nil⟩
  simp only [reportLines, List.forall_mem_append, List.forall_mem_cons, -String.reduceToList]
  exact ⟨⟨⟨⟨⟨not_mem_literal (by decide), found⟩, List.not_mem_nil, not_mem_literal (by decide),
    verdict _, fun line listed => absurd listed List.not_mem_nil⟩, advice⟩, ranked⟩, notes⟩

end Lines

section Printed
variable {diagnoses : List Diagnosis} {evidence : DiagnosisEvidence}

/-- What stands behind the key in a line. -/
def readAfter (key line : Str) : Option Str :=
  if key.isPrefixOf line then some (line.drop key.length) else none

/-- What the lines that begin with the key print behind it. -/
def printedAfter (key text : Str) : List Str := (lines text).filterMap (readAfter key)

theorem readAfter_other {key line : Str} {first : Char} {rest : Str} (begins : key = first :: rest)
    (other : line.head? ≠ some first) : readAfter key (stripCarriageReturn line) = none := by
  refine if_neg fun found => other ?_
  have inLine := (List.isPrefixOf_iff_prefix.mp found).trans (stripCarriageReturn_begins line)
  obtain ⟨back, rfl⟩ := begins ▸ inLine
  rfl

/-- No other line of the report begins as the advice does. -/
theorem reportLines_advice (diagnoses : List Diagnosis) (evidence : DiagnosisEvidence) :
    ∃ before after, reportLines diagnoses evidence = before ++ (adviceLines evidence ++ after) ∧
      ∀ line ∈ before ++ after, line.head? ≠ some 'S' := by
  refine ⟨"=== Findings ===".toList :: findingLines (blackholeScore evidence).2 ++
    [[], "=== Interpretation ===".toList, (scoreVerdict (blackholeScore evidence).1).toList],
      rankedLines diagnoses ++ noteLines,
    ?_, ?_⟩
  · simp only [reportLines, List.append_assoc]
  · have found : ∀ line ∈ findingLines (blackholeScore evidence).2, line.head? ≠ some 'S' := by
      unfold findingLines
      split
      · exact List.forall_mem_singleton.mpr (head?_literal (by decide))
      · intro line listed
        obtain ⟨finding, -, rfl⟩ := List.mem_map.mp listed
        exact fun same => absurd (Option.some.inj same) (by decide)
    have verdict (score : Nat) : (scoreVerdict score).toList.head? ≠ some 'S' := by
      unfold scoreVerdict
      split
      · exact head?_literal (by decide)
      · split <;> exact head?_literal (by decide)
    have ranked : ∀ line ∈ rankedLines diagnoses, line.head? ≠ some 'S' := by
      unfold rankedLines
      split
      · exact fun line listed => absurd listed List.not_mem_nil
      · rw [List.forall_mem_cons, List.forall_mem_cons]
        refine ⟨(Option.some_ne_none _).symm, head?_literal (by decide), fun line listed => ?_⟩
        obtain ⟨d, -, rfl⟩ := List.mem_map.mp listed
        exact fun same => absurd (Option.some.inj same) (by decide)
    have notes : ∀ line ∈ noteLines, line.head? ≠ some 'S' := by
      simp only [noteLines, List.forall_mem_cons, -String.reduceToList]
      exact ⟨(Option.some_ne_none _).symm, head?_literal (by decide), head?_literal (by decide),
        head?_literal (by decide), head?_literal (by decide), fun line listed =>
          absurd listed List.not_mem_nil⟩
    simp only [List.forall_mem_append, List.forall_mem_cons, -String.reduceToList]
    exact ⟨⟨⟨head?_literal (by decide), found⟩, (Option.some_ne_none _).symm,
      head?_literal (by decide), verdict _, fun line listed => absurd listed List.not_mem_nil⟩,
      ranked, notes⟩

theorem stripCarriageReturn_number {key : Str} (plain : '\r' ∉ key) (number : Nat) :
    stripCarriageReturn (key ++ Nat.toDigits 10 number) = key ++ Nat.toDigits 10 number :=
  stripCarriageReturn_eq_self (List.not_mem_append plain (not_mem_toDigits (by decide) number))

/-- A key of the advice is read from its lines alone. -/
theorem printedAfter_report {key : Str} (rest : Str) (begins : key = 'S' :: rest) :
    printedAfter key (renderUnifiedReport diagnoses evidence) =
      (adviceLines evidence).filterMap (readAfter key) := by
  obtain ⟨before, after, laid, others⟩ := reportLines_advice diagnoses evidence
  have unread (part : List Str) (inPart : ∀ line ∈ part, line.head? ≠ some 'S') :
      (part.map stripCarriageReturn).filterMap (readAfter key) = [] := by
    rw [List.filterMap_map, List.filterMap_eq_nil_iff]
    exact fun line listed => readAfter_other begins (inPart line listed)
  have kept : (adviceLines evidence).map stripCarriageReturn = adviceLines evidence := by
    unfold adviceLines
    split
    · rfl
    · have plain : '\r' ∉ baseMssKey ∧ '\r' ∉ clampKey :=
        ⟨not_mem_literal (by decide), not_mem_literal (by decide)⟩
      rw [List.map_cons, List.map_cons, List.map_nil, stripCarriageReturn_number plain.1,
        stripCarriageReturn_number plain.2]
  have text : lines (renderUnifiedReport diagnoses evidence) =
      (reportLines diagnoses evidence).map stripCarriageReturn := by
    rw [renderUnifiedReport_eq]
    exact lines_unlines (newline_not_mem_reportLines diagnoses evidence)
  rw [printedAfter, text, laid, List.map_append, List.map_append, List.filterMap_append,
    List.filterMap_append, kept, unread before fun line listed =>
      others line (List.mem_append_left after listed),
    unread after fun line listed => others line (List.mem_append_right before listed),
      List.nil_append, List.append_nil]

theorem readAfter_key (key number : Str) : readAfter key (key ++ number) = some number := by
  rw [readAfter, if_pos (List.isPrefixOf_iff_prefix.mpr (List.prefix_append key number)),
    List.drop_left]

/-- What a key of the advice is followed by, once its two lines are read. -/
theorem printed_advice {key : Str} (rest : Str) (begins : key = 'S' :: rest) {number : Nat → Nat}
    (read : ∀ mtu, ([baseMssKey ++ Nat.toDigits 10 (baseMss mtu),
      clampKey ++ Nat.toDigits 10 (conservativeClamp (baseMss mtu))]).filterMap (readAfter key) =
        [Nat.toDigits 10 (number mtu)]) :
    printedAfter key (renderUnifiedReport diagnoses evidence) =
      ((evidence.icmpMtu.or evidence.tcpMtu).map fun mtu => Nat.toDigits 10
        (number mtu)).toList := by
  rw [printedAfter_report rest begins, adviceLines]
  cases evidence.icmpMtu.or evidence.tcpMtu with
  | none => rfl
  | some mtu => exact read mtu

theorem printed_baseMss :
    printedAfter baseMssKey (renderUnifiedReport diagnoses evidence) =
      ((evidence.icmpMtu.or evidence.tcpMtu).map fun mtu => Nat.toDigits 10
        (baseMss mtu)).toList := by
  refine printed_advice "UGGESTED_BASE_MSS_IPV4=".toList (by rfl) fun mtu => ?_
  have other (number : Str) : readAfter baseMssKey (clampKey ++ number) = none := by rfl
  simp only [List.filterMap_cons, readAfter_key, other, List.filterMap_nil]

theorem printed_clamp :
    printedAfter clampKey (renderUnifiedReport diagnoses evidence) =
      ((evidence.icmpMtu.or evidence.tcpMtu).map fun mtu => Nat.toDigits 10
        (conservativeClamp (baseMss mtu))).toList := by
  refine printed_advice "UGGESTED_CONSERVATIVE_CLAMP=".toList (by rfl) fun mtu => ?_
  have other (number : Str) : readAfter clampKey (baseMssKey ++ number) = none := by rfl
  simp only [List.filterMap_cons, readAfter_key, other, List.filterMap_nil]

end Printed

section Advice

/-- The advice of the MTU blackhole rule. -/
def lowerMtuText (suggested : Nat) : String :=
  let suggested := toString suggested
  "Lower interface MTU to " ++ suggested ++ " bytes:\n" ++
    "Linux: sudo ip link set dev eth0 mtu " ++ suggested ++ "\n" ++
    "Windows: netsh interface ipv4 set subinterface \"Ethernet\" mtu=" ++ suggested ++
      " store=persistent\n" ++
    "macOS: sudo ifconfig en0 mtu " ++ suggested

/-- The smallest MTU that was measured. -/
def smallestMtu (evidence : DiagnosisEvidence) : Option Nat :=
  match evidence.icmpMtu, evidence.tcpMtu with
  | some icmpMtu, some tcpMtu => some (min icmpMtu tcpMtu)
  | icmpMtu, tcpMtu => icmpMtu.or tcpMtu

/-- The rule and the report advise nothing above the smallest measured MTU. -/
def AdviceFits (diagnoses : List Diagnosis) (evidence : DiagnosisEvidence) : Prop :=
  (∃ outcome, mtuBlackholeRule.check evidence = .ok outcome ∧
    ∀ d ∈ outcome, ∀ smallest ∈ smallestMtu evidence,
    ∃ suggested ≤ smallest, d.recommendation = lowerMtuText suggested) ∧
  ∀ smallest ∈ smallestMtu evidence, 68 ≤ smallest →
    ∀ base ∈ printedAfter baseMssKey (renderUnifiedReport diagnoses evidence),
    ∀ clamp ∈ printedAfter clampKey (renderUnifiedReport diagnoses evidence),
      digitsValue 10 clamp ≤ digitsValue 10 base ∧ digitsValue 10 base ≤ smallest - 40

/-- A server whose TLS times out, and a TCP reading below the rule's margin. -/
def exampleTimeout : DiagnosisEvidence where
  httpsResult := some ⟨"example.test", true, .tlsTimeout⟩
  interfaceMtu := some 1500
  tcpMtu := some 50

/-- Behind a narrow path the floor of the clamp is above the base; the base of an ICMP reading is
above what a smaller TCP reading allows; and the rule does not evaluate on a TCP MTU of 50. -/
theorem narrow_path_clamp_above_base :
    ¬ AdviceFits [] { icmpMtu := some 1000 } ∧
      ¬ AdviceFits [] { icmpMtu := some 1500, tcpMtu := some 1300 } ∧
      ¬ AdviceFits [] exampleTimeout := by
  refine ⟨?_, ?_, ?_⟩
  · rintro ⟨-, fits⟩
    have base : Nat.toDigits 10 960 ∈
        printedAfter baseMssKey (renderUnifiedReport [] { icmpMtu := some 1000 }) := by
      rw [printed_baseMss]
      exact List.mem_singleton.mpr rfl
    have clamp : Nat.toDigits 10 1200 ∈
        printedAfter clampKey (renderUnifiedReport [] { icmpMtu := some 1000 }) := by
      rw [printed_clamp]
      exact List.mem_singleton.mpr rfl
    have below := (fits 1000 rfl (by decide) _ base _ clamp).1
    rw [digitsValue_toDigits, digitsValue_toDigits] at below
    omega
  · rintro ⟨-, fits⟩
    have base : Nat.toDigits 10 1460 ∈
        printedAfter baseMssKey (renderUnifiedReport []
          { icmpMtu := some 1500, tcpMtu := some 1300 }) := by
      rw [printed_baseMss]
      exact List.mem_singleton.mpr rfl
    have clamp : Nat.toDigits 10 1440 ∈
        printedAfter clampKey (renderUnifiedReport []
          { icmpMtu := some 1500, tcpMtu := some 1300 }) := by
      rw [printed_clamp]
      exact List.mem_singleton.mpr rfl
    have within := (fits 1300 rfl (by decide) _ base _ clamp).2
    rw [digitsValue_toDigits] at within
    omega
  · rintro ⟨⟨outcome, evaluated, -⟩, -⟩
    cases evaluated

variable {diagnoses : List Diagnosis} {evidence : DiagnosisEvidence}

theorem check_of_suggested {suggested : Nat} (found : suggestedMtu evidence = .ok suggested) :
    ∃ outcome, mtuBlackholeRule.check evidence = .ok outcome ∧
      ∀ d ∈ outcome, d.recommendation = lowerMtuText suggested ∧
        ∃ interfaceMtu ∈ evidence.interfaceMtu, 1500 ≤ interfaceMtu := by
  cases present : evidence.httpsResult with
  | none =>
    exact ⟨none, by simp only [mtuBlackholeRule, present],
      fun d given => absurd given (Option.not_mem_none d)⟩
  | some https =>
    by_cases signature : https.tcpSuccess ∧ https.diagnosis = .tlsTimeout ∧
      1500 ≤ evidence.interfaceMtu.getD 0
    · refine ⟨_, by simp only [mtuBlackholeRule, present, if_pos signature, found]; rfl,
        fun d given => ?_⟩
      obtain rfl := Option.some.inj given
      refine ⟨rfl, ?_⟩
      cases measured : evidence.interfaceMtu with
      | none =>
        rw [measured] at signature
        exact absurd signature.2.2 (by decide)
      | some interfaceMtu =>
        rw [measured] at signature
        exact ⟨interfaceMtu, rfl, signature.2.2⟩
    · exact ⟨none, by simp only [mtuBlackholeRule, present, if_neg signature],
        fun d given => absurd given (Option.not_mem_none d)⟩

theorem smallestMtu_le {reading smallest : Nat}
    (read : evidence.icmpMtu.or evidence.tcpMtu = some reading)
    (least : smallestMtu evidence = some smallest) : smallest ≤ reading := by
  unfold smallestMtu at least
  cases icmp : evidence.icmpMtu with
  | none =>
    rw [icmp, Option.none_or] at read
    rw [icmp, read] at least
    exact (Option.some.inj least).ge
  | some icmpMtu =>
    rw [icmp, Option.some_or] at read
    obtain rfl := Option.some.inj read
    cases tcp : evidence.tcpMtu with
    | none =>
      rw [icmp, tcp] at least
      exact (Option.some.inj least).ge
    | some tcpMtu =>
      rw [icmp, tcp] at least
      exact (Option.some.inj least) ▸ min_le_left icmpMtu tcpMtu

/-- What the rule suggests of a reading with room for its margin, and what the report prints
of the reading it prefers. -/
theorem advice_of_readings (diagnoses : List Diagnosis) (evidence : DiagnosisEvidence) :
    (∀ reading ∈ evidence.tcpMtu.or evidence.icmpMtu, 100 ≤ reading →
      ∃ outcome, mtuBlackholeRule.check evidence = .ok outcome ∧
        ∀ d ∈ outcome, ∃ suggested ≤ reading, d.recommendation = lowerMtuText suggested) ∧
    (evidence.tcpMtu.or evidence.icmpMtu = none →
      ∃ outcome, mtuBlackholeRule.check evidence = .ok outcome ∧
        ∀ d ∈ outcome, ∃ interfaceMtu ∈ evidence.interfaceMtu, ∃ suggested < interfaceMtu,
          d.recommendation = lowerMtuText suggested) ∧
    ∀ base ∈ printedAfter baseMssKey (renderUnifiedReport diagnoses evidence),
    ∀ clamp ∈ printedAfter clampKey (renderUnifiedReport diagnoses evidence),
      ∃ reading ∈ evidence.icmpMtu.or evidence.tcpMtu, digitsValue 10 base = reading - 40 ∧
        digitsValue 10 clamp = max (digitsValue 10 base - 20) 1200 ∧
        (digitsValue 10 clamp ≤ digitsValue 10 base ↔ 1240 ≤ reading) ∧
        ∀ smallest ∈ smallestMtu evidence, 68 ≤ smallest →
          (digitsValue 10 base ≤ smallest - 40 ↔ reading = smallest) := by
  refine ⟨fun reading read room => ?_, fun unread => ?_, fun base printed clamp also => ?_⟩
  · have found : suggestedMtu evidence = .ok (reading - 100) := by
      simp only [suggestedMtu, Option.mem_def.mp read, safetyMargin, if_pos room]
    obtain ⟨outcome, checked, advised⟩ := check_of_suggested found
    exact ⟨outcome, checked, fun d given =>
      ⟨reading - 100, Nat.sub_le reading 100, (advised d given).1⟩⟩
  · have found : suggestedMtu evidence = .ok 1400 := by rw [suggestedMtu, unread]
    obtain ⟨outcome, checked, advised⟩ := check_of_suggested found
    refine ⟨outcome, checked, fun d given => ?_⟩
    obtain ⟨text, interfaceMtu, present, wide⟩ := advised d given
    exact ⟨interfaceMtu, present, 1400, by omega, text⟩
  · rw [printed_baseMss, Option.mem_toList, Option.map_eq_some_iff] at printed
    rw [printed_clamp, Option.mem_toList, Option.map_eq_some_iff] at also
    obtain ⟨reading, read, rfl⟩ := printed
    obtain ⟨same, readAgain, rfl⟩ := also
    obtain rfl : same = reading := Option.some.inj (readAgain.symm.trans read)
    refine ⟨same, read, ?_⟩
    rw [digitsValue_toDigits, digitsValue_toDigits, baseMss, conservativeClamp]
    refine ⟨rfl, rfl, by omega, fun smallest least wide => ?_⟩
    have below := smallestMtu_le read least
    omega

end Advice

end FragglePacket.Diagnostics
