import FragglePacket.Net.IpAddr
import FragglePacket.NetworkTests.TcpSegmentation
import FragglePacket.Text.Str

/-! The segment size of a tunnel as a socket tells it, and what is advised for it. -/

namespace FragglePacket.NetworkTests

open FragglePacket.Framework FragglePacket.Net FragglePacket.Text

/-- What the network does with a target, and what the socket of a
connection says of its segments. -/
structure TunnelHost where
  resolve : String → Except String (List SocketAddr)
  connect : SocketAddr → (timeoutSecs : Nat) → Except String Unit
  getTcpMaxseg : Option Int32

structure TunnelMssClampingTest where
  timeoutSecs : Nat
  port : Nat

def TunnelMssClampingTest.new : TunnelMssClampingTest where
  timeoutSecs := 5
  port := 443

def TunnelMssClampingTest.withPort (test : TunnelMssClampingTest)
    (port : Nat) : TunnelMssClampingTest :=
  { test with port }

/-- Common tunnel MTUs. -/
def tunnelSignatures : List (Nat × String) :=
  [(1440, "WireGuard"), (1430, "OpenVPN UDP"), (1420, "Generic VPN tunnel"), (1410, "OpenVPN TCP"),
    (1400, "Conservative tunnel / double NAT"), (1380, "Double encapsulation (VPN over VPN)"),
    (1360, "Triple encapsulation"), (1280, "IPv6 minimum / heavily encapsulated")]

def identifyTunnelType (effectiveMtu : Nat) : Option String :=
  (tunnelSignatures.find? fun signature => signature.1 - 10 ≤ effectiveMtu &&
    effectiveMtu ≤ signature.1 + 10).map (·.2)

/-- `as u16` of the option, or the standard size. -/
def readTcpMaxseg (query : Option Int32) : Nat :=
  match query with
  | some mss => if 0 < mss.toInt then mss.toInt.toNat % 2 ^ 16 else 1460
  | none => 1460

/-- An addition in 16 bits, which panics in a debug build and wraps in a release
build where it does not fit. -/
def u16Add (first second : Nat) : Except MtuHalt Nat :=
  if first + second < 2 ^ 16 then .ok (first + second) else .error .overflow

def vpnConservative (actualMss : Nat) : Nat := max (actualMss - 20) 1200

def clampCommand (mss : Nat) : String :=
  "Apply MSS clamping: iptables -A FORWARD -p tcp --tcp-flags SYN,RST SYN -j TCPMSS --set-mss " ++
    toString mss

def pmtuCommand : String :=
  "Or use PMTU clamping: iptables -A FORWARD -p tcp --tcp-flags SYN,RST SYN -j TCPMSS --clamp-mss-to-pmtu"

def requiredClamp (mss : Nat) : String :=
  "REQUIRED: Apply MSS clamping to " ++ toString mss ++ " bytes immediately"

def safeMss (mss : Nat) : String := "Safe MSS for this path: " ++ toString mss ++ " bytes"

def minorReduction (effectiveMtu overhead : Nat) : Diagnosis :=
  (Diagnosis.new .info "Minor MTU Reduction Detected"
    ("Effective MTU " ++ toString effectiveMtu ++ " (overhead: " ++ toString overhead ++
      " bytes). Likely single tunnel or minor encapsulation.")).withRecommendation
    "Current setup should work for most traffic - clamping optional"

def significantOverhead (actualMss effectiveMtu overhead : Nat) : Diagnosis :=
  ((((Diagnosis.new .warning "Significant Tunnel Overhead Detected"
    ("Effective MTU " ++ toString effectiveMtu ++ " indicates " ++ toString overhead ++
      " bytes overhead. " ++ (identifyTunnelType effectiveMtu).getD
        "Multiple encapsulation layers likely")).withRecommendation
    (clampCommand actualMss)).withRecommendation pmtuCommand).withRecommendation
    "Check for VPN-over-VPN or tunneled AP configurations").withRelatedTest
      "TCP Segmentation Detection"

def severeRestriction (actualMss effectiveMtu overhead : Nat) : Diagnosis :=
  ((((Diagnosis.new .critical "Severe MTU Restriction"
    ("Effective MTU " ++ toString effectiveMtu ++ " is critically low (" ++ toString overhead ++
      " bytes overhead). Heavy encapsulation detected.")).withRecommendation
    (requiredClamp actualMss)).withRecommendation
    "Investigate tunnel stack - likely multiple VPN layers").withRecommendation
    "For conference/event networks: ensure AP tunnels account for student VPN overhead").withRelatedTest
    "HTTPS Stage-by-Stage"

def conferencePattern (actualMss : Nat) : Diagnosis :=
  (((Diagnosis.new .warning "Conference Network Pattern"
    "High overhead pattern matches tunneled AP + VPN scenario common at conferences.").withRecommendation
    "Pre-configure MSS clamping on tunnel endpoints").withRecommendation
    "Consider reducing tunnel overhead or using more efficient encapsulation").withRecommendation
    (safeMss (actualMss - 20))

/-- The metrics of a size and what they are called. -/
def measured (actualMss port effectiveMtu : Nat) (result : TestResult) : TestResult :=
  let overhead := 1500 - effectiveMtu
  let result :=
    ((result.addMetric "tcp_mss" actualMss).addMetadata "port" (toString port)).addMetric
      "effective_mtu" effectiveMtu
  let result :=
    (result.addMetric "detected_overhead" overhead).addMetric "recommended_mss_vpn_conservative"
      (vpnConservative actualMss)
  let result :=
    result.addMetadata "recommended_mss_vpn_conservative" (toString (vpnConservative actualMss))
  match identifyTunnelType effectiveMtu with
  | some tunnel => result.addMetadata "tunnel_detected" tunnel
  | none => result

def noClamping : String := "Standard MTU, no clamping required"

/-- Whether clamping is needed. -/
def judgeClamping (actualMss effectiveMtu overhead : Nat) (result : TestResult) : TestResult :=
  if 1480 ≤ effectiveMtu then
    (((result.setStatus .success).addMetadata "clamping_needed" "false").addMetadata
      "verdict" noClamping).addMetadata
      "effective_mtu_status" "normal"
  else if 1400 ≤ effectiveMtu then
    (((result.setStatus .success).addMetadata "clamping_needed" "optional").addMetadata
      "effective_mtu_status"
      "slightly_reduced").addDiagnosis (minorReduction effectiveMtu overhead)
  else if 1280 ≤ effectiveMtu then
    ((result.setStatus .warning).addMetadata "clamping_needed" "true").addDiagnosis
      (significantOverhead actualMss effectiveMtu overhead)
  else
    ((result.setStatus .warning).addMetadata "clamping_needed" "critical").addDiagnosis
      (severeRestriction actualMss effectiveMtu overhead)

/-- What is reported of the size that the socket tells. -/
def advise (actualMss port : Nat) (result : TestResult) : Except MtuHalt TestResult := do
  let effectiveMtu ← u16Add actualMss 40
  let overhead := 1500 - effectiveMtu
  let result :=
    judgeClamping actualMss effectiveMtu overhead (measured actualMss port effectiveMtu result)
  return if 100 ≤ overhead then result.addDiagnosis (conferencePattern actualMss) else result

/-- The result before a connection is made, with the commands that do the same by hand. -/
def TunnelMssClampingTest.started (target : String) : TestResult :=
  (((TestResult.new "Tunnel MSS Clamping Analysis" .mtu target).addMetadata "cli_command"
    ("ss -ti dst " ++ target ++ " | grep -i mss")).addMetadata "cli_tcpdump"
    ("tcpdump -i any -c 5 'tcp[13] == 18' and host " ++ target ++
      " 2>/dev/null | grep -oE 'mss [0-9]+'")).addMetadata
    "cli_note" "Reads TCP_MAXSEG socket option from established connection"

def TunnelMssClampingTest.run (test : TunnelMssClampingTest) (host : TunnelHost) (target : String) :
    Except MtuHalt TestResult := do
  let result := started target
  let addrs ← (host.resolve (addrStr target test.port)).mapError .error
  match addrs with
  | [] => throw (.error "No address resolved")
  | addr :: _ =>
    match host.connect addr test.timeoutSecs with
    | .error e => return (result.setStatus .failed).addMetadata "error" ("Connection failed: " ++ e)
    | .ok _ => advise (readTcpMaxseg host.getTcpMaxseg) test.port result


/-- The segment size that the socket tells, where the query succeeds and the size is positive. -/
def readMss (query : Option Int32) : Option Nat :=
  query.bind fun mss => if 0 < mss.toInt then some mss.toInt.toNat else none

/-- The size read, or the standard one where none was. -/
def usedMss (query : Option Int32) : Nat := (readMss query).getD 1460

theorem readTcpMaxseg_eq {query : Option Int32}
    (fits : ∀ mss, query = some mss → mss.toInt ≤ 65495) :
    readTcpMaxseg query = usedMss query := by
  cases query with
  | none => rfl
  | some mss =>
    have small := fits mss rfl
    by_cases positive : 0 < mss.toInt
    · have narrow : mss.toInt.toNat % 2 ^ 16 = mss.toInt.toNat := Nat.mod_eq_of_lt (by omega)
      simp only [readTcpMaxseg, usedMss, readMss, Option.bind_some, positive, if_true,
        Option.getD_some, narrow]
    · simp only [readTcpMaxseg, usedMss, readMss, Option.bind_some, positive, if_false,
        Option.getD_none]

theorem usedMss_le {query : Option Int32} (fits : ∀ mss, query = some mss → mss.toInt ≤ 65495) :
    usedMss query ≤ 65495 := by
  cases query with
  | none => decide
  | some mss =>
    have small := fits mss rfl
    by_cases positive : 0 < mss.toInt
    · simp only [usedMss, readMss, Option.bind_some, positive, if_true, Option.getD_some]
      omega
    · simp [usedMss, readMss, positive]

section Recommendations
variable {recommendations : List String} {mss n : Nat}

/-- The recommendations that tell a size to clamp to or to stay under. -/
inductive ClampAdvice where
  | command
  | required
  | safe
  deriving DecidableEq

namespace ClampAdvice

def text : ClampAdvice → Nat → String
  | command => clampCommand
  | required => requiredClamp
  | safe => safeMss

def initial : ClampAdvice → Char
  | command => 'A'
  | required => 'R'
  | safe => 'S'

theorem initial_injective : Function.Injective initial := by
  intro first second same
  cases first <;> cases second <;> first | rfl | exact absurd same (by decide)

theorem text_injective (kind : ClampAdvice) : Function.Injective kind.text := fun _ _ same => by
  cases kind with
  | command => exact toString_injective ((String.append_right_inj _).mp same)
  | required =>
    exact toString_injective ((String.append_right_inj _).mp ((String.append_left_inj _).mp same))
  | safe =>
    exact toString_injective ((String.append_right_inj _).mp ((String.append_left_inj _).mp same))

theorem head?_append {front : String} {c : Char} (starts : front.toList.head? = some c)
    (back : String) :
    (front ++ back).toList.head? = some c := by
  rw [String.toList_append, List.head?_append, starts]
  rfl

theorem head?_text (kind : ClampAdvice) (mss : Nat) :
    (kind.text mss).toList.head? = some kind.initial := by
  cases kind with
  | command => exact head?_append (head?_literal_eq rfl) _
  | required => exact head?_append (head?_append (head?_literal_eq rfl) _) _
  | safe => exact head?_append (head?_append (head?_literal_eq rfl) _) _

theorem text_eq_iff {kind other : ClampAdvice} :
    kind.text mss = other.text n ↔ kind = other ∧ mss = n := by
  constructor
  · intro same
    have heads := congrArg (fun text : String => text.toList.head?) same
    simp only [head?_text] at heads
    obtain rfl := initial_injective (Option.some.inj heads)
    exact ⟨rfl, text_injective kind same⟩
  · rintro ⟨rfl, rfl⟩
    rfl

end ClampAdvice

def NamesMss (recommendations : List String) (mss : Nat) : Prop :=
  ∃ kind : ClampAdvice, kind.text mss ∈ recommendations

theorem not_namesMss_nil (mss : Nat) : ¬ NamesMss [] mss :=
  fun ⟨_, member⟩ => List.not_mem_nil member

theorem namesMss_cons_text (kind : ClampAdvice) (mss : Nat) :
    NamesMss (kind.text mss :: recommendations) n ↔ n = mss ∨ NamesMss recommendations n := by
  constructor
  · rintro ⟨other, member⟩
    obtain same | later := List.mem_cons.mp member
    · exact .inl (ClampAdvice.text_eq_iff.mp same).2
    · exact .inr ⟨other, later⟩
  · rintro (rfl | ⟨other, later⟩)
    · exact ⟨kind, List.mem_cons_self⟩
    · exact ⟨other, List.mem_cons_of_mem _ later⟩

theorem namesMss_cons_plain {c : Char} {chars : List Char} (starts : chars.head? = some c)
    (apart : c ≠ 'A' ∧ c ≠ 'R' ∧ c ≠ 'S') :
    NamesMss (String.ofList chars :: recommendations) n ↔ NamesMss recommendations n := by
  have other : ∀ kind : ClampAdvice, kind.text n ≠ String.ofList chars := by
    intro kind same
    have heads := congrArg (fun text : String => text.toList.head?) same
    simp only [kind.head?_text, head?_literal_eq starts] at heads
    obtain rfl := Option.some.inj heads
    cases kind with
    | command => exact apart.1 rfl
    | required => exact apart.2.1 rfl
    | safe => exact apart.2.2 rfl
  constructor
  · rintro ⟨kind, member⟩
    exact ⟨kind, (List.mem_cons.mp member).resolve_left (other kind)⟩
  · rintro ⟨kind, later⟩
    exact ⟨kind, List.mem_cons_of_mem _ later⟩

end Recommendations

section Advice
variable {mss n port effectiveMtu overhead : Nat} {result : TestResult}

theorem not_namesMss_minorReduction :
    ¬ NamesMss (minorReduction effectiveMtu overhead).recommendations n := fun named =>
  not_namesMss_nil n ((namesMss_cons_plain rfl (by decide)).mp named)

theorem namesMss_significantOverhead :
    NamesMss (significantOverhead mss effectiveMtu overhead).recommendations n ↔ n = mss := by
  have others : ¬ NamesMss [pmtuCommand, "Check for VPN-over-VPN or tunneled AP configurations"]
      n := fun named =>
    not_namesMss_nil n ((namesMss_cons_plain rfl (by decide)).mp
      ((namesMss_cons_plain rfl (by decide)).mp named))
  exact (namesMss_cons_text .command mss).trans (or_iff_left others)

theorem namesMss_severeRestriction :
    NamesMss (severeRestriction mss effectiveMtu overhead).recommendations n ↔ n = mss := by
  have others : ¬ NamesMss ["Investigate tunnel stack - likely multiple VPN layers",
      "For conference/event networks: ensure AP tunnels account for student VPN overhead"] n :=
        fun named =>
    not_namesMss_nil n ((namesMss_cons_plain rfl (by decide)).mp
      ((namesMss_cons_plain rfl (by decide)).mp named))
  exact (namesMss_cons_text .required mss).trans (or_iff_left others)

theorem namesMss_conferencePattern :
    NamesMss (conferencePattern mss).recommendations n ↔ n = mss - 20 := by
  have last : NamesMss [safeMss (mss - 20)] n ↔ n = mss - 20 :=
    (namesMss_cons_text .safe (mss - 20)).trans (or_iff_left (not_namesMss_nil n))
  exact (namesMss_cons_plain rfl (by decide)).trans
    ((namesMss_cons_plain rfl (by decide)).trans last)

/-- A recommendation of the result names this size. -/
def Clamps (result : TestResult) (mss : Nat) : Prop :=
  ∃ diagnosis ∈ result.diagnoses, NamesMss diagnosis.recommendations mss

theorem clamps_addDiagnosis {diagnosis : Diagnosis} :
    Clamps (result.addDiagnosis diagnosis) n ↔
      Clamps result n ∨ NamesMss diagnosis.recommendations n := by
  simp only [Clamps, TestResult.addDiagnosis, List.mem_append, List.mem_singleton, or_and_right,
    exists_or, exists_eq_left]

theorem clamps_judgeClamping (named : Clamps (judgeClamping mss effectiveMtu overhead result) n) :
    Clamps result n ∨ n = mss := by
  unfold judgeClamping at named
  split_ifs at named
  · exact .inl named
  · exact (clamps_addDiagnosis.mp named).imp_right fun minor =>
      absurd minor not_namesMss_minorReduction
  · exact (clamps_addDiagnosis.mp named).imp_right namesMss_significantOverhead.mp
  · exact (clamps_addDiagnosis.mp named).imp_right namesMss_severeRestriction.mp

theorem clamps_measured : Clamps (measured mss port effectiveMtu result) n ↔ Clamps result n := by
  have kept : (measured mss port effectiveMtu result).diagnoses = result.diagnoses := by
    unfold measured
    split <;> simp only [TestResult.addMetadata, TestResult.addMetric]
  rw [Clamps, kept, Clamps]

def note (result : TestResult) (name : String) : Option String := result.metadata.lookup name

/-- The size recommended for a VPN within the tunnel, as a metric or as text. -/
def RecommendsConservative (result : TestResult) (mss : Nat) : Prop :=
  result.metric "recommended_mss_vpn_conservative" = some mss ∨
    note result "recommended_mss_vpn_conservative" = some (toString mss)

theorem note_addMetadata (result : TestResult) (key value name : String) :
    note (result.addMetadata key value) name = if name =
      key then some value else note result name := by
  by_cases same : name = key
  · rw [if_pos same, note, TestResult.addMetadata, same, List.lookup_cons_self]
  · rw [if_neg same, note, TestResult.addMetadata, List.lookup_cons, beq_false_of_ne same]
    rfl

theorem note_addDiagnosis (result : TestResult) (diagnosis : Diagnosis) (name : String) :
    note (result.addDiagnosis diagnosis) name = note result name := rfl

theorem note_addMetric (result : TestResult) (key name : String) (value : Nat) :
    note (result.addMetric key value) name = note result name := rfl

theorem note_setStatus (result : TestResult) (status : TestStatus) (name : String) :
    note (result.setStatus status) name = note result name := rfl

theorem metric_judgeClamping (name : String) :
    (judgeClamping mss effectiveMtu overhead result).metric name = result.metric name := by
  unfold judgeClamping
  split_ifs <;> rfl

theorem note_judgeClamping {name : String}
    (other : name ∉ ["clamping_needed", "verdict", "effective_mtu_status"]) :
    note (judgeClamping mss effectiveMtu overhead result) name = note result name := by
  simp only [List.mem_cons, List.not_mem_nil, or_false, not_or] at other
  unfold judgeClamping
  split_ifs <;> simp only [note_addMetadata, note_addDiagnosis, note_setStatus, other, if_false]

theorem verdict_judgeClamping (fresh : note result "verdict" = none)
    (verdict : note (judgeClamping mss effectiveMtu overhead result) "verdict" = some noClamping) :
    1480 ≤ effectiveMtu := by
  by_contra low
  rw [judgeClamping, if_neg low] at verdict
  split_ifs at verdict <;>
    · simp only [note_addMetadata, note_addDiagnosis, note_setStatus, String.reduceEq, if_false,
        fresh] at verdict
      exact absurd verdict (Option.some_ne_none _).symm

theorem verdict_measured :
    note (measured mss port effectiveMtu result) "verdict" = note result "verdict" := by
  unfold measured
  split <;> simp only [note_addMetadata, note_addMetric, String.reduceEq, if_false]

theorem conservative_measured :
    note (measured mss port effectiveMtu result) "recommended_mss_vpn_conservative" =
      some (toString (vpnConservative mss)) := by
  unfold measured
  split <;> simp only [note_addMetadata, String.reduceEq, if_false, if_true]

theorem metrics_measured (mss port effectiveMtu : Nat) (result : TestResult) :
    (measured mss port effectiveMtu result).metric "tcp_mss" = some mss ∧
      (measured mss port effectiveMtu result).metric "effective_mtu" = some effectiveMtu ∧
      (measured mss port effectiveMtu result).metric "detected_overhead" =
        some (1500 - effectiveMtu) ∧
      (measured mss port effectiveMtu result).metric "recommended_mss_vpn_conservative" =
        some (vpnConservative mss) := by
  unfold measured
  split <;> exact ⟨rfl, rfl, rfl, rfl⟩

end Advice

section Run
variable {mss port : Nat} {result : TestResult} {test : TunnelMssClampingTest} {host : TunnelHost}
  {target : String}

/-- What is reported of a segment size. -/
structure AdviceStands (mss : Nat) (result : TestResult) : Prop where
  tcpMss : result.metric "tcp_mss" = some mss
  effectiveMtu : result.metric "effective_mtu" = some (mss + 40)
  overhead : result.metric "detected_overhead" = some (1500 - (mss + 40))
  clamps : ∀ n, Clamps result n → n ≤ mss
  conservative : ∀ n, RecommendsConservative result n → n ≤ max mss 1200
  verdict : note result "verdict" = some noClamping → 1440 ≤ mss

/-- Nothing is reported of a segment size. -/
structure Unadvised (result : TestResult) : Prop where
  tcpMss : result.metric "tcp_mss" = none
  verdict : note result "verdict" = none
  clamps : ∀ n, ¬ Clamps result n
  conservative : ∀ n, ¬ RecommendsConservative result n

theorem Unadvised.started (target : String) : Unadvised (TunnelMssClampingTest.started target) where
  tcpMss := rfl
  verdict := by
    simp only [TunnelMssClampingTest.started, note_addMetadata, String.reduceEq, if_false]; rfl
  clamps := fun _ ⟨_, member, _⟩ => List.not_mem_nil member
  conservative := by
    rintro n (metric | text)
    · exact Option.some_ne_none n metric.symm
    · simp only [TunnelMssClampingTest.started, note_addMetadata, String.reduceEq, if_false] at text
      exact Option.some_ne_none _ text.symm

theorem Unadvised.of_error (unadvised : Unadvised result) (message : String) :
    Unadvised ((result.setStatus .failed).addMetadata "error" message) where
  tcpMss := unadvised.tcpMss
  verdict := by rw [note_addMetadata, if_neg (by decide), note_setStatus, unadvised.verdict]
  clamps := unadvised.clamps
  conservative := by
    rintro n (metric | text)
    · exact unadvised.conservative n (.inl metric)
    · rw [note_addMetadata, if_neg (by decide), note_setStatus] at text
      exact unadvised.conservative n (.inr text)

theorem vpnConservative_le (mss : Nat) : vpnConservative mss ≤ max mss 1200 := by
  unfold vpnConservative
  omega

/-- The advice up to the note on conferences, which adds only a diagnosis. -/
theorem adviceStands_judged (unadvised : Unadvised result) :
    AdviceStands mss (judgeClamping mss (mss + 40) (1500 - (mss + 40))
      (measured mss port (mss + 40) result)) := by
  obtain ⟨tcpMss, effectiveMtu, overhead, conservative⟩ :=
    metrics_measured mss port (mss + 40) result
  constructor
  · rw [metric_judgeClamping, tcpMss]
  · rw [metric_judgeClamping, effectiveMtu]
  · rw [metric_judgeClamping, overhead]
  · intro n named
    obtain earlier | rfl := clamps_judgeClamping named
    · exact absurd (clamps_measured.mp earlier) (unadvised.clamps n)
    · exact le_rfl
  · rintro n (metric | text)
    · rw [metric_judgeClamping, conservative] at metric
      exact Option.some.inj metric ▸ vpnConservative_le mss
    · rw [note_judgeClamping (by decide), conservative_measured] at text
      exact toString_injective (Option.some.inj text) ▸ vpnConservative_le mss
  · intro verdict
    have large := verdict_judgeClamping (verdict_measured.trans unadvised.verdict) verdict
    omega

theorem AdviceStands.addConference (stands : AdviceStands mss result) :
    AdviceStands mss (result.addDiagnosis (conferencePattern mss)) where
  tcpMss := stands.tcpMss
  effectiveMtu := stands.effectiveMtu
  overhead := stands.overhead
  clamps := by
    intro n named
    obtain earlier | safe := clamps_addDiagnosis.mp named
    · exact stands.clamps n earlier
    · exact (namesMss_conferencePattern.mp safe).trans_le (Nat.sub_le mss 20)
  conservative := stands.conservative
  verdict := stands.verdict

theorem advise_eq (small : mss ≤ 65495) (unadvised : Unadvised result) :
    ∃ advised, advise mss port result = .ok advised ∧ AdviceStands mss advised := by
  have fits : u16Add mss 40 = .ok (mss + 40) := if_pos (by omega)
  rw [advise, fits]
  have judged :
      AdviceStands mss (judgeClamping mss (mss + 40) (1500 - (mss + 40))
        (measured mss port (mss + 40) result)) :=
    adviceStands_judged unadvised
  by_cases conference : 100 ≤ 1500 - (mss + 40)
  · exact ⟨_, congrArg Except.ok (if_pos conference), judged.addConference⟩
  · exact ⟨_, congrArg Except.ok (if_neg conference), judged⟩

def TunnelMssClampingTest.Connected (test : TunnelMssClampingTest) (host : TunnelHost)
    (target : String) : Prop :=
  ∃ addr rest, host.resolve (addrStr target test.port) = .ok (addr :: rest) ∧
    host.connect addr test.timeoutSecs = .ok ()

theorem run_of_resolved {addr : SocketAddr} {rest : List SocketAddr}
    (resolved : host.resolve (addrStr target test.port) = .ok (addr :: rest)) :
    test.run host target =
      match host.connect addr test.timeoutSecs with
      | .error e =>
        .ok (((TunnelMssClampingTest.started target).setStatus .failed).addMetadata "error"
          ("Connection failed: " ++ e))
      | .ok _ =>
        advise (readTcpMaxseg host.getTcpMaxseg) test.port
          (TunnelMssClampingTest.started target) := by
  rw [TunnelMssClampingTest.run, resolved]
  rfl

theorem run_of_connected (connected : test.Connected host target) :
    test.run host target =
      advise (readTcpMaxseg host.getTcpMaxseg) test.port
        (TunnelMssClampingTest.started target) := by
  obtain ⟨addr, rest, resolved, accepted⟩ := connected
  rw [run_of_resolved resolved, accepted]

theorem unadvised_of_not_connected (apart : ¬ test.Connected host target)
    (ran : test.run host target = .ok result) :
    Unadvised result := by
  cases resolved : host.resolve (addrStr target test.port) with
  | error message =>
    rw [TunnelMssClampingTest.run, resolved] at ran
    cases ran
  | ok addrs =>
    cases addrs with
    | nil =>
      rw [TunnelMssClampingTest.run, resolved] at ran
      cases ran
    | cons addr rest =>
      rw [run_of_resolved resolved] at ran
      cases reached : host.connect addr test.timeoutSecs with
      | ok _ => exact absurd ⟨addr, rest, resolved, reached⟩ apart
      | error message =>
        rw [reached] at ran
        exact Except.ok.inj ran ▸ (Unadvised.started target).of_error _

/-- The advice stands for the size the socket tells, or for the standard one, and there is
none without a connection. -/
theorem run_adviceStands (test : TunnelMssClampingTest) (host : TunnelHost) (target : String)
    (fits : ∀ mss, host.getTcpMaxseg = some mss → mss.toInt ≤ 65495) :
    (test.Connected host target →
      ∃ result, test.run host target = .ok result ∧
        AdviceStands (usedMss host.getTcpMaxseg) result) ∧
    (¬ test.Connected host target → ∀ result, test.run host target = .ok result →
      Unadvised result) := by
  constructor
  · intro connected
    rw [run_of_connected connected, readTcpMaxseg_eq fits]
    exact advise_eq (usedMss_le fits) (Unadvised.started target)
  · exact fun apart _ => unadvised_of_not_connected apart

/-- The advice of a size that was read, and of none where none was. -/
structure AdviceFits (query : Option Int32) (result : TestResult) : Prop where
  read : result.metric "tcp_mss" ≠ none ∨ note result "verdict" = some noClamping →
    readMss query ≠ none
  tcpMss : ∀ mss, readMss query = some mss → result.metric "tcp_mss" = some mss
  effectiveMtu : ∀ mss, readMss query = some mss → result.metric "effective_mtu" = some (mss + 40)
  overhead : ∀ mss, readMss query = some mss →
    result.metric "detected_overhead" = some (1500 - (mss + 40))
  within : ∀ mss, readMss query = some mss →
    ∀ n, Clamps result n ∨ RecommendsConservative result n → n ≤ mss

/-- A host that accepts every connection. -/
def answering (query : Option Int32) : TunnelHost where
  resolve := fun _ => .ok [⟨.v4 ⟨192, 0, 2, 1⟩, 443⟩]
  connect := fun _ _ => .ok ()
  getTcpMaxseg := query

theorem connected_answering (query : Option Int32) :
    TunnelMssClampingTest.new.Connected (answering query) "example.net" := ⟨_, [], rfl, rfl⟩

theorem run_adviceStands_answering :
    ∃ result, TunnelMssClampingTest.run .new (answering (some 488)) "example.net" = .ok result ∧
      AdviceStands 488 result :=
  (run_adviceStands .new (answering (some 488)) "example.net" fun mss same => by
    obtain rfl := Option.some.inj same
    decide).1 (connected_answering _)

/-- What a run on a connected host reports for a query is what the query says. -/
def AdvisedBy (query : Option Int32) : Prop :=
  ∃ result, TunnelMssClampingTest.new.run (answering query) "example.net" = .ok result ∧
    AdviceFits query result

/-- A failed query is reported as the standard size, a small one is exceeded, and a
large one overflows or is cut. -/
theorem unfit_advice : ¬ AdvisedBy none ∧ ¬ AdvisedBy (some 500) ∧ ¬ AdvisedBy (some 65496) ∧
    ¬ AdvisedBy (some 65537) := by
  refine ⟨?_, ?_, ?_, ?_⟩
  · rintro ⟨result, ran, advised⟩
    obtain rfl := Except.ok.inj ran
    exact advised.read (.inl (Option.some_ne_none 1460)) rfl
  · rintro ⟨result, ran, advised⟩
    obtain rfl := Except.ok.inj ran
    exact absurd (advised.within 500 rfl 1200 (.inr (.inl rfl))) (by decide)
  · rintro ⟨result, ran, -⟩
    cases ran
  · rintro ⟨result, ran, advised⟩
    obtain rfl := Except.ok.inj ran
    exact absurd (advised.tcpMss 65537 rfl) (by decide)

end Run

end FragglePacket.NetworkTests
