import FragglePacket.Text.Fields
import Mathlib.Data.List.Perm.Basic

/-! Protocol preflight: what one endpoint comes to, and what all endpoints of a protocol
say of the network. -/

namespace FragglePacket.Probe

open FragglePacket.Text

inductive Protocol where
  | http1
  | http2
  | http3
deriving DecidableEq

def Protocol.asStr : Protocol → String
  | .http1 => "http/1.1"
  | .http2 => "h2"
  | .http3 => "h3"

inductive EndpointVerdict where
  | unsupported
  | handshakeRejected
  | timeout
  | filtered
  | ok
deriving DecidableEq

def EndpointVerdict.asStr : EndpointVerdict → String
  | .unsupported => "unsupported"
  | .handshakeRejected => "handshake-rejected"
  | .timeout => "timeout"
  | .filtered => "filtered"
  | .ok => "ok"

inductive Advertisement where
  | advertised
  | notAdvertised
  | undetermined
deriving DecidableEq

structure EndpointResult where
  host : String
  resolvedIp : Option String
  protocol : String
  advertised : Option Advertisement
  negotiatedAlpn : Option String
  verdict : EndpointVerdict
  detail : String
  elapsedMs : Nat

inductive NetworkVerdict where
  | usable
  | filtered (corroboratingEndpoints : List String)
  | inconclusive (reason : String)

def minCorroboratingEndpoints : Nat := 2

/-- What the network answers about one endpoint: its address, the handshake of the protocol,
and the two probes for the advertisement. -/
structure EndpointAnswers where
  resolvedIp : Option String
  negotiated : EndpointVerdict × Option String × String
  fetchAltSvc : Except String (Option String)
  curlAltSvc : Except String (Option String)
  elapsedMs : Nat

def altSvcAdvertisesH3 (value : String) : Bool :=
  contains value.toList "h3=".toList || contains value.toList "h3-".toList

/-- What a parsed response says of the advertisement. -/
def advertisementOf (altSvc : Option String) : Advertisement :=
  if altSvc.any altSvcAdvertisesH3 then .advertised else .notAdvertised

def preflightOne (host : String) (protocol : Protocol) (answers : EndpointAnswers) :
    EndpointResult :=
  match answers.resolvedIp with
  | none =>
    { host := host, resolvedIp := none, protocol := protocol.asStr, advertised := none,
      negotiatedAlpn := none
      verdict := .timeout, detail := "DNS resolution failed", elapsedMs := answers.elapsedMs }
  | some ip =>
    let (verdict, alpn, detail) := answers.negotiated
    let negotiated (seen : Option Advertisement) (verdict : EndpointVerdict) (detail : String) :
        EndpointResult :=
      { host := host, resolvedIp := some ip, protocol := protocol.asStr, advertised := seen
        negotiatedAlpn := alpn, verdict := verdict, detail := detail,
          elapsedMs := answers.elapsedMs }
    match protocol with
    | .http1 | .http2 => negotiated none verdict detail
    | .http3 =>
      -- the direct fetch first, then curl
      let determined : Except String Advertisement := match answers.fetchAltSvc with
        | .ok altSvc => .ok (advertisementOf altSvc)
        | .error directErr => match answers.curlAltSvc with
          | .ok altSvc => .ok (advertisementOf altSvc)
          | .error _ => .error directErr
      match determined with
      | .error directErr =>
        { host := host, resolvedIp := some ip, protocol := protocol.asStr,
          advertised := some .undetermined
          negotiatedAlpn := none, verdict := .timeout
          detail := "could not determine Alt-Svc advertisement: " ++ directErr,
            elapsedMs := answers.elapsedMs }
      | .ok .notAdvertised =>
        if verdict = .ok then negotiated (some .notAdvertised) .ok detail
        else negotiated (some .notAdvertised) .unsupported
          (detail ++ " (confirmed no Alt-Svc h3 advertisement)")
      | .ok seen => negotiated (some seen) verdict detail

/-- The endpoint failed the protocol. -/
def EndpointResult.fails (r : EndpointResult) : Bool :=
  r.verdict = .handshakeRejected || r.verdict = .timeout || r.verdict = .filtered

def EndpointResult.isOk (r : EndpointResult) : Bool := r.verdict = .ok

def networkVerdict (results : List EndpointResult) (controlOkHosts : List String) :
    NetworkVerdict :=
  let knownCapableFailures := results.filter (·.fails)
  let okCount := results.countP (·.isOk)
  let unsupportedCount := results.countP (·.verdict = .unsupported)
  if results.isEmpty then .inconclusive "no endpoints tested"
  else if okCount = results.length then .usable
  else if 0 < okCount ∧ knownCapableFailures.isEmpty then .usable
  else
    let corroborating := (knownCapableFailures.filter (controlOkHosts.contains ·.host)).map (·.host)
    if minCorroboratingEndpoints ≤ corroborating.length then .filtered corroborating
    else if unsupportedCount = results.length then
      .inconclusive
        "every tested endpoint is unsupported for this protocol; add known-capable endpoints"
    else
      .inconclusive ("only " ++ toString corroborating.length ++ " of " ++
        toString minCorroboratingEndpoints ++
        " required known-capable-endpoint failures corroborated (need " ++
          toString minCorroboratingEndpoints ++
        "); add more known-capable endpoints or confirm control-protocol reachability")

/-- Failing results at hosts where the control protocol worked. -/
def accusers (results : List EndpointResult) (controlOkHosts : List String) : List EndpointResult :=
  (results.filter (·.fails)).filter (controlOkHosts.contains ·.host)

/-- An HTTP/3 endpoint is known to be capable when it was seen to advertise the protocol. -/
def EndpointResult.KnownCapable (r : EndpointResult) : Prop :=
  r.protocol = Protocol.http3.asStr → r.advertised = some .advertised

/-- The failure counts against the network: the endpoint is capable and reachable. -/
structure EndpointResult.Accuses (controlOkHosts : List String) (r : EndpointResult) : Prop where
  fails : r.fails = true
  reachable : r.host ∈ controlOkHosts
  capable : r.KnownCapable

/-- Two hosts accuse the network independently. -/
def IndependentEvidence (results : List EndpointResult) (controlOkHosts : List String) : Prop :=
  ∃ first ∈ results, ∃ second ∈ results, first.host ≠ second.host ∧ first.Accuses controlOkHosts ∧
    second.Accuses controlOkHosts

/-- The same kind of verdict, corroborated by the same hosts. -/
def SameVerdict : NetworkVerdict → NetworkVerdict → Prop
  | .usable, .usable => True
  | .filtered first, .filtered second => ∀ host, host ∈ first ↔ host ∈ second
  | .inconclusive _, .inconclusive _ => True
  | _, _ => False

/-- The network is accused on independent evidence only, called usable without evidence to
the contrary, and judged the same in any order. -/
structure JustVerdict (results : List EndpointResult) (controlOkHosts : List String) : Prop where
  filtered : ∀ hosts, networkVerdict results controlOkHosts = .filtered hosts →
    IndependentEvidence results controlOkHosts
  usable : networkVerdict results controlOkHosts = .usable → (∃ r ∈ results, r.verdict = .ok) ∧
    ∀ r ∈ results, r.KnownCapable → r.fails = false
  permuted : ∀ results' controlOkHosts', results.Perm results' →
    controlOkHosts.Perm controlOkHosts' →
    SameVerdict (networkVerdict results controlOkHosts) (networkVerdict results' controlOkHosts')

/-- An endpoint that was seen not to advertise the protocol never fails it. -/
theorem preflightOne_notAdvertised (host : String) (protocol : Protocol) (answers : EndpointAnswers)
    (absent : (preflightOne host protocol answers).advertised = some .notAdvertised) :
    (preflightOne host protocol answers).fails = false := by
  unfold preflightOne at absent ⊢
  cases resolved : answers.resolvedIp with
  | none => simp [resolved] at absent
  | some ip =>
    cases protocol with
    | http1 => simp [resolved] at absent
    | http2 => simp [resolved] at absent
    | http3 =>
      simp only [resolved] at absent ⊢
      split at absent
      · cases absent
      · split
        · rfl
        · rfl
      · rename_i seen other _
        exact absurd (Option.some.inj absent) (fun same => other same)

section Characterization
variable {results : List EndpointResult} {controlOkHosts : List String}

theorem not_ok_of_fails {r : EndpointResult} (fails : r.fails = true) : r.isOk = false := by
  unfold EndpointResult.fails at fails
  unfold EndpointResult.isOk
  cases verdict : r.verdict <;> simp [verdict] at fails ⊢

/-- A failure keeps the verdict from being usable. -/
theorem networkVerdict_of_failure {r : EndpointResult} (member : r ∈ results)
    (fails : r.fails = true) :
    results.isEmpty = false ∧ results.countP (·.isOk) ≠ results.length ∧
      (results.filter (·.fails)).isEmpty = false := by
  refine ⟨List.isEmpty_eq_false_iff_exists_mem.mpr ⟨r, member⟩, fun all => ?_, ?_⟩
  · have ok := List.countP_eq_length.mp all r member
    rw [not_ok_of_fails fails] at ok
    cases ok
  · exact List.isEmpty_eq_false_iff_exists_mem.mpr ⟨r, List.mem_filter.mpr ⟨member, fails⟩⟩

/-- Filtered is the verdict on two accusing results. -/
theorem networkVerdict_filtered_iff (hosts : List String) :
    networkVerdict results controlOkHosts = .filtered hosts ↔
      2 ≤ (accusers results controlOkHosts).length ∧
        (accusers results controlOkHosts).map (·.host) = hosts := by
  constructor
  · intro verdict
    simp only [networkVerdict] at verdict
    split at verdict
    · cases verdict
    · split at verdict
      · cases verdict
      · split at verdict
        · cases verdict
        · split at verdict
          · rename_i enough
            rw [List.length_map] at enough
            exact ⟨enough, NetworkVerdict.filtered.inj verdict⟩
          · split at verdict <;> cases verdict
  · intro ⟨enough, same⟩
    obtain ⟨r, accuses⟩ : ∃ r, r ∈ accusers results controlOkHosts := by
      apply List.exists_mem_of_length_pos
      omega
    obtain ⟨member, fails⟩ := List.mem_filter.mp (List.mem_filter.mp accuses).1
    obtain ⟨nonempty, notAll, failures⟩ := networkVerdict_of_failure member fails
    have corroborated : minCorroboratingEndpoints ≤
        ((accusers results controlOkHosts).map (·.host)).length := by
      rw [List.length_map]
      exact enough
    simp only [networkVerdict, nonempty, notAll, failures, Bool.false_eq_true, and_false,
      ↓reduceIte]
    rw [← same]
    exact if_pos corroborated

/-- Usable is the verdict on some success without a failure. -/
theorem networkVerdict_usable_iff :
    networkVerdict results controlOkHosts = .usable ↔
      (∃ r ∈ results, r.verdict = .ok) ∧ ∀ r ∈ results, r.fails = false := by
  constructor
  · intro verdict
    have quiet : ∀ r ∈ results, r.fails = false := by
      intro r member
      by_contra some
      have fails : r.fails = true := by simpa using some
      obtain ⟨nonempty, notAll, failures⟩ := networkVerdict_of_failure member fails
      simp only [networkVerdict, nonempty, notAll, failures, Bool.false_eq_true, and_false,
        ↓reduceIte] at verdict
      split at verdict
      · cases verdict
      · split at verdict <;> cases verdict
    refine ⟨?_, quiet⟩
    simp only [networkVerdict] at verdict
    split at verdict
    · cases verdict
    · rename_i nonempty
      have some : 0 < results.countP (·.isOk) := by
        split at verdict
        · rename_i all
          rw [all]
          exact List.length_pos_iff.mpr (by simpa using nonempty)
        · split at verdict
          · rename_i ok
            exact ok.1
          · split at verdict
            · cases verdict
            · split at verdict <;> cases verdict
      obtain ⟨r, member, ok⟩ := List.countP_pos_iff.mp some
      exact ⟨r, member, by simpa [EndpointResult.isOk] using ok⟩
  · intro ⟨⟨r, member, ok⟩, quiet⟩
    have nonempty : results.isEmpty = false := List.isEmpty_eq_false_iff_exists_mem.mpr ⟨r, member⟩
    have some : 0 < results.countP (·.isOk) :=
      List.countP_pos_iff.mpr ⟨r, member, by simp [EndpointResult.isOk, ok]⟩
    have none : results.filter (·.fails) = [] := by
      rw [List.filter_eq_nil_iff]
      exact fun other there => by simp [quiet other there]
    simp [networkVerdict, nonempty, some, none]

end Characterization

theorem accusers_perm {results results' : List EndpointResult}
    {controlOkHosts controlOkHosts' : List String} (same : results.Perm results')
    (sameHosts : controlOkHosts.Perm controlOkHosts') :
    (accusers results controlOkHosts).Perm (accusers results' controlOkHosts') := by
  have contains : (fun r : EndpointResult => controlOkHosts.contains r.host) =
      fun r => controlOkHosts'.contains r.host := by
    funext r
    rw [Bool.eq_iff_iff, List.contains_iff_mem, List.contains_iff_mem]
    exact sameHosts.mem_iff
  unfold accusers
  rw [contains]
  exact (same.filter _).filter _

/-- The order of the results and of the hosts does not matter. -/
theorem networkVerdict_perm {results results' : List EndpointResult}
    {controlOkHosts controlOkHosts' : List String} (same : results.Perm results')
    (sameHosts : controlOkHosts.Perm controlOkHosts') :
    SameVerdict (networkVerdict results controlOkHosts)
      (networkVerdict results' controlOkHosts') := by
  have accusing := accusers_perm same sameHosts
  have usable : networkVerdict results controlOkHosts = .usable ↔
      networkVerdict results' controlOkHosts' = .usable := by
    simp only [networkVerdict_usable_iff, same.mem_iff]
  cases verdict : networkVerdict results controlOkHosts with
  | usable =>
    rw [usable.mp verdict]
    trivial
  | filtered hosts =>
    obtain ⟨enough, rfl⟩ := (networkVerdict_filtered_iff hosts).mp verdict
    rw [(networkVerdict_filtered_iff _).mpr ⟨accusing.length_eq ▸ enough, rfl⟩]
    exact fun host => (accusing.map (·.host)).mem_iff
  | inconclusive reason =>
    cases verdict' : networkVerdict results' controlOkHosts' with
    | usable =>
      rw [usable.mpr verdict'] at verdict
      cases verdict
    | filtered hosts =>
      obtain ⟨enough, _⟩ := (networkVerdict_filtered_iff hosts).mp verdict'
      rw [(networkVerdict_filtered_iff _).mpr ⟨accusing.length_eq ▸ enough, rfl⟩] at verdict
      cases verdict
    | inconclusive reason' => trivial

/-- The verdict is just exactly when two results that accuse are two capable hosts. -/
theorem networkVerdict_just_iff (results : List EndpointResult) (controlOkHosts : List String) :
    JustVerdict results controlOkHosts ↔
      ((accusers results controlOkHosts).length < 2 ∨
        IndependentEvidence results controlOkHosts) := by
  constructor
  · intro just
    by_cases enough : 2 ≤ (accusers results controlOkHosts).length
    · exact .inr (just.filtered _ ((networkVerdict_filtered_iff _).mpr ⟨enough, rfl⟩))
    · exact .inl (Nat.not_le.mp enough)
  · intro condition
    constructor
    · intro hosts verdict
      obtain ⟨enough, _⟩ := (networkVerdict_filtered_iff hosts).mp verdict
      exact condition.resolve_left (Nat.not_lt.mpr enough)
    · intro verdict
      obtain ⟨some, quiet⟩ := networkVerdict_usable_iff.mp verdict
      exact ⟨some, fun r member _ => quiet r member⟩
    · exact fun results' controlOkHosts' same sameHosts => networkVerdict_perm same sameHosts

/-- An endpoint that answers over HTTP/2 only, with no way to tell what it advertises. -/
def undeterminedAnswers : EndpointAnswers where
  resolvedIp := some "192.0.2.1"
  negotiated := (.timeout, none, "quic handshake exceeded 5s")
  fetchAltSvc := .error "tcp connect: timed out"
  curlAltSvc := .error "curl exited with exit status: 28"
  elapsedMs := 5000

/-- One host tested twice, of unknown capability, makes the network out to be filtered. -/
theorem networkVerdict_accuses_on_one_host :
    ¬ ∀ (results : List EndpointResult) (controlOkHosts : List String),
    JustVerdict results controlOkHosts := by
  intro claim
  have just :=
    claim (["example.test", "example.test"].map (preflightOne · .http3 undeterminedAnswers))
      ["example.test"]
  obtain ⟨first, here, second, there, apart, _⟩ :=
    just.filtered ["example.test", "example.test"] rfl
  simp only [List.map_cons, List.map_nil, List.mem_cons, List.not_mem_nil, or_false, or_self]
    at here there
  rw [here, there] at apart
  exact apart rfl

end FragglePacket.Probe
