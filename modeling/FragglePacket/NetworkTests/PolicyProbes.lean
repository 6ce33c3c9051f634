import FragglePacket.NetworkTests.PolicyManifest
import FragglePacket.Text.Integer

/-! The probes of a policy manifest, over networks that answer each protocol in their own way. -/

namespace FragglePacket.NetworkTests

open FragglePacket.Text

/-- How a destination takes a connection. One that answers has a reply to each
request, or no readable one. -/
inductive Reply where
  | refuse (reset : Bool)
  | silence
  | answer (reply : Str → Option Str)

abbrev Network := Protocol → String → UInt16 → Reply

inductive ConnectErrorKind where
  | connectionRefused
  | connectionReset
  | timedOut
  deriving DecidableEq

structure ConnectError where
  kind : ConnectErrorKind
  text : String

/-- What a probe meets beside the network: the resolver, the clock, and how the
platform words its errors. -/
structure ProbeWorld where
  resolves : String → UInt16 → Bool
  elapsedMs : Nat → Nat
  errorText : ConnectErrorKind → String

/-- `TcpStream::connect_timeout`, with what the stream it opens replies. -/
def connectTcp (world : ProbeWorld) (network : Network) (host : String) (port : UInt16) :
    Except ConnectError (Str → Option Str) :=
  match network .tcp host port with
  | .refuse reset =>
    let kind := if reset then .connectionReset else .connectionRefused
    .error ⟨kind, world.errorText kind⟩
  | .silence => .error ⟨.timedOut, world.errorText .timedOut⟩
  | .answer reply => .ok reply

def ConnectError.classifyConnectError (e : ConnectError) : ObservedOutcome :=
  match e.kind with
  | .connectionRefused | .connectionReset => .rejected
  | _ => .timedOut

def httpGetStatus (stream : Str → Option Str) (host path : String) : Option Nat := do
  let request := "GET ".toList ++ path.toList ++ " HTTP/1.1\r\nHost: ".toList ++ host.toList ++
    "\r\nConnection: close\r\n\r\n".toList
  let text ← stream request
  let statusLine ← (lines text).head?
  let codeStr ← (splitWhitespace statusLine)[1]?
  parseUnsigned (2 ^ 16) codeStr

/-- Whatever its protocol, an entry is probed over TCP. -/
def probeOne (world : ProbeWorld) (network : Network) (index : Nat)
    (entry : PolicyEntry) : ProbeResult :=
  let result (observed : ObservedOutcome) (detail : String) : ProbeResult :=
    { entryIndex := index, observed := observed, elapsedMs := world.elapsedMs index,
      detail := detail }
  if !world.resolves entry.destinationHost entry.destinationPort then
    result .timedOut "DNS resolution failed for the manifest-declared destination"
  else
    match connectTcp world network entry.destinationHost entry.destinationPort with
    | .error e => result e.classifyConnectError e.text
    | .ok stream =>
      match (entry.httpCheckPath.bind (httpGetStatus stream entry.destinationHost)).filter
          (fun status => decide (300 ≤ status ∧ status < 400)) with
      | some status => result .redirected ("HTTP " ++ toString status ++ " redirect")
      | none => result .reachable "connect succeeded"

namespace PolicyManifest

def probeEntry (m : PolicyManifest) (world : ProbeWorld) (network : Network)
    (index : Nat) : Option ProbeResult :=
  (m.entries[index]?).map (probeOne world network index)

def runAll (m : PolicyManifest) (world : ProbeWorld) (network : Network) : List ProbeResult :=
  (List.range m.entries.length).filterMap (m.probeEntry world network)

end PolicyManifest

section Protocols

/-- The networks answer that protocol alike. -/
def AgreeOn (protocol : Protocol) (network other : Network) : Prop :=
  ∀ host port, network protocol host port = other protocol host port

/-- What an operator or an attendee is told of the entry at an index. -/
def PolicyManifest.told (m : PolicyManifest) (world : ProbeWorld) (network : Network)
    (mode : ReportMode) (index : Nat) :
    Option (ObservedOutcome × DriftVerdict) :=
  ((m.report (m.runAll world network) mode)[index]?).map fun r => (r.observed, r.drift)

/-- Networks that answer the protocol of an entry alike come to the same finding about it. -/
def PolicyManifest.JudgedByProtocol (m : PolicyManifest) (world : ProbeWorld) : Prop :=
  ∀ protocol network other, AgreeOn protocol network other →
    ∀ index entry, m.entries[index]? = some entry → entry.protocol = protocol →
      ∀ mode, m.told world network mode index = m.told world other mode index

variable {world : ProbeWorld} {network other : Network} {m : PolicyManifest} {index : Nat}
  {entry : PolicyEntry}

theorem probeOne_entryIndex : (probeOne world network index entry).entryIndex = index := by
  unfold probeOne
  split
  · rfl
  · split
    · rfl
    · split <;> rfl

private theorem filterMap_range {α β : Type} (f : Nat → α → β) (items : List α) :
    (List.range items.length).filterMap (fun index => (items[index]?).map (f index)) =
      items.mapIdx f := by
  induction items using List.reverseRecOn with
  | nil => rfl
  | append_singleton items item ih =>
    have earlier : ∀ index ∈ List.range items.length,
        ((items ++ [item])[index]?).map (f index) = (items[index]?).map (f index) :=
          fun index inside => by
      rw [List.getElem?_append_left (List.mem_range.mp inside)]
    rw [List.length_append, List.length_singleton, List.range_succ, List.filterMap_append,
      List.filterMap_congr earlier, ih, List.mapIdx_append]
    simp

/-- Every entry is reported, in its place. -/
theorem report_runAll (mode : ReportMode) : m.report (m.runAll world network) mode =
    m.entries.mapIdx fun index entry => entry.reported mode
      (probeOne world network index entry) := by
  rw [PolicyManifest.report, PolicyManifest.runAll, List.filterMap_filterMap, ← filterMap_range]
  apply List.filterMap_congr
  intro index _
  unfold PolicyManifest.probeEntry
  cases listed : m.entries[index]? with
  | none => rfl
  | some entry => simp only [Option.map_some, Option.bind_some, probeOne_entryIndex, listed]

theorem told_eq (listed : m.entries[index]? = some entry) (mode : ReportMode) :
    m.told world network mode index =
    some ((probeOne world network index entry).observed,
      judgeDrift entry.expected (probeOne world network index entry).observed) := by
  rw [PolicyManifest.told, report_runAll, List.getElem?_mapIdx, listed]
  rfl

theorem probeOne_congr (alike : AgreeOn .tcp network other) :
    probeOne world network index entry = probeOne world other index entry := by
  unfold probeOne connectTcp
  rw [alike]

theorem probeOne_unresolved (other : Network)
    (unresolved : world.resolves entry.destinationHost entry.destinationPort = false) :
    probeOne world network index entry = probeOne world other index entry := by
  unfold probeOne
  rw [unresolved]
  rfl

/-- Two networks that refuse over UDP alike are told apart by what they do over TCP. -/
theorem probeOne_refused_ne_silent (index : Nat)
    (resolved : world.resolves entry.destinationHost entry.destinationPort = true) :
    (probeOne world (fun _ _ _ => .refuse false) index entry).observed = .rejected ∧
      (probeOne world (fun protocol _ _ => if protocol = .udp then .refuse false else .silence)
        index entry).observed =
        .timedOut := by
  unfold probeOne
  rw [resolved]
  exact ⟨rfl, rfl⟩

/-- The findings of a manifest are those of each entry's own protocol exactly where no
UDP entry is probed at all. -/
theorem judgedByProtocol_iff (m : PolicyManifest) (world : ProbeWorld) : m.JudgedByProtocol world ↔
    ∀ entry ∈ m.entries, entry.protocol = .udp →
      world.resolves entry.destinationHost entry.destinationPort = false := by
  constructor
  · intro judged entry member udp
    obtain ⟨index, inside, rfl⟩ := List.getElem_of_mem member
    have listed := List.getElem?_eq_getElem inside
    by_contra resolved
    rw [Bool.not_eq_false] at resolved
    -- both networks refuse over UDP, and only one of them over TCP
    have same := judged .udp (fun _ _ _ => .refuse false)
      (fun protocol _ _ => if protocol = .udp then .refuse false else .silence)
        (fun _ _ => rfl) index _ listed udp .operator
    rw [told_eq listed, told_eq listed] at same
    obtain ⟨refused, silent⟩ := probeOne_refused_ne_silent index resolved
    have observed := congrArg Prod.fst (Option.some.inj same)
    simp only [refused, silent] at observed
    exact absurd observed (by decide)
  · intro unresolved protocol network other alike index entry listed own mode
    rw [told_eq listed, told_eq listed]
    cases protocol with
    | tcp => rw [probeOne_congr alike]
    | udp => rw [probeOne_unresolved other (unresolved entry (List.mem_of_getElem? listed) own)]

def exampleProbeWorld : ProbeWorld := ⟨fun _ _ => true, fun _ => 5, fun _ => "connection failed"⟩

def resolverManifest : PolicyManifest :=
  ⟨[⟨"guest", "wlan-guest", "192.0.2.53", 53, .udp, .deny, none⟩]⟩

/-- A resolver closed to guests over UDP is a policy hole where it answers over TCP. -/
theorem udp_entry_judged_over_tcp : ¬ resolverManifest.JudgedByProtocol exampleProbeWorld := by
  intro judged
  have same := judged .udp (fun _ _ _ => .silence)
    (fun protocol _ _ => if protocol = .udp then .silence else .answer fun _ => none)
      (fun _ _ => rfl) 0 _ rfl rfl .operator
  exact absurd same (by decide)

end Protocols

end FragglePacket.NetworkTests
