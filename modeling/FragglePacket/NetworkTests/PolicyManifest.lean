import Mathlib.Data.List.Forall2
import Mathlib.Data.List.Basic

/-! Expected policy by role and zone, and the reports of what probing it observed. -/

namespace FragglePacket.NetworkTests

inductive Protocol where
  | tcp
  | udp
  deriving DecidableEq

inductive ExpectedOutcome where
  | allow
  | deny
  deriving DecidableEq

inductive ObservedOutcome where
  | reachable
  | rejected
  | timedOut
  | redirected
  deriving DecidableEq

inductive DriftVerdict where
  | matchesExpectation
  | unexpectedlyAllowed
  | unexpectedlyBlocked
  | interceptedByPortal
  deriving DecidableEq

structure PolicyEntry where
  role : String
  sourceZone : String
  destinationHost : String
  destinationPort : UInt16
  protocol : Protocol
  expected : ExpectedOutcome
  httpCheckPath : Option String

structure ProbeResult where
  entryIndex : Nat
  observed : ObservedOutcome
  elapsedMs : Nat
  detail : String

def judgeDrift : ExpectedOutcome → ObservedOutcome → DriftVerdict
  | .allow, .reachable => .matchesExpectation
  | .deny, .rejected => .matchesExpectation
  | .deny, .timedOut => .matchesExpectation
  | .deny, .reachable => .unexpectedlyAllowed
  | .deny, .redirected => .unexpectedlyAllowed
  | .allow, .rejected => .unexpectedlyBlocked
  | .allow, .timedOut => .unexpectedlyBlocked
  | .allow, .redirected => .interceptedByPortal

structure EntryReport where
  entryIndex : Nat
  role : String
  sourceZone : String
  protocol : Protocol
  expected : ExpectedOutcome
  observed : ObservedOutcome
  drift : DriftVerdict
  elapsedMs : Nat
  destinationHost : Option String
  destinationPort : Option UInt16
  deriving DecidableEq

inductive ReportMode where
  | operator
  | attendeeFacing

structure PolicyManifest where
  entries : List PolicyEntry

/-- What one result is reported as, for the entry it probed. -/
def PolicyEntry.reported (entry : PolicyEntry) (mode : ReportMode)
    (r : ProbeResult) : EntryReport where
  entryIndex := r.entryIndex
  role := entry.role
  sourceZone := entry.sourceZone
  protocol := entry.protocol
  expected := entry.expected
  observed := r.observed
  drift := judgeDrift entry.expected r.observed
  elapsedMs := r.elapsedMs
  destinationHost := match mode with
    | .operator => some entry.destinationHost
    | .attendeeFacing => none
  destinationPort := match mode with
    | .operator => some entry.destinationPort
    | .attendeeFacing => none

/-- A result of no entry is left out. -/
def PolicyManifest.report (m : PolicyManifest) (results : List ProbeResult)
    (mode : ReportMode) : List EntryReport :=
  results.filterMap fun r => (m.entries[r.entryIndex]?).map (·.reported mode r)

/-- Two entries that may differ in where they probe from and to, and in the HTTP check. -/
structure PolicyEntry.SamePolicy (entry other : PolicyEntry) : Prop where
  role : entry.role = other.role
  protocol : entry.protocol = other.protocol
  expected : entry.expected = other.expected

def PolicyManifest.SamePolicy (m other : PolicyManifest) : Prop :=
  List.Forall₂ PolicyEntry.SamePolicy m.entries other.entries

section Collecting
variable {α β : Type} {f g : α → Option β} {queries : List α}

/-- Two ways to answer that leave out the same queries answer alike as a whole exactly when
they answer each query alike. -/
theorem filterMap_eq_iff (same : ∀ query ∈ queries, (f query).isSome = (g query).isSome) :
    queries.filterMap f = queries.filterMap g ↔ ∀ query ∈ queries, f query = g query := by
  induction queries with
  | nil => simp
  | cons query rest ih =>
    have here := same query List.mem_cons_self
    have after := ih fun later present => same later (List.mem_cons_of_mem _ present)
    rw [List.forall_mem_cons, List.filterMap_cons, List.filterMap_cons]
    cases answered : f query with
    | none =>
      have skipped : g query = none := by simpa [answered] using here
      simp only [skipped, true_and]
      exact after
    | some answer =>
      obtain ⟨other, found⟩ : ∃ other, g query = some other := by
        rw [← Option.isSome_iff_exists, ← here, answered]
        rfl
      simp only [found, List.cons.injEq, Option.some.injEq, after]

end Collecting

section Attendees
variable {entry other : PolicyEntry} {m m' : PolicyManifest}

/-- An attendee is shown an entry's source zone and nothing else of where it probes. -/
theorem attendee_reported_eq_iff (policy : entry.SamePolicy other) (r : ProbeResult) :
    entry.reported .attendeeFacing r = other.reported .attendeeFacing r ↔
      entry.sourceZone = other.sourceZone := by
  constructor
  · intro alike
    exact congrArg EntryReport.sourceZone alike
  · intro zone
    simp only [PolicyEntry.reported, policy.role, policy.protocol, policy.expected, zone]

theorem entry_of_samePolicy (policy : m.SamePolicy m') (index : Nat) :
    (m.entries[index]? = none ∧ m'.entries[index]? = none) ∨
      ∃ entry other, m.entries[index]? = some entry ∧ m'.entries[index]? = some other ∧
        entry.SamePolicy other := by
  obtain ⟨lengths, each⟩ := List.forall₂_iff_get.mp policy
  rcases Nat.lt_or_ge index m.entries.length with inside | beyond
  · right
    have insideOther : index < m'.entries.length := lengths ▸ inside
    exact ⟨_, _, List.getElem?_eq_getElem inside, List.getElem?_eq_getElem insideOther,
      each index inside insideOther⟩
  · left
    exact ⟨List.getElem?_eq_none beyond, List.getElem?_eq_none (lengths ▸ beyond)⟩

/-- What attendees are shown tells two manifests of one policy apart exactly by the source
zones of the entries that were probed. -/
theorem attendee_reports_eq_iff (policy : m.SamePolicy m') (results : List ProbeResult) :
    m.report results .attendeeFacing = m'.report results .attendeeFacing ↔
      ∀ r ∈ results, (m.entries[r.entryIndex]?).map (·.sourceZone) =
        (m'.entries[r.entryIndex]?).map (·.sourceZone) := by
  have answered : ∀ r ∈ results,
      ((m.entries[r.entryIndex]?).map (·.reported .attendeeFacing r)).isSome =
      ((m'.entries[r.entryIndex]?).map (·.reported .attendeeFacing r)).isSome := by
    intro r _
    rcases entry_of_samePolicy policy r.entryIndex with ⟨absent, absentOther⟩ |
      ⟨entry, other, found, foundOther, -⟩
    · simp only [absent, absentOther, Option.map_none]
    · simp only [found, foundOther, Option.map_some, Option.isSome_some]
  rw [PolicyManifest.report, PolicyManifest.report, filterMap_eq_iff answered]
  refine forall₂_congr fun r _ => ?_
  rcases entry_of_samePolicy policy r.entryIndex with ⟨absent, absentOther⟩ |
    ⟨entry, other, found, foundOther, alike⟩
  · rw [absent, absentOther]
    exact iff_of_true rfl rfl
  · rw [found, foundOther, Option.map_some, Option.map_some, Option.map_some, Option.map_some,
      Option.some.injEq, Option.some.injEq]
    exact attendee_reported_eq_iff alike r

end Attendees

section Instances

/-- One entry for guests, probed from a zone. -/
def guestManifest (sourceZone destinationHost : String) : PolicyManifest where
  entries := [⟨"guest", sourceZone, destinationHost, 443, .tcp, .deny, none⟩]

theorem guestManifest_samePolicy (zone zone' host host' : String) :
    (guestManifest zone host).SamePolicy (guestManifest zone' host') :=
  .cons ⟨rfl, rfl, rfl⟩ .nil

def rejectedProbe : ProbeResult := ⟨0, .rejected, 5, "connection refused"⟩

theorem attendee_reports_eq_iff_host :
    (guestManifest "wlan-guest" "payroll.internal").report [rejectedProbe] .attendeeFacing =
        (guestManifest "wlan-guest" "10.0.0.9").report [rejectedProbe] .attendeeFacing ↔
      ∀ r ∈ [rejectedProbe],
        ((guestManifest "wlan-guest" "payroll.internal").entries[r.entryIndex]?).map
          (·.sourceZone) =
        ((guestManifest "wlan-guest" "10.0.0.9").entries[r.entryIndex]?).map (·.sourceZone) :=
  attendee_reports_eq_iff (guestManifest_samePolicy _ _ _ _) [rejectedProbe]

/-- Attendees are told two internal zones apart. -/
theorem source_zone_shown_to_attendees :
    (guestManifest "wlan-guest" "10.0.0.9").SamePolicy
      (guestManifest "vlan-412-finance" "10.0.0.9") ∧
      (guestManifest "wlan-guest" "10.0.0.9").report [rejectedProbe] .attendeeFacing ≠
        (guestManifest "vlan-412-finance" "10.0.0.9").report [rejectedProbe] .attendeeFacing :=
  ⟨guestManifest_samePolicy _ _ _ _, by decide⟩

end Instances

end FragglePacket.NetworkTests
