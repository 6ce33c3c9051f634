import Mathlib.Algebra.Order.Ring.Unbundled.Rat
import FragglePacket.Text.Decimal

/-! A comparison of one WAN circuit with the other, from phases an operator ran and labeled. -/

namespace FragglePacket.NetworkTests

open FragglePacket.Text

inductive CircuitState where
  | aOnly
  | bOnly
  | dualActive
  deriving DecidableEq

def CircuitState.asStr : CircuitState → String
  | aOnly => "a-only"
  | bOnly => "b-only"
  | dualActive => "dual-active"

structure MemberTelemetry where
  member : String
  utilizationPct : Option ℚ
  drops : Option Nat
  policerDrops : Option Nat
  errors : Option Nat
  natOwner : Option String
  routeChanges : Option Nat

def MemberTelemetry.missingFields (telemetry : MemberTelemetry) : List String :=
  (if telemetry.utilizationPct.isNone then ["utilization_pct"] else []) ++
  (if telemetry.drops.isNone then ["drops"] else []) ++
  (if telemetry.policerDrops.isNone then ["policer_drops"] else []) ++
  (if telemetry.errors.isNone then ["errors"] else []) ++
  (if telemetry.natOwner.isNone then ["nat_owner"] else []) ++
  if telemetry.routeChanges.isNone then ["route_changes"] else []

structure CircuitPhase where
  circuitState : CircuitState
  clientSummary : String
  achievedMbps : Option ℚ
  lossPct : Option ℚ
  members : List MemberTelemetry

inductive CircuitVerdict where
  | memberSpecific (detail : String)
  | sharedRatherThanMemberSpecific (detail : String)
  | refused (missing : List String)

structure CircuitManifest where
  bundleName : String
  phases : List CircuitPhase

namespace CircuitManifest

def phase (m : CircuitManifest) (state : CircuitState) : Option CircuitPhase :=
  m.phases.find? (·.circuitState = state)

def achievedMbps (m : CircuitManifest) (state : CircuitState) : Option ℚ :=
  (m.phase state).bind (·.achievedMbps)

def lossPct (m : CircuitManifest) (state : CircuitState) : Option ℚ :=
  (m.phase state).bind (·.lossPct)

/-- The evidence absent from the phase of one state. -/
def missingOf (m : CircuitManifest) (required : CircuitState) : List String :=
  match m.phase required with
  | none => ["phase:" ++ required.asStr]
  | some p =>
    (if p.achievedMbps.isNone then [required.asStr ++ ":achieved_mbps"] else []) ++
    if p.members.isEmpty then [required.asStr ++ ":member_telemetry"]
    else p.members.flatMap fun mem => mem.missingFields.map fun f => required.asStr ++ ":" ++
      mem.member ++ ":" ++ f

def missing (m : CircuitManifest) : List String :=
  [CircuitState.aOnly, .bOnly, .dualActive].flatMap m.missingOf

end CircuitManifest

/-- The lower throughput over the higher; circuits that both carried nothing are alike. -/
def throughputRatio (a b : ℚ) : ℚ := if 0 < max a b then min a b / max a b else 1

def memberSpecificDetail (a b aLoss bLoss : ℚ) : String :=
  let (slow, fast) := if a ≤ b then ("A", "B") else ("B", "A")
  "member " ++ slow ++ " delivered " ++ fixed 1 (min a b) ++ " Mbps at " ++
    fixed 3 (if a ≤ b then aLoss else bLoss) ++ "% loss while member " ++ fast ++ " delivered " ++
    fixed 1 (max a b) ++ " Mbps at " ++ fixed 3 (if a ≤ b then bLoss else aLoss) ++
    "% loss; the asymmetry is large enough to implicate the slower member"

def sharedDetail (a b aLoss bLoss : ℚ) : String :=
  "both members performed within " ++ fixed 0 ((1 - throughputRatio a b) * 100) ++
    "% of each other (" ++
    fixed 1 a ++ " and " ++ fixed 1 b ++ " Mbps) with a " ++ fixed 3 |aLoss - bLoss| ++
    " point loss difference, so a single bad member is not supported; the shared edge, WLAN, or a common policy is the better explanation"

/-- One member is materially worse on either axis. -/
def Asymmetric (a b aLoss bLoss : ℚ) : Prop := throughputRatio a b < 3 / 5 ∨ 5 < |aLoss - bLoss|

instance (a b aLoss bLoss : ℚ) : Decidable (Asymmetric a b aLoss bLoss) :=
  inferInstanceAs (Decidable (_ ∨ _))

def compareCircuits (a b aLoss bLoss : ℚ) : CircuitVerdict :=
  if Asymmetric a b aLoss bLoss then .memberSpecific (memberSpecificDetail a b aLoss bLoss)
  else .sharedRatherThanMemberSpecific (sharedDetail a b aLoss bLoss)

def judgeCircuits (m : CircuitManifest) : CircuitVerdict :=
  if m.missing ≠ [] then .refused m.missing
  else compareCircuits ((m.achievedMbps .aOnly).getD 0) ((m.achievedMbps .bOnly).getD 0)
    ((m.lossPct .aOnly).getD 0) ((m.lossPct .bOnly).getD 0)

/-- The two circuits a verdict can name. -/
inductive Circuit where
  | a
  | b
  deriving DecidableEq

namespace Circuit

def label : Circuit → String
  | a => "A"
  | b => "B"

/-- The state in which the circuit is active alone. -/
def alone : Circuit → CircuitState
  | a => .aOnly
  | b => .bOnly

def other : Circuit → Circuit
  | a => b
  | b => a

/-- How a verdict's detail begins that implicates the circuit. -/
def blame (circuit : Circuit) : String := "member " ++ circuit.label ++ " delivered "

/-- The circuit named as slower, the first of two alike. -/
def slower (a b : ℚ) : Circuit := if a ≤ b then .a else .b

end Circuit

/-- The circuit a verdict implicates, read from its detail. -/
def CircuitVerdict.implicated : CircuitVerdict → Option Circuit
  | .memberSpecific detail =>
    [Circuit.a, .b].find? fun circuit => circuit.blame.toList.isPrefixOf detail.toList
  | .sharedRatherThanMemberSpecific _ => none
  | .refused _ => none

section Evidence

/-- Everything a verdict takes as evidence of a phase. -/
structure CircuitPhase.Evident (p : CircuitPhase) : Prop where
  achieved : p.achievedMbps.isSome
  attended : p.members ≠ []
  reported : ∀ mem ∈ p.members, mem.missingFields = []

/-- Each state has an evident phase. -/
def CircuitManifest.Complete (m : CircuitManifest) : Prop :=
  ∀ state, ∃ p, m.phase state = some p ∧ p.Evident

variable {m : CircuitManifest}

theorem missingOf_eq_nil_iff (state : CircuitState) :
    m.missingOf state = [] ↔ ∃ p, m.phase state = some p ∧ p.Evident := by
  rw [CircuitManifest.missingOf]
  cases found : m.phase state with
  | none => simp
  | some p =>
    constructor
    · intro nothing
      obtain ⟨rate, members⟩ := List.append_eq_nil_iff.mp nothing
      have present : p.members ≠ [] := by
        intro absent
        simp [absent] at members
      refine ⟨p, rfl, ?_, present, ?_⟩
      · simpa [Option.isSome_iff_ne_none] using rate
      · simpa [present] using members
    · rintro ⟨q, same, evident⟩
      obtain rfl := Option.some.inj same
      have rate : p.achievedMbps.isNone = false := Option.isNone_eq_false_iff.mpr evident.achieved
      simpa [rate, evident.attended] using evident.reported

theorem missing_eq_nil_iff : m.missing = [] ↔ m.Complete := by
  rw [CircuitManifest.missing, List.flatMap_eq_nil_iff]
  constructor
  · intro nothing state
    refine (missingOf_eq_nil_iff state).mp (nothing state ?_)
    cases state <;> decide
  · intro complete state _
    exact (missingOf_eq_nil_iff state).mpr (complete state)

theorem judgeCircuits_incomplete (incomplete : ¬ m.Complete) :
    judgeCircuits m = .refused m.missing :=
  if_pos (mt missing_eq_nil_iff.mp incomplete)

theorem judgeCircuits_complete (complete : m.Complete) :
    judgeCircuits m = compareCircuits ((m.achievedMbps .aOnly).getD 0)
      ((m.achievedMbps .bOnly).getD 0)
      ((m.lossPct .aOnly).getD 0) ((m.lossPct .bOnly).getD 0) :=
  if_neg (not_not.mpr (missing_eq_nil_iff.mpr complete))

/-- With all its evidence a manifest has a throughput for each state, from one of its phases. -/
theorem achieved_of_complete (complete : m.Complete) (state : CircuitState) :
    ∃ p ∈ m.phases, ∃ rate, p.achievedMbps = some rate ∧ m.achievedMbps state = some rate := by
  obtain ⟨p, found, evident⟩ := complete state
  obtain ⟨rate, measured⟩ := Option.isSome_iff_exists.mp evident.achieved
  refine ⟨p, List.mem_of_find?_eq_some found, rate, measured, ?_⟩
  rw [CircuitManifest.achievedMbps, found, Option.bind_some, measured]

end Evidence

end FragglePacket.NetworkTests
