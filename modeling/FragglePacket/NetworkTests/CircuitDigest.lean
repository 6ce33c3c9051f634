import Mathlib.Data.Multiset.MapFold
import Mathlib.Data.String.Basic
import FragglePacket.Lists.Framing
import FragglePacket.Lists.SortByKey
import FragglePacket.NetworkTests.CircuitWorkflow
import FragglePacket.Text.Str

/-! The digest of a circuit manifest: what it depends on, and what it tells apart. -/

namespace FragglePacket.NetworkTests

open FragglePacket.Lists FragglePacket.Text

/-- The states in the order of their declaration, which is the derived order. -/
def CircuitState.discriminant : CircuitState → Nat
  | aOnly => 0
  | bOnly => 1
  | dualActive => 2

theorem CircuitState.discriminant_injective : Function.Injective CircuitState.discriminant := by
  intro first second same
  cases first <;> cases second <;> first | rfl | cases same

instance : LinearOrder CircuitState :=
  LinearOrder.lift' CircuitState.discriminant CircuitState.discriminant_injective

/-- The format `{:?}` of measurements and of strings; it escapes a string without loss. -/
structure DebugText where
  f64 : ℚ → String
  str : String → String
  injective : Function.Injective str

def debugOption {α : Type*} (text : α → String) : Option α → String
  | none => "None"
  | some value => "Some(" ++ text value ++ ")"

theorem debugOption_eq_iff {α : Type*} (text : α → String) {first second : Option α} :
    debugOption text first = debugOption text second ↔ first.map text = second.map text := by
  have apart (value : α) : "None" ≠ "Some(" ++ text value ++ ")" := fun same => by
    simpa using congrArg (fun written : String => written.toList.head?) same
  cases first with
  | none =>
    cases second with
    | none => exact iff_of_true rfl rfl
    | some value => exact iff_of_false (apart value) (Option.some_ne_none _).symm
  | some value =>
    cases second with
    | none => exact iff_of_false (apart value).symm (Option.some_ne_none _)
    | some other =>
      rw [debugOption, debugOption, String.append_left_inj, String.append_right_inj,
        Option.map_some, Option.map_some, Option.some.injEq]

theorem debugOption_injective {α : Type*} {text : α → String}
    (injective : Function.Injective text) :
    Function.Injective (debugOption text) := fun _ _ same =>
  Option.map_injective injective ((debugOption_eq_iff text).mp same)

/-- A hasher, taken as injective on the sequence of strings that is written to it. -/
structure StringHasher (Digest : Type*) where
  finish : List String → Digest
  injective : Function.Injective finish

section Digest
variable (debug : DebugText)

def memberStrings (m : MemberTelemetry) : List String :=
  [m.member, debugOption debug.f64 m.utilizationPct, debugOption toString m.drops,
    debugOption toString m.policerDrops, debugOption toString m.errors,
    debugOption debug.str m.natOwner, debugOption toString m.routeChanges]

def headerStrings (p : CircuitPhase) : List String :=
  [p.circuitState.asStr, p.clientSummary, debugOption debug.f64 p.achievedMbps,
    debugOption debug.f64 p.lossPct]

/-- What a phase writes: its header, and its members in the order of their names. -/
def phaseStrings (p : CircuitPhase) : List String :=
  headerStrings debug p ++ (sortByKey MemberTelemetry.member p.members).flatMap
    (memberStrings debug)

namespace CircuitManifest

/-- The strings that are written to the hasher, with the phases in the order of their states. -/
def hashed (m : CircuitManifest) : List String :=
  m.bundleName :: (sortByKey CircuitPhase.circuitState m.phases).flatMap (phaseStrings debug)

def digest {Digest : Type*} (hasher : StringHasher Digest) (m : CircuitManifest) : Digest :=
  hasher.finish (m.hashed debug)

end CircuitManifest

/-- How many phases a manifest has of each state that it has. -/
def byState (m : CircuitManifest) (state : String) : Option Nat :=
  let count := m.phases.countP fun p => p.circuitState.asStr = state
  if count = 0 then none else some count

end Digest

section Content
variable (debug : DebugText)

/-- What a manifest says of a member, with measurements as their texts. -/
def memberContent (m : MemberTelemetry) :
    String × Option String × Option Nat × Option Nat × Option Nat × Option String × Option Nat :=
  (m.member, m.utilizationPct.map debug.f64, m.drops, m.policerDrops, m.errors, m.natOwner,
    m.routeChanges)

def headerContent (p : CircuitPhase) : CircuitState × String × Option String × Option String :=
  (p.circuitState, p.clientSummary, p.achievedMbps.map debug.f64, p.lossPct.map debug.f64)

/-- A phase with its members in no order. -/
def phaseContent (p : CircuitPhase) :=
  (headerContent debug p, Multiset.ofList (p.members.map (memberContent debug)))

/-- The name of a manifest, and its phases in no order. -/
def CircuitManifest.content (m : CircuitManifest) :=
  (m.bundleName, Multiset.ofList (m.phases.map (phaseContent debug)))

/-- A phase with its members in another order. -/
structure SamePhase (p other : CircuitPhase) : Prop where
  header : other = { p with members := other.members }
  members : p.members.Perm other.members

/-- A manifest with its phases, and the members of each, in another order. -/
structure Reordered (m other : CircuitManifest) : Prop where
  name : other.bundleName = m.bundleName
  phases : ∃ order, m.phases.Perm order ∧ List.Forall₂ SamePhase order other.phases

/-- Phases of one state are alike, and so are members of one name in a phase. -/
structure Untied (m : CircuitManifest) : Prop where
  phases : ∀ p ∈ m.phases, ∀ q ∈ m.phases, p.circuitState = q.circuitState →
    phaseContent debug p = phaseContent debug q
  members : ∀ p ∈ m.phases, ∀ a ∈ p.members, ∀ b ∈ p.members, a.member = b.member →
    memberContent debug a = memberContent debug b

end Content

section Rows
variable {debug : DebugText}

/-- The header of a phase, and its members as they are written. -/
def phaseRows (debug : DebugText) (p : CircuitPhase) : List String × List (List String) :=
  (headerStrings debug p, (sortByKey MemberTelemetry.member p.members).map (memberStrings debug))

theorem phaseStrings_rows (p : CircuitPhase) :
    phaseStrings debug p = (phaseRows debug p).1 ++ (phaseRows debug p).2.flatten := by
  rw [phaseStrings, phaseRows, List.flatMap_def]

/-- The name of a state. -/
def IsState (text : String) : Prop := ∃ state : CircuitState, text = state.asStr

theorem debugOption_not_state {α : Type*} (text : α → String) (value : Option α) :
    ¬ IsState (debugOption text value) := by
  rintro ⟨state, same⟩
  have first := congrArg (fun written : String => written.toList.head?) same
  cases value with
  | none => cases state <;> simp [debugOption, CircuitState.asStr] at first
  | some value => cases state <;> simp [debugOption, CircuitState.asStr] at first

theorem phaseRows_proper (p : CircuitPhase) :
    ∀ item ∈ recordItems (phaseRows debug p), item.Proper IsState 4 7 := by
  intro item listed
  rcases List.mem_cons.mp listed with rfl | row
  · refine ⟨rfl, fun field first => ?_⟩
    exact ⟨p.circuitState, (Option.some.inj first).symm⟩
  · obtain ⟨strings, written, rfl⟩ := List.mem_map.mp row
    obtain ⟨m, -, rfl⟩ := List.mem_map.mp written
    refine ⟨rfl, ?_⟩
    simp only [memberStrings, List.tail_cons, List.forall_mem_cons, debugOption_not_state,
      not_false_eq_true, true_and]
    exact fun field none => absurd none List.not_mem_nil

/-- The strings of a manifest tell its phases apart, in the order in which they are written. -/
theorem hashed_eq_iff {m other : CircuitManifest} : m.hashed debug = other.hashed debug ↔
    m.bundleName = other.bundleName ∧
      (sortByKey CircuitPhase.circuitState m.phases).map (phaseRows debug) =
        (sortByKey CircuitPhase.circuitState other.phases).map (phaseRows debug) := by
  have written (phases : List CircuitPhase) : phases.flatMap (phaseStrings debug) =
      (phases.map (phaseRows debug)).flatMap fun record => record.1 ++ record.2.flatten := by
    rw [List.flatMap_map]
    exact List.flatMap_congr fun p _ => phaseStrings_rows p
  have proper (phases : List CircuitPhase) : ∀ record ∈ phases.map (phaseRows debug),
      ∀ item ∈ recordItems record, item.Proper IsState 4 7 := fun record listed => by
    obtain ⟨p, -, rfl⟩ := List.mem_map.mp listed
    exact phaseRows_proper p
  rw [CircuitManifest.hashed, CircuitManifest.hashed, List.cons.injEq, written, written]
  refine and_congr_right fun _ => ⟨fun same => ?_, fun same => by rw [same]⟩
  exact records_injective (by decide) (by decide) (proper _) (proper _) same

theorem memberStrings_eq_iff {a b : MemberTelemetry} :
    memberStrings debug a = memberStrings debug b ↔
      memberContent debug a = memberContent debug b := by
  simp only [memberStrings, memberContent, List.cons.injEq, Prod.mk.injEq,
    debugOption_eq_iff debug.f64, (debugOption_injective toString_injective).eq_iff,
    (debugOption_injective debug.injective).eq_iff, and_true]

theorem headerStrings_eq_iff {p q : CircuitPhase} :
    headerStrings debug p = headerStrings debug q ↔
      headerContent debug p = headerContent debug q := by
  have states : p.circuitState.asStr = q.circuitState.asStr ↔ p.circuitState = q.circuitState := by
    cases p.circuitState <;> cases q.circuitState <;> decide
  simp only [headerStrings, headerContent, List.cons.injEq, Prod.mk.injEq,
    debugOption_eq_iff debug.f64, states, and_true]

/-- Lists that are written alike are alike in whatever the writing tells. -/
theorem map_eq_of_factorsThrough {α β γ : Type*} {text : α → β} {read : α → γ}
    (readable : read.FactorsThrough text) {items others : List α}
    (same : items.map text = others.map text) : items.map read = others.map read := by
  cases items with
  | nil => rw [List.map_eq_nil_iff.mp same.symm]
  | cons item items =>
    have : Nonempty γ := ⟨read item⟩
    obtain ⟨decode, rfl⟩ := (Function.factorsThrough_iff read).mp readable
    rw [← List.map_map, ← List.map_map, same]

/-- What is written of a phase tells what the phase says. -/
theorem phaseContent_readable : (phaseContent debug).FactorsThrough (phaseRows debug) := by
  intro p q same
  obtain ⟨header, rows⟩ := Prod.mk.inj same
  have members := map_eq_of_factorsThrough (fun a b => memberStrings_eq_iff.mp) rows
  have perm := ((sortByKey_perm p.members).symm.map (memberContent debug)).trans
    ((List.Perm.of_eq members).trans ((sortByKey_perm q.members).map (memberContent debug)))
  exact Prod.ext (headerStrings_eq_iff.mp header) (Multiset.coe_eq_coe.mpr perm)

theorem circuitState_of_content {p q : CircuitPhase}
    (same : phaseContent debug p = phaseContent debug q) :
    p.circuitState = q.circuitState := congrArg (fun content => content.1.1) same

/-- Phases that say the same are written alike, where members of one name say the same. -/
theorem phaseRows_eq_of_content {p q : CircuitPhase}
    (same : phaseContent debug p = phaseContent debug q) (untied : ∀ a ∈ q.members, ∀ b ∈ q.members,
      a.member = b.member → memberContent debug a = memberContent debug b) :
    phaseRows debug p = phaseRows debug q := by
  obtain ⟨header, members⟩ := Prod.mk.inj same
  have perm : (p.members.map (memberContent debug)).Perm (q.members.map (memberContent debug)) :=
    Multiset.coe_eq_coe.mp members
  refine Prod.ext (headerStrings_eq_iff.mpr header)
    (sortByKey_map_eq ?_ fun a listed b inPhase alike => ?_)
  · have names := perm.map Prod.fst
    rwa [List.map_map, List.map_map] at names
  · obtain ⟨own, inOther, tells⟩ := List.mem_map.mp (perm.mem_iff.mp (List.mem_map_of_mem listed))
    have name : own.member = a.member := congrArg Prod.fst tells
    rw [memberStrings_eq_iff, ← tells]
    exact untied own inOther b inPhase (name.trans alike)

/-- Manifests that are written alike say the same. -/
theorem content_eq_of_hashed_eq {m other : CircuitManifest}
    (same : m.hashed debug = other.hashed debug) :
    m.content debug = other.content debug := by
  obtain ⟨name, rows⟩ := hashed_eq_iff.mp same
  have phases := map_eq_of_factorsThrough phaseContent_readable rows
  have perm := ((sortByKey_perm m.phases).symm.map (phaseContent debug)).trans
    ((List.Perm.of_eq phases).trans ((sortByKey_perm other.phases).map (phaseContent debug)))
  exact Prod.ext name (Multiset.coe_eq_coe.mpr perm)

end Rows

section Order
variable {debug : DebugText} {m other : CircuitManifest} {p alike : CircuitPhase}

theorem SamePhase.refl (p : CircuitPhase) : SamePhase p p := ⟨rfl, List.Perm.refl p.members⟩

theorem SamePhase.circuitState_eq (same : SamePhase p alike) :
    alike.circuitState = p.circuitState := by
  rw [same.header]

theorem SamePhase.phaseContent_eq (same : SamePhase p alike) :
    phaseContent debug alike = phaseContent debug p := by
  have header : headerContent debug alike = headerContent debug p := by
    rw [same.header]
    rfl
  exact Prod.ext header (Multiset.coe_eq_coe.mpr (same.members.symm.map (memberContent debug)))

/-- The phases of a manifest in another order are the same in what the
order of members leaves alone. -/
theorem Reordered.map_perm (same : Reordered m other) {γ : Type*} {read : CircuitPhase → γ}
    (kept : ∀ p alike, SamePhase p alike → read alike = read p) :
    (other.phases.map read).Perm (m.phases.map read) := by
  obtain ⟨order, shuffled, pairs⟩ := same.phases
  have written : List.Forall₂ Eq (order.map read) (other.phases.map read) := by
    rw [List.forall₂_map_left_iff, List.forall₂_map_right_iff]
    exact pairs.imp fun p alike same => (kept p alike same).symm
  rw [List.forall₂_eq_eq_eq] at written
  exact (List.Perm.of_eq written.symm).trans (shuffled.map read).symm

theorem hashed_reordered (untied : Untied debug m) (same : Reordered m other) :
    other.hashed debug = m.hashed debug := by
  have contents : (other.phases.map (phaseContent debug)).Perm
      (m.phases.map (phaseContent debug)) :=
    same.map_perm fun p alike same => same.phaseContent_eq
  refine hashed_eq_iff.mpr ⟨same.name,
    sortByKey_map_eq (same.map_perm fun p alike same => same.circuitState_eq) ?_⟩
  intro p listed q inOwn states
  obtain ⟨own, isOwn, tells⟩ := List.mem_map.mp (contents.mem_iff.mp (List.mem_map_of_mem listed))
  have state : own.circuitState = q.circuitState := (circuitState_of_content tells).trans states
  exact phaseRows_eq_of_content (tells.symm.trans (untied.phases own isOwn q inOwn state))
    (untied.members q inOwn)

theorem Reordered.exists_first (listed : p ∈ m.phases) (same : SamePhase p alike) :
    ∃ rest, Reordered m { m with phases := alike :: rest } := by
  obtain ⟨front, back, split⟩ := List.append_of_mem listed
  have moved : m.phases.Perm (p :: (front ++ back)) := split ▸ List.perm_middle
  exact ⟨front ++ back, rfl, p :: (front ++ back), moved,
    .cons same (List.forall₂_same.mpr fun q _ => SamePhase.refl q)⟩

/-- Where no order changes what is written, phases of one state are written alike in every order of
their members: each may come first. -/
theorem phaseRows_eq_of_steady
    (steady : ∀ other, Reordered m other → other.hashed debug = m.hashed debug)
    {q second : CircuitPhase} (inPhases : p ∈ m.phases) (alsoInPhases : q ∈ m.phases)
    (same : SamePhase p alike) (alsoSame : SamePhase q second)
    (states : p.circuitState = q.circuitState) :
    phaseRows debug alike = phaseRows debug second := by
  obtain ⟨rest, first⟩ := Reordered.exists_first inPhases same
  obtain ⟨others, instead⟩ := Reordered.exists_first alsoInPhases alsoSame
  have written := (hashed_eq_iff.mp ((steady _ first).trans (steady _ instead).symm)).2
  refine eq_of_sortByKey_map_eq (fun p q rows => ?_) ?_ written
  · exact congrArg Prod.fst (headerStrings_eq_iff.mp (congrArg Prod.fst rows))
  · rw [same.circuitState_eq, alsoSame.circuitState_eq, states]

theorem untied_of_steady (steady : ∀ other, Reordered m other →
    other.hashed debug = m.hashed debug) : Untied debug m where
  phases p inPhases q alsoInPhases states :=
    phaseContent_readable (phaseRows_eq_of_steady steady inPhases alsoInPhases (SamePhase.refl p)
      (SamePhase.refl q) states)
  members p inPhases a inMembers b alsoInMembers names := by
    have first (c : MemberTelemetry) (listed : c ∈ p.members) :
        ∃ rest, SamePhase p { p with members := c :: rest } := by
      obtain ⟨front, back, split⟩ := List.append_of_mem listed
      exact ⟨front ++ back, rfl, split ▸ List.perm_middle⟩
    obtain ⟨rest, same⟩ := first a inMembers
    obtain ⟨others, alsoSame⟩ := first b alsoInMembers
    have written :=
      (Prod.mk.inj (phaseRows_eq_of_steady steady inPhases inPhases same alsoSame rfl)).2
    refine memberStrings_eq_iff.mp (eq_of_sortByKey_map_eq (fun c d rows => ?_) names written)
    exact congrArg Prod.fst (memberStrings_eq_iff.mp rows)

variable {Digest : Type*}

theorem digest_ne_of_content_ne (hasher : StringHasher Digest)
    (differs : other.content debug ≠ m.content debug) :
    other.digest debug hasher ≠ m.digest debug hasher := fun same =>
  differs (content_eq_of_hashed_eq (hasher.injective same))

/-- The digest tells manifests that say different things apart, and is the same for
every order of a manifest exactly where its phases of one state, and its members of one
name in a phase, say the same. -/
theorem digest_order_iff (debug : DebugText) (hasher : StringHasher Digest) (m : CircuitManifest) :
    ((∀ other, Reordered m other → other.digest debug hasher = m.digest debug hasher) ∧
      ∀ other : CircuitManifest, other.content debug ≠ m.content debug →
        other.digest debug hasher ≠ m.digest debug hasher) ↔ Untied debug m := by
  constructor
  · rintro ⟨steady, -⟩
    exact untied_of_steady fun other same => hasher.injective (steady other same)
  · intro untied
    exact ⟨fun other same => congrArg hasher.finish (hashed_reordered untied same),
      fun other differs => digest_ne_of_content_ne hasher differs⟩

/-- A phase of the first circuit without measurements. -/
def unmeasured (clientSummary : String) : CircuitPhase := ⟨.aOnly, clientSummary, none, none, []⟩

def quoted : DebugText where
  f64 _ := "1.0"
  str text := "\"" ++ text ++ "\""
  injective _ _ same := (String.append_right_inj _).mp ((String.append_left_inj _).mp same)

/-- Two phases of one circuit keep the order in which they came. -/
theorem repeated_state_keeps_order :
    Reordered ⟨"b", [unmeasured "first", unmeasured "second"]⟩
      ⟨"b", [unmeasured "second", unmeasured "first"]⟩ ∧
      CircuitManifest.digest quoted ⟨id, Function.injective_id⟩
        ⟨"b", [unmeasured "second", unmeasured "first"]⟩ ≠
        CircuitManifest.digest quoted ⟨id, Function.injective_id⟩
          ⟨"b", [unmeasured "first", unmeasured "second"]⟩ := by
  refine ⟨⟨rfl, _, List.Perm.swap _ _ _, List.forall₂_same.mpr fun p _ => SamePhase.refl p⟩, ?_⟩
  decide +kernel

end Order

end FragglePacket.NetworkTests
