import Mathlib.Data.List.Basic

/-! The matrix of AP and client cells a compatibility comparison is made over. -/

namespace FragglePacket.NetworkTests

structure ApIdentity where
  label : String
  band : Option String
  channel : Option UInt32
  deriving DecidableEq

inductive ApComparison where
  | sameApSameRadio
  | sameApDifferentRadio
  | differentAp
  | unavailable
  deriving DecidableEq

def ApIdentity.compare : Option ApIdentity → Option ApIdentity → ApComparison
  | some b, some a =>
    if b.label ≠ a.label then .differentAp
    else if b.band = a.band then .sameApSameRadio
    else .sameApDifferentRadio
  | _, _ => .unavailable

inductive RadioMode where
  | be
  | ax
  deriving DecidableEq

inductive ClientHardwareGeneration where
  | wifi7
  | wifi6e
  | other
  deriving DecidableEq

structure ApContext where
  apIdentity : Option ApIdentity
  model : Option String
  radioMode : Option RadioMode
  deriving DecidableEq

structure MatrixCell where
  label : String
  ap : ApContext
  clientHardwareGeneration : Option ClientHardwareGeneration
  deriving DecidableEq

inductive RequiredCell where
  | wifi7ApBeMode
  | sameApAxMode
  | wifi6eApControl
  | nativeWifi7Client
  | nativeWifi6eClient
  deriving DecidableEq

namespace RequiredCell

def label : RequiredCell → String
  | wifi7ApBeMode => "Wi-Fi 7 AP in BE mode"
  | sameApAxMode => "the same AP/radio in AX mode"
  | wifi6eApControl => "a Wi-Fi 6E AP control"
  | nativeWifi7Client => "a native Wi-Fi 7 client"
  | nativeWifi6eClient => "a native Wi-Fi 6E client"

/-- Whether one cell by itself can stand in the slot. -/
def «matches» (required : RequiredCell) (cell : MatrixCell) : Bool :=
  match required with
  | wifi7ApBeMode => cell.ap.radioMode = some .be
  | sameApAxMode => cell.ap.radioMode = some .ax
  | wifi6eApControl => cell.ap.radioMode = some .ax && cell.ap.model.isSome
  | nativeWifi7Client => cell.clientHardwareGeneration = some .wifi7
  | nativeWifi6eClient => cell.clientHardwareGeneration = some .wifi6e

end RequiredCell

def requiredCells : List RequiredCell :=
  [.wifi7ApBeMode, .sameApAxMode, .wifi6eApControl, .nativeWifi7Client, .nativeWifi6eClient]

structure CompatibilityMatrix where
  cells : List MatrixCell

inductive CompatibilityVerdict where
  | comparable (presentCells : List String)
  | insufficientCells (missing : List String)
  deriving DecidableEq

namespace CompatibilityMatrix

def missing (m : CompatibilityMatrix) : List String :=
  (requiredCells.filter fun req => !m.cells.any req.matches).map RequiredCell.label

def verdict (m : CompatibilityMatrix) : CompatibilityVerdict :=
  if m.missing ≠ [] then .insufficientCells m.missing else .comparable (m.cells.map (·.label))

/-- A comparison is offered. -/
def Offered (m : CompatibilityMatrix) : Prop := ∃ presentCells, m.verdict = .comparable presentCells

/-- A cell that matches the slot has an AP of this identity. -/
def Known (m : CompatibilityMatrix) (required : RequiredCell) (identity : ApIdentity) : Prop :=
  ∃ cell ∈ m.cells, required.matches cell ∧ cell.ap.apIdentity = some identity

/-- Both modes are known of one AP. -/
def Switched (m : CompatibilityMatrix) (identity : ApIdentity) : Prop :=
  m.Known .wifi7ApBeMode identity ∧ m.Known .sameApAxMode identity

/-- There is an AP known in both modes and one known as a control, and not just one AP in all. -/
structure KnowsTwoAps (m : CompatibilityMatrix) : Prop where
  switched : ∃ identity, m.Switched identity
  controlled : ∃ identity, m.Known .wifi6eApControl identity
  two : ∃ x y, (m.Switched x ∨ m.Known .wifi6eApControl x) ∧
    (m.Switched y ∨ m.Known .wifi6eApControl y) ∧
    x.label ≠ y.label

end CompatibilityMatrix

/-- Cells in the three AP slots: one AP in either mode, and another AP as the control. -/
structure ApSlots (m : CompatibilityMatrix) where
  beMode : MatrixCell
  axMode : MatrixCell
  control : MatrixCell
  ap : ApIdentity
  present : beMode ∈ m.cells ∧ axMode ∈ m.cells ∧ control ∈ m.cells
  beMode_matches : RequiredCell.wifi7ApBeMode.matches beMode
  axMode_matches : RequiredCell.sameApAxMode.matches axMode
  control_matches : RequiredCell.wifi6eApControl.matches control
  beMode_ap : beMode.ap.apIdentity = some ap
  axMode_ap : axMode.ap.apIdentity = some ap
  control_ap : ApIdentity.compare (some ap) control.ap.apIdentity = .differentAp

section Choice
variable {α β : Type} {f : α → β} {left right : α → Prop}

/-- One can be chosen from each of two kinds so that they differ under a map exactly when both
kinds have members and their members differ somewhere. -/
theorem exists_apart_iff :
    (∃ x, left x ∧ ∃ y, right y ∧ f x ≠ f y) ↔
      (∃ x, left x) ∧ (∃ y, right y) ∧ ∃ x y, (left x ∨ right x) ∧ (left y ∨ right y) ∧
        f x ≠ f y := by
  constructor
  · rintro ⟨x, leftX, y, rightY, apart⟩
    exact ⟨⟨x, leftX⟩, ⟨y, rightY⟩, x, y, Or.inl leftX, Or.inr rightY, apart⟩
  · rintro ⟨⟨l, leftL⟩, ⟨r, rightR⟩, x, y, someX, someY, apart⟩
    by_cases same : f l = f r
    · -- one of the two that differ is not like the pair, and stands in for its own kind
      obtain ⟨z, someZ, differs⟩ : ∃ z, (left z ∨ right z) ∧ f z ≠ f l := by
        by_cases like : f x = f l
        · exact ⟨y, someY, fun alike => apart (like.trans alike.symm)⟩
        · exact ⟨x, someX, like⟩
      rcases someZ with leftZ | rightZ
      · exact ⟨z, leftZ, r, rightR, fun alike => differs (alike.trans same.symm)⟩
      · exact ⟨l, leftL, z, rightZ, differs.symm⟩
    · exact ⟨l, leftL, r, rightR, same⟩

end Choice

section Slots
variable {m : CompatibilityMatrix}

theorem offered_iff :
    m.Offered ↔ ∀ required : RequiredCell, ∃ cell ∈ m.cells, required.matches cell := by
  have complete : m.missing = [] ↔ ∀ required : RequiredCell, ∃ cell ∈ m.cells,
      required.matches cell := by
    have listed : ∀ required, required ∈ requiredCells := by
      intro required
      cases required <;> decide
    simp only [CompatibilityMatrix.missing, List.map_eq_nil_iff, List.filter_eq_nil_iff,
      Bool.not_eq_true', Bool.not_eq_false, List.any_eq_true]
    exact ⟨fun every required => every required (listed required), fun every required _ =>
      every required⟩
  rw [← complete, CompatibilityMatrix.Offered, CompatibilityMatrix.verdict]
  constructor
  · rintro ⟨present, offered⟩
    by_contra lacking
    rw [if_pos lacking] at offered
    cases offered
  · intro nothing
    exact ⟨_, if_neg (not_not.mpr nothing)⟩

theorem compare_differentAp_iff {b : ApIdentity} {after : Option ApIdentity} :
    ApIdentity.compare (some b) after = .differentAp ↔ ∃ a, after = some a ∧ b.label ≠ a.label := by
  cases after with
  | none => simp [ApIdentity.compare]
  | some a =>
    simp only [ApIdentity.compare, Option.some.injEq, exists_eq_left']
    split
    · simp_all
    · split <;> simp_all

theorem apSlots_iff :
    Nonempty (ApSlots m) ↔ ∃ x, m.Switched x ∧ ∃ y,
      m.Known .wifi6eApControl y ∧ x.label ≠ y.label := by
  constructor
  · rintro ⟨slots⟩
    obtain ⟨y, known, apart⟩ := compare_differentAp_iff.mp slots.control_ap
    exact ⟨slots.ap, ⟨⟨slots.beMode, slots.present.1, slots.beMode_matches, slots.beMode_ap⟩,
      ⟨slots.axMode, slots.present.2.1, slots.axMode_matches, slots.axMode_ap⟩⟩,
      y, ⟨slots.control, slots.present.2.2, slots.control_matches, known⟩, apart⟩
  · rintro ⟨x, ⟨⟨be, beMem, beMatches, beAp⟩, ⟨ax, axMem, axMatches, axAp⟩⟩, y,
      ⟨control, mem, controls, known⟩, apart⟩
    exact ⟨⟨be, ax, control, x, ⟨beMem, axMem, mem⟩, beMatches, axMatches, controls, beAp, axAp,
      compare_differentAp_iff.mpr ⟨y, known, apart⟩⟩⟩

theorem apSlots_iff_knowsTwoAps : Nonempty (ApSlots m) ↔ m.KnowsTwoAps := by
  rw [apSlots_iff, exists_apart_iff]
  exact ⟨fun ⟨switched, controlled, two⟩ => ⟨switched, controlled, two⟩,
    fun ⟨switched, controlled, two⟩ => ⟨switched, controlled, two⟩⟩

/-- A comparison that is offered has its three APs exactly where some slot is matched by no
cell, which withholds it, or two APs are known. -/
theorem comparable_has_slots_iff (m : CompatibilityMatrix) :
    (m.Offered → Nonempty (ApSlots m)) ↔
      (∃ required : RequiredCell, ∀ cell ∈ m.cells, required.matches cell = false) ∨
        m.KnowsTwoAps := by
  rw [apSlots_iff_knowsTwoAps, offered_iff, imp_iff_not_or]
  simp

end Slots

section Instances

def c460 (radioMode : RadioMode) : ApContext :=
  ⟨some ⟨"ap-1f", some "6GHz", some 197⟩, some "C-460", some radioMode⟩

/-- One AP, once in either mode. -/
def oneApMatrix : CompatibilityMatrix where
  cells := [⟨"be-mode", c460 .be, some .wifi7⟩, ⟨"ax-mode-same-ap", c460 .ax, some .wifi6e⟩]

/-- The AX-mode cell fills its own slot and that of the Wi-Fi 6E control. -/
theorem one_ap_is_comparable : ¬ (oneApMatrix.Offered → Nonempty (ApSlots oneApMatrix)) := by
  intro sound
  have offered : oneApMatrix.Offered := ⟨["be-mode", "ax-mode-same-ap"], by decide⟩
  obtain ⟨x, ⟨-, ax, axMem, axMatches, axAp⟩, y, ⟨control, mem, -, known⟩, apart⟩ :=
    apSlots_iff.mp (sound offered)
  simp only [oneApMatrix, List.mem_cons, List.not_mem_nil, or_false] at axMem mem
  have label : ∀ cell : MatrixCell, cell = ⟨"be-mode", c460 .be, some .wifi7⟩ ∨
      cell = ⟨"ax-mode-same-ap", c460 .ax, some .wifi6e⟩ →
      ∀ identity, cell.ap.apIdentity = some identity → identity.label = "ap-1f" := by
    rintro cell (rfl | rfl) identity found
    · exact congrArg ApIdentity.label (Option.some.inj found).symm
    · exact congrArg ApIdentity.label (Option.some.inj found).symm
  exact apart ((label ax axMem x axAp).trans (label control mem y known).symm)

end Instances

end FragglePacket.NetworkTests
