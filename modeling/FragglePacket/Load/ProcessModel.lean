import Mathlib.Algebra.Order.Field.Rat
import FragglePacket.Text.Decimal

/-! Whether a directional collapse is put down to the network. Rates are exact rationals in
megabits per second. -/

namespace FragglePacket.Load

open FragglePacket.Text

inductive ProcessModel where
  | nativeBidir
  | pairedProcess
  | applicationRepresentative
deriving DecidableEq

structure ProcessModelTrial where
  model : ProcessModel
  targetMbpsPerDirection : ℚ
  uploadMbps : Option ℚ
  downloadMbps : Option ℚ

namespace ProcessModelTrial

def combinedMbps (trial : ProcessModelTrial) : Option ℚ :=
  match trial.uploadMbps, trial.downloadMbps with
  | some up, some down => some (up + down)
  | _, _ => none

/-- The smaller direction as a fraction of the larger. -/
def directionalBalance (trial : ProcessModelTrial) : Option ℚ :=
  match trial.uploadMbps, trial.downloadMbps with
  | some up, some down =>
    let lo := if up ≤ down then up else down
    let hi := if up ≤ down then down else up
    if hi ≤ 0 then none else some (lo / hi)
  | _, _ => none

end ProcessModelTrial

def imbalanceMaterialThreshold : ℚ := 17 / 20

def sharedCapacityToleranceFraction : ℚ := 3 / 20

inductive CollapseVerdict where
  | withheld (missing : List String)
  | methodSpecificUnfairness (detail : String)
  | reproducesAcrossProcessModels (detail : String)
  | noCollapseObserved
deriving DecidableEq

/-- The note on capacity that both models share. -/
def combinedNote (native paired : ProcessModelTrial) : Option String :=
  match native.combinedMbps, paired.combinedMbps with
  | some n, some p =>
    if 0 < n then
      let relDiff := |p - n| / n
      if relDiff ≤ sharedCapacityToleranceFraction then
        some ("combined throughput was similar across models (" ++ fixed 1 n ++ " vs " ++
          fixed 1 p ++ " Mbps, " ++ fixed 1 (relDiff * 100) ++
          "% apart), consistent with shared-capacity saturation rather than a model-specific effect on total capacity")
      else none
    else none
  | _, _ => none

def withNote (detail : String) : Option String → String
  | some note => detail ++ "; " ++ note
  | none => detail

def judgeCollapse : Option ProcessModelTrial → Option ProcessModelTrial → CollapseVerdict
  | some native, some paired =>
    match native.directionalBalance, paired.directionalBalance with
    | some nativeBalance, some pairedBalance =>
      let nativeCollapsed := decide (nativeBalance < imbalanceMaterialThreshold)
      let pairedCollapsed := decide (pairedBalance < imbalanceMaterialThreshold)
      if !nativeCollapsed && !pairedCollapsed then .noCollapseObserved
      else if nativeCollapsed && pairedCollapsed then
        .reproducesAcrossProcessModels (withNote
          ("directional imbalance reproduced in both process models (native balance=" ++
            fixed 2 nativeBalance ++
            ", paired balance=" ++ fixed 2 pairedBalance ++ ")") (combinedNote native paired))
      else
        let (collapsedModel, collapsedBalance, cleanModel, cleanBalance) :=
          if pairedCollapsed then ("paired_process", pairedBalance, "native_bidir", nativeBalance)
          else ("native_bidir", nativeBalance, "paired_process", pairedBalance)
        .methodSpecificUnfairness (withNote
          (collapsedModel ++ " showed a directional collapse (balance=" ++
            fixed 2 collapsedBalance ++
            ") that did not reproduce in " ++ cleanModel ++ " (balance=" ++ fixed 2 cleanBalance ++
            ") at the same target rate; the harness's process model is the better explanation, not the network")
          (combinedNote native paired))
    | _, _ =>
      .withheld ["both directions must be measured in both process models to compute balance"]
  | native, paired => .withheld
      ((if native.isNone then ["process_model:native_bidir"] else []) ++
        if paired.isNone then ["process_model:paired_process"] else [])

inductive TrialDirection where
  | upload
  | download
deriving DecidableEq

namespace ProcessModelTrial

variable (trial : ProcessModelTrial)

/-- The direction with the lower throughput. -/
def weakerDirection : Option TrialDirection :=
  match trial.uploadMbps, trial.downloadMbps with
  | some up, some down =>
    if up < down then some .upload else if down < up then some .download else none
  | _, _ => none

/-- The balance is known and below the threshold. -/
def Collapsed : Prop :=
  ∃ balance, trial.directionalBalance = some balance ∧ balance < imbalanceMaterialThreshold

variable {trial}

/-- A collapse has a direction. -/
theorem Collapsed.exists_weakerDirection (collapsed : trial.Collapsed) :
    ∃ direction, trial.weakerDirection = some direction := by
  obtain ⟨balance, balanced, below⟩ := collapsed
  rw [directionalBalance] at balanced
  rw [weakerDirection]
  cases uploaded : trial.uploadMbps with
  | none => simp [uploaded] at balanced
  | some up =>
    cases downloaded : trial.downloadMbps with
    | none => simp [uploaded, downloaded] at balanced
    | some down =>
      rcases lt_trichotomy up down with less | rfl | more
      · exact ⟨.upload, if_pos less⟩
      · -- equal rates have the balance one
        simp only [uploaded, downloaded, le_refl, if_true] at balanced
        split at balanced
        · cases balanced
        · rename_i positive
          obtain rfl := Option.some.inj balanced
          rw [div_self (ne_of_gt (not_le.mp positive))] at below
          exact absurd below (by norm_num [imbalanceMaterialThreshold])
      · exact ⟨.download, by simp [more, not_lt.mpr more.le]⟩

end ProcessModelTrial

/-- A collapse is said to reproduce just when both trials collapsed. -/
theorem reproduces_iff (native paired : Option ProcessModelTrial) :
    (∃ detail, judgeCollapse native paired = .reproducesAcrossProcessModels detail) ↔
      ∃ n p, native = some n ∧ paired = some p ∧ n.Collapsed ∧ p.Collapsed := by
  cases native with
  | none => simp [judgeCollapse]
  | some n =>
    cases paired with
    | none => simp [judgeCollapse]
    | some p =>
      cases nativeBalance : n.directionalBalance with
      | none => simp [judgeCollapse, ProcessModelTrial.Collapsed, nativeBalance]
      | some first =>
        cases pairedBalance : p.directionalBalance with
        | none => simp [judgeCollapse, ProcessModelTrial.Collapsed, nativeBalance, pairedBalance]
        | some second =>
          by_cases nativeCollapsed : first < imbalanceMaterialThreshold <;>
            by_cases pairedCollapsed : second < imbalanceMaterialThreshold <;>
            simp [judgeCollapse, ProcessModelTrial.Collapsed, nativeBalance, pairedBalance,
              nativeCollapsed, pairedCollapsed]

/-- Where the verdict names the network, the same collapse is in both trials. -/
def AttributesSoundly (native paired : Option ProcessModelTrial) : Prop :=
  ∀ detail, judgeCollapse native paired = .reproducesAcrossProcessModels detail →
    ∃ n p direction, native = some n ∧ paired = some p ∧
      n.targetMbpsPerDirection = p.targetMbpsPerDirection ∧
      n.weakerDirection = some direction ∧ p.weakerDirection = some direction ∧ n.Collapsed ∧
        p.Collapsed

/-- The verdict is sound exactly for trials of which at least one did not collapse, or which
had one target and collapsed in one direction. -/
theorem attributes_soundly_iff (native paired : Option ProcessModelTrial) :
    AttributesSoundly native paired ↔
      ∀ n p, native = some n → paired = some p → n.Collapsed → p.Collapsed →
        n.targetMbpsPerDirection = p.targetMbpsPerDirection ∧
          n.weakerDirection = p.weakerDirection := by
  constructor
  · rintro sound n p rfl rfl nativeCollapsed pairedCollapsed
    obtain ⟨detail, verdict⟩ :=
      (reproduces_iff _ _).mpr ⟨n, p, rfl, rfl, nativeCollapsed, pairedCollapsed⟩
    obtain ⟨first, second, direction, isFirst, isSecond, target, nativeWeaker, pairedWeaker, -⟩ :=
      sound detail verdict
    obtain rfl := Option.some.inj isFirst
    obtain rfl := Option.some.inj isSecond
    exact ⟨target, nativeWeaker.trans pairedWeaker.symm⟩
  · intro same detail verdict
    obtain ⟨n, p, rfl, rfl, nativeCollapsed, pairedCollapsed⟩ :=
      (reproduces_iff native paired).mp ⟨detail, verdict⟩
    obtain ⟨target, weaker⟩ := same n p rfl rfl nativeCollapsed pairedCollapsed
    obtain ⟨direction, nativeWeaker⟩ := nativeCollapsed.exists_weakerDirection
    exact ⟨n, p, direction, rfl, rfl, target, nativeWeaker, weaker ▸ nativeWeaker, nativeCollapsed,
      pairedCollapsed⟩

def exampleTrial (model : ProcessModel) (target up down : ℚ) : ProcessModelTrial :=
  ⟨model, target, some up, some down⟩

def weakUpload : ProcessModelTrial := exampleTrial .nativeBidir 100 20 100
def weakDownload : ProcessModelTrial := exampleTrial .pairedProcess 300 300 60

/-- A weak upload, and a weak download at another target, pass for one collapse. -/
theorem opposite_collapses_reproduce :
    judgeCollapse (some weakUpload) (some weakDownload) = .reproducesAcrossProcessModels
        "directional imbalance reproduced in both process models (native balance=0.20, paired balance=0.20)" ∧
      weakUpload.targetMbpsPerDirection ≠ weakDownload.targetMbpsPerDirection ∧
      weakUpload.weakerDirection ≠ weakDownload.weakerDirection ∧
      ¬ AttributesSoundly (some weakUpload) (some weakDownload) := by
  have verdict : judgeCollapse (some weakUpload) (some weakDownload) =
      .reproducesAcrossProcessModels
      "directional imbalance reproduced in both process models (native balance=0.20, paired balance=0.20)" := by
    decide +kernel
  refine ⟨verdict, by decide +kernel, by decide +kernel, fun sound => ?_⟩
  obtain ⟨n, p, direction, isNative, isPaired, -, nativeWeaker, pairedWeaker, -⟩ := sound _ verdict
  obtain rfl := Option.some.inj isNative
  obtain rfl := Option.some.inj isPaired
  exact absurd (nativeWeaker.trans pairedWeaker.symm) (by decide +kernel)

end FragglePacket.Load
