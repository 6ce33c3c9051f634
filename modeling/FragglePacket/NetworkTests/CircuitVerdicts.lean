import Mathlib.Tactic.Linarith
import FragglePacket.NetworkTests.CircuitWorkflow

/-! Which circuit a verdict implicates, and when it is the worse of the two. -/

namespace FragglePacket.NetworkTests

/-- The throughput and the loss of another phase in place of this one's. -/
def CircuitPhase.measuredAs (p : CircuitPhase) : Option CircuitPhase → CircuitPhase
  | none => p
  | some source => { p with achievedMbps := source.achievedMbps, lossPct := source.lossPct }

namespace CircuitManifest

/-- A phase with its measurements exchanged for those of the other circuit's. -/
def exchangePhase (m : CircuitManifest) (p : CircuitPhase) : CircuitPhase :=
  match p.circuitState with
  | .aOnly => p.measuredAs (m.phase .bOnly)
  | .bOnly => p.measuredAs (m.phase .aOnly)
  | .dualActive => p

/-- The manifest with the measurements of the A-only and B-only phases exchanged. -/
def exchanged (m : CircuitManifest) : CircuitManifest where
  bundleName := m.bundleName
  phases := m.phases.map m.exchangePhase

/-- The circuit is worse than the other on an axis that crossed its limit. -/
def Worse (m : CircuitManifest) (circuit : Circuit) : Prop :=
  (∃ mine others, m.achievedMbps circuit.alone = some mine ∧
    m.achievedMbps circuit.other.alone = some others ∧
    mine < 3 / 5 * others) ∨
  ∃ mine others, m.lossPct circuit.alone = some mine ∧ m.lossPct circuit.other.alone = some others ∧
    others + 5 < mine

/-- Losses are measured on both circuits, and where they cross their limit the throughputs
cross theirs or the circuit that carried less lost more. -/
def AxesAgree (m : CircuitManifest) : Prop :=
  ∃ aLoss bLoss, m.lossPct .aOnly = some aLoss ∧ m.lossPct .bOnly = some bLoss ∧
    (5 < |aLoss - bLoss| → ∀ a b, m.achievedMbps .aOnly = some a → m.achievedMbps .bOnly = some b →
      min a b < 3 / 5 * max a b ∨ (a < b ∧ bLoss < aLoss) ∨ (b < a ∧ aLoss < bLoss))

end CircuitManifest

/-- What a verdict on a manifest is relied on for. -/
structure SoundlyJudged (m : CircuitManifest) : Prop where
  measured : (∃ missing, judgeCircuits m = .refused missing) ∨
    ∀ circuit : Circuit, (m.achievedMbps circuit.alone).isSome ∧ (m.lossPct circuit.alone).isSome
  worse : ∀ detail, judgeCircuits m = .memberSpecific detail →
    ∃ circuit, (judgeCircuits m).implicated = some circuit ∧ m.Worse circuit
  exchanges : (judgeCircuits m.exchanged).implicated =
    (judgeCircuits m).implicated.map Circuit.other

section Naming

theorem memberSpecificDetail_blames (a b aLoss bLoss : ℚ) :
    (Circuit.slower a b).blame.toList <+: (memberSpecificDetail a b aLoss bLoss).toList := by
  unfold memberSpecificDetail Circuit.slower
  split
  · simp only [Circuit.blame, Circuit.label, String.append_assoc, String.toList_append,
      List.prefix_append_right_inj]
    exact List.prefix_append _ _
  · simp only [Circuit.blame, Circuit.label, String.append_assoc, String.toList_append,
      List.prefix_append_right_inj]
    exact List.prefix_append _ _

/-- No detail blames both circuits. -/
theorem Circuit.blame_inj {circuit blamed : Circuit} {text : List Char}
    (mine : circuit.blame.toList <+: text) (others : blamed.blame.toList <+: text) :
    circuit = blamed := by
  have length_eq : circuit.blame.toList.length = blamed.blame.toList.length := by
    cases circuit <;> cases blamed <;> simp [Circuit.blame, Circuit.label]
  have same := (List.prefix_of_prefix_length_le mine others length_eq.le).eq_of_length length_eq
  cases circuit <;> cases blamed <;> simp [Circuit.blame, Circuit.label] at same ⊢

theorem implicated_memberSpecific {circuit : Circuit} {detail : String}
    (blames : circuit.blame.toList <+: detail.toList) :
    (CircuitVerdict.memberSpecific detail).implicated = some circuit := by
  have found : (circuit.blame.toList.isPrefixOf detail.toList) = true :=
    List.isPrefixOf_iff_prefix.mpr blames
  have sole : ∀ blamed : Circuit, blamed ≠ circuit →
      (blamed.blame.toList.isPrefixOf detail.toList) = false := by
    intro blamed different
    rw [Bool.eq_false_iff]
    intro also
    exact different (Circuit.blame_inj (List.isPrefixOf_iff_prefix.mp also) blames)
  cases circuit with
  | a => simp [CircuitVerdict.implicated, found]
  | b => simp [CircuitVerdict.implicated, sole .a, found]

theorem implicated_compareCircuits (a b aLoss bLoss : ℚ) :
    (compareCircuits a b aLoss bLoss).implicated =
      if Asymmetric a b aLoss bLoss then some (Circuit.slower a b) else none := by
  rw [compareCircuits]
  split
  · exact implicated_memberSpecific (memberSpecificDetail_blames a b aLoss bLoss)
  · rfl

end Naming

section Axes
variable {a b aLoss bLoss : ℚ}

theorem throughputRatio_lt_iff (a_nonneg : 0 ≤ a) (b_nonneg : 0 ≤ b) :
    throughputRatio a b < 3 / 5 ↔ min a b < 3 / 5 * max a b := by
  rw [throughputRatio]
  split
  case isTrue carried => exact div_lt_iff₀ carried
  case isFalse idle =>
    have least : 0 ≤ min a b := le_min a_nonneg b_nonneg
    constructor <;> intro below <;> linarith

theorem Asymmetric.comm : Asymmetric a b aLoss bLoss ↔ Asymmetric b a bLoss aLoss := by
  rw [Asymmetric, Asymmetric, throughputRatio, throughputRatio, min_comm, max_comm, abs_sub_comm]

theorem slower_of_lt (less : a < b) : Circuit.slower a b = .a := if_pos less.le

theorem slower_of_gt (more : b < a) : Circuit.slower a b = .b := if_neg (not_le.mpr more)

theorem slower_exchanged (different : a ≠ b) : Circuit.slower b a = (Circuit.slower a b).other := by
  rcases lt_or_gt_of_ne different with less | more
  · rw [slower_of_lt less, slower_of_gt less, Circuit.other]
  · rw [slower_of_lt more, slower_of_gt more, Circuit.other]

/-- The slower circuit is past the limit of one of the axes. -/
def SlowerIsWorse (a b aLoss bLoss : ℚ) : Prop :=
  min a b < 3 / 5 * max a b ∨ (a < b ∧ bLoss + 5 < aLoss) ∨ (b < a ∧ aLoss + 5 < bLoss)

theorem SlowerIsWorse.ne (a_nonneg : 0 ≤ a) (worse : SlowerIsWorse a b aLoss bLoss) : a ≠ b := by
  rcases worse with ratio | ⟨less, -⟩ | ⟨more, -⟩
  · rintro rfl
    rw [min_self, max_self] at ratio
    linarith
  · exact less.ne
  · exact more.ne'

/-- Losses past their limit that agree with the throughputs point at the slower circuit. -/
theorem slowerIsWorse_of_crossed (crossed : 5 < |aLoss - bLoss|)
    (agree : min a b < 3 / 5 * max a b ∨ (a < b ∧ bLoss < aLoss) ∨ (b < a ∧ aLoss < bLoss)) :
    SlowerIsWorse a b aLoss bLoss := by
  rcases agree with ratio | ⟨less, lossier⟩ | ⟨more, lossier⟩
  · exact Or.inl ratio
  · rw [abs_of_pos (sub_pos.mpr lossier)] at crossed
    exact Or.inr (Or.inl ⟨less, by linarith⟩)
  · rw [abs_of_neg (sub_neg.mpr lossier)] at crossed
    exact Or.inr (Or.inr ⟨more, by linarith⟩)

end Axes

section Exchange
variable {m : CircuitManifest}

theorem measuredAs_circuitState (p : CircuitPhase) (source : Option CircuitPhase) :
    (p.measuredAs source).circuitState = p.circuitState := by
  cases source <;> rfl

theorem exchangePhase_circuitState (p : CircuitPhase) :
    (m.exchangePhase p).circuitState = p.circuitState := by
  rw [CircuitManifest.exchangePhase]
  split
  · exact measuredAs_circuitState p _
  · exact measuredAs_circuitState p _
  · rfl

theorem phase_exchanged (state : CircuitState) :
    m.exchanged.phase state = (m.phase state).map m.exchangePhase := by
  simp only [CircuitManifest.phase, CircuitManifest.exchanged, List.find?_map, Function.comp_def,
    exchangePhase_circuitState]

theorem circuitState_of_phase {state : CircuitState} {p : CircuitPhase}
    (found : m.phase state = some p) :
    p.circuitState = state := by
  simpa using List.find?_some found

theorem exchangePhase_alone {circuit : Circuit} {p q : CircuitPhase}
    (found : m.phase circuit.alone = some p) (others : m.phase circuit.other.alone = some q) :
    m.exchangePhase p = p.measuredAs (some q) := by
  rw [CircuitManifest.exchangePhase, circuitState_of_phase found, ← others]
  cases circuit <;> rfl

/-- Each circuit's phase holds the measurements of the other's. -/
theorem phase_exchanged_alone {circuit : Circuit} {p q : CircuitPhase}
    (found : m.phase circuit.alone = some p) (others : m.phase circuit.other.alone = some q) :
    m.exchanged.phase circuit.alone = some (p.measuredAs (some q)) := by
  rw [phase_exchanged, found, Option.map_some, exchangePhase_alone found others]

theorem achievedMbps_exchanged {circuit : Circuit} {p q : CircuitPhase}
    (found : m.phase circuit.alone = some p) (others : m.phase circuit.other.alone = some q) :
    m.exchanged.achievedMbps circuit.alone = m.achievedMbps circuit.other.alone := by
  rw [CircuitManifest.achievedMbps, CircuitManifest.achievedMbps,
    phase_exchanged_alone found others, others]
  rfl

theorem lossPct_exchanged {circuit : Circuit} {p q : CircuitPhase}
    (found : m.phase circuit.alone = some p) (others : m.phase circuit.other.alone = some q) :
    m.exchanged.lossPct circuit.alone = m.lossPct circuit.other.alone := by
  rw [CircuitManifest.lossPct, CircuitManifest.lossPct, phase_exchanged_alone found others, others]
  rfl

theorem evident_measuredAs {p q : CircuitPhase} (evident : p.Evident)
    (measured : q.achievedMbps.isSome) :
    (p.measuredAs (some q)).Evident :=
  ⟨measured, evident.attended, evident.reported⟩

theorem phase_exchanged_dualActive : m.exchanged.phase .dualActive = m.phase .dualActive := by
  rw [phase_exchanged]
  cases found : m.phase .dualActive with
  | none => rfl
  | some p => rw [Option.map_some, CircuitManifest.exchangePhase, circuitState_of_phase found]

theorem complete_of_alone
    (alone : ∀ circuit : Circuit, ∃ p, m.phase circuit.alone = some p ∧ p.Evident)
    (dualActive : ∃ p, m.phase .dualActive = some p ∧ p.Evident) : m.Complete := by
  intro state
  cases state with
  | aOnly => exact alone .a
  | bOnly => exact alone .b
  | dualActive => exact dualActive

theorem exchanged_complete (complete : m.Complete) : m.exchanged.Complete := by
  refine complete_of_alone ?_ (phase_exchanged_dualActive.symm ▸ complete .dualActive)
  intro circuit
  obtain ⟨p, found, evident⟩ := complete circuit.alone
  obtain ⟨q, others, measured⟩ := complete circuit.other.alone
  exact ⟨_, phase_exchanged_alone found others, evident_measuredAs evident measured.achieved⟩

/-- Two exchanges bring the measurements back. -/
theorem phase_exchanged_twice {circuit : Circuit} {p q : CircuitPhase}
    (found : m.phase circuit.alone = some p) (others : m.phase circuit.other.alone = some q) :
    m.exchanged.exchanged.phase circuit.alone = some p := by
  have back : m.phase circuit.other.other.alone = some p := by
    cases circuit <;> exact found
  rw [phase_exchanged_alone (phase_exchanged_alone found others)
    (phase_exchanged_alone others back)]
  rfl

theorem exchanged_complete_iff : m.exchanged.Complete ↔ m.Complete := by
  constructor
  · intro complete
    have present : ∀ state, ∃ p, m.phase state = some p := by
      intro state
      obtain ⟨p, found, -⟩ := complete state
      rw [phase_exchanged] at found
      obtain ⟨q, known, -⟩ := Option.map_eq_some_iff.mp found
      exact ⟨q, known⟩
    refine complete_of_alone ?_ (phase_exchanged_dualActive ▸ complete .dualActive)
    intro circuit
    obtain ⟨p, found⟩ := present circuit.alone
    obtain ⟨q, others⟩ := present circuit.other.alone
    obtain ⟨back, twice, evident⟩ := exchanged_complete complete circuit.alone
    obtain rfl := Option.some.inj (twice.symm.trans (phase_exchanged_twice found others))
    exact ⟨back, found, evident⟩
  · exact exchanged_complete

end Exchange

section Soundness
variable {m : CircuitManifest} {a b aLoss bLoss : ℚ}

theorem judgeCircuits_measured (complete : m.Complete) (aRate : m.achievedMbps .aOnly = some a)
    (bRate : m.achievedMbps .bOnly = some b) (aLost : m.lossPct .aOnly = some aLoss)
    (bLost : m.lossPct .bOnly = some bLoss) :
    judgeCircuits m = compareCircuits a b aLoss bLoss := by
  rw [judgeCircuits_complete complete, aRate, bRate, aLost, bLost]
  rfl

theorem judgeCircuits_exchanged (complete : m.Complete) (aRate : m.achievedMbps .aOnly = some a)
    (bRate : m.achievedMbps .bOnly = some b) (aLost : m.lossPct .aOnly = some aLoss)
    (bLost : m.lossPct .bOnly = some bLoss) :
    judgeCircuits m.exchanged = compareCircuits b a bLoss aLoss := by
  obtain ⟨p, found, -⟩ := complete .aOnly
  obtain ⟨q, others, -⟩ := complete .bOnly
  have aPhase : m.phase Circuit.a.alone = some p := found
  have bPhase : m.phase Circuit.b.alone = some q := others
  exact judgeCircuits_measured (exchanged_complete complete)
    ((achievedMbps_exchanged aPhase bPhase).trans bRate)
      ((achievedMbps_exchanged bPhase aPhase).trans aRate)
    ((lossPct_exchanged aPhase bPhase).trans bLost) ((lossPct_exchanged bPhase aPhase).trans aLost)

/-- A refusal implicates nothing and takes nothing as measured. -/
theorem soundlyJudged_incomplete (incomplete : ¬ m.Complete) : SoundlyJudged m := by
  have refused := judgeCircuits_incomplete incomplete
  have exchangedRefused := judgeCircuits_incomplete (mt exchanged_complete_iff.mp incomplete)
  constructor
  · exact Or.inl ⟨_, refused⟩
  · intro detail specific
    rw [refused] at specific
    cases specific
  · rw [refused, exchangedRefused]
    rfl

theorem worse_iff {circuit : Circuit} {mine others mineLoss othersLoss : ℚ}
    (mineRate : m.achievedMbps circuit.alone = some mine)
    (othersRate : m.achievedMbps circuit.other.alone = some others)
    (mineLost : m.lossPct circuit.alone = some mineLoss)
    (othersLost : m.lossPct circuit.other.alone = some othersLoss) :
    m.Worse circuit ↔ mine < 3 / 5 * others ∨ othersLoss + 5 < mineLoss := by
  rw [CircuitManifest.Worse, mineRate, othersRate, mineLost, othersLost]
  simp

theorem worse_slower (aRate : m.achievedMbps .aOnly = some a)
    (bRate : m.achievedMbps .bOnly = some b) (aLost : m.lossPct .aOnly = some aLoss)
    (bLost : m.lossPct .bOnly = some bLoss) (worse : SlowerIsWorse a b aLoss bLoss) :
    m.Worse (Circuit.slower a b) := by
  have aWorse : m.Worse .a ↔ a < 3 / 5 * b ∨ bLoss + 5 < aLoss := worse_iff aRate bRate aLost bLost
  have bWorse : m.Worse .b ↔ b < 3 / 5 * a ∨ aLoss + 5 < bLoss := worse_iff bRate aRate bLost aLost
  rcases worse with ratio | ⟨less, lossier⟩ | ⟨more, lossier⟩
  · rcases le_or_gt a b with le | gt
    · rw [min_eq_left le, max_eq_right le] at ratio
      rw [Circuit.slower, if_pos le]
      exact aWorse.mpr (Or.inl ratio)
    · rw [min_eq_right gt.le, max_eq_left gt.le] at ratio
      rw [slower_of_gt gt]
      exact bWorse.mpr (Or.inl ratio)
  · rw [slower_of_lt less]
    exact aWorse.mpr (Or.inr lossier)
  · rw [slower_of_gt more]
    exact bWorse.mpr (Or.inr lossier)

theorem soundlyJudged_of_axesAgree (a_nonneg : 0 ≤ a) (b_nonneg : 0 ≤ b) (complete : m.Complete)
    (aRate : m.achievedMbps .aOnly = some a) (bRate : m.achievedMbps .bOnly = some b)
    (agree : m.AxesAgree) :
    SoundlyJudged m := by
  obtain ⟨aLoss, bLoss, aLost, bLost, crossing⟩ := agree
  have judged := judgeCircuits_measured complete aRate bRate aLost bLost
  have judgedExchanged := judgeCircuits_exchanged complete aRate bRate aLost bLost
  have worse : Asymmetric a b aLoss bLoss → SlowerIsWorse a b aLoss bLoss := by
    rintro (ratio | crossed)
    · exact Or.inl ((throughputRatio_lt_iff a_nonneg b_nonneg).mp ratio)
    · exact slowerIsWorse_of_crossed crossed (crossing crossed a b aRate bRate)
  constructor
  · right
    intro circuit
    cases circuit with
    | a => exact ⟨Option.isSome_of_eq_some aRate, Option.isSome_of_eq_some aLost⟩
    | b => exact ⟨Option.isSome_of_eq_some bRate, Option.isSome_of_eq_some bLost⟩
  · intro detail specific
    have asymmetric : Asymmetric a b aLoss bLoss := by
      by_contra alike
      rw [judged, compareCircuits, if_neg alike] at specific
      cases specific
    refine ⟨Circuit.slower a b, ?_, worse_slower aRate bRate aLost bLost (worse asymmetric)⟩
    rw [judged, implicated_compareCircuits, if_pos asymmetric]
  · rw [judged, judgedExchanged, implicated_compareCircuits, implicated_compareCircuits]
    by_cases asymmetric : Asymmetric a b aLoss bLoss
    · rw [if_pos asymmetric, if_pos (Asymmetric.comm.mp asymmetric),
        slower_exchanged ((worse asymmetric).ne a_nonneg)]
      rfl
    · rw [if_neg asymmetric, if_neg (mt Asymmetric.comm.mpr asymmetric)]
      rfl

theorem axesAgree_of_soundlyJudged (complete : m.Complete) (sound : SoundlyJudged m) :
    m.AxesAgree := by
  have measured : ∀ circuit : Circuit, (m.achievedMbps circuit.alone).isSome ∧
      (m.lossPct circuit.alone).isSome := by
    rcases sound.measured with ⟨missing, refused⟩ | measured
    · rw [judgeCircuits_complete complete, compareCircuits] at refused
      split at refused <;> cases refused
    · exact measured
  obtain ⟨aLoss, aLost⟩ := Option.isSome_iff_exists.mp (measured .a).2
  obtain ⟨bLoss, bLost⟩ := Option.isSome_iff_exists.mp (measured .b).2
  refine ⟨aLoss, bLoss, aLost, bLost, ?_⟩
  intro crossed a b aRate bRate
  have judged := judgeCircuits_measured complete aRate bRate aLost bLost
  have asymmetric : Asymmetric a b aLoss bLoss := Or.inr crossed
  have specific : judgeCircuits m = .memberSpecific (memberSpecificDetail a b aLoss bLoss) := by
    rw [judged, compareCircuits, if_pos asymmetric]
  have blamed : (judgeCircuits m).implicated = some (Circuit.slower a b) := by
    rw [judged, implicated_compareCircuits, if_pos asymmetric]
  have exchanges := sound.exchanges
  rw [blamed, judgeCircuits_exchanged complete aRate bRate aLost bLost, implicated_compareCircuits,
    if_pos (Asymmetric.comm.mp asymmetric), Option.map_some] at exchanges
  obtain ⟨circuit, named, worse⟩ := sound.worse _ specific
  obtain rfl := Option.some.inj (blamed.symm.trans named)
  rcases lt_trichotomy a b with less | rfl | more
  · rw [slower_of_lt less, worse_iff aRate bRate aLost bLost] at worse
    rcases worse with slow | lossier
    · left
      rwa [min_eq_left less.le, max_eq_right less.le]
    · exact Or.inr (Or.inl ⟨less, by linarith⟩)
  · -- equal throughputs name circuit A before and after the exchange
    rw [Circuit.slower, if_pos le_rfl] at exchanges
    cases exchanges
  · rw [slower_of_gt more, worse_iff bRate aRate bLost aLost] at worse
    rcases worse with slow | lossier
    · left
      rwa [min_eq_right more.le, max_eq_left more.le]
    · exact Or.inr (Or.inr ⟨more, by linarith⟩)

/-- A verdict is sound exactly when it is refused or the two axes do not point apart. -/
theorem soundly_judged_iff (m : CircuitManifest)
    (nonneg : ∀ p ∈ m.phases, ∀ rate, p.achievedMbps = some rate → 0 ≤ rate) :
    SoundlyJudged m ↔ ¬ m.Complete ∨ m.AxesAgree := by
  by_cases complete : m.Complete
  · have carried : ∀ state, ∃ rate, m.achievedMbps state = some rate ∧ 0 ≤ rate := by
      intro state
      obtain ⟨p, member, rate, own, measured⟩ := achieved_of_complete complete state
      exact ⟨rate, measured, nonneg p member rate own⟩
    obtain ⟨a, aRate, a_nonneg⟩ := carried .aOnly
    obtain ⟨b, bRate, b_nonneg⟩ := carried .bOnly
    constructor
    · intro sound
      exact Or.inr (axesAgree_of_soundlyJudged complete sound)
    · rintro (incomplete | agree)
      · exact absurd complete incomplete
      · exact soundlyJudged_of_axesAgree a_nonneg b_nonneg complete aRate bRate agree
  · exact iff_of_true (soundlyJudged_incomplete complete) (Or.inl complete)

end Soundness

section Instances

/-- A phase of one member with all of its telemetry. -/
def attendedPhase (circuitState : CircuitState) (achievedMbps : ℚ)
    (lossPct : Option ℚ) : CircuitPhase where
  circuitState := circuitState
  clientSummary := "bundle"
  achievedMbps := some achievedMbps
  lossPct := lossPct
  members := [⟨"wan-a", some 42, some 0, some 0, some 0, some "fw-node-1", some 0⟩]

def attendedManifest (aMbps bMbps : ℚ) (aLoss bLoss : Option ℚ) : CircuitManifest where
  bundleName := "bundle"
  phases := [attendedPhase .aOnly aMbps aLoss, attendedPhase .bOnly bMbps bLoss,
    attendedPhase .dualActive 880 (some 0)]

theorem attendedPhase_evident (state : CircuitState) (mbps : ℚ) (loss : Option ℚ) :
    (attendedPhase state mbps loss).Evident where
  achieved := rfl
  attended := List.cons_ne_nil _ _
  reported := by simp [attendedPhase, MemberTelemetry.missingFields]

theorem attendedManifest_complete (aMbps bMbps : ℚ) (aLoss bLoss : Option ℚ) :
    (attendedManifest aMbps bMbps aLoss bLoss).Complete := by
  intro state
  cases state with
  | aOnly => exact ⟨_, rfl, attendedPhase_evident .aOnly aMbps aLoss⟩
  | bOnly => exact ⟨_, rfl, attendedPhase_evident .bOnly bMbps bLoss⟩
  | dualActive => exact ⟨_, rfl, attendedPhase_evident .dualActive 880 (some 0)⟩

theorem attendedManifest_nonneg {aMbps bMbps : ℚ} (a_nonneg : 0 ≤ aMbps) (b_nonneg : 0 ≤ bMbps)
    (aLoss bLoss : Option ℚ) :
    ∀ p ∈ (attendedManifest aMbps bMbps aLoss bLoss).phases, ∀ rate, p.achievedMbps = some rate →
      0 ≤ rate := by
  simp [attendedManifest, attendedPhase, a_nonneg, b_nonneg]

/-- Circuit A carries a sixth of what B carries. -/
theorem soundly_judged_iff_slow_member :
    SoundlyJudged (attendedManifest 150 900 (some 0) (some 0)) ↔
      ¬ (attendedManifest 150 900 (some 0) (some 0)).Complete ∨
        (attendedManifest 150 900 (some 0) (some 0)).AxesAgree :=
  soundly_judged_iff (attendedManifest 150 900 (some 0) (some 0))
    (attendedManifest_nonneg (by norm_num) (by norm_num) (some 0) (some 0))

/-- Circuit A loses a fifth of its packets, and B, which carried slightly less, is implicated. -/
theorem lossless_circuit_implicated :
    (∀ p ∈ (attendedManifest 900 880 (some 20) (some (1 / 10))).phases, ∀ rate,
      p.achievedMbps = some rate → 0 ≤ rate) ∧
    ¬ SoundlyJudged (attendedManifest 900 880 (some 20) (some (1 / 10))) := by
  refine ⟨attendedManifest_nonneg (by norm_num) (by norm_num) _ _, ?_⟩
  intro sound
  obtain ⟨aLoss, bLoss, aLost, bLost, crossing⟩ :=
    axesAgree_of_soundlyJudged (attendedManifest_complete 900 880 (some 20) (some (1 / 10))) sound
  obtain rfl : 20 = aLoss := Option.some.inj aLost
  obtain rfl : 1 / 10 = bLoss := Option.some.inj bLost
  rcases crossing (by norm_num [abs_of_pos]) 900 880 rfl rfl with ratio | ⟨less, -⟩ | ⟨-, lossier⟩
  · norm_num at ratio
  · norm_num at less
  · norm_num at lossier

end Instances

end FragglePacket.NetworkTests
