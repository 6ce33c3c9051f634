import Mathlib.Data.List.ReduceOption
import FragglePacket.Diagnostics.Rules

/-! The order in which the engine returns its findings. -/

namespace FragglePacket.Diagnostics

open FragglePacket.Lists

/-- Critical before High before Medium before Low before Info. -/
def MostSevereFirst (diagnoses : List Diagnosis) : Prop :=
  diagnoses.Pairwise (·.severity ≤ ·.severity)

def StartsWithWorst (diagnoses : List Diagnosis) : Prop :=
  ∀ first, diagnoses.head? = some first → ∀ other ∈ diagnoses, first.severity ≤ other.severity

theorem MostSevereFirst.startsWithWorst {diagnoses : List Diagnosis}
    (ordered : MostSevereFirst diagnoses) :
    StartsWithWorst diagnoses := by
  intro first isFirst other present
  cases diagnoses with
  | nil => cases isFirst
  | cons head rest =>
    obtain rfl := Option.some.inj isFirst
    rcases List.mem_cons.mp present with rfl | later
    · exact le_rfl
    · exact (List.pairwise_cons.mp ordered).1 other later

/-- A list with the least severe first is also in order only when nothing in it differs. -/
theorem mostSevereFirst_iff_of_reversed {diagnoses : List Diagnosis}
    (reversed : diagnoses.Pairwise fun first second => second.severity ≤ first.severity) :
    MostSevereFirst diagnoses ↔ ∀ first ∈ diagnoses, ∀ second ∈ diagnoses,
      first.severity = second.severity := by
  constructor
  · intro ordered first isFirst second isSecond
    have below : ∀ ⦃one⦄, one ∈ diagnoses → ∀ ⦃two⦄, two ∈ diagnoses →
        one.severity ≤ two.severity :=
      ordered.forall_of_forall_of_flip (fun _ _ => le_rfl) reversed
    exact le_antisymm (below isFirst isSecond) (below isSecond isFirst)
  · intro alike
    apply List.pairwise_of_forall_mem_list
    intro first isFirst second isSecond
    exact (alike first isFirst second isSecond).le

namespace DiagnosisEngine

/-- The loop collects what the rules return, in their order. -/
theorem collect_eq {evidence : DiagnosisEvidence} {rules : List DiagnosisRule}
    {results : List (Option Diagnosis)} (checked : rules.mapM (·.check evidence) = .ok results)
    (diagnoses : List Diagnosis) :
    collect evidence diagnoses rules = .ok (diagnoses ++ results.reduceOption) := by
  induction rules generalizing results diagnoses with
  | nil =>
    obtain rfl := Except.ok.inj checked
    simp [collect]
  | cons rule rest ih =>
    rw [List.mapM_cons] at checked
    cases answer : rule.check evidence with
    | error halt =>
      rw [answer] at checked
      cases checked
    | ok found =>
      cases remaining : rest.mapM (·.check evidence) with
      | error halt =>
        rw [answer, remaining] at checked
        cases checked
      | ok later =>
        rw [answer, remaining] at checked
        obtain rfl := Except.ok.inj checked
        cases found with
        | none => simpa [collect, answer] using ih remaining diagnoses
        | some diagnosis => simpa [collect, answer] using ih remaining (diagnoses ++ [diagnosis])

theorem diagnose_eq {engine : DiagnosisEngine} {evidence : DiagnosisEvidence}
    {results : List (Option Diagnosis)}
    (checked : engine.rules.mapM (·.check evidence) = .ok results) :
    engine.diagnose evidence =
      .ok (sortByKey (fun diagnosis => OrderDual.toDual diagnosis.severity)
        results.reduceOption) := by
  rw [diagnose, collect_eq checked, List.nil_append]
  rfl

/-- The engine puts the least severe findings first. -/
theorem diagnose_reversed (found : List Diagnosis) :
    (sortByKey (fun diagnosis => OrderDual.toDual diagnosis.severity) found).Pairwise
      fun first second =>
      second.severity ≤ first.severity := by
  have sorted : (sortByKey (fun diagnosis => OrderDual.toDual diagnosis.severity) found).Pairwise
      fun first second =>
      OrderDual.toDual first.severity ≤ OrderDual.toDual second.severity := sortByKey_sorted found
  exact sorted

/-- The findings come most severe first exactly when they are all of one severity. -/
theorem diagnose_most_severe_first_iff {engine : DiagnosisEngine} {evidence : DiagnosisEvidence}
    {results : List (Option Diagnosis)}
    (checked : engine.rules.mapM (·.check evidence) = .ok results) :
    (∃ diagnoses, engine.diagnose evidence = .ok diagnoses ∧ diagnoses.Perm results.reduceOption ∧
      MostSevereFirst diagnoses ∧ StartsWithWorst diagnoses) ↔
    ∀ first ∈ results.reduceOption, ∀ second ∈ results.reduceOption, first.severity =
      second.severity := by
  have perm :
      (sortByKey (fun diagnosis => OrderDual.toDual diagnosis.severity) results.reduceOption).Perm
      results.reduceOption := sortByKey_perm results.reduceOption
  rw [diagnose_eq checked]
  constructor
  · rintro ⟨diagnoses, returned, -, ordered, -⟩
    obtain rfl := Except.ok.inj returned
    intro first isFirst second isSecond
    exact (mostSevereFirst_iff_of_reversed (diagnose_reversed results.reduceOption)).mp
      ordered first
      (perm.mem_iff.mpr isFirst) second (perm.mem_iff.mpr isSecond)
  · intro alike
    have ordered := (mostSevereFirst_iff_of_reversed (diagnose_reversed results.reduceOption)).mpr
      fun first isFirst second isSecond => alike first (perm.mem_iff.mp isFirst) second
        (perm.mem_iff.mp isSecond)
    exact ⟨_, rfl, perm, ordered, ordered.startsWithWorst⟩

/-- Where every rule answers, the results are the answers. -/
theorem mapM_check_of_answered {evidence : DiagnosisEvidence} {rules : List DiagnosisRule}
    (answered : ∀ rule ∈ rules, (rule.check evidence).isOk = true) :
    rules.mapM (·.check evidence) =
      .ok (rules.map fun rule => (rule.check evidence).toOption.join) := by
  induction rules with
  | nil => rfl
  | cons rule rest ih =>
    have later := ih fun other member => answered other (List.mem_cons_of_mem rule member)
    have here := answered rule List.mem_cons_self
    rw [List.mapM_cons, later]
    cases answer : rule.check evidence with
    | error halt =>
      rw [answer] at here
      cases here
    | ok found => simp [answer, Except.toOption, bind, Except.bind, pure, Except.pure]

/-- Some loss and a long round trip, which two rules find to be of the same severity. -/
def lossyAndSlow : DiagnosisEvidence where
  packetLossPercent := some 3
  rttMs := some 250

theorem diagnose_most_severe_first_lossyAndSlow : ∃ diagnoses,
    DiagnosisEngine.new.diagnose lossyAndSlow = .ok diagnoses ∧
      (diagnoses.map (·.issue)).Perm [.packetLoss, .highLatency] ∧
      MostSevereFirst diagnoses ∧ StartsWithWorst diagnoses := by
  have answered : ∀ rule ∈ DiagnosisEngine.new.rules, (rule.check lossyAndSlow).isOk = true := by
    decide +kernel
  obtain ⟨diagnoses, returned, perm, ordered, worst⟩ :=
    (diagnose_most_severe_first_iff (mapM_check_of_answered answered)).mpr (by decide +kernel)
  have issues : (DiagnosisEngine.new.rules.map fun rule =>
      (rule.check lossyAndSlow).toOption.join).reduceOption.map (·.issue) =
      [.packetLoss, .highLatency] := by decide +kernel
  exact ⟨diagnoses, returned, issues ▸ perm.map (·.issue), ordered, worst⟩

end DiagnosisEngine

/-- A firewall that blocks TCP and a failed resolution. -/
def blockedAndUnresolved : DiagnosisEvidence where
  pingSuccess := some true
  tcpConnectSuccess := some false
  dnsSuccess := some false

/-- The High finding is returned ahead of the Critical one. -/
theorem critical_finding_returned_last :
    ∃ high critical, DiagnosisEngine.new.diagnose blockedAndUnresolved = .ok [high, critical] ∧
      high.severity = .high ∧ critical.severity = .critical ∧ ¬ MostSevereFirst [high, critical] ∧
      ¬ StartsWithWorst [high, critical] := by
  refine ⟨_, _, rfl, rfl, rfl, ?_, ?_⟩
  · intro ordered
    exact absurd (List.pairwise_pair.mp ordered) (by decide)
  · intro worst
    exact absurd (worst _ rfl _ (List.mem_cons_of_mem _ List.mem_cons_self)) (by decide)

end FragglePacket.Diagnostics
