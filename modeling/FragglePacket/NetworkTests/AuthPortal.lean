import Mathlib.Data.List.Induction

/-! What a session's reachability over time says of its continuity. -/

namespace FragglePacket.NetworkTests

structure SessionContinuitySample where
  elapsedSecs : Nat
  stillReachable : Option Bool

inductive SessionContinuityVerdict where
  | continuous
  | expiredOrReauthRequired (lastReachableAtSecs : Nat)
  | indeterminate
  deriving DecidableEq

/-- The loop over the measured samples, with the time of the last reachable one. -/
def continuityFrom (lastReachable : Option Nat) :
    List SessionContinuitySample → SessionContinuityVerdict
  | [] => .continuous
  | s :: rest =>
    if s.stillReachable = some true then continuityFrom (some s.elapsedSecs) rest
    else
      match lastReachable with
      | some last => .expiredOrReauthRequired last
      | none => continuityFrom none rest

def measuredSamples (samples : List SessionContinuitySample) : List SessionContinuitySample :=
  samples.filter (·.stillReachable.isSome)

def evaluateSessionContinuity (samples : List SessionContinuitySample) : SessionContinuityVerdict :=
  let measured := measuredSamples samples
  if measured.length < 2 then .indeterminate else continuityFrom none measured

namespace SessionContinuitySample

def Reachable (s : SessionContinuitySample) : Prop := s.stillReachable = some true

def Unreachable (s : SessionContinuitySample) : Prop := s.stillReachable = some false

instance (s : SessionContinuitySample) : Decidable s.Reachable :=
  inferInstanceAs (Decidable (_ = _))

theorem Unreachable.not_reachable {s : SessionContinuitySample}
    (lost : s.Unreachable) : ¬ s.Reachable := by
  rw [Reachable, lost]
  decide

end SessionContinuitySample

section Runs
variable {front rest seen : List SessionContinuitySample} {t : Nat}

/-- No sample is unreachable after a reachable one. -/
def NeverLost (seen : List SessionContinuitySample) : Prop :=
  ∀ before s after, seen = before ++ s :: after → s.Unreachable → ∀ r ∈ before, ¬ r.Reachable

/-- The time of the last reachable sample. -/
def lastReachable (seen : List SessionContinuitySample) : Option Nat :=
  (seen.filter fun s => decide s.Reachable).getLast?.map (·.elapsedSecs)

/-- The first unreachable sample after a reachable one, and the time of the last
reachable sample before it. -/
def LostAfter (seen : List SessionContinuitySample) (t : Nat) : Prop :=
  ∃ before s after, seen = before ++ s :: after ∧ s.Unreachable ∧ (∃ r ∈ before, r.Reachable) ∧
    NeverLost before ∧ lastReachable before = some t

theorem lastReachable_eq_none_iff : lastReachable seen = none ↔ ∀ r ∈ seen, ¬ r.Reachable := by
  rw [lastReachable, Option.map_eq_none_iff, List.getLast?_eq_none_iff, List.filter_eq_nil_iff]
  simp only [decide_eq_true_eq]

theorem lastReachable_concat_reachable {s : SessionContinuitySample} (reached : s.Reachable) :
    lastReachable (front ++ [s]) = some s.elapsedSecs := by
  rw [lastReachable, List.filter_append, List.filter_cons_of_pos (by simp [reached]),
    List.filter_nil, List.getLast?_concat]
  rfl

theorem lastReachable_concat_other {s : SessionContinuitySample} (other : ¬ s.Reachable) :
    lastReachable (front ++ [s]) = lastReachable front := by
  rw [lastReachable, List.filter_append, List.filter_cons_of_neg (by simp [other]), List.filter_nil,
    List.append_nil, lastReachable]

theorem NeverLost.concat {s : SessionContinuitySample} (never : NeverLost front)
    (last : s.Unreachable → ∀ r ∈ front, ¬ r.Reachable) : NeverLost (front ++ [s]) := by
  intro before lost after split unreachable
  cases after using List.reverseRecOn with
  | nil =>
    obtain ⟨rfl, same⟩ := List.append_inj' split rfl
    obtain rfl : s = lost := (List.cons.inj same).1
    exact last unreachable
  | append_singleton after final =>
    rw [← List.cons_append, ← List.append_assoc] at split
    exact never before lost after (List.append_inj' split rfl).1 unreachable

theorem NeverLost.left (never : NeverLost (front ++ rest)) : NeverLost front := by
  intro before lost after split unreachable
  exact never before lost (after ++ rest) (by rw [split, List.append_assoc, List.cons_append])
    unreachable

/-- A loss ends what was never lost, so it is the only first one. -/
theorem lostAfter_iff {s : SessionContinuitySample} (never : NeverLost front) (lost : s.Unreachable)
    (reached : ∃ r ∈ front, r.Reachable) :
    LostAfter (front ++ s :: rest) t ↔ lastReachable front = some t := by
  constructor
  · rintro ⟨before, first, after, split, unreachable, ⟨r, early, reachable⟩, neverBefore, time⟩
    rcases List.append_eq_append_iff.mp split with ⟨more, longer, rest⟩ | ⟨more, longer, rest⟩
    · cases more with
      | nil =>
        rw [List.append_nil] at longer
        rwa [← longer]
      | cons next more =>
        obtain ⟨rfl, -⟩ := List.cons.inj rest
        obtain ⟨seen, isSeen, found⟩ := reached
        exact absurd found (neverBefore front s more longer lost seen isSeen)
    · cases more with
      | nil =>
        rw [List.append_nil] at longer
        rwa [longer]
      | cons next more =>
        obtain ⟨rfl, -⟩ := List.cons.inj rest
        exact absurd reachable (never before first more longer unreachable r early)
  · intro time
    exact ⟨front, s, rest, rfl, lost, reached, never, time⟩

theorem continuityFrom_cons (last : Option Nat) (s : SessionContinuitySample)
    (rest : List SessionContinuitySample) :
    continuityFrom last (s :: rest) =
      if s.stillReachable = some true then continuityFrom (some s.elapsedSecs) rest
      else last.elim (continuityFrom none rest) .expiredOrReauthRequired := by
  rw [continuityFrom.eq_def]
  cases last <;> rfl

/-- The loop behind samples that never lost the session. -/
theorem continuityFrom_spec (known : ∀ s ∈ rest, s.stillReachable.isSome = true)
    (never : NeverLost front) :
    (continuityFrom (lastReachable front) rest = .continuous ↔ NeverLost (front ++ rest)) ∧
      ∀ t, continuityFrom (lastReachable front) rest = .expiredOrReauthRequired t ↔
        LostAfter (front ++ rest) t := by
  induction rest generalizing front with
  | nil =>
    rw [List.append_nil]
    refine ⟨iff_of_true rfl never, fun t => iff_of_false (by simp [continuityFrom]) ?_⟩
    rintro ⟨before, s, after, split, unreachable, ⟨r, early, reachable⟩, -, -⟩
    exact never before s after split unreachable r early reachable
  | cons s rest ih =>
    obtain ⟨here, later⟩ := List.forall_mem_cons.mp known
    rw [continuityFrom_cons, ← List.singleton_append, ← List.append_assoc]
    by_cases reached : s.stillReachable = some true
    · have reachedNow : lastReachable (front ++ [s]) = some s.elapsedSecs :=
        lastReachable_concat_reachable reached
      rw [if_pos reached, ← reachedNow]
      exact ih later (never.concat fun lost => absurd reached lost.not_reachable)
    · have lost : s.Unreachable := by
        obtain ⟨value, shown⟩ := Option.isSome_iff_exists.mp here
        cases value with
        | false => exact shown
        | true => exact absurd shown reached
      rw [if_neg reached]
      cases last : lastReachable front with
      | none =>
        have noneReached := lastReachable_eq_none_iff.mp last
        have same : lastReachable (front ++ [s]) = none :=
          (lastReachable_concat_other lost.not_reachable).trans last
        rw [Option.elim_none, ← same]
        exact ih later (never.concat fun _ => noneReached)
      | some time =>
        have someReached : ∃ r ∈ front, r.Reachable := by
          by_contra missing
          simp only [not_exists, not_and] at missing
          rw [lastReachable_eq_none_iff.mpr missing] at last
          cases last
        rw [List.append_assoc, List.singleton_append, Option.elim_some]
        refine ⟨iff_of_false (by simp) fun all => ?_, fun t => ?_⟩
        · obtain ⟨r, early, reachable⟩ := someReached
          exact all front s rest rfl lost r early reachable
        · rw [lostAfter_iff never lost someReached, last,
            SessionContinuityVerdict.expiredOrReauthRequired.injEq, Option.some_inj]

end Runs

section Verdict
variable {samples : List SessionContinuitySample}

/-- The loop over the samples that were measured. -/
theorem continuityFrom_measured :
    (continuityFrom none (measuredSamples samples) = .continuous ↔
      NeverLost (measuredSamples samples)) ∧
      ∀ t, continuityFrom none (measuredSamples samples) = .expiredOrReauthRequired t ↔
        LostAfter (measuredSamples samples) t := by
  have known : ∀ s ∈ measuredSamples samples, s.stillReachable.isSome = true :=
    fun s member => (List.mem_filter.mp member).2
  have never : NeverLost [] := fun before s after split => by simp at split
  exact continuityFrom_spec known never

theorem continuous_iff : evaluateSessionContinuity samples = .continuous ↔
    2 ≤ (measuredSamples samples).length ∧ NeverLost (measuredSamples samples) := by
  rw [evaluateSessionContinuity]
  by_cases few : (measuredSamples samples).length < 2
  · simp only [if_pos few]
    exact iff_of_false (by decide) fun all => absurd all.1 (by omega)
  · simp only [if_neg few]
    exact continuityFrom_measured.1.trans ⟨fun never => ⟨Nat.not_lt.mp few, never⟩, And.right⟩

theorem expired_iff {t : Nat} : evaluateSessionContinuity samples = .expiredOrReauthRequired t ↔
    LostAfter (measuredSamples samples) t := by
  rw [evaluateSessionContinuity]
  by_cases few : (measuredSamples samples).length < 2
  · simp only [if_pos few]
    refine iff_of_false (by simp) ?_
    rintro ⟨before, s, after, split, -, ⟨r, early, -⟩, -, -⟩
    have earlier := List.length_pos_of_mem early
    rw [split, List.length_append, List.length_cons] at few
    omega
  · simp only [if_neg few]
    exact continuityFrom_measured.2 t

/-- What the verdict on a session says of the samples. -/
structure ContinuityJudged (samples : List SessionContinuitySample) : Prop where
  continuous : evaluateSessionContinuity samples = .continuous →
    2 ≤ (measuredSamples samples).length ∧ ∀ s ∈ measuredSamples samples, s.Reachable
  expired : ∀ t, evaluateSessionContinuity samples = .expiredOrReauthRequired t ↔
    LostAfter (measuredSamples samples) t
  unmeasured : ∀ longer, measuredSamples longer = measuredSamples samples →
    evaluateSessionContinuity longer = evaluateSessionContinuity samples
  neverReached : (∀ s ∈ samples, ¬ s.Reachable) → evaluateSessionContinuity samples ≠ .continuous

/-- Fewer than two samples are measured, or the first of them is reachable, or one is
unreachable after a reachable one. -/
def BeginsReachable (samples : List SessionContinuitySample) : Prop :=
  (measuredSamples samples).length < 2 ∨
    (∃ first ∈ (measuredSamples samples).head?, first.Reachable) ∨
    ¬ NeverLost (measuredSamples samples)

theorem measured_unreachable {s : SessionContinuitySample} (member : s ∈ measuredSamples samples)
    (other : ¬ s.Reachable) :
    s.Unreachable := by
  obtain ⟨value, shown⟩ := Option.isSome_iff_exists.mp (List.mem_filter.mp member).2
  cases value with
  | false => exact shown
  | true => exact absurd shown other

/-- A session that is never lost stays reachable once its first sample is. -/
theorem NeverLost.all_reachable (never : NeverLost (measuredSamples samples))
    (begins : ∃ first ∈ (measuredSamples samples).head?, first.Reachable) :
    ∀ s ∈ measuredSamples samples, s.Reachable := by
  intro s member
  by_contra other
  obtain ⟨first, isFirst, reachable⟩ := begins
  obtain ⟨before, after, split⟩ := List.append_of_mem member
  cases before with
  | nil =>
    rw [split] at isFirst
    obtain rfl : s = first := by simpa using isFirst
    exact other reachable
  | cons head before =>
    have same : head = first := by
      rw [split] at isFirst
      simpa using isFirst
    exact never _ s after split (measured_unreachable member other) first (by simp [same]) reachable

/-- Continuity is judged from what was seen exactly where the first measured sample is
reachable, or nothing is said. -/
theorem continuityJudged_iff (samples : List SessionContinuitySample) :
    ContinuityJudged samples ↔ BeginsReachable samples := by
  constructor
  · intro judged
    by_contra unseen
    simp only [BeginsReachable, not_or, Nat.not_lt, not_not] at unseen
    obtain ⟨two, begins, never⟩ := unseen
    have reachable := (judged.continuous (continuous_iff.mpr ⟨two, never⟩)).2
    cases split : measuredSamples samples with
    | nil =>
      rw [split] at two
      exact absurd two (by decide)
    | cons first rest =>
      rw [split] at begins
      exact begins ⟨first, rfl, reachable first (by rw [split]; exact List.mem_cons_self)⟩
  · intro begins
    have reachable (found : evaluateSessionContinuity samples = .continuous) :
        2 ≤ (measuredSamples samples).length ∧ ∀ s ∈ measuredSamples samples, s.Reachable := by
      obtain ⟨two, never⟩ := continuous_iff.mp found
      rcases begins with few | first | lost
      · omega
      · exact ⟨two, never.all_reachable first⟩
      · exact absurd never lost
    exact {
      continuous := reachable
      expired := fun _ => expired_iff
      unmeasured := fun longer same => by
        rw [evaluateSessionContinuity, evaluateSessionContinuity, same]
      neverReached := by
        intro none found
        obtain ⟨two, all⟩ := reachable found
        obtain ⟨s, member⟩ := List.exists_mem_of_length_pos (Nat.lt_of_lt_of_le Nat.zero_lt_two two)
        exact none s (List.mem_filter.mp member).1 (all s member) }

/-- A session that begins unreachable counts as continuous. -/
theorem unreachable_continuityJudged : ¬ ContinuityJudged [⟨0, some false⟩, ⟨60, some false⟩] := by
  intro judged
  exact absurd (judged.neverReached (by decide)) (by decide)

end Verdict

end FragglePacket.NetworkTests
