import Mathlib.Algebra.Order.Ring.Unbundled.Rat
import FragglePacket.Lists.Grouping
import FragglePacket.Lists.Interleaving

/-! What continuously sampled sessions went through while a component was changed. -/

namespace FragglePacket.NetworkTests

open FragglePacket.Lists

structure SessionSample where
  sessionId : Fin 4294967296
  sessionAlive : Option Bool
  routeIdentity : Option String
  natIdentity : Option String
  stateResynchronized : Option Bool

structure ResilienceRun where
  samples : List SessionSample
  outageStartedSecs : Option ℚ
  outageEndedSecs : Option ℚ

inductive IdentityContinuity where
  | unchanged
  | changed (before after : String)
  | unavailable
  deriving DecidableEq

abbrev RouteIdentityContinuity := IdentityContinuity

abbrev NatIdentityContinuity := IdentityContinuity

structure ResilienceVerdict where
  outageDurationSecs : Option ℚ
  sessionsSurvived : Nat
  sessionsLost : Nat
  sessionsNeverSampled : Nat
  routeIdentity : RouteIdentityContinuity
  natIdentity : NatIdentityContinuity
  stateResyncObserved : Option Bool
  deriving DecidableEq

/-- What a session is counted as. -/
inductive SessionFate where
  | survived
  | lost
  | neverSampled
  deriving DecidableEq

def sessionFate (samples : List SessionSample) : SessionFate :=
  let everLost := samples.any (·.sessionAlive = some false)
  let lastKnownAlive := samples.reverse.findSome? (·.sessionAlive)
  if lastKnownAlive.isNone then .neverSampled
  else if everLost && lastKnownAlive = some false then .lost
  else .survived

/-- The first identity seen against the last. -/
def identityContinuity (identities : List String) : IdentityContinuity :=
  match identities.head?, identities.getLast? with
  | some first, some last => if first ≠ last then .changed first last else .unchanged
  | _, _ => .unavailable

def ResilienceRun.outageDurationSecs (run : ResilienceRun) : Option ℚ :=
  match run.outageStartedSecs, run.outageEndedSecs with
  | some started, some ended => if ended ≥ started then some (ended - started) else none
  | _, _ => none

def stateResyncObserved (samples : List SessionSample) : Option Bool :=
  if samples.any (·.stateResynchronized.isSome) then some
    (samples.any (·.stateResynchronized = some true)) else none

def judgeResilience (run : ResilienceRun) : ResilienceVerdict :=
  let fates := (grouped (·.sessionId) run.samples).map fun session => sessionFate session.2
  { outageDurationSecs := run.outageDurationSecs
    sessionsSurvived := fates.count .survived
    sessionsLost := fates.count .lost
    sessionsNeverSampled := fates.count .neverSampled
    routeIdentity := identityContinuity (run.samples.filterMap (·.routeIdentity))
    natIdentity := identityContinuity (run.samples.filterMap (·.natIdentity))
    stateResyncObserved := stateResyncObserved run.samples }

/-- One session was observed with two identities. -/
def SeenTwice (identity : SessionSample → Option String) (samples : List SessionSample) : Prop :=
  ∃ s ∈ samples, ∃ t ∈ samples, s.sessionId = t.sessionId ∧ ∃ x y, identity s = some x ∧
    identity t = some y ∧ x ≠ y

/-- A verdict that rests on what each session went through alone. -/
structure IndependentOfInterleaving (run : ResilienceRun) : Prop where
  reordered : ∀ samples, Reordering (·.sessionId) run.samples samples →
    judgeResilience { run with samples := samples } = judgeResilience run
  route : ∀ before after, (judgeResilience run).routeIdentity = .changed before after →
    SeenTwice (·.routeIdentity) run.samples
  nat : ∀ before after, (judgeResilience run).natIdentity = .changed before after →
    SeenTwice (·.natIdentity) run.samples

/-- The sessions with an identity agree on their first and on their last. -/
def SessionsAgree (identity : SessionSample → Option String)
    (samples : List SessionSample) : Prop :=
  FirstsAgree (·.sessionId) identity samples ∧ LastsAgree (·.sessionId) identity samples

section Continuity

/-- A change that is reported is that of the ends. -/
def IdentityContinuity.change : IdentityContinuity → Option (String × String)
  | changed before after => some (before, after)
  | unchanged => none
  | unavailable => none

theorem change_eq_some_iff {continuity : IdentityContinuity} {before after : String} :
    continuity.change = some (before, after) ↔ continuity = .changed before after := by
  cases continuity <;> simp [IdentityContinuity.change]

theorem eq_of_change {continuity other : IdentityContinuity}
    (change : continuity.change = other.change)
    (unavailable : continuity = .unavailable ↔ other = .unavailable) : continuity = other := by
  cases continuity <;> cases other <;> simp_all [IdentityContinuity.change]

variable {identity : SessionSample → Option String} {samples others : List SessionSample}

theorem change_identityContinuity (identity : SessionSample → Option String)
    (samples : List SessionSample) :
    (identityContinuity (samples.filterMap identity)).change = moved identity samples := by
  rw [identityContinuity, moved, firstOf, lastOf]
  cases (samples.filterMap identity).head? with
  | none => rfl
  | some first =>
    cases (samples.filterMap identity).getLast? with
    | none => rfl
    | some last =>
      by_cases same : first = last
      · simp [same, IdentityContinuity.change]
      · simp [same, IdentityContinuity.change]

theorem identityContinuity_unavailable_iff :
    identityContinuity (samples.filterMap identity) = .unavailable ↔
      firstOf identity samples = none := by
  rw [firstOf, identityContinuity]
  cases values : samples.filterMap identity with
  | nil => simp
  | cons first rest =>
    simp only [List.head?_cons, List.getLast?_cons, reduceCtorEq, iff_false]
    split <;> simp

theorem identityContinuity_reordering_iff (same : Reordering (·.sessionId) samples others) :
    identityContinuity (others.filterMap identity) =
      identityContinuity (samples.filterMap identity) ↔
      moved identity others = moved identity samples := by
  rw [← change_identityContinuity, ← change_identityContinuity]
  constructor
  · exact congrArg IdentityContinuity.change
  · intro change
    apply eq_of_change change
    rw [identityContinuity_unavailable_iff, identityContinuity_unavailable_iff,
      same.firstOf_eq_none_iff]

/-- A change between the ends is one that some session saw, when sessions agree on theirs. -/
theorem seenTwice_of_changed {before after : String} (agree : SessionsAgree identity samples)
    (changed : identityContinuity (samples.filterMap identity) = .changed before after) :
    SeenTwice identity samples := by
  rw [← change_eq_some_iff, change_identityContinuity, moved_eq_some_iff] at changed
  obtain ⟨first, last, different⟩ := changed
  obtain ⟨i, firstOwn⟩ := exists_group_of_firstOf (·.sessionId) first
  obtain ⟨j, lastOwn⟩ := exists_group_of_lastOf (·.sessionId) last
  obtain ⟨final, ends⟩ := Option.isSome_iff_exists.mp
    (firstOf_isSome_iff_lastOf_isSome.mp (Option.isSome_of_eq_some firstOwn))
  obtain rfl := agree.2 i j final after ends lastOwn
  obtain ⟨s, sMember, sIdentity⟩ := exists_mem_of_firstOf firstOwn
  obtain ⟨t, tMember, tIdentity⟩ := exists_mem_of_lastOf ends
  obtain ⟨sSampled, sSession⟩ := List.mem_filter.mp sMember
  obtain ⟨tSampled, tSession⟩ := List.mem_filter.mp tMember
  exact ⟨s, sSampled, t, tSampled, (of_decide_eq_true sSession).trans
    (of_decide_eq_true tSession).symm,
    before, final, sIdentity, tIdentity, different⟩

end Continuity

section Verdict
variable {run : ResilienceRun} {samples : List SessionSample}

theorem stateResyncObserved_perm {others : List SessionSample} (perm : samples.Perm others) :
    stateResyncObserved others = stateResyncObserved samples := by
  rw [stateResyncObserved, stateResyncObserved, perm.any_eq, perm.any_eq]

/-- Nothing but the two identities depends on how the sessions interleave. -/
theorem judgeResilience_reordering_iff (same : Reordering (·.sessionId) run.samples samples) :
    judgeResilience { run with samples := samples } = judgeResilience run ↔
      moved (·.routeIdentity) samples = moved (·.routeIdentity) run.samples ∧
      moved (·.natIdentity) samples = moved (·.natIdentity) run.samples := by
  rw [← identityContinuity_reordering_iff same, ← identityContinuity_reordering_iff same]
  have fates : grouped (·.sessionId) samples = grouped (·.sessionId) run.samples :=
    (grouped_congr same).symm
  have resync : stateResyncObserved samples = stateResyncObserved run.samples :=
    stateResyncObserved_perm same.perm
  simp only [judgeResilience, ResilienceRun.outageDurationSecs, ResilienceVerdict.mk.injEq, fates,
    resync, true_and, and_true]

/-- The verdict rests on each session alone exactly when the sessions agree on their first and
on their last identity, for the route and for the NAT. -/
theorem independent_of_interleaving_iff (run : ResilienceRun) :
    IndependentOfInterleaving run ↔
      SessionsAgree (·.routeIdentity) run.samples ∧ SessionsAgree (·.natIdentity) run.samples := by
  constructor
  · intro independent
    constructor
    · refine stable_iff_agree.mp fun samples same => ?_
      exact ((judgeResilience_reordering_iff same).mp (independent.reordered samples same)).1
    · refine stable_iff_agree.mp fun samples same => ?_
      exact ((judgeResilience_reordering_iff same).mp (independent.reordered samples same)).2
  · rintro ⟨route, nat⟩
    constructor
    · intro samples same
      exact (judgeResilience_reordering_iff same).mpr
        ⟨stable_iff_agree.mpr route samples same, stable_iff_agree.mpr nat samples same⟩
    · intro before after changed
      exact seenTwice_of_changed route changed
    · intro before after changed
      exact seenTwice_of_changed nat changed

end Verdict

section Instances

/-- Two sessions that each keep to their own route. -/
def steadyRun : ResilienceRun where
  samples :=
    [⟨1, some true, some "via-wan-a", none, none⟩, ⟨2, some true, some "via-wan-b", none, none⟩]
  outageStartedSecs := none
  outageEndedSecs := none

/-- Steady sessions on different routes read as a failover. -/
theorem steady_sessions_read_as_failover : ¬ IndependentOfInterleaving steadyRun := by
  intro independent
  obtain ⟨s, sMember, t, tMember, same, x, y, sRoute, tRoute, different⟩ :=
    independent.route "via-wan-a" "via-wan-b" (by decide)
  simp only [steadyRun, List.mem_cons, List.not_mem_nil, or_false] at sMember tMember
  rcases sMember with rfl | rfl <;> rcases tMember with rfl | rfl
  · exact different (Option.some.inj (sRoute.symm.trans tRoute))
  · exact absurd same (by decide)
  · exact absurd same (by decide)
  · exact different (Option.some.inj (sRoute.symm.trans tRoute))

end Instances

end FragglePacket.NetworkTests
