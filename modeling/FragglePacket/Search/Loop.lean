import FragglePacket.Search.Bisection

/-! Loops with rounds that may fail, and loops that run a bisection. -/

namespace FragglePacket.Search

variable {σ ε : Type}

/-- `while continues { round }`; `none` when the fuel is used up. -/
def loopWhile (continues : σ → Bool) (round : σ → Except ε σ) : Nat → σ → Option (Except ε σ)
  | 0, _ => none
  | fuel + 1, state =>
    if continues state then
      match round state with
      | .error failure => some (.error failure)
      | .ok next => loopWhile continues round fuel next
    else some (.ok state)

/-- A result that is read off a loop's outcome is that of the state it ended in. -/
theorem map_eq_ok_iff {α β : Type} {outcome : Option (Except ε α)} {read : α → β} {result : β} :
    outcome.map (·.map read) = some (.ok result) ↔
      ∃ final, outcome = some (.ok final) ∧ read final = result := by
  cases outcome with
  | none => simp
  | some ended =>
    cases ended with
    | error failure => simp [Except.map]
    | ok final => simp [Except.map]

/-- Each round of the loop, from a state that is `Valid`, takes one step of the
bisection of `bracket`, and fails when there is none. -/
structure Bisects (continues : σ → Bool) (round : σ → Except ε σ) (ask : Nat → Option Bool)
    (bracket : σ → Bracket) (Valid : σ → Prop) : Prop where
  guard : ∀ state, continues state = true ↔ (bracket state).lo ≤ (bracket state).hi
  rounds : ∀ state, Valid state → (bracket state).lo ≤ (bracket state).hi →
    ((∃ failure, round state = .error failure) ∧ (bracket state).step ask = none) ∨
      ∃ next, round state = .ok next ∧ Valid next ∧ (bracket state).step ask = some (bracket next)

section Bisects
variable {continues : σ → Bool} {round : σ → Except ε σ} {ask : Nat → Option Bool}
  {bracket : σ → Bracket} {Valid : σ → Prop}

theorem loopWhile_closed {state : σ} (closed : ¬ continues state = true) (fuel : Nat) :
    loopWhile continues round (fuel + 1) state = some (.ok state) := by
  rw [loopWhile, if_neg closed]

theorem loopWhile_next {state next : σ} (opened : continues state = true)
    (stepped : round state = .ok next) (fuel : Nat) :
    loopWhile continues round (fuel + 1) state = loopWhile continues round fuel next := by
  rw [loopWhile, if_pos opened, stepped]

/-- More fuel changes nothing once the loop has returned. -/
theorem loopWhile_spare {fuel : Nat} {state : σ} {outcome : Except ε σ}
    (returned : loopWhile continues round fuel state = some outcome) (spare : Nat) :
    loopWhile continues round (fuel + spare) state = some outcome := by
  induction fuel generalizing state with
  | zero => cases returned
  | succ fuel ih =>
    rw [Nat.add_right_comm]
    by_cases opened : continues state = true
    · rw [loopWhile, if_pos opened] at returned ⊢
      cases stepped : round state with
      | error failure =>
        rw [stepped] at returned
        exact returned
      | ok next =>
        rw [stepped] at returned
        exact ih returned
    · rw [loopWhile_closed opened] at returned ⊢
      exact returned

/-- A loop that returns has run the bisection to its end. -/
theorem Bisects.sound (bisects : Bisects continues round ask bracket Valid) {fuel : Nat}
    {state final : σ} (returned : loopWhile continues round fuel state = some (.ok final))
    (valid : Valid state) :
    Finds ask (bracket state) (bracket final) ∧ Valid final := by
  induction fuel generalizing state with
  | zero => cases returned
  | succ fuel ih =>
    by_cases opened : continues state = true
    · have still := (bisects.guard state).mp opened
      rcases bisects.rounds state valid still with ⟨⟨failure, failed⟩, _⟩ |
        ⟨next, stepped, validNext, step⟩
      · rw [loopWhile, if_pos opened, failed] at returned
        cases returned
      · rw [loopWhile_next opened stepped] at returned
        obtain ⟨finds, validFinal⟩ := ih returned validNext
        exact ⟨.round still step finds, validFinal⟩
    · have closed : (bracket state).hi < (bracket state).lo :=
        Nat.not_le.mp fun still => opened ((bisects.guard state).mpr still)
      rw [loopWhile_closed opened] at returned
      cases returned
      exact ⟨.done closed, valid⟩

/-- A bisection that ends is run by the loop, given the fuel. -/
theorem Bisects.complete (bisects : Bisects continues round ask bracket Valid)
    {start ends : Bracket} (finds : Finds ask start ends) (state : σ) (valid : Valid state)
    (same : bracket state = start) :
    ∃ fuel final, loopWhile continues round fuel state = some (.ok final) ∧
      bracket final = ends := by
  induction finds generalizing state with
  | done closed =>
    subst same
    have shut : ¬ continues state = true :=
      fun opened => Nat.not_le.mpr closed ((bisects.guard state).mp opened)
    exact ⟨1, state, loopWhile_closed shut 0, rfl⟩
  | round opened stepped rest ih =>
    subst same
    rcases bisects.rounds state valid opened with ⟨_, stopped⟩ | ⟨next, round, validNext, step⟩
    · rw [stopped] at stepped
      cases stepped
    · rw [step] at stepped
      obtain ⟨fuel, final, run, ended⟩ := ih next validNext (Option.some.inj stepped)
      refine ⟨fuel + 1, final, ?_, ended⟩
      rw [loopWhile_next ((bisects.guard state).mpr opened) round, run]

/-- Exactly when the loop returns with the right answer and nothing asked below the
floor. -/
theorem Bisects.returns_iff (bisects : Bisects continues round ask bracket Valid)
    {floor ceiling threshold first last : Nat}
    (answers : ∀ m, floor ≤ m → m ≤ ceiling → ask m = some (decide (m ≤ threshold)))
    (refuses : ∀ m, m ≤ last → ceiling < m → ask m = none) (nonempty : first ≤ last)
    (start : σ) (valid : Valid start) (fresh : bracket start = ⟨first, last, none, []⟩) :
    (∃ fuel final, loopWhile continues round fuel start = some (.ok final) ∧ Valid final ∧
        (∀ m ∈ (bracket final).asked, floor ≤ m) ∧
        (bracket final).best = lastAdmitted threshold first last) ↔
      StaysAbove floor threshold first last ∧ StaysBelow ceiling threshold first last := by
  rw [← finds_iff answers refuses nonempty]
  constructor
  · intro ⟨fuel, final, returned, _, asked, best⟩
    obtain ⟨finds, _⟩ := bisects.sound returned valid
    exact ⟨bracket final, fresh ▸ finds, asked, best⟩
  · intro ⟨ends, finds, asked, best⟩
    obtain ⟨fuel, final, returned, rfl⟩ := bisects.complete finds start valid fresh
    exact ⟨fuel, final, returned, (bisects.sound returned valid).2, asked, best⟩

end Bisects

end FragglePacket.Search
