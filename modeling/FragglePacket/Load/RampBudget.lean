import FragglePacket.Load.Retention

/-! The ramp of an accepted budget: its rates, and how long its steps take together. -/

namespace FragglePacket.Load

namespace LoadBudget

/-- `Duration::from_secs(max_duration_secs.max(1)) / schedule.len().max(1) as u32`, in the
whole nanoseconds of a `Duration`. -/
def stepNanos (budget : LoadBudget) : Nat :=
  max budget.maxDurationSecs.toNat 1 * 1000000000 / max budget.rampSchedule.length 1

/-- How long the run stays in the step of each rate. -/
def stepDurations (budget : LoadBudget) : List Nat :=
  budget.rampSchedule.map fun _ => budget.stepNanos

/-- The ramp rises up to the target, within the cap of its mode. -/
structure RisesToTarget (budget : LoadBudget) : Prop where
  rising : budget.rampSchedule.Pairwise (· < ·)
  reaches : budget.rampSchedule.getLast? = some budget.targetRateMbps
  capped : budget.targetRateMbps ≤ budget.caps.1

/-- The first rate is a fraction of the target. -/
def StartsBelow (budget : LoadBudget) : Prop :=
  ∀ rate ∈ budget.rampSchedule.head?, rate < budget.targetRateMbps

/-- The steps take no longer than a number of seconds. -/
def EndsWithin (budget : LoadBudget) (secs : Nat) : Prop :=
  budget.stepDurations.sum ≤ secs * 1000000000

variable {budget : LoadBudget}

theorem steps_pos_of_accepted (accepted : budget.validate = .ok ()) :
    0 < budget.rampSteps.toNat := by
  rw [Nat.pos_iff_ne_zero]
  intro zero
  exact (validate_ok accepted).2.2.2 (UInt32.toNat_inj.mp zero)

theorem rampSchedule_rising (steps : 0 < budget.rampSteps.toNat)
    (positive : 0 < budget.targetRateMbps) :
    budget.rampSchedule.Pairwise (· < ·) := by
  have divisor : (0 : ℚ) < budget.rampSteps.toNat := Nat.cast_pos.mpr steps
  rw [rampSchedule, List.pairwise_map]
  refine List.Pairwise.imp ?_ List.pairwise_lt_range'
  intro first second earlier
  have fractions : (first : ℚ) / budget.rampSteps.toNat < second / budget.rampSteps.toNat :=
    div_lt_div_of_pos_right (Nat.cast_lt.mpr earlier) divisor
  exact mul_lt_mul_of_pos_left fractions positive

theorem rampSchedule_head (steps : 0 < budget.rampSteps.toNat) :
    budget.rampSchedule.head? = some (budget.targetRateMbps * (1 / budget.rampSteps.toNat)) := by
  obtain ⟨more, count⟩ := Nat.exists_eq_succ_of_ne_zero (Nat.ne_of_gt steps)
  rw [rampSchedule, count, List.range'_succ, List.map_cons, List.head?_cons, Nat.cast_one]

theorem rampSchedule_last (steps : 0 < budget.rampSteps.toNat) :
    budget.rampSchedule.getLast? = some budget.targetRateMbps := by
  obtain ⟨more, count⟩ := Nat.exists_eq_succ_of_ne_zero (Nat.ne_of_gt steps)
  have whole : ((1 + more : Nat) : ℚ) / ((more + 1 : Nat) : ℚ) = 1 := by
    rw [Nat.add_comm]
    exact div_self (Nat.cast_ne_zero.mpr (Nat.succ_ne_zero more))
  rw [rampSchedule, count, Nat.succ_eq_add_one, List.range'_concat, List.map_append,
    List.map_singleton, List.getLast?_append, List.getLast?_singleton, Option.some_or, Nat.one_mul,
    whole, mul_one]

theorem rises_of_accepted (accepted : budget.validate = .ok ())
    (positive : 0 < budget.targetRateMbps) :
    budget.RisesToTarget :=
  have steps := steps_pos_of_accepted accepted
  ⟨rampSchedule_rising steps positive, rampSchedule_last steps, (validate_ok accepted).1⟩

/-- The first rate is a fraction of the target exactly when there is a second one. -/
theorem startsBelow_iff (steps : 0 < budget.rampSteps.toNat)
    (positive : 0 < budget.targetRateMbps) :
    budget.StartsBelow ↔ 2 ≤ budget.rampSteps.toNat := by
  have divisor : (0 : ℚ) < budget.rampSteps.toNat := Nat.cast_pos.mpr steps
  have fraction : budget.targetRateMbps * (1 / budget.rampSteps.toNat) < budget.targetRateMbps ↔
      (1 : ℚ) < budget.rampSteps.toNat := by
    rw [mul_lt_iff_lt_one_right positive, div_lt_one divisor]
  rw [StartsBelow, rampSchedule_head steps]
  constructor
  · intro below
    exact Nat.one_lt_cast.mp (fraction.mp (below _ rfl))
  · intro several rate first
    rw [← Option.some.inj first]
    exact fraction.mpr (Nat.one_lt_cast.mpr several)

theorem stepDurations_sum (steps : 0 < budget.rampSteps.toNat) : budget.stepDurations.sum =
    budget.rampSteps.toNat * (max budget.maxDurationSecs.toNat 1 * 1000000000 /
      budget.rampSteps.toNat) := by
  rw [stepDurations, stepNanos, List.map_const', List.sum_replicate_nat, rampSchedule_length,
    Nat.max_eq_left steps]

/-- A budget without a duration is given a second. -/
theorem endsWithin_floor (steps : 0 < budget.rampSteps.toNat) :
    budget.EndsWithin (max budget.maxDurationSecs.toNat 1) := by
  rw [EndsWithin, stepDurations_sum steps]
  exact Nat.mul_div_le _ _

/-- The steps keep to the duration of the budget, unless it has none and a step takes a
nanosecond or more. -/
theorem endsWithin_iff (steps : 0 < budget.rampSteps.toNat) :
    budget.EndsWithin budget.maxDurationSecs.toNat ↔
    1 ≤ budget.maxDurationSecs.toNat ∨ 1000000000 < budget.rampSteps.toNat := by
  by_cases timed : 1 ≤ budget.maxDurationSecs.toNat
  · have within := endsWithin_floor steps
    rw [Nat.max_eq_left timed] at within
    exact iff_of_true within (.inl timed)
  · have none : budget.maxDurationSecs.toNat = 0 := Nat.lt_one_iff.mp (Nat.not_le.mp timed)
    rw [EndsWithin, stepDurations_sum steps, none, Nat.max_eq_right (Nat.zero_le 1), Nat.zero_mul,
      Nat.le_zero, Nat.mul_eq_zero, Nat.one_mul, Nat.div_eq_zero_iff]
    omega

/-- The ramp of an accepted budget rises to the capped target, from below it when it has two
steps, in the duration of the budget or the second that it runs at least. -/
theorem accepted_ramp_bounded (accepted : budget.validate = .ok ())
    (positive : 0 < budget.targetRateMbps) :
    budget.RisesToTarget ∧ (2 ≤ budget.rampSteps → budget.StartsBelow) ∧
      budget.EndsWithin (max budget.maxDurationSecs.toNat 1) :=
  have steps := steps_pos_of_accepted accepted
  ⟨rises_of_accepted accepted positive, fun several =>
    (startsBelow_iff steps positive).mpr (UInt32.le_iff_toNat_le.mp several),
      endsWithin_floor steps⟩

theorem accepted_ramp_bounded_default :
    (maintenance 100 10 1).RisesToTarget ∧
      (2 ≤ (maintenance 100 10 1).rampSteps → (maintenance 100 10 1).StartsBelow) ∧
      (maintenance 100 10 1).EndsWithin (max (maintenance 100 10 1).maxDurationSecs.toNat 1) :=
  accepted_ramp_bounded rfl (by decide)

/-- What the check promises as a whole holds exactly of two steps or more, and a duration. -/
theorem accepted_ramp_genuine_iff (accepted : budget.validate = .ok ())
    (positive : 0 < budget.targetRateMbps) :
    (budget.RisesToTarget ∧ budget.StartsBelow ∧ budget.EndsWithin budget.maxDurationSecs.toNat) ↔
      2 ≤ budget.rampSteps.toNat ∧ (1 ≤ budget.maxDurationSecs.toNat ∨
        1000000000 < budget.rampSteps.toNat) := by
  have steps := steps_pos_of_accepted accepted
  rw [startsBelow_iff steps positive, endsWithin_iff steps,
    and_iff_right (rises_of_accepted accepted positive)]

/-- A budget without a duration runs for a second, and a ramp of one step starts at full
rate. -/
theorem accepted_ramp_overruns :
    ((maintenance 100 0 1).validate = .ok () ∧ ¬ (maintenance 100 0 1).EndsWithin 0) ∧
      ({ maintenance 100 10 1 with rampSteps := 1 }.validate = .ok () ∧
        ¬ { maintenance 100 10 1 with rampSteps := 1 }.StartsBelow) := by
  refine ⟨⟨rfl, ?_⟩, rfl, ?_⟩
  · intro within
    have timed := (@endsWithin_iff (maintenance 100 0 1) (by decide)).mp within
    exact absurd timed (by decide)
  · intro below
    have several := (startsBelow_iff (by decide) (by decide)).mp below
    exact absurd several (by decide)

end LoadBudget

end FragglePacket.Load
