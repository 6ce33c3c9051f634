import Mathlib.Data.List.Induction

/-! Runs of a step function that says which actions a state takes, and the rules that carry an
invariant from one step to a whole run. -/

namespace FragglePacket.Systems

section Runs
variable {σ α : Type*} (step : σ → α → Option σ)

/-- The state that a list of actions leads to, when each of them is taken. -/
def runFrom (start : σ) (actions : List α) : Option σ := actions.foldlM step start

/-- Every action of a run is taken in a state that allows it. -/
def Throughout (allows : σ → α → Prop) (start : σ) (actions : List α) : Prop :=
  ∀ past action later mid, actions = past ++ action :: later → runFrom step start past = some mid →
    allows mid action

variable {step} {start final : σ} {actions : List α}

@[simp] theorem runFrom_nil : runFrom step start [] = some start := rfl

theorem runFrom_concat {action : α} :
    runFrom step start (actions ++ [action]) = some final ↔
      ∃ mid, runFrom step start actions = some mid ∧ step mid action = some final := by
  simp [runFrom, List.foldlM_append, Option.bind_eq_some_iff]

theorem runFrom_append {mid : σ} {later : List α} (first : runFrom step start actions = some mid)
    (second : runFrom step mid later = some final) :
    runFrom step start (actions ++ later) = some final := by
  rw [runFrom, List.foldlM_append]
  exact Option.bind_eq_some_iff.mpr ⟨mid, first, second⟩

theorem Throughout.nil {allows : σ → α → Prop} : Throughout step allows start [] := by
  intro past action later mid split
  simp at split

theorem Throughout.cons {allows : σ → α → Prop} {action : α} {mid : σ}
    (allowed : allows start action) (stepped : step start action = some mid)
    (rest : Throughout step allows mid actions) :
    Throughout step allows start (action :: actions) := by
  intro past other later reachedState split reached
  cases past with
  | nil =>
    obtain ⟨rfl, -⟩ := List.cons.inj split
    obtain rfl := Option.some.inj reached
    exact allowed
  | cons first past =>
    obtain ⟨rfl, remaining⟩ := List.cons.inj split
    rw [runFrom, List.foldlM_cons, stepped] at reached
    exact rest past other later reachedState remaining reached

theorem Throughout.before {allows : σ → α → Prop} {action : α}
    (throughout : Throughout step allows start (actions ++ [action])) :
    Throughout step allows start actions := by
  intro past earlier later mid split reached
  exact throughout past earlier (later ++ [action]) mid (by simp [split]) reached

theorem Throughout.last {allows : σ → α → Prop} {action : α} {mid : σ}
    (throughout : Throughout step allows start (actions ++ [action]))
    (reached : runFrom step start actions = some mid) :
    allows mid action :=
  throughout actions action [] mid rfl reached

/-- What holds at the start, and is kept by every allowed step, holds after every run of
allowed steps. The invariant may speak of the actions so far. -/
theorem invariant_throughout {allows : σ → α → Prop} {Holds : List α → σ → Prop}
    (initially : Holds [] start)
    (kept : ∀ past mid action next, runFrom step start past = some mid → allows mid action →
      step mid action = some next → Holds past mid → Holds (past ++ [action]) next)
    (throughout : Throughout step allows start actions)
    (reached : runFrom step start actions = some final) :
    Holds actions final := by
  induction actions using List.reverseRecOn generalizing final with
  | nil =>
    obtain rfl := Option.some.inj reached
    exact initially
  | append_singleton past action ih =>
    obtain ⟨mid, before, stepped⟩ := runFrom_concat.mp reached
    exact kept past mid action final before (throughout.last before) stepped
      (ih throughout.before before)

/-- What holds at the start, and is kept by every step, holds after every run. -/
theorem invariant {Holds : List α → σ → Prop} (initially : Holds [] start)
    (kept : ∀ past mid action next, runFrom step start past = some mid →
      step mid action = some next → Holds past mid → Holds (past ++ [action]) next)
    (reached : runFrom step start actions = some final) : Holds actions final := by
  have free : Throughout step (fun _ _ => True) start actions := fun _ _ _ _ _ _ => trivial
  exact invariant_throughout initially
    (fun past mid action next before _ => kept past mid action next before) free reached

theorem state_invariant {Holds : σ → Prop} (initially : Holds start)
    (kept : ∀ mid action next, step mid action = some next → Holds mid → Holds next)
    (reached : runFrom step start actions = some final) : Holds final :=
  @invariant σ α step start final actions (fun _ => Holds) initially
    (fun _ mid action next _ => kept mid action next)
    reached

/-- Where every state that is not done has a run to a smaller one, every state has a run to one
that is done. -/
theorem exists_run_to {Holds Done : σ → Prop} (size : σ → Nat)
    (kept : ∀ mid action next, step mid action = some next → Holds mid → Holds next)
    (progress : ∀ mid, Holds mid → ¬ Done mid →
      ∃ later next, runFrom step mid later = some next ∧ size next < size mid)
    (holds : Holds start) : ∃ later final, runFrom step start later = some final ∧ Done final := by
  induction bound : size start using Nat.strongRecOn generalizing start with
  | ind bound ih =>
    by_cases done : Done start
    · exact ⟨[], start, rfl, done⟩
    · obtain ⟨first, mid, before, smaller⟩ := progress start holds done
      obtain ⟨second, final, after, finished⟩ :=
        ih (size mid) (by omega) (state_invariant holds kept before) rfl
      exact ⟨first ++ second, final, runFrom_append before after, finished⟩

end Runs

end FragglePacket.Systems
