import Mathlib.Data.List.Induction

/-! A machine that answers every input it is given, and two runs of a step function on inputs that
differ in what the steps must not read. -/

namespace FragglePacket.Systems

section Machine
variable {σ ι ο : Type*} (step : σ → ι → σ × ο)

/-- The state that a list of inputs leads to. -/
def stateAfter (start : σ) (inputs : List ι) : σ :=
  inputs.foldl (fun state input => (step state input).1) start

/-- The answer to each input. -/
def answers (start : σ) : List ι → List ο
  | [] => []
  | input :: rest => (step start input).2 :: answers (step start input).1 rest

@[simp] theorem stateAfter_nil (start : σ) : stateAfter step start [] = start := rfl

theorem stateAfter_concat (start : σ) (inputs : List ι) (input : ι) :
    stateAfter step start (inputs ++ [input]) = (step (stateAfter step start inputs) input).1 := by
  rw [stateAfter, List.foldl_append]
  rfl

theorem stateAfter_append (start : σ) (first later : List ι) :
    stateAfter step start (first ++ later) = stateAfter step (stateAfter step start first) later :=
      List.foldl_append

/-- The answer at a place is that of the state which the inputs before lead to. -/
theorem answers_getElem? (start : σ) (before : List ι) (input : ι) (after : List ι) :
    (answers step start (before ++ input :: after))[before.length]? =
      some (step (stateAfter step start before) input).2 := by
  induction before generalizing start with
  | nil => rfl
  | cons first before ih => exact ih (step start first).1

theorem answers_length (start : σ) (inputs : List ι) :
    (answers step start inputs).length = inputs.length := by
  induction inputs generalizing start with
  | nil => rfl
  | cons input rest ih => exact congrArg (· + 1) (ih (step start input).1)

variable {step}

/-- What holds at the start, and is kept by every input, holds after every list of inputs. -/
theorem stateAfter_holds {start : σ} {Holds : List ι → σ → Prop} (initially : Holds [] start)
    (kept : ∀ past state input, Holds past state → Holds (past ++ [input]) (step state input).1)
    (inputs : List ι) :
    Holds inputs (stateAfter step start inputs) := by
  induction inputs using List.reverseRecOn with
  | nil => exact initially
  | append_singleton past input ih =>
    rw [stateAfter_concat]
    exact kept past (stateAfter step start past) input ih

/-- A machine that shows another one, input by input, shows it after every list of inputs. -/
theorem stateAfter_shows {τ ο' : Type*} {inner : τ → ι → τ × ο'} (shown : σ → τ)
    (each : ∀ state input, shown (step state input).1 = (inner (shown state) input).1) (start : σ)
    (inputs : List ι) :
    shown (stateAfter step start inputs) = stateAfter inner (shown start) inputs := by
  induction inputs using List.reverseRecOn with
  | nil => rfl
  | append_singleton past input ih => rw [stateAfter_concat, stateAfter_concat, each, ih]

section Leads
variable {κ : Type*} (step) (visible : ι → κ)

/-- Inputs of which only a part is chosen lead to a state with the property, whatever the rest of
them is. -/
def Leads (start : σ) (parts : List κ) (Holds : σ → Prop) : Prop :=
  ∀ inputs, inputs.map visible = parts → Holds (stateAfter step start inputs)

variable {step visible} {start : σ} {first later : List κ} {Mid Holds : σ → Prop}

theorem Leads.nil (holds : Holds start) : Leads step visible start [] Holds := by
  intro inputs none
  rw [List.map_eq_nil_iff.mp none]
  exact holds

theorem Leads.single {part : κ}
    (each : ∀ input, visible input = part → Holds (step start input).1) :
    Leads step visible start [part] Holds := by
  intro inputs only
  obtain ⟨input, rest, rfl, same, none⟩ := List.map_eq_cons_iff.mp only
  rw [List.map_eq_nil_iff.mp none]
  exact each input same

theorem Leads.append (reached : Leads step visible start first Mid)
    (next : ∀ mid, Mid mid → Leads step visible mid later Holds) :
    Leads step visible start (first ++ later) Holds := by
  intro inputs split
  obtain ⟨front, back, rfl, fronts, backs⟩ := List.map_eq_append_iff.mp split
  rw [stateAfter_append]
  exact next _ (reached front fronts) back backs

theorem Leads.imp {Holds' : σ → Prop} (reached : Leads step visible start first Holds)
    (implies : ∀ state, Holds state → Holds' state) : Leads step visible start first Holds' :=
  fun inputs same => implies _ (reached inputs same)

/-- One part, time and again, leads to what each of its inputs brings one step nearer. -/
theorem Leads.replicate {part : κ} {count : ℕ} (Reached : ℕ → σ → Prop) (begins : Reached 0 start)
    (each : ∀ done < count, ∀ state, Reached done state → ∀ input, visible input = part →
      Reached (done + 1) (step state input).1) :
    Leads step visible start (List.replicate count part) (Reached count) := by
  induction count with
  | zero => exact .nil begins
  | succ count ih =>
    have before := ih fun done less => each done (Nat.lt_succ_of_lt less)
    rw [List.replicate_succ']
    exact before.append fun state reached =>
      .single (each count (Nat.lt_succ_self count) state reached)

end Leads

end Machine

section Unwinding
variable {π σ ι : Type*} (related : π → ι → ι → π → Prop)

/-- Two sequences of inputs, related item by item, each in the place that
the items before lead to. -/
inductive Alike : π → List ι → List ι → Prop
  | nil {place : π} : Alike place [] []
  | cons {place next : π} {first second : ι} {firsts seconds : List ι} :
      related place first second next → Alike next firsts seconds →
        Alike place (first :: firsts) (second :: seconds)

variable {related} {firsts seconds : List ι}

/-- Items that are related to themselves in every place may stand in front. -/
theorem Alike.prepend (same : ∀ place item, ∃ next, related place item item next) (front : List ι)
    (rest : ∀ place, Alike related place firsts seconds) (place : π) :
    Alike related place (front ++ firsts) (front ++ seconds) := by
  induction front generalizing place with
  | nil => exact rest place
  | cons item front ih =>
    obtain ⟨next, here⟩ := same place item
    exact .cons here (ih next)

theorem Alike.refl (same : ∀ place item, ∃ next, related place item item next) (items : List ι)
    (place : π) :
    Alike related place items items := by
  simpa using Alike.prepend same items (fun _ => .nil) place

variable {step : σ → ι → σ} {holds : π → σ → Prop}

/-- Where related inputs lead to one state, the two runs end in one state. -/
theorem Alike.foldl_eq {place : π} {state : σ}
    (unwinds : ∀ place first second next state, related place first second next →
      holds place state → step state first = step state second ∧ holds next (step state first))
    (alike : Alike related place firsts seconds) (start : holds place state) :
    firsts.foldl step state = seconds.foldl step state := by
  induction alike generalizing state with
  | nil => rfl
  | cons here _ ih =>
    obtain ⟨agree, kept⟩ := unwinds _ _ _ _ _ here start
    rw [List.foldl_cons, List.foldl_cons, ← agree]
    exact ih kept

end Unwinding

end FragglePacket.Systems
