import Mathlib.Tactic.TypeStar

/-! A channel between a sender and a receiver, whose messages follow a protocol. -/

namespace FragglePacket.Systems

section Paths
variable {π μ : Type*} (tells : π → μ → π → Prop)

/-- The messages lead from one stage of the protocol to another. -/
inductive Path : π → List μ → π → Prop
  | nil (stage : π) : Path stage [] stage
  | cons {first second last : π} {message : μ} {rest : List μ} (told : tells first message second)
      (later : Path second rest last) : Path first (message :: rest) last

variable {tells}

theorem Path.concat {first last next : π} {message : μ} {messages : List μ}
    (path : Path tells first messages last) (told : tells last message next) :
    Path tells first (messages ++ [message]) next := by
  induction path with
  | nil stage => exact .cons told (.nil next)
  | cons earlier _ ih => exact .cons earlier (ih told)

/-- No message follows a stage that is the last of the protocol. -/
theorem Path.eq_nil_of_last {first last : π} {messages : List μ}
    (path : Path tells first messages last) (final : ∀ message next, ¬ tells first message next) :
    messages = [] ∧ last = first := by
  cases path with
  | nil stage => exact ⟨rfl, rfl⟩
  | cons told _ => exact absurd told (final _ _)

end Paths

section Channel
variable {π μ ρ : Type*} {tells : π → μ → π → Prop} {shows : ρ → π → Prop} {handle : ρ → μ → ρ}

/-- The receiver shows a stage from which the messages in the channel
lead to where the sender is. -/
def InStep (tells : π → μ → π → Prop) (shows : ρ → π → Prop) (receiver : ρ) (queue : List μ)
    (sender : π) :
    Prop :=
  ∃ shown, shows receiver shown ∧ Path tells shown queue sender

theorem InStep.send {receiver : ρ} {queue : List μ} {sender next : π} {message : μ}
    (inStep : InStep tells shows receiver queue sender) (told : tells sender message next) :
    InStep tells shows receiver (queue ++ [message]) next := by
  obtain ⟨shown, shows, path⟩ := inStep
  exact ⟨shown, shows, path.concat told⟩

theorem InStep.receive {receiver : ρ} {message : μ} {rest : List μ} {sender : π}
    (inStep : InStep tells shows receiver (message :: rest) sender)
    (handled : ∀ stage next, tells stage message next → shows receiver stage →
      shows (handle receiver message) next) :
    InStep tells shows (handle receiver message) rest sender := by
  obtain ⟨shown, shown_by, path⟩ := inStep
  cases path with
  | cons told later => exact ⟨_, handled shown _ told shown_by, later⟩

end Channel

end FragglePacket.Systems
