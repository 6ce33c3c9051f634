import Mathlib.Algebra.GroupWithZero.Nat
import Mathlib.Data.Nat.Basic
import Mathlib.Tactic.TypeStar

/-! Bisection over a closed interval of natural numbers whose bounds move by one
past the midpoint, when not every midpoint can be asked. -/

namespace FragglePacket.Search

/-- The interval of a search, its best answer and the midpoints asked so far. -/
structure Bracket where
  lo : Nat
  hi : Nat
  best : Option Nat
  asked : List Nat

def Bracket.mid (b : Bracket) : Nat := b.lo + (b.hi - b.lo) / 2

/-- One round; there is none after an answer that is missing, or after zero was
rejected. -/
def Bracket.step (ask : Nat → Option Bool) (b : Bracket) : Option Bracket :=
  match ask b.mid with
  | none => none
  | some true => some ⟨b.mid + 1, b.hi, some b.mid, b.asked ++ [b.mid]⟩
  | some false =>
    if b.mid = 0 then none
    else some ⟨b.lo, b.mid - 1, b.best, b.asked ++ [b.mid]⟩

section Step
variable {ask : Nat → Option Bool} {b : Bracket}

theorem Bracket.step_unanswered (answer : ask b.mid = none) : b.step ask = none := by
  simp only [Bracket.step, answer]

theorem Bracket.step_admitted (answer : ask b.mid = some true) :
    b.step ask = some ⟨b.mid + 1, b.hi, some b.mid, b.asked ++ [b.mid]⟩ := by
  simp only [Bracket.step, answer]

theorem Bracket.step_rejected (answer : ask b.mid = some false) : b.step ask =
    if b.mid = 0 then none else some ⟨b.lo, b.mid - 1, b.best, b.asked ++ [b.mid]⟩ := by
  simp only [Bracket.step, answer]

theorem Bracket.mid_bounds (opened : b.lo ≤ b.hi) : b.lo ≤ b.mid ∧ b.mid ≤ b.hi := by
  unfold Bracket.mid
  omega

end Step

/-- The search ends in `final` after finitely many rounds. -/
inductive Finds (ask : Nat → Option Bool) : Bracket → Bracket → Prop
  | done {b : Bracket} (closed : b.hi < b.lo) : Finds ask b b
  | round {b next final : Bracket} (opened : b.lo ≤ b.hi) (stepped : b.step ask = some next)
      (rest : Finds ask next final) : Finds ask b final

/-- The midpoint after `rounds` answers that all lowered the upper bound. -/
def descent (lo hi rounds : Nat) : Nat := lo + (hi - lo + 2) / 2 ^ (rounds + 1) - 1

/-- The midpoint after `rounds` answers that all raised the lower bound. -/
def ascent (lo hi rounds : Nat) : Nat := hi - (hi - lo + 1) / 2 ^ (rounds + 1)

theorem descent_zero (lo hi : Nat) : descent lo hi 0 = lo + (hi - lo) / 2 := by
  simp only [descent, Nat.zero_add, Nat.pow_one]
  omega

theorem ascent_zero {lo hi : Nat} (opened : lo ≤ hi) : ascent lo hi 0 = lo + (hi - lo) / 2 := by
  simp only [ascent, Nat.zero_add, Nat.pow_one]
  omega

theorem descent_succ {lo hi : Nat} (above : lo < lo + (hi - lo) / 2) (rounds : Nat) :
    descent lo hi (rounds + 1) = descent lo (lo + (hi - lo) / 2 - 1) rounds := by
  have width : lo + (hi - lo) / 2 - 1 - lo + 2 = (hi - lo + 2) / 2 := by omega
  rw [descent, descent, width, Nat.div_div_eq_div_mul, ← Nat.pow_succ']

theorem ascent_succ {lo hi : Nat} (below : lo + (hi - lo) / 2 < hi) (rounds : Nat) :
    ascent lo hi (rounds + 1) = ascent (lo + (hi - lo) / 2 + 1) hi rounds := by
  have width : hi - (lo + (hi - lo) / 2 + 1) + 1 = (hi - lo + 1) / 2 := by omega
  rw [ascent, ascent, width, Nat.div_div_eq_div_mul, ← Nat.pow_succ']

theorem halved_le (width rounds : Nat) : width / 2 ^ (rounds + 1) ≤ width / 2 ^ (0 + 1) :=
  Nat.div_le_div_left (Nat.pow_le_pow_right (by omega) (by omega)) (by omega)

theorem descent_le (lo hi rounds : Nat) : descent lo hi rounds ≤ descent lo hi 0 := by
  have smaller := halved_le (hi - lo + 2) rounds
  simp only [descent]
  omega

theorem le_ascent (lo hi rounds : Nat) : ascent lo hi 0 ≤ ascent lo hi rounds := by
  have smaller := halved_le (hi - lo + 1) rounds
  simp only [ascent]
  omega

section Threshold
variable {floor ceiling threshold : Nat} {ask : Nat → Option Bool}

/-- The search asks nothing below `floor`: it starts there, or its first midpoint that
the threshold admits lies there. -/
def StaysAbove (floor threshold lo hi : Nat) : Prop :=
  floor ≤ lo ∨ ∃ rounds, floor ≤ descent lo hi rounds ∧ descent lo hi rounds ≤ threshold

/-- The search asks nothing above `ceiling`: it ends there, or its first midpoint that
the threshold rejects lies there. -/
def StaysBelow (ceiling threshold lo hi : Nat) : Prop :=
  hi ≤ ceiling ∨ ∃ rounds, threshold < ascent lo hi rounds ∧ ascent lo hi rounds ≤ ceiling

theorem StaysAbove.mid {b : Bracket} (above : StaysAbove floor threshold b.lo b.hi) :
    floor ≤ b.mid := by
  rcases above with start | ⟨rounds, high, _⟩
  · exact Nat.le_add_right_of_le start
  · have first := descent_le b.lo b.hi rounds
    rw [descent_zero] at first
    exact Nat.le_trans high first

theorem StaysBelow.mid {b : Bracket} (below : StaysBelow ceiling threshold b.lo b.hi)
    (opened : b.lo ≤ b.hi) : b.mid ≤ ceiling := by
  rcases below with stop | ⟨rounds, _, low⟩
  · exact Nat.le_trans (Bracket.mid_bounds opened).2 stop
  · have first := le_ascent b.lo b.hi rounds
    rw [ascent_zero opened] at first
    exact Nat.le_trans first low

theorem StaysAbove.raise {b : Bracket} (above : StaysAbove floor threshold b.lo b.hi) (hi : Nat) :
    StaysAbove floor threshold (b.mid + 1) hi :=
  .inl (Nat.le_trans above.mid (Nat.le_succ _))

theorem StaysBelow.lower {b : Bracket} (below : StaysBelow ceiling threshold b.lo b.hi)
    (opened : b.lo ≤ b.hi) (lo : Nat) : StaysBelow ceiling threshold lo (b.mid - 1) :=
  .inl (Nat.le_trans (Nat.sub_le _ _) (below.mid opened))

theorem StaysAbove.lower {b : Bracket} (above : StaysAbove floor threshold b.lo b.hi)
    (rejected : threshold < b.mid) : StaysAbove floor threshold b.lo (b.mid - 1) := by
  rcases above with start | ⟨rounds, high, admitted⟩
  · exact .inl start
  · by_cases start : floor ≤ b.lo
    · exact .inl start
    · cases rounds with
      | zero =>
        rw [descent_zero] at admitted
        exact absurd admitted (Nat.not_le.mpr rejected)
      | succ rounds =>
        have first := descent_le b.lo b.hi (rounds + 1)
        rw [descent_zero] at first
        have inside : b.lo < b.lo + (b.hi - b.lo) / 2 := by omega
        rw [descent_succ inside] at high admitted
        exact .inr ⟨rounds, high, admitted⟩

theorem StaysBelow.raise {b : Bracket} (below : StaysBelow ceiling threshold b.lo b.hi)
    (opened : b.lo ≤ b.hi) (admitted : b.mid ≤ threshold) :
    StaysBelow ceiling threshold (b.mid + 1) b.hi := by
  by_cases last : b.mid = b.hi
  · exact .inl (last ▸ below.mid opened)
  · rcases below with stop | ⟨rounds, rejected, low⟩
    · exact .inl stop
    · cases rounds with
      | zero =>
        rw [ascent_zero opened] at rejected
        exact absurd rejected (Nat.not_lt.mpr admitted)
      | succ rounds =>
        have inside : b.mid < b.hi := Nat.lt_of_le_of_ne (Bracket.mid_bounds opened).2 last
        rw [ascent_succ inside] at rejected low
        exact .inr ⟨rounds, rejected, low⟩

/-- What holds between rounds: everything below the bracket is admitted, everything
above it is not, and the best answer lies just below it. -/
structure Tracks (floor threshold first last : Nat) (b : Bracket) : Prop where
  lower : first ≤ b.lo
  upper : b.hi ≤ last
  ordered : b.lo ≤ b.hi + 1
  best : (b.lo = first ∧ b.best = none) ∨
    (first < b.lo ∧ b.best = some (b.lo - 1) ∧ b.lo ≤ threshold + 1)
  rejected : b.hi = last ∨ threshold ≤ b.hi
  asked : ∀ m ∈ b.asked, floor ≤ m

theorem Tracks.asked_mid {first last : Nat} {b : Bracket}
    (tracks : Tracks floor threshold first last b) (above : floor ≤ b.mid) :
    ∀ m ∈ b.asked ++ [b.mid], floor ≤ m := by
  intro m member
  rcases List.mem_append.mp member with earlier | here
  · exact tracks.asked m earlier
  · rwa [List.mem_singleton.mp here]

/-- An admitted midpoint. -/
theorem Tracks.raise {first last : Nat} {b : Bracket} (tracks : Tracks floor threshold first last b)
    (opened : b.lo ≤ b.hi) (above : floor ≤ b.mid) (admitted : b.mid ≤ threshold) :
    Tracks floor threshold first last ⟨b.mid + 1, b.hi, some b.mid, b.asked ++ [b.mid]⟩ := by
  obtain ⟨below, under⟩ := b.mid_bounds opened
  have lower := tracks.lower
  constructor
  · exact Nat.le_succ_of_le (Nat.le_trans lower below)
  · exact tracks.upper
  · exact Nat.succ_le_succ under
  · exact .inr ⟨Nat.lt_succ_of_le (Nat.le_trans lower below), rfl, Nat.succ_le_succ admitted⟩
  · exact tracks.rejected
  · exact tracks.asked_mid above

/-- A rejected midpoint. -/
theorem Tracks.lowered {first last : Nat} {b : Bracket}
    (tracks : Tracks floor threshold first last b) (opened : b.lo ≤ b.hi) (above : floor ≤ b.mid)
    (rejected : threshold < b.mid) :
    Tracks floor threshold first last ⟨b.lo, b.mid - 1, b.best, b.asked ++ [b.mid]⟩ := by
  obtain ⟨below, under⟩ := b.mid_bounds opened
  have upper := tracks.upper
  constructor
  · exact tracks.lower
  · show b.mid - 1 ≤ last
    omega
  · show b.lo ≤ b.mid - 1 + 1
    omega
  · exact tracks.best
  · exact .inr (Nat.le_sub_one_of_lt rejected)
  · exact tracks.asked_mid above

/-- What a search for the largest admitted value in `first..last` should answer. -/
def lastAdmitted (threshold first last : Nat) : Option Nat :=
  if first ≤ threshold then some (min threshold last) else none

theorem Tracks.best_eq {first last : Nat} {b : Bracket}
    (tracks : Tracks floor threshold first last b) (closed : b.hi < b.lo)
    (nonempty : first ≤ last) : b.best = lastAdmitted threshold first last := by
  obtain ⟨lower, upper, ordered, best, rejected, _⟩ := tracks
  unfold lastAdmitted
  rcases best with ⟨start, none⟩ | ⟨moved, found, admitted⟩
  · rw [none, if_neg (by omega)]
  · rw [found, if_pos (by omega)]
    congr 1
    omega

/-- From a bracket that keeps between floor and ceiling the search ends with the
right answer. -/
theorem finds_of_stays
    (answers : ∀ m, floor ≤ m → m ≤ ceiling → ask m = some (decide (m ≤ threshold)))
    {first last : Nat} (nonempty : first ≤ last)
    (b : Bracket) (tracks : Tracks floor threshold first last b)
    (above : StaysAbove floor threshold b.lo b.hi)
    (below : StaysBelow ceiling threshold b.lo b.hi) :
    ∃ final, Finds ask b final ∧ Tracks floor threshold first last final ∧
      final.best = lastAdmitted threshold first last := by
  induction width : b.hi + 1 - b.lo using Nat.strong_induction_on generalizing b with
  | _ width ih =>
    by_cases opened : b.lo ≤ b.hi
    · obtain ⟨left, right⟩ := b.mid_bounds opened
      have answer := answers b.mid above.mid (below.mid opened)
      by_cases admitted : b.mid ≤ threshold
      · simp only [admitted, decide_true] at answer
        obtain ⟨final, finds, ends⟩ := ih (b.hi + 1 - (b.mid + 1)) (by omega) _
          (tracks.raise opened above.mid admitted) (above.raise b.hi)
            (below.raise opened admitted) rfl
        exact ⟨final, .round opened (Bracket.step_admitted answer) finds, ends⟩
      · have rejected := Nat.not_le.mp admitted
        have positive : b.mid ≠ 0 := by omega
        simp only [admitted, decide_false] at answer
        have stepped : b.step ask = some ⟨b.lo, b.mid - 1, b.best, b.asked ++ [b.mid]⟩ := by
          rw [Bracket.step_rejected answer, if_neg positive]
        obtain ⟨final, finds, ends⟩ := ih (b.mid - 1 + 1 - b.lo) (by omega) _
          (tracks.lowered opened above.mid rejected) (above.lower rejected)
            (below.lower opened b.lo) rfl
        exact ⟨final, .round opened stepped finds, ends⟩
    · have closed := Nat.not_le.mp opened
      exact ⟨b, .done closed, tracks, tracks.best_eq closed nonempty⟩

theorem Bracket.step_asked {b next : Bracket} (stepped : b.step ask = some next) :
    next.asked = b.asked ++ [b.mid] := by
  cases answer : ask b.mid with
  | none =>
    rw [Bracket.step_unanswered answer] at stepped
    cases stepped
  | some admitted =>
    cases admitted with
    | true =>
      rw [Bracket.step_admitted answer] at stepped
      rw [← Option.some.inj stepped]
    | false =>
      rw [Bracket.step_rejected answer] at stepped
      split at stepped
      · cases stepped
      · rw [← Option.some.inj stepped]

theorem Finds.asked_prefix {b final : Bracket} (finds : Finds ask b final) :
    b.asked <+: final.asked := by
  induction finds with
  | done closed => exact List.prefix_rfl
  | round opened stepped rest ih =>
    exact (List.prefix_append _ _).trans (Bracket.step_asked stepped ▸ ih)

/-- What a round asks stays among the midpoints asked. -/
theorem Finds.mid_asked {b next final : Bracket} (stepped : b.step ask = some next)
    (rest : Finds ask next final) : b.mid ∈ final.asked := by
  refine rest.asked_prefix.subset ?_
  rw [Bracket.step_asked stepped]
  exact List.mem_append_right _ (List.mem_singleton.mpr rfl)

/-- A search that ends and asks nothing below the floor keeps between floor and ceiling. -/
theorem Finds.stays
    (answers : ∀ m, floor ≤ m → m ≤ ceiling → ask m = some (decide (m ≤ threshold)))
    {last : Nat} (refuses : ∀ m, m ≤ last → ceiling < m → ask m = none)
    {b final : Bracket} (finds : Finds ask b final) (asked : ∀ m ∈ final.asked, floor ≤ m)
    (opened : b.lo ≤ b.hi) (within : b.hi ≤ last) :
    StaysAbove floor threshold b.lo b.hi ∧ StaysBelow ceiling threshold b.lo b.hi := by
  induction finds with
  | done closed => exact absurd opened (Nat.not_le.mpr closed)
  | @round b next final _ stepped rest ih =>
    obtain ⟨left, right⟩ := b.mid_bounds opened
    have above := asked _ (Finds.mid_asked stepped rest)
    have below : b.mid ≤ ceiling := by
      by_contra beyond
      have missing := refuses _ (Nat.le_trans right within) (Nat.not_le.mp beyond)
      rw [Bracket.step_unanswered missing] at stepped
      cases stepped
    have down := descent_zero b.lo b.hi
    have up := ascent_zero opened
    have answer := answers b.mid above below
    by_cases admitted : b.mid ≤ threshold
    · refine ⟨.inr ⟨0, down ▸ above, down ▸ admitted⟩, ?_⟩
      by_cases edge : b.mid = b.hi
      · exact .inl (edge ▸ below)
      · have inside : b.mid < b.hi := Nat.lt_of_le_of_ne right edge
        simp only [admitted, decide_true] at answer
        rw [Bracket.step_admitted answer] at stepped
        obtain rfl := Option.some.inj stepped
        rcases (ih asked inside within).2 with stop | ⟨rounds, rejected, low⟩
        · exact .inl stop
        · have same := ascent_succ inside rounds
          exact .inr ⟨rounds + 1, same ▸ rejected, same ▸ low⟩
    · have rejected := Nat.not_le.mp admitted
      refine ⟨?_, .inr ⟨0, up ▸ rejected, up ▸ below⟩⟩
      by_cases start : floor ≤ b.lo
      · exact .inl start
      · have positive : b.mid ≠ 0 := by omega
        have inside : b.lo < b.mid := by omega
        simp only [admitted, decide_false] at answer
        rw [Bracket.step_rejected answer, if_neg positive] at stepped
        obtain rfl := Option.some.inj stepped
        have narrowed : b.mid - 1 ≤ last :=
          Nat.le_trans (Nat.sub_le _ _) (Nat.le_trans right within)
        rcases (ih asked (Nat.le_sub_one_of_lt inside) narrowed).1 with low | ⟨rounds, high, under⟩
        · exact .inl low
        · have same := descent_succ inside rounds
          exact .inr ⟨rounds + 1, same ▸ high, same ▸ under⟩

/-- Exactly when a search ends, with the right answer and nothing asked below the floor. -/
theorem finds_iff
    (answers : ∀ m, floor ≤ m → m ≤ ceiling → ask m = some (decide (m ≤ threshold)))
    {first last : Nat} (refuses : ∀ m, m ≤ last → ceiling < m → ask m = none)
    (nonempty : first ≤ last) :
    (∃ final, Finds ask ⟨first, last, none, []⟩ final ∧ (∀ m ∈ final.asked, floor ≤ m) ∧
        final.best = lastAdmitted threshold first last) ↔
      StaysAbove floor threshold first last ∧ StaysBelow ceiling threshold first last := by
  constructor
  · intro ⟨final, finds, asked, _⟩
    exact finds.stays answers refuses asked nonempty (Nat.le_refl _)
  · intro ⟨above, below⟩
    have start : Tracks floor threshold first last ⟨first, last, none, []⟩ :=
      ⟨Nat.le_refl _, Nat.le_refl _, Nat.le_succ_of_le nonempty, .inl ⟨rfl, rfl⟩, .inl rfl, by simp⟩
    obtain ⟨final, finds, tracks, best⟩ := finds_of_stays answers nonempty _ start above below
    exact ⟨final, finds, tracks.asked, best⟩

end Threshold

section Effects
variable {σ β : Type*} (ask : σ → Nat → Bool × σ) (found : Nat → β)

/-- A search whose questions leave something behind, in the world they are asked in. -/
def searchIn (low high : Nat) (best : β) (world : σ) : β × σ :=
  if low ≤ high then
    let mid := (low + high) / 2
    let (admitted, world) := ask world mid
    if admitted then searchIn (mid + 1) high (found mid) world
    else if mid = 0 then (best, world)
    else searchIn low (mid - 1) best world
  else (best, world)
termination_by high + 1 - low
decreasing_by
  · omega
  · omega

variable {ask found} {low high : Nat} {best : β} {world : σ}

theorem searchIn_closed (closed : high < low) :
    searchIn ask found low high best world = (best, world) := by
  rw [searchIn, if_neg (Nat.not_le.mpr closed)]

theorem searchIn_admitted (opened : low ≤ high)
    (admitted : (ask world ((low + high) / 2)).1 = true) :
    searchIn ask found low high best world =
      searchIn ask found ((low + high) / 2 + 1) high (found ((low + high) / 2))
        (ask world ((low + high) / 2)).2 := by
  rw [searchIn, if_pos opened]
  exact if_pos admitted

theorem searchIn_rejected (opened : low ≤ high)
    (rejected : (ask world ((low + high) / 2)).1 = false) :
    searchIn ask found low high best world =
      if (low + high) / 2 = 0 then (best, (ask world ((low + high) / 2)).2)
      else searchIn ask found low ((low + high) / 2 - 1) best (ask world ((low + high) / 2)).2 := by
  rw [searchIn, if_pos opened]
  exact if_neg (by rw [rejected]; decide)

/-- An answer leaves a fact about its midpoint that later answers do not take away. -/
structure Leaves (ask : σ → Nat → Bool × σ) (Yes No : σ → Nat → Prop) : Prop where
  yes : ∀ world m, (ask world m).1 = true → Yes (ask world m).2 m
  no : ∀ world m, (ask world m).1 = false → No (ask world m).2 m
  keepsYes : ∀ world m n, Yes world n → Yes (ask world m).2 n
  keepsNo : ∀ world m n, No world n → No (ask world m).2 n

/-- What is known between rounds: the value below the bracket was admitted, unless nothing was, and
the value above it was rejected, unless it is the last. -/
structure Narrowed (Yes No : σ → Nat → Prop) (found : Nat → β) (first last : Nat) (start : β)
    (low high : Nat) (best : β) (world : σ) : Prop where
  best : (low = first ∧ best = start) ∨ ∃ m, first ≤ m ∧ m + 1 = low ∧ best = found m ∧ Yes world m
  rejected : high = last ∨ high < last ∧ No world (high + 1)
  ordered : low ≤ high + 1
  within : high ≤ last

/-- How a search ends. -/
inductive Ends (Yes No : σ → Nat → Prop) (found : Nat → β) (first last : Nat)
    (start : β) : β × σ → Prop
  | none {world : σ} (rejected : No world first) : Ends Yes No found first last start (start, world)
  | some {world : σ} {m : Nat} (lower : first ≤ m) (upper : m ≤ last) (admitted : Yes world m)
      (rejected : m = last ∨ No world (m + 1)) : Ends Yes No found first last start (found m, world)

variable {Yes No : σ → Nat → Prop} {first last : Nat} {start : β}

theorem Narrowed.ends (narrowed : Narrowed Yes No found first last start low high best world)
    (closed : high < low) (nonempty : first ≤ last) :
    Ends Yes No found first last start (best, world) := by
  obtain ⟨below, above, ordered, within⟩ := narrowed
  have next : low = high + 1 := by omega
  rcases below with ⟨rfl, rfl⟩ | ⟨m, lower, rfl, rfl, admitted⟩
  · rcases above with rfl | ⟨-, rejected⟩
    · omega
    · exact .none (next ▸ rejected)
  · obtain rfl : m = high := by omega
    exact .some lower within admitted (above.imp_right And.right)

/-- Whatever the answers are, the search ends at a value that was admitted and whose successor was
rejected, or where the first value was rejected. -/
theorem Narrowed.searchIn (leaves : Leaves ask Yes No) (nonempty : first ≤ last)
    (narrowed : Narrowed Yes No found first last start low high best world) :
    Ends Yes No found first last start (searchIn ask found low high best world) := by
  induction width : high + 1 - low using Nat.strong_induction_on
    generalizing low high best world with
  | _ width ih =>
    by_cases opened : low ≤ high
    · generalize middle : (low + high) / 2 = mid
      have below : low ≤ mid := by omega
      have above : mid ≤ high := by omega
      have fewerAbove : high + 1 - (mid + 1) < high + 1 - low := by omega
      have fewerBelow : mid - 1 + 1 - low < high + 1 - low ∨ mid = 0 := by omega
      obtain ⟨under, beyond, -, within⟩ := narrowed
      have lower : first ≤ mid := by
        rcases under with ⟨rfl, -⟩ | ⟨m, atLeast, rfl, -⟩
        · exact below
        · omega
      cases answer : (ask world mid).1 with
      | true =>
        rw [searchIn_admitted opened (by rw [middle]; exact answer), middle]
        refine ih (high + 1 - (mid + 1)) (width ▸ fewerAbove) ?_ rfl
        exact
          { best := Or.inr ⟨mid, lower, rfl, rfl, leaves.yes world mid answer⟩
            rejected := beyond.imp_right fun known => ⟨known.1, leaves.keepsNo world mid _ known.2⟩
            ordered := Nat.succ_le_succ above
            within := within }
      | false =>
        rw [searchIn_rejected opened (by rw [middle]; exact answer), middle]
        have rejected := leaves.no world mid answer
        by_cases zero : mid = 0
        · rw [if_pos zero]
          rcases under with ⟨rfl, rfl⟩ | ⟨m, -, rfl, -⟩
          · obtain rfl : mid = low := by omega
            exact .none rejected
          · omega
        · rw [if_neg zero]
          refine ih (mid - 1 + 1 - low) (width ▸ fewerBelow.resolve_right zero) ?_ rfl
          exact
            { best := under.imp_right fun ⟨m, atLeast, next, same, admitted⟩ =>
                ⟨m, atLeast, next, same, leaves.keepsYes world mid m admitted⟩
              rejected := Or.inr ⟨by omega, by rwa [Nat.sub_add_cancel (Nat.pos_of_ne_zero zero)]⟩
              ordered := by omega
              within := by omega }
    · have closed := Nat.not_le.mp opened
      rw [searchIn_closed closed]
      exact narrowed.ends closed nonempty

theorem ends_searchIn (leaves : Leaves ask Yes No) (nonempty : first ≤ last) (world : σ) :
    Ends Yes No found first last start (searchIn ask found first last start world) :=
  Narrowed.searchIn leaves nonempty ⟨Or.inl ⟨rfl, rfl⟩, Or.inl rfl, by omega, le_refl last⟩

/-- Where every value is admitted, the search ends at the last. -/
theorem searchIn_always (always : ∀ world m, (ask world m).1 = true) (nonempty : first ≤ last)
    (world : σ) :
    (searchIn ask found first last start world).1 = found last := by
  have leaves : Leaves ask (fun _ _ => True) (fun _ _ => False) :=
    { yes := fun _ _ _ => trivial
      no := fun world m refused => by
        rw [always world m] at refused
        cases refused
      keepsYes := fun _ _ _ known => known
      keepsNo := fun _ _ _ known => known }
  have ends : Ends (fun _ _ => True) (fun _ _ => False) found first last start
    (searchIn ask found first last start world) := ends_searchIn leaves nonempty world
  generalize searchIn ask found first last start world = out at ends
  cases ends with
  | none rejected => exact rejected.elim
  | some _ _ _ last => exact congrArg found (last.resolve_right id)

/-- A search asks at most once for each time its interval can be halved. -/
theorem searchIn_cost (cost : σ → Nat) {price : Nat}
    (charged : ∀ world m, cost (ask world m).2 ≤ cost world + price) {rounds : Nat}
    (short : high + 1 - low < 2 ^ rounds) :
    cost (searchIn ask found low high best world).2 ≤ cost world + price * rounds := by
  induction rounds generalizing low high best world with
  | zero =>
    rw [searchIn_closed (by omega)]
    exact Nat.le_add_right _ _
  | succ rounds ih =>
    by_cases opened : low ≤ high
    · generalize middle : (low + high) / 2 = mid
      rw [Nat.pow_succ] at short
      have once := charged world mid
      rw [Nat.mul_succ]
      cases answer : (ask world mid).1 with
      | true =>
        rw [searchIn_admitted opened (by rw [middle]; exact answer), middle]
        have later := @ih (mid + 1) high (found mid) (ask world mid).2 (by omega)
        omega
      | false =>
        rw [searchIn_rejected opened (by rw [middle]; exact answer), middle]
        split
        · have spent : 0 ≤ price * rounds := Nat.zero_le _
          dsimp only
          omega
        · have later := @ih low (mid - 1) best (ask world mid).2 (by omega)
          omega
    · rw [searchIn_closed (Nat.not_le.mp opened)]
      exact Nat.le_add_right _ _

end Effects

end FragglePacket.Search
