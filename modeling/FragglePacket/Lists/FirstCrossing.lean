import Mathlib.Order.Bounds.Basic
import Mathlib.Data.List.Basic

/-! The first item of a list that crosses, with the last one before it known not to. -/

namespace FragglePacket.Lists

variable {α : Type*} {κ : Type*}

/-- Items of which nothing is known are passed over. -/
def firstCrossing (crosses : α → Option Bool) (last : Option α) : List α → Option (Option α × α)
  | [] => none
  | item :: rest =>
    match crosses item with
    | some true => some (last, item)
    | some false => firstCrossing crosses (some item) rest
    | none => firstCrossing crosses last rest

/-- The keys of the items that cross, or that are known not to. -/
def keysWhere (crosses : α → Option Bool) (key : α → κ) (items : List α) (answer : Bool) : Set κ :=
  {k | ∃ item ∈ items, crosses item = some answer ∧ key item = k}

variable {crosses : α → Option Bool} {key : α → κ} {items : List α}

theorem mem_keysWhere {item : α} {answer : Bool} (member : item ∈ items)
    (known : crosses item = some answer) :
    key item ∈ keysWhere crosses key items answer := ⟨item, member, known, rfl⟩

theorem keysWhere_of_perm {shuffled : List α} (perm : shuffled.Perm items) (answer : Bool) :
    keysWhere crosses key shuffled answer = keysWhere crosses key items answer := by
  ext k
  simp only [keysWhere, Set.mem_ofPred_eq, perm.mem_iff]

theorem keysWhere_filter {kept : α → Bool}
    (known : ∀ item answer, crosses item = some answer → kept item = true) (answer : Bool) :
    keysWhere crosses key (items.filter kept) answer = keysWhere crosses key items answer := by
  ext k
  constructor
  · rintro ⟨item, member, answers, rfl⟩
    exact mem_keysWhere (List.mem_filter.mp member).1 answers
  · rintro ⟨item, member, answers, rfl⟩
    exact mem_keysWhere (List.mem_filter.mpr ⟨member, known item answer answers⟩) answers

theorem firstCrossing_eq_none_iff {last : Option α} :
    firstCrossing crosses last items = none ↔ ∀ item ∈ items, crosses item ≠ some true := by
  induction items generalizing last with
  | nil => simp [firstCrossing]
  | cons item rest ih =>
    rw [List.forall_mem_cons]
    cases known : crosses item with
    | none => simp [firstCrossing, known, ih]
    | some answer => cases answer <;> simp [firstCrossing, known, ih]

/-- What is found: the item that crosses, after items that do not, and the
last of these known not to. -/
theorem firstCrossing_split {last low : Option α} {item : α}
    (found : firstCrossing crosses last items = some (low, item)) :
    ∃ before after, items = before ++ item :: after ∧ crosses item = some true ∧
      (∀ other ∈ before, crosses other ≠ some true) ∧
      low = (before.filter (crosses · = some false)).getLast?.or last := by
  induction items generalizing last with
  | nil => exact absurd found (by simp [firstCrossing])
  | cons head rest ih =>
    cases known : crosses head with
    | none =>
      rw [firstCrossing, known] at found
      obtain ⟨before, after, rfl, crossed, none, lows⟩ := ih found
      refine ⟨head :: before, after, rfl, crossed,
        List.forall_mem_cons.mpr ⟨by simp [known], none⟩, ?_⟩
      rw [lows, List.filter_cons_of_neg (by simp [known])]
    | some answer =>
      cases answer with
      | true =>
        rw [firstCrossing, known] at found
        obtain ⟨rfl, rfl⟩ := Prod.mk.inj (Option.some.inj found)
        exact ⟨[], rest, rfl, known, by simp, by simp⟩
      | false =>
        rw [firstCrossing, known] at found
        obtain ⟨before, after, rfl, crossed, none, lows⟩ := ih found
        refine ⟨head :: before, after, rfl, crossed,
          List.forall_mem_cons.mpr ⟨by simp [known], none⟩, ?_⟩
        rw [lows, List.filter_cons_of_pos (by simp [known]), List.getLast?_cons]
        cases (before.filter (crosses · = some false)).getLast? <;> rfl

section Sorted
variable [LinearOrder κ] {low : Option α} {item : α}

/-- In a list sorted strictly by key the item found has the least crossing key. -/
theorem firstCrossing_isLeast (sorted : items.Pairwise (key · < key ·))
    (found : firstCrossing crosses none items = some (low, item)) :
    IsLeast (keysWhere crosses key items true) (key item) := by
  obtain ⟨before, after, rfl, crossed, none, -⟩ := firstCrossing_split found
  refine ⟨mem_keysWhere (by simp) crossed, ?_⟩
  rintro k ⟨other, member, crossed', rfl⟩
  rcases List.mem_append.mp member with earlier | later
  · exact absurd crossed' (none other earlier)
  · rcases List.mem_cons.mp later with rfl | later
    · exact le_rfl
    · have behind := (List.pairwise_cons.mp (List.pairwise_append.mp sorted).2.1).1
      exact (behind other later).le

/-- The items before the one found are those of lower keys. -/
private theorem mem_before_iff {before after : List α}
    (sorted : (before ++ item :: after).Pairwise (key · < key ·)) {other : α}
    (member : other ∈ before ++ item :: after) : other ∈ before ↔ key other < key item := by
  obtain ⟨-, behind, apart⟩ := List.pairwise_append.mp sorted
  constructor
  · intro earlier
    exact apart other earlier item List.mem_cons_self
  · intro lower
    rcases List.mem_append.mp member with earlier | later
    · exact earlier
    · rcases List.mem_cons.mp later with rfl | later
      · exact absurd lower (lt_irrefl _)
      · exact absurd lower (lt_asymm ((List.pairwise_cons.mp behind).1 other later))

/-- The other one has the greatest key below it of an item known not to cross. -/
theorem firstCrossing_isGreatest {last : α} (sorted : items.Pairwise (key · < key ·))
    (found : firstCrossing crosses none items = some (some last, item)) :
    IsGreatest {k ∈ keysWhere crosses key items false | k < key item} (key last) := by
  obtain ⟨before, after, rfl, -, -, lows⟩ := firstCrossing_split found
  rw [Option.or_none] at lows
  obtain ⟨passing, ends⟩ := List.getLast?_eq_some_iff.mp lows.symm
  have listed : last ∈ before.filter (crosses · = some false) := by simp [ends]
  obtain ⟨isBefore, passes⟩ := List.mem_filter.mp listed
  have isMember : last ∈ before ++ item :: after := List.mem_append_left _ isBefore
  refine ⟨⟨mem_keysWhere isMember (of_decide_eq_true passes),
    (mem_before_iff sorted isMember).mp isBefore⟩, ?_⟩
  rintro k ⟨⟨other, member, passes', rfl⟩, lower⟩
  have earlier := (mem_before_iff sorted member).mpr lower
  have kept : other ∈ before.filter (crosses · = some false) :=
    List.mem_filter.mpr ⟨earlier, decide_eq_true passes'⟩
  rw [ends] at kept
  rcases List.mem_append.mp kept with previous | itself
  · have order := (List.pairwise_append.mp sorted).1.sublist
      (List.filter_sublist (p := (crosses · = some false)))
    rw [ends] at order
    exact ((List.pairwise_append.mp order).2.2 other previous last (List.mem_singleton.mpr rfl)).le
  · rw [List.mem_singleton.mp itself]

theorem firstCrossing_none_below (sorted : items.Pairwise (key · < key ·))
    (found : firstCrossing crosses none items = some (none, item)) :
    ∀ k ∈ keysWhere crosses key items false, key item < k := by
  obtain ⟨before, after, rfl, crossed, -, lows⟩ := firstCrossing_split found
  rw [Option.or_none] at lows
  have empty := List.getLast?_eq_none_iff.mp lows.symm
  rintro k ⟨other, member, passes, rfl⟩
  have notBefore : other ∉ before := fun earlier => by
    have kept : other ∈ before.filter (crosses · = some false) :=
      List.mem_filter.mpr ⟨earlier, decide_eq_true passes⟩
    simp [empty] at kept
  rcases List.mem_append.mp member with earlier | later
  · exact absurd earlier notBefore
  · rcases List.mem_cons.mp later with rfl | later
    · exact absurd (passes.symm.trans crossed) (by simp)
    · exact (List.pairwise_cons.mp (List.pairwise_append.mp sorted).2.1).1 other later

end Sorted

end FragglePacket.Lists
