import Mathlib.Data.List.Perm.Basic

/-! Reorderings of a list that keep the items of each key in their order, and what the ends of
the list can be under them. -/

namespace FragglePacket.Lists

section Reordering
variable {α κ : Type*} [DecidableEq κ] {key : α → κ} {items others : List α}

/-- The items of each key stand in one order in both lists. -/
def Reordering (key : α → κ) (items others : List α) : Prop :=
  ∀ group, items.filter (key · = group) = others.filter (key · = group)

theorem Reordering.trans {last : List α} (first : Reordering key items others)
    (second : Reordering key others last) :
    Reordering key items last :=
  fun group => (first group).trans (second group)

theorem Reordering.perm (same : Reordering key items others) : items.Perm others := by
  classical
  refine List.perm_iff_count.mpr fun item => ?_
  have own : ∀ list : List α, list.count item = (list.filter (key · = key item)).count item := by
    intro list
    rw [List.count_filter (by simp)]
  rw [own items, own others, same]

/-- A group can be taken apart in two and laid around all others. -/
theorem reordering_surround {group : κ} {before after : List α}
    (apart : items.filter (key · = group) = before ++ after) :
    Reordering key items (before ++ items.filter (key · ≠ group) ++ after) := by
  have inGroup : ∀ item ∈ before ++ after, key item = group := by
    intro item member
    rw [← apart] at member
    exact of_decide_eq_true (List.mem_filter.mp member).2
  intro other
  rw [List.filter_append, List.filter_append, List.filter_filter]
  by_cases same : other = group
  · subst same
    have all : ∀ list : List α, (∀ item ∈ list, key item = other) →
        list.filter (key · = other) = list := by
      intro list own
      exact List.filter_eq_self.mpr fun item member => decide_eq_true (own item member)
    have none :
        items.filter (fun item => decide (key item = other) && decide (key item ≠ other)) = [] := by
      simp
    rw [apart, none, all before fun item member => inGroup item (List.mem_append_left _ member),
      all after fun item member => inGroup item (List.mem_append_right _ member), List.append_nil]
  · have empty : ∀ list : List α, (∀ item ∈ list, key item = group) →
        list.filter (key · = other) = [] := by
      intro list own
      refine List.filter_eq_nil_iff.mpr fun item member => ?_
      simpa [own item member] using Ne.symm same
    have kept : items.filter (fun item => decide (key item = other) && decide (key item ≠ group)) =
        items.filter (key · = other) := by
      refine List.filter_congr fun item _ => ?_
      by_cases own : key item = other
      · simp [own, same]
      · simp [own]
    rw [kept, empty before fun item member => inGroup item (List.mem_append_left _ member),
      empty after fun item member => inGroup item (List.mem_append_right _ member), List.nil_append,
        List.append_nil]

theorem reordering_front (key : α → κ) (items : List α) (group : κ) :
    Reordering key items (items.filter (key · = group) ++ items.filter (key · ≠ group)) := by
  have around := reordering_surround (List.append_nil (items.filter (key · = group))).symm
  rwa [List.append_nil] at around

theorem reordering_back (key : α → κ) (items : List α) (group : κ) :
    Reordering key items (items.filter (key · ≠ group) ++ items.filter (key · = group)) :=
  reordering_surround (List.nil_append (items.filter (key · = group))).symm

end Reordering

section Ends
variable {α β : Type*} (f : α → Option β)

def firstOf (items : List α) : Option β := (items.filterMap f).head?

def lastOf (items : List α) : Option β := (items.filterMap f).getLast?

variable {f} {items others : List α} {x y : β}

theorem lastOf_eq_firstOf_reverse : lastOf f items = firstOf f items.reverse := by
  rw [lastOf, firstOf, List.filterMap_reverse, List.head?_reverse]

theorem firstOf_append (found : firstOf f items = some x) :
    firstOf f (items ++ others) = some x := by
  rw [firstOf] at found
  rw [firstOf, List.filterMap_append, List.head?_append, found, Option.some_or]

theorem lastOf_append (found : lastOf f others = some y) : lastOf f (items ++ others) = some y := by
  rw [lastOf] at found
  rw [lastOf, List.filterMap_append, List.getLast?_append, found, Option.some_or]

theorem firstOf_eq_none_iff : firstOf f items = none ↔ ∀ item ∈ items, f item = none := by
  rw [firstOf, List.head?_eq_none_iff, List.filterMap_eq_nil_iff]

theorem lastOf_eq_none_iff : lastOf f items = none ↔ ∀ item ∈ items, f item = none := by
  rw [lastOf_eq_firstOf_reverse, firstOf_eq_none_iff]
  simp

theorem firstOf_isSome_iff_lastOf_isSome : (firstOf f items).isSome ↔ (lastOf f items).isSome := by
  rw [Option.isSome_iff_ne_none, Option.isSome_iff_ne_none, ne_eq, ne_eq, firstOf_eq_none_iff,
    lastOf_eq_none_iff]

theorem exists_mem_of_firstOf (found : firstOf f items = some x) :
    ∃ item ∈ items, f item = some x :=
  List.mem_filterMap.mp (List.mem_of_mem_head? found)

theorem exists_mem_of_lastOf (found : lastOf f items = some y) : ∃ item ∈ items, f item = some y :=
  List.mem_filterMap.mp (List.mem_of_mem_getLast? found)

/-- A list with different ends can be taken apart after its first value. -/
theorem exists_apart_of_ends (first : firstOf f items = some x) (last : lastOf f items = some y)
    (different : x ≠ y) :
    ∃ before after, items = before ++ after ∧ firstOf f before = some x ∧
      lastOf f after = some y := by
  obtain ⟨values, read⟩ := List.head?_eq_some_iff.mp first
  obtain ⟨skipped, item, after, rfl, silent, here, rest⟩ := List.filterMap_eq_cons_iff.mp read
  refine ⟨skipped ++ [item], after, by simp, ?_, ?_⟩
  · rw [firstOf, List.filterMap_append, List.filterMap_eq_nil_iff.mpr silent]
    simp [here]
  · rw [lastOf, read] at last
    rw [lastOf, rest]
    cases values with
    | nil => exact absurd (Option.some.inj last) different
    | cons value values => rwa [List.getLast?_cons_cons] at last

end Ends

section Agreement
variable {α β κ : Type*} [DecidableEq κ] (key : α → κ) (f : α → Option β)

/-- All groups with a value begin with the same. -/
def FirstsAgree (items : List α) : Prop :=
  ∀ i j x y, firstOf f (items.filter (key · = i)) = some x →
    firstOf f (items.filter (key · = j)) = some y → x = y

/-- All groups with a value end with the same. -/
def LastsAgree (items : List α) : Prop :=
  ∀ i j x y, lastOf f (items.filter (key · = i)) = some x →
    lastOf f (items.filter (key · = j)) = some y → x = y

/-- The ends of a list, where they differ. -/
def moved [DecidableEq β] (items : List α) : Option (β × β) :=
  match firstOf f items, lastOf f items with
  | some x, some y => if x = y then none else some (x, y)
  | _, _ => none

variable {key f} {items others : List α} {x y : β}

theorem Reordering.reverse (same : Reordering key items others) :
    Reordering key items.reverse others.reverse := by
  intro group
  rw [List.filter_reverse, List.filter_reverse, same]

theorem lastsAgree_iff_reverse : LastsAgree key f items ↔ FirstsAgree key f items.reverse := by
  simp only [LastsAgree, FirstsAgree, lastOf_eq_firstOf_reverse, List.filter_reverse]

theorem Reordering.firstOf_eq_none_iff (same : Reordering key items others) :
    firstOf f others = none ↔ firstOf f items = none := by
  rw [Lists.firstOf_eq_none_iff, Lists.firstOf_eq_none_iff]
  exact forall_congr' fun item => imp_congr_left same.perm.mem_iff.symm

/-- The first value of all is the first of some group. -/
theorem exists_group_of_firstOf (key : α → κ) (found : firstOf f items = some x) :
    ∃ group, firstOf f (items.filter (key · = group)) = some x := by
  obtain ⟨values, read⟩ := List.head?_eq_some_iff.mp found
  obtain ⟨skipped, item, after, rfl, silent, here, -⟩ := List.filterMap_eq_cons_iff.mp read
  refine ⟨key item, ?_⟩
  have quiet : (skipped.filter (key · = key item)).filterMap f = [] :=
    List.filterMap_eq_nil_iff.mpr fun other member => silent other (List.mem_of_mem_filter member)
  rw [firstOf, List.filter_append, List.filterMap_append, quiet]
  simp [here]

theorem firstOf_reordering (agree : FirstsAgree key f items) (same : Reordering key items others) :
    firstOf f others = firstOf f items := by
  cases found : firstOf f items with
  | none => exact same.firstOf_eq_none_iff.mpr found
  | some x =>
    cases foundOther : firstOf f others with
    | none => rw [same.firstOf_eq_none_iff.mp foundOther] at found; cases found
    | some y =>
      obtain ⟨i, first⟩ := exists_group_of_firstOf key found
      obtain ⟨j, firstOther⟩ := exists_group_of_firstOf key foundOther
      rw [← same j] at firstOther
      rw [agree i j x y first firstOther]

/-- The last value of all is the last of some group. -/
theorem exists_group_of_lastOf (key : α → κ) (found : lastOf f items = some y) :
    ∃ group, lastOf f (items.filter (key · = group)) = some y := by
  rw [lastOf_eq_firstOf_reverse] at found
  obtain ⟨group, first⟩ := exists_group_of_firstOf key found
  refine ⟨group, ?_⟩
  rwa [lastOf_eq_firstOf_reverse, ← List.filter_reverse]

theorem lastOf_reordering (agree : LastsAgree key f items) (same : Reordering key items others) :
    lastOf f others = lastOf f items := by
  rw [lastOf_eq_firstOf_reverse, lastOf_eq_firstOf_reverse]
  exact firstOf_reordering (lastsAgree_iff_reverse.mp agree) same.reverse

/-- Any first and last value of two groups can be made the ends, and of
one group where they differ. -/
theorem exists_reordering_of_ends {i j : κ} (first : firstOf f (items.filter (key · = i)) = some x)
    (last : lastOf f (items.filter (key · = j)) = some y) (possible : i = j → x ≠ y) :
    ∃ others, Reordering key items others ∧ firstOf f others = some x ∧
      lastOf f others = some y := by
  by_cases same : i = j
  · subst same
    obtain ⟨before, after, apart, begins, ends⟩ := exists_apart_of_ends first last (possible rfl)
    exact ⟨_, reordering_surround apart, firstOf_append (firstOf_append begins), lastOf_append ends⟩
  · have toBack := reordering_back key items j
    refine ⟨_, toBack.trans (reordering_front key _ i), ?_, ?_⟩
    · rw [← toBack i]
      exact firstOf_append first
    · have whole : (items.filter (key · = j)).filter (key · ≠ i) = items.filter (key · = j) := by
        refine List.filter_eq_self.mpr fun item member => ?_
        have own : key item = j := of_decide_eq_true (List.mem_filter.mp member).2
        simpa [own] using Ne.symm same
      refine lastOf_append ?_
      rw [List.filter_append, whole]
      exact lastOf_append last

variable [DecidableEq β]

theorem moved_of_ends (first : firstOf f items = some x) (last : lastOf f items = some y) :
    moved f items = if x = y then none else some (x, y) := by
  rw [moved, first, last]

theorem moved_eq_some_iff :
    moved f items = some (x, y) ↔ firstOf f items = some x ∧ lastOf f items = some y ∧ x ≠ y := by
  constructor
  · intro moves
    cases first : firstOf f items with
    | none => simp only [moved, first] at moves; cases moves
    | some x' =>
      cases last : lastOf f items with
      | none => simp only [moved, first, last] at moves; cases moves
      | some y' =>
        rw [moved_of_ends first last] at moves
        by_cases same : x' = y'
        · rw [if_pos same] at moves
          cases moves
        · rw [if_neg same] at moves
          obtain ⟨rfl, rfl⟩ := Prod.mk.inj (Option.some.inj moves)
          exact ⟨rfl, rfl, same⟩
  · rintro ⟨first, last, different⟩
    rw [moved_of_ends first last, if_neg different]

/-- If no reordering moves the ends, groups with values agree in their own. -/
theorem ends_eq_of_stable
    (stable : ∀ others, Reordering key items others → moved f others = moved f items) {i j : κ}
    {x' y' : β} (first : firstOf f (items.filter (key · = i)) = some x)
    (last : lastOf f (items.filter (key · = i)) = some y)
    (firstOther : firstOf f (items.filter (key · = j)) = some x')
    (lastOther : lastOf f (items.filter (key · = j)) = some y') : x = x' ∧ y = y' := by
  have ends : ∀ {i j : κ} {x y : β}, firstOf f (items.filter (key · = i)) = some x →
      lastOf f (items.filter (key · = j)) = some y → (i = j → x ≠ y) →
      moved f items = if x = y then none else some (x, y) := by
    intro i j x y first last possible
    obtain ⟨others, same, begins, finishes⟩ := exists_reordering_of_ends first last possible
    rw [← stable others same, moved_of_ends begins finishes]
  by_cases own : i = j
  · subst own
    exact ⟨Option.some.inj (first.symm.trans firstOther),
      Option.some.inj (last.symm.trans lastOther)⟩
  have across := ends first lastOther fun alike => absurd alike own
  have back := ends firstOther last fun alike => absurd alike.symm own
  rw [across] at back
  by_cases still : x = y'
  · rw [if_pos still] at across back
    have stillOther : x' = y := by
      by_contra moves
      rw [if_neg moves] at back
      cases back
    have steady : x = y := by
      -- a group that moves by itself could be laid around all others
      by_contra moves
      have within := ends first last fun _ => moves
      rw [across, if_neg moves] at within
      cases within
    exact ⟨steady.trans stillOther.symm, steady.symm.trans still⟩
  · rw [if_neg still] at back
    by_cases stillOther : x' = y
    · rw [if_pos stillOther] at back
      cases back
    · rw [if_neg stillOther] at back
      obtain ⟨firsts, lasts⟩ := Prod.mk.inj (Option.some.inj back)
      exact ⟨firsts, lasts.symm⟩

/-- The ends move under no reordering exactly when the groups agree in theirs. -/
theorem stable_iff_agree :
    (∀ others, Reordering key items others → moved f others = moved f items) ↔
      FirstsAgree key f items ∧ LastsAgree key f items := by
  constructor
  · intro stable
    have both : ∀ i, (∃ x, firstOf f (items.filter (key · = i)) = some x) ↔
        ∃ y, lastOf f (items.filter (key · = i)) = some y := by
      intro i
      rw [← Option.isSome_iff_exists, ← Option.isSome_iff_exists, firstOf_isSome_iff_lastOf_isSome]
    constructor
    · intro i j x x' first firstOther
      obtain ⟨y, last⟩ := (both i).mp ⟨x, first⟩
      obtain ⟨y', lastOther⟩ := (both j).mp ⟨x', firstOther⟩
      exact (ends_eq_of_stable stable first last firstOther lastOther).1
    · intro i j y y' last lastOther
      obtain ⟨x, first⟩ := (both i).mpr ⟨y, last⟩
      obtain ⟨x', firstOther⟩ := (both j).mpr ⟨y', lastOther⟩
      exact (ends_eq_of_stable stable first last firstOther lastOther).2
  · rintro ⟨firsts, lasts⟩ others same
    rw [moved, moved, firstOf_reordering firsts same, lastOf_reordering lasts same]

end Agreement

end FragglePacket.Lists
