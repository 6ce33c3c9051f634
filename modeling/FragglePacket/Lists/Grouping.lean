import Mathlib.Data.List.Induction
import Mathlib.Data.List.Sort
import Mathlib.Order.Basic

/-! Items grouped by key, with the groups in the order of their keys. -/

namespace FragglePacket.Lists

section Grouping
variable {ι κ : Type*} [LinearOrder κ] (key : ι → κ)

/-- An item joins the group of its key, which is begun where there is none. -/
def pushItem (item : ι) : List (κ × List ι) → List (κ × List ι)
  | [] => [(key item, [item])]
  | (group, members) :: rest =>
    if key item < group then (key item, [item]) :: (group, members) :: rest
    else if key item = group then (group, members ++ [item]) :: rest
    else (group, members) :: pushItem item rest

def grouped (items : List ι) : List (κ × List ι) :=
  items.foldl (fun groups item => pushItem key item groups) []

/-- The items of one key, under it. -/
def groupOf (items : List ι) (group : κ) : κ × List ι := (group, items.filter (key · = group))

end Grouping

section Keys
variable {κ : Type*} [LinearOrder κ]

/-- A key in its place among ascending ones. -/
def insertKey (new : κ) : List κ → List κ
  | [] => [new]
  | group :: rest =>
    if new < group then new :: group :: rest else if new = group then group :: rest
    else group :: insertKey new rest

variable {new : κ} {groups : List κ}

theorem mem_insertKey {group : κ} :
    group ∈ insertKey new groups ↔ group = new ∨ group ∈ groups := by
  induction groups with
  | nil => simp [insertKey]
  | cons head rest ih =>
    rw [insertKey]
    split
    · simp
    · split
      case isTrue same => simp [same]
      case isFalse => simp [ih, or_left_comm]

theorem insertKey_ascending (ascending : groups.Pairwise (· < ·)) :
    (insertKey new groups).Pairwise (· < ·) := by
  induction groups with
  | nil => simp [insertKey]
  | cons head rest ih =>
    obtain ⟨least, ascendingRest⟩ := List.pairwise_cons.mp ascending
    rw [insertKey]
    split
    case isTrue before =>
      refine List.pairwise_cons.mpr ⟨?_, ascending⟩
      intro group later
      rcases List.mem_cons.mp later with rfl | later
      · exact before
      · exact before.trans (least group later)
    case isFalse after =>
      split
      case isTrue => exact ascending
      case isFalse different =>
        refine List.pairwise_cons.mpr ⟨?_, ih ascendingRest⟩
        intro group later
        rcases mem_insertKey.mp later with rfl | later
        · exact lt_of_le_of_ne (not_lt.mp after) (Ne.symm different)
        · exact least group later

/-- Ascending lists of the same keys are equal. -/
theorem eq_of_ascending {others : List κ} (ascending : groups.Pairwise (· < ·))
    (ascendingOthers : others.Pairwise (· < ·)) (same : ∀ group, group ∈ groups ↔ group ∈ others) :
    groups = others := by
  have perm : groups.Perm others :=
    (List.perm_ext_iff_of_nodup (ascending.imp ne_of_lt) (ascendingOthers.imp ne_of_lt)).mpr same
  exact perm.eq_of_pairwise (fun _ _ _ _ before after => absurd before after.asymm) ascending
    ascendingOthers

end Keys

section Groups
variable {ι κ : Type*} [LinearOrder κ] {key : ι → κ} {items : List ι}

def groupKeys (key : ι → κ) (items : List ι) : List κ :=
  items.foldl (fun groups item => insertKey (key item) groups) []

theorem groupKeys_concat (items : List ι) (item : ι) :
    groupKeys key (items ++ [item]) = insertKey (key item) (groupKeys key items) := by
  rw [groupKeys, List.foldl_append]
  rfl

theorem groupKeys_ascending : (groupKeys key items).Pairwise (· < ·) := by
  induction items using List.reverseRecOn with
  | nil => exact List.Pairwise.nil
  | append_singleton items item ih =>
    rw [groupKeys_concat]
    exact insertKey_ascending ih

theorem mem_groupKeys {group : κ} :
    group ∈ groupKeys key items ↔ ∃ item ∈ items, key item = group := by
  induction items using List.reverseRecOn with
  | nil => simp [groupKeys]
  | append_singleton items item ih =>
    rw [groupKeys_concat, mem_insertKey, ih]
    constructor
    · rintro (rfl | ⟨earlier, member, rfl⟩)
      · exact ⟨item, List.mem_concat_self, rfl⟩
      · exact ⟨earlier, List.mem_append_left _ member, rfl⟩
    · rintro ⟨other, member, rfl⟩
      rcases List.mem_append.mp member with earlier | last
      · exact Or.inr ⟨other, earlier, rfl⟩
      · exact Or.inl (congrArg key (List.mem_singleton.mp last))

theorem groupKeys_eq_of_perm {others : List ι} (perm : items.Perm others) :
    groupKeys key items = groupKeys key others := by
  refine eq_of_ascending groupKeys_ascending groupKeys_ascending fun group => ?_
  simp only [mem_groupKeys, perm.mem_iff]

theorem groupOf_concat_self (item : ι) :
    groupOf key (items ++ [item]) (key item) =
      (key item, items.filter (key · = key item) ++ [item]) := by
  simp [groupOf, List.filter_append]

theorem groupOf_concat_ne {item : ι} {group : κ} (different : key item ≠ group) :
    groupOf key (items ++ [item]) group = groupOf key items group := by
  simp [groupOf, List.filter_append, different]

/-- What pushing an item does to all groups of the items before it. -/
theorem pushItem_map {groups : List κ} {item : ι} (ascending : groups.Pairwise (· < ·))
    (fresh : key item ∉ groups → items.filter (key · = key item) = []) :
    pushItem key item (groups.map (groupOf key items)) =
      (insertKey (key item) groups).map (groupOf key (items ++ [item])) := by
  have begun : key item ∉ groups →
      groupOf key (items ++ [item]) (key item) = (key item, [item]) := by
    intro absent
    rw [groupOf_concat_self, fresh absent, List.nil_append]
  induction groups with
  | nil => rw [insertKey, List.map_singleton, begun List.not_mem_nil, List.map_nil, pushItem]
  | cons head rest ih =>
    obtain ⟨least, ascendingRest⟩ := List.pairwise_cons.mp ascending
    have kept : key item ∉ rest →
        rest.map (groupOf key (items ++ [item])) = rest.map (groupOf key items) := by
      intro absent
      refine List.map_congr_left fun group member => groupOf_concat_ne ?_
      rintro rfl
      exact absent member
    rw [List.map_cons, groupOf, pushItem, insertKey]
    rcases lt_trichotomy (key item) head with before | same | after
    · have absentRest : key item ∉ rest := fun later => lt_asymm before (least _ later)
      have absent : key item ∉ head :: rest := by
        simp [before.ne, absentRest]
      rw [if_pos before, if_pos before, List.map_cons, List.map_cons, begun absent, kept absentRest,
        groupOf_concat_ne before.ne]
      rfl
    · have absentRest : key item ∉ rest := fun later => (least _ later).ne' same
      rw [if_neg same.not_lt, if_neg same.not_lt, if_pos same, if_pos same, List.map_cons,
        kept absentRest, ← same, groupOf_concat_self]
    · have absent : key item ∉ rest → key item ∉ head :: rest := by
        intro absentRest
        simp [after.ne', absentRest]
      rw [if_neg after.not_gt, if_neg after.not_gt, if_neg after.ne', if_neg after.ne',
        List.map_cons, ih ascendingRest (fresh ∘ absent) (begun ∘ absent),
        groupOf_concat_ne after.ne']
      rfl

/-- Each key that occurs has its group, the members in their order. -/
theorem grouped_eq_map (items : List ι) :
    grouped key items = (groupKeys key items).map (groupOf key items) := by
  induction items using List.reverseRecOn with
  | nil => rfl
  | append_singleton items item ih =>
    have fresh : key item ∉ groupKeys key items → items.filter (key · = key item) = [] := by
      intro absent
      rw [List.filter_eq_nil_iff]
      intro earlier member
      simpa using fun same => absent (mem_groupKeys.mpr ⟨earlier, member, same⟩)
    rw [grouped, List.foldl_append, List.foldl_cons, List.foldl_nil, ← grouped, ih,
      groupKeys_concat, pushItem_map groupKeys_ascending fresh]

/-- Groups depend on nothing but the order within each. -/
theorem grouped_congr {others : List ι}
    (same : ∀ group, items.filter (key · = group) = others.filter (key · = group)) :
    grouped key items = grouped key others := by
  have occurs : ∀ (list : List ι) (group : κ), group ∈ groupKeys key list ↔
      list.filter (key · = group) ≠ [] := by
    intro list group
    rw [mem_groupKeys, ne_eq, List.filter_eq_nil_iff]
    simp
  have keys : groupKeys key items = groupKeys key others := by
    refine eq_of_ascending groupKeys_ascending groupKeys_ascending fun group => ?_
    rw [occurs, occurs, same]
  rw [grouped_eq_map, grouped_eq_map, keys]
  exact List.map_congr_left fun group _ => congrArg (Prod.mk group) (same group)

end Groups

section Nested
variable {α ι κ : Type*} [DecidableEq κ] {key : ι → κ}

/-- Items with different keys: at most one has a given key. -/
theorem countP_key_le_one {items : List ι} (distinct : (items.map key).Nodup) (group : κ)
    (p : ι → Bool) :
    items.countP (fun item => decide (key item = group) && p item) ≤ 1 := by
  have fewer : items.countP (fun item => decide (key item = group) && p item) ≤
      (items.map key).count group := by
    rw [List.count, List.countP_map]
    refine List.countP_mono_left fun item _ both => ?_
    simpa using (Bool.and_eq_true_iff.mp both).1
  exact fewer.trans (List.nodup_iff_count_le_one.mp distinct group)

/-- Where each list has one such item at most, they are as many as the lists that have one. -/
theorem countP_flatMap_of_le_one {lists : List α} {f : α → List ι} {p : ι → Bool}
    (once : ∀ list ∈ lists, (f list).countP p ≤ 1) :
    (lists.flatMap f).countP p = lists.countP fun list => (f list).any p := by
  induction lists with
  | nil => rfl
  | cons list rest ih =>
    obtain ⟨here, later⟩ := List.forall_mem_cons.mp once
    rw [List.flatMap_cons, List.countP_append, ih later, List.countP_cons, Nat.add_comm]
    congr 1
    by_cases found : (f list).any p = true
    · have some : 0 < (f list).countP p := List.countP_pos_iff.mpr (List.any_eq_true.mp found)
      rw [if_pos found]
      omega
    · rw [if_neg found, List.countP_eq_zero]
      simpa using found

end Nested

end FragglePacket.Lists
