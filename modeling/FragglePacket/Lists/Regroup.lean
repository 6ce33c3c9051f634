import Mathlib.Algebra.BigOperators.Group.List.Basic
import Mathlib.Algebra.GroupWithZero.Nat

/-! Sums of a list that are taken group by group. -/

namespace FragglePacket.Lists

section Regroup
variable {ι κ μ : Type*} [DecidableEq κ] [AddCommMonoid μ] (key : ι → κ) (value : ι → μ)

/-- What the items with one key come to. -/
def groupSum (items : List ι) (group : κ) : μ := ((items.filter (key · = group)).map value).sum

theorem groupSum_cons (head : ι) (rest : List ι) (group : κ) :
    groupSum key value (head :: rest) group =
      (if key head = group then value head else 0) + groupSum key value rest group := by
  by_cases own : key head = group
  · simp [groupSum, own]
  · simp [groupSum, own]

theorem sum_map_single {groups : List κ} {group : κ} (nodup : groups.Nodup)
    (member : group ∈ groups) (amount : μ) :
    (groups.map fun other => if group = other then amount else 0).sum = amount := by
  induction groups with
  | nil => cases member
  | cons head rest ih =>
    obtain ⟨absent, nodup⟩ := List.nodup_cons.mp nodup
    rw [List.map_cons, List.sum_cons]
    rcases List.mem_cons.mp member with rfl | later
    · have others : ∀ other ∈ rest, (if group = other then amount else 0) = 0 := by
        intro other present
        rw [if_neg]
        intro same
        exact absent (same ▸ present)
      rw [if_pos rfl, List.map_congr_left others, List.map_const', List.sum_replicate, nsmul_zero,
        add_zero]
    · have different : group ≠ head := fun same => absent (same ▸ later)
      rw [if_neg different, zero_add, ih nodup later]

/-- A sum is the sum over the groups, when they cover the items and are distinct. -/
theorem sum_eq_sum_groups {groups : List κ} (nodup : groups.Nodup) {items : List ι}
    (covered : ∀ item ∈ items, key item ∈ groups) :
    (items.map value).sum = (groups.map (groupSum key value items)).sum := by
  induction items with
  | nil =>
    have empty : groups.map (groupSum key value []) = groups.map fun _ => 0 := rfl
    rw [empty, List.map_const', List.sum_replicate, nsmul_zero, List.map_nil, List.sum_nil]
  | cons head rest ih =>
    have grouped : groups.map (groupSum key value (head :: rest)) =
        groups.map fun group => (if key head = group then value head else 0) +
          groupSum key value rest group :=
      List.map_congr_left fun group _ => groupSum_cons key value head rest group
    rw [List.map_cons, List.sum_cons, ih fun item member =>
      covered item (List.mem_cons_of_mem head member), grouped,
      List.sum_map_add, sum_map_single nodup (covered head List.mem_cons_self)]

end Regroup

/-- The items whose key is listed, gathered key by key. -/
theorem flatMap_filter_perm {ι κ : Type*} [DecidableEq κ] (key : ι → κ) (items : List ι)
    {keys : List κ} (distinct : keys.Nodup) :
    (keys.flatMap fun k => items.filter (key · = k)).Perm (items.filter (key · ∈ keys)) := by
  induction keys with
  | nil => simp
  | cons k keys ih =>
    obtain ⟨fresh, distinct⟩ := List.nodup_cons.mp distinct
    rw [List.flatMap_cons]
    refine ((ih distinct).append_left _).trans ?_
    have parts : (items.filter (key · ∈ k :: keys)).Perm
        ((items.filter (key · ∈ k :: keys)).filter (key · = k) ++
          (items.filter (key · ∈ k :: keys)).filter (fun item => !decide (key item = k))) :=
      (List.filter_append_perm _ _).symm
    refine .trans (.of_eq ?_) parts.symm
    rw [List.filter_filter, List.filter_filter]
    congr 1
    · refine List.filter_congr fun item _ => ?_
      by_cases own : key item = k <;> simp [own]
    · refine List.filter_congr fun item _ => ?_
      by_cases own : key item = k
      · simp [own, fresh]
      · simp [own]

end FragglePacket.Lists
