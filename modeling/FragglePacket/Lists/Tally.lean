import Mathlib.Algebra.BigOperators.Group.List.Lemmas
import Mathlib.Algebra.GroupWithZero.Nat
import Mathlib.Data.List.Dedup
import Mathlib.Data.List.Perm.Basic

/-! Counts of keys, in the order the keys are first met. -/

namespace FragglePacket.Lists

variable {κ : Type*} {ν : Type*} [DecidableEq κ]

/-- The entry of the key is counted up, or begun at one where there is none. -/
def countKey (one : ν) (bump : ν → ν) (key : κ) : List (κ × ν) → List (κ × ν)
  | [] => [(key, one)]
  | (other, count) :: rest =>
    if other = key then (other, bump count) :: rest
    else (other, count) :: countKey one bump key rest

def tally (one : ν) (bump : ν → ν) (keys : List κ) : List (κ × ν) :=
  keys.foldl (fun counts key => countKey one bump key counts) []

/-- The keys that are not among the first ones are added behind them, each once. -/
def joinKeys (first more : List κ) : List κ :=
  more.foldl (fun met key => if key ∈ met then met else met ++ [key]) first

/-- The keys in the order they are first met. -/
def firstMet (keys : List κ) : List κ :=
  keys.foldl (fun met key => if key ∈ met then met else met ++ [key]) []

section Joined
variable {first more : List κ}

theorem joinKeys_concat (first more : List κ) (key : κ) :
    joinKeys first (more ++ [key]) =
      if key ∈ joinKeys first more then joinKeys first more else joinKeys first more ++ [key] := by
  rw [joinKeys, List.foldl_append]
  rfl

theorem mem_joinKeys {key : κ} : key ∈ joinKeys first more ↔ key ∈ first ∨ key ∈ more := by
  induction more using List.reverseRecOn with
  | nil => simp [joinKeys]
  | append_singleton more last ih =>
    rw [joinKeys_concat, List.mem_append, List.mem_singleton, ← or_assoc, ← ih]
    split
    case isTrue met =>
      refine ⟨Or.inl, ?_⟩
      rintro (earlier | rfl)
      · exact earlier
      · exact met
    case isFalse => rw [List.mem_append, List.mem_singleton]

/-- A key added behind the first ones stands there once. -/
theorem count_joinKeys (first more : List κ) (key : κ) :
    (joinKeys first more).count key = if key ∈ first then first.count key else if key ∈
      more then 1 else 0 := by
  induction more using List.reverseRecOn with
  | nil =>
    rw [joinKeys, List.foldl_nil]
    split
    case isTrue => rfl
    case isFalse absent => simpa using List.count_eq_zero.mpr absent
  | append_singleton more last ih =>
    rw [joinKeys_concat]
    by_cases same : key = last
    · subst same
      split
      case isTrue met =>
        rw [ih]
        rcases mem_joinKeys.mp met with early | late
        · rw [if_pos early, if_pos early]
        · simp [late]
      case isFalse new =>
        obtain ⟨notFirst, notMore⟩ := not_or.mp (mt mem_joinKeys.mpr new)
        rw [List.count_append, ih]
        simp [notFirst, notMore]
    · have elsewhere : key ∈ more ++ [last] ↔ key ∈ more := by simp [same]
      have kept : (if last ∈ joinKeys first more then joinKeys first more
          else joinKeys first more ++ [last]).count key =
          (joinKeys first more).count key := by
        split
        · rfl
        · simp [List.count_append, Ne.symm same]
      rw [kept, ih]
      simp only [elsewhere]

theorem joinKeys_nodup (distinct : first.Nodup) (more : List κ) : (joinKeys first more).Nodup := by
  refine List.nodup_iff_count_le_one.mpr fun key => ?_
  have once := List.nodup_iff_count_le_one.mp distinct key
  rw [count_joinKeys]
  split
  · exact once
  · split <;> omega

end Joined

section Met
variable {keys others : List κ}

@[simp] theorem firstMet_concat (keys : List κ) (key : κ) :
    firstMet (keys ++ [key]) = if key ∈ firstMet keys then firstMet keys
      else firstMet keys ++ [key] :=
  joinKeys_concat [] keys key

theorem mem_firstMet {key : κ} : key ∈ firstMet keys ↔ key ∈ keys := by
  have joined : key ∈ firstMet keys ↔ key ∈ [] ∨ key ∈ keys := mem_joinKeys
  simpa only [List.not_mem_nil, false_or] using joined

theorem firstMet_nodup (keys : List κ) : (firstMet keys).Nodup := joinKeys_nodup List.nodup_nil keys

theorem firstMet_perm (perm : keys.Perm others) : (firstMet keys).Perm (firstMet others) :=
  (List.perm_ext_iff_of_nodup (firstMet_nodup keys) (firstMet_nodup others)).mpr fun key => by
    rw [mem_firstMet, mem_firstMet, perm.mem_iff]

theorem firstMet_perm_dedup (keys : List κ) : (firstMet keys).Perm keys.dedup :=
  (List.perm_ext_iff_of_nodup (firstMet_nodup keys) keys.nodup_dedup).mpr fun key => by
    rw [mem_firstMet, List.mem_dedup]

end Met

section Counts
variable {one : ν} {bump : ν → ν} {value : Nat → ν}

/-- Counting a key of a list of distinct ones counts it there, and nothing else. -/
private theorem countKey_map (first : value 1 = one)
    (next : ∀ count, 0 < count → bump (value count) = value (count + 1)) {met : List κ}
    (distinct : met.Nodup) {counts : κ → Nat} (positive : ∀ key ∈ met, 0 < counts key) (key : κ)
    (fresh : key ∉ met → counts key = 0) :
    countKey one bump key (met.map fun other => (other, value (counts other))) =
      (if key ∈ met then met else met ++ [key]).map fun other =>
        (other, value (counts other + if other = key then 1 else 0)) := by
  induction met with
  | nil => simp [countKey, fresh, first]
  | cons head rest ih =>
    obtain ⟨absent, distinctRest⟩ := List.nodup_cons.mp distinct
    obtain ⟨counted, countedRest⟩ := List.forall_mem_cons.mp positive
    rw [List.map_cons, countKey]
    by_cases here : head = key
    · subst here
      have elsewhere :
          (rest.map fun other => (other, value (counts other + if other = head then 1 else 0))) =
          rest.map fun other => (other, value (counts other)) := by
        refine List.map_congr_left fun other member => ?_
        have apart : other ≠ head := fun same => absent (same ▸ member)
        rw [if_neg apart, Nat.add_zero]
      rw [if_pos rfl, if_pos List.mem_cons_self, List.map_cons, elsewhere, if_pos rfl,
        next _ counted]
    · have later : key ∈ head :: rest ↔ key ∈ rest := by simp [Ne.symm here]
      have counts' := ih distinctRest countedRest fun new => fresh (later.not.mpr new)
      rw [if_neg here, counts']
      by_cases met : key ∈ rest
      · rw [if_pos met, if_pos (later.mpr met), List.map_cons, if_neg here, Nat.add_zero]
      · rw [if_neg met, if_neg (later.not.mpr met), List.cons_append, List.map_cons, if_neg here,
          Nat.add_zero]

/-- A tally holds each key it met with the number of its occurrences. -/
theorem tally_eq (first : value 1 = one)
    (next : ∀ count, 0 < count → bump (value count) = value (count + 1)) (keys : List κ) :
    tally one bump keys = (firstMet keys).map fun key => (key, value (keys.count key)) := by
  induction keys using List.reverseRecOn with
  | nil => rfl
  | append_singleton keys last ih =>
    have positive : ∀ key ∈ firstMet keys, 0 < keys.count key := fun key met =>
      List.count_pos_iff.mpr (mem_firstMet.mp met)
    have fresh : last ∉ firstMet keys → keys.count last = 0 := fun new =>
      List.count_eq_zero.mpr fun member => new (mem_firstMet.mpr member)
    rw [tally, List.foldl_append]
    change countKey one bump last (tally one bump keys) = _
    rw [ih, countKey_map first next (firstMet_nodup keys) positive last fresh, firstMet_concat]
    refine List.map_congr_left fun key _ => ?_
    rw [List.count_append, List.count_singleton]
    by_cases same : key = last
    · simp [same]
    · simp [same, Ne.symm same]

/-- Two tallies alike count every key alike. -/
theorem value_count_eq_of_tally_eq (first : value 1 = one)
    (next : ∀ count, 0 < count → bump (value count) = value (count + 1))
    {keys others : List κ} (same : tally one bump keys = tally one bump others) (key : κ) :
    value (keys.count key) = value (others.count key) := by
  rw [tally_eq first next, tally_eq first next] at same
  have met : firstMet keys = firstMet others := by
    have keysOf := congrArg (List.map Prod.fst) same
    simpa only [List.map_map, Function.comp_def, List.map_id'] using keysOf
  rw [← met] at same
  by_cases member : key ∈ firstMet keys
  · exact (Prod.mk.inj (List.map_inj_left.mp same key member)).2
  · have absent : keys.count key = 0 := List.count_eq_zero.mpr (mem_firstMet.not.mp member)
    have absent' : others.count key = 0 :=
      List.count_eq_zero.mpr (mem_firstMet.not.mp (met ▸ member))
    rw [absent, absent']

theorem sum_count_firstMet (keys : List κ) :
    ((firstMet keys).map keys.count).sum = keys.length := by
  rw [((firstMet_perm_dedup keys).map _).sum_eq, List.sum_map_count_dedup_eq_length]

end Counts

end FragglePacket.Lists
