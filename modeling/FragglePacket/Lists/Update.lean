import Mathlib.Data.List.AList
import Mathlib.Data.List.Induction
import Mathlib.Data.List.Perm.Basic

/-! A list in which one entry is replaced, and an association list that gains one. -/

namespace FragglePacket.Lists

section Update
variable {α : Type*} {items : List α} {index : Nat} {old new : α}

/-- Both lists are the same rest with one entry more. -/
theorem exists_rest_of_set (listed : items[index]? = some old) (new : α) :
    ∃ rest, items.Perm (old :: rest) ∧ (items.set index new).Perm (new :: rest) := by
  obtain ⟨inside, rfl⟩ := List.getElem?_eq_some_iff.mp listed
  exact ⟨items.eraseIdx index, (List.getElem_cons_eraseIdx_perm inside).symm,
    List.set_perm_cons_eraseIdx inside new⟩

theorem getElem?_of_set {item : α} {other : Nat}
    (listed : (items.set index new)[other]? = some item) :
    other = index ∧ item = new ∨ other ≠ index ∧ items[other]? = some item := by
  by_cases same : other = index
  · obtain ⟨inside, found⟩ := List.getElem?_eq_some_iff.mp listed
    simp only [same, List.getElem_set_self] at found
    exact Or.inl ⟨same, found.symm⟩
  · rw [List.getElem?_set_ne (Ne.symm same)] at listed
    exact Or.inr ⟨same, listed⟩

theorem map_set_of_eq {β : Type*} {f : α → β} (listed : items[index]? = some old)
    (same : f new = f old) :
    (items.set index new).map f = items.map f := by
  obtain ⟨inside, rfl⟩ := List.getElem?_eq_some_iff.mp listed
  apply List.ext_getElem
  · simp
  · intro other before after
    by_cases own : index = other
    · subst own
      simp [same]
    · simp [own]

end Update

section Entries
variable {κ : Type*} {β : κ → Type*} [DecidableEq κ]

/-- An entry is added where the key is new, and replaced where it is not. -/
theorem insert_keys_length (entries : AList β) (key : κ) (value : β key) :
    (entries.insert key value).keys.length = if key ∈ entries then entries.keys.length
      else entries.keys.length + 1 := by
  rw [AList.keys_insert, List.length_cons, List.length_erase]
  by_cases known : key ∈ entries
  · have some : 0 < entries.keys.length := List.length_pos_of_mem (AList.mem_keys.mp known)
    rw [if_pos (AList.mem_keys.mp known), if_pos known]
    omega
  · rw [if_neg (mt AList.mem_keys.mpr known), if_neg known]

/-- What the last item that assigns a key gave it. -/
def lastAssigned {α : Type*} {γ : Type*} (assign : α → Option (κ × γ)) (items : List α)
    (key : κ) : Option γ :=
  items.reverse.findSome? fun item => (assign item).bind fun entry => if entry.1 =
    key then some entry.2 else none

/-- A map that each item may add an entry to holds what was assigned last. -/
theorem lookup_foldl {α σ : Type*} {γ : Type*} {step : σ → α → σ} (view : σ → AList fun _ : κ => γ)
    {assign : α → Option (κ × γ)}
    (steps : ∀ state item, view (step state item) =
      match assign item with
      | some entry => (view state).insert entry.1 entry.2
      | none => view state)
    {start : σ} (empty : view start = ∅) (items : List α) (key : κ) :
    (view (items.foldl step start)).lookup key = lastAssigned assign items key := by
  induction items using List.reverseRecOn with
  | nil => rw [List.foldl_nil, empty]; rfl
  | append_singleton items item ih =>
    rw [List.foldl_append, List.foldl_cons, List.foldl_nil, steps, lastAssigned,
      List.reverse_append, List.reverse_singleton, List.singleton_append, List.findSome?_cons]
    cases assigned : assign item with
    | none => exact ih
    | some entry =>
      by_cases same : entry.1 = key
      · subst same
        simp
      · simp only [Option.bind_some, if_neg same, AList.lookup_insert_ne (Ne.symm same)]
        exact ih

theorem exists_of_lastAssigned {α : Type*} {γ : Type*} {assign : α → Option (κ × γ)}
    {items : List α} {key : κ} {value : γ} (last : lastAssigned assign items key = some value) :
    ∃ item ∈ items, assign item = some (key, value) := by
  obtain ⟨item, listed, found⟩ := List.exists_of_findSome?_eq_some last
  obtain ⟨entry, assigned, kept⟩ := Option.bind_eq_some_iff.mp found
  obtain ⟨rfl, same⟩ := Option.ite_none_right_eq_some.mp kept
  obtain rfl := Option.some.inj same
  exact ⟨item, List.mem_reverse.mp listed, assigned⟩

/-- A map of lists gains an item at the end of one of them, and of all of them taken together. -/
theorem flatMap_insert_append {γ : Type*} (entries : AList fun _ : κ => List γ) (key : κ)
    (item : γ) :
    ((entries.insert key ((entries.lookup key).getD [] ++ [item])).entries.flatMap (·.2)).Perm
      (entries.entries.flatMap (·.2) ++ [item]) := by
  cases known : entries.lookup key with
  | none =>
    rw [AList.entries_insert_of_notMem (AList.lookup_eq_none.mp known)]
    exact List.perm_append_singleton item _ |>.symm
  | some old =>
    have present : key ∈ entries.entries.keys :=
      AList.mem_keys.mp (AList.lookup_isSome.mp (by simp [known]))
    obtain ⟨found, before, after, -, split, erased⟩ := List.exists_of_kerase present
    have same : found = old := by
      have member : (⟨key, found⟩ : Sigma fun _ => List γ) ∈ entries.entries := by simp [split]
      exact Option.some.inj ((AList.mem_lookup_iff.mpr member).symm.trans known)
    rw [AList.entries_insert, erased, split, same, Option.getD_some]
    simp only [List.flatMap_cons, List.flatMap_append, List.append_assoc]
    have moved : ([item] ++ (before.flatMap (·.2) ++ after.flatMap (·.2))).Perm
        (before.flatMap (·.2) ++ (after.flatMap (·.2) ++ [item])) := by
      rw [← List.append_assoc (before.flatMap _)]
      exact List.perm_append_comm
    exact (moved.append_left old).trans (List.perm_append_comm_assoc old _ _)

end Entries

section Writes
variable {σ ι β : Type*} {step : σ → ι → σ} {read : σ → β} {write : ι → Option β}

/-- What is read of a state that each item may write anew is what the last of them wrote. -/
theorem foldl_lastWrite (steps : ∀ s item, read (step s item) = (write item).getD (read s))
    (items : List ι) (s : σ) :
    read (items.foldl step s) = (items.filterMap write).getLast?.getD (read s) := by
  induction items using List.reverseRecOn with
  | nil => rfl
  | append_singleton items item ih =>
    rw [List.foldl_concat, steps, List.filterMap_append]
    cases written : write item with
    | none => simp [written, ih]
    | some value => simp [written]

/-- The last value written, of items that write theirs where a condition holds. -/
theorem getLast?_writes (p : ι → Prop) [DecidablePred p] (value : ι → Option β) (items : List ι) :
    (items.filterMap fun item => if p item then (value item).map some
      else none).getLast?.getD none =
      ((items.filter p).filterMap value).getLast? := by
  have written : (items.filterMap fun item => if p item then (value item).map some else none) =
      ((items.filter p).filterMap value).map some := by
    rw [List.filterMap_filter, List.map_filterMap]
    refine List.filterMap_congr fun item _ => ?_
    by_cases holds : p item <;> simp [holds]
  rw [written, List.getLast?_map]
  cases ((items.filter p).filterMap value).getLast? <;> rfl

end Writes

end FragglePacket.Lists
