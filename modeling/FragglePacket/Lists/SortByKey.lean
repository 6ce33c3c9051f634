import Mathlib.Data.List.Destutter
import Mathlib.Data.List.Sort

/-! The stable sort of a list by a key. -/

namespace FragglePacket.Lists

variable {α : Type*} {κ : Type*} [LinearOrder κ]

def sortByKey (key : α → κ) (items : List α) : List α :=
  items.insertionSort fun first second => key first ≤ key second

variable {key : α → κ}

theorem sortByKey_perm (items : List α) : (sortByKey key items).Perm items :=
  List.perm_insertionSort _ items

theorem sortByKey_eq_nil_iff {items : List α} : sortByKey key items = [] ↔ items = [] := by
  constructor
  · intro empty
    exact List.nil_perm.mp (empty ▸ sortByKey_perm items)
  · rintro rfl
    rfl

local instance keyLe_total : Std.Total fun first second : α => key first ≤ key second :=
  ⟨fun first second => le_total (key first) (key second)⟩

local instance keyLe_trans : IsTrans α fun first second => key first ≤ key second :=
  ⟨fun _ _ _ => le_trans⟩

theorem sortByKey_sorted (items : List α) : (sortByKey key items).Pairwise (key · ≤ key ·) :=
  List.pairwise_insertionSort _ items

theorem sortByKey_eq_self {items : List α} (sorted : items.Pairwise (key · ≤ key ·)) :
    sortByKey key items = items :=
  sorted.insertionSort_eq

/-- The keys in order are those of any list with the same keys. -/
theorem sortByKey_keys_eq {items others : List α} (keys : (others.map key).Perm (items.map key)) :
    (sortByKey key others).map key = (sortByKey key items).map key := by
  have perm : ((sortByKey key others).map key).Perm ((sortByKey key items).map key) :=
    ((sortByKey_perm others).map key).trans (keys.trans ((sortByKey_perm items).map key).symm)
  exact perm.eq_of_pairwise' (List.pairwise_map.mpr (sortByKey_sorted others))
    (List.pairwise_map.mpr (sortByKey_sorted items))

/-- The keys in order do not depend on the order of the items. -/
theorem sortByKey_keys {items shuffled : List α} (perm : shuffled.Perm items) :
    (sortByKey key shuffled).map key = (sortByKey key items).map key :=
      sortByKey_keys_eq (perm.map key)

/-- Items with keys of their own are sorted alike in whatever order they come. -/
theorem sortByKey_eq_of_perm {items shuffled : List α} (perm : shuffled.Perm items)
    (distinct : (items.map key).Nodup) : sortByKey key shuffled = sortByKey key items := by
  have same : (sortByKey key shuffled).Perm (sortByKey key items) :=
    (sortByKey_perm shuffled).trans (perm.trans (sortByKey_perm items).symm)
  refine same.eq_of_pairwise ?_ (sortByKey_sorted shuffled) (sortByKey_sorted items)
  intro first second inShuffled inItems le ge
  have isItem := perm.subset ((sortByKey_perm shuffled).subset inShuffled)
  exact List.inj_on_of_nodup_map distinct isItem ((sortByKey_perm items).subset inItems)
    (le_antisymm le ge)

section Ties
variable {items others : List α}

/-- Items of one key keep their order. -/
theorem sortByKey_filter (items : List α) (k : κ) :
    ((sortByKey key items).filter fun item => key item = k) = items.filter fun item =>
      key item = k := by
  have alike : (items.filter fun item => key item = k).Pairwise (key · ≤ key ·) := by
    refine List.pairwise_of_forall_mem_list fun first inFirst second inSecond => ?_
    exact (of_decide_eq_true (List.mem_filter.mp inFirst).2).trans_le
      (of_decide_eq_true (List.mem_filter.mp inSecond).2).ge
  have kept : List.Sublist (items.filter fun item => key item = k) (sortByKey key items) :=
    List.sublist_insertionSort alike List.filter_sublist
  have filtered := kept.filter fun item => decide (key item = k)
  rw [List.filter_filter] at filtered
  simp only [Bool.and_self] at filtered
  exact (filtered.eq_of_length (((sortByKey_perm items).filter _).length_eq.symm)).symm

/-- Distinct items that read the same backwards are at most one. -/
theorem eq_of_reverse_eq (distinct : items.Nodup) (same : items.reverse = items) {first second : α}
    (hasFirst : first ∈ items) (hasSecond : second ∈ items) : first = second := by
  cases items with
  | nil => exact absurd hasFirst List.not_mem_nil
  | cons head rest =>
    cases rest with
    | nil => rw [List.mem_singleton.mp hasFirst, List.mem_singleton.mp hasSecond]
    | cons next rest =>
      have last : (next :: rest).getLast? = some head := by
        have ends := congrArg List.head? same
        rwa [List.head?_reverse, List.getLast?_cons_cons, List.head?_cons] at ends
      exact absurd (List.mem_of_getLast? last) (List.nodup_cons.mp distinct).1

/-- Whether distinct items come forwards or backwards does not matter exactly where
each has a key of its own. -/
theorem sortByKey_reverse_eq_iff (distinct : items.Nodup) :
    sortByKey key items.reverse = sortByKey key items ↔ (items.map key).Nodup := by
  constructor
  · intro same
    refine List.Nodup.map_on (fun first hasFirst second hasSecond alike => ?_) distinct
    have backwards : (items.filter fun item => key item = key second).reverse =
        items.filter fun item => key item = key second := by
      rw [← List.filter_reverse, ← sortByKey_filter, same, sortByKey_filter]
    exact eq_of_reverse_eq (distinct.filter _) backwards
      (List.mem_filter.mpr ⟨hasFirst, decide_eq_true alike⟩)
      (List.mem_filter.mpr ⟨hasSecond, decide_eq_true rfl⟩)
  · exact sortByKey_eq_of_perm (List.reverse_perm items)
/-- What is written of sorted items does not depend on their order where items of
one key are written alike. -/
theorem sortByKey_map_eq {β : Type*} {f : α → β} (keys : (others.map key).Perm (items.map key))
    (ties : ∀ other ∈ others, ∀ item ∈ items, key other = key item → f other = f item) :
    (sortByKey key others).map f = (sortByKey key items).map f := by
  have sorted : (sortByKey key others).map key = (sortByKey key items).map key :=
    sortByKey_keys_eq keys
  have lengths : (sortByKey key others).length = (sortByKey key items).length := by
    simpa only [List.length_map] using congrArg List.length sorted
  apply List.ext_getElem
  · simp only [List.length_map, lengths]
  · intro index below within
    rw [List.length_map] at below within
    have same : key (sortByKey key others)[index] = key (sortByKey key items)[index] := by
      have both := List.getElem_of_eq sorted (by rwa [List.length_map])
      rwa [List.getElem_map, List.getElem_map] at both
    rw [List.getElem_map, List.getElem_map]
    exact ties _ ((sortByKey_perm others).mem_iff.mp (List.getElem_mem below)) _
      ((sortByKey_perm items).mem_iff.mp (List.getElem_mem within)) same

/-- What is written of sorted items tells what is written of the first item of a key. -/
theorem eq_of_sortByKey_map_eq {β : Type*} {f : α → β} (readable : Function.FactorsThrough key f)
    {item other : α} (alike : key item = key other)
    (same : (sortByKey key (item :: items)).map f = (sortByKey key (other :: others)).map f) :
    f item = f other := by
  let read : β → κ := Function.extend f key fun _ => key item
  have reads (given : α) : read (f given) = key given := readable.extend_apply _ given
  have firsts (begun : α) (rest : List α) (own : key begun = key item) :
      (((sortByKey key (begun :: rest)).map f).filter fun value => read value = key item).head? =
        some (f begun) := by
    rw [List.filter_map]
    simp only [Function.comp_def, reads, sortByKey_filter]
    rw [List.filter_cons, if_pos (decide_eq_true own), List.map_cons, List.head?_cons]
  have both := firsts item items rfl
  rw [same, firsts other others alike.symm] at both
  exact (Option.some.inj both).symm

end Ties

section Ends

/-- The first of the items with the least key. -/
def FirstLeast (key : α → κ) (items : List α) (item : α) : Prop :=
  ∃ before after, items = before ++ item :: after ∧ (∀ other ∈ before, key item < key other) ∧
    ∀ other ∈ after, key item ≤ key other

/-- The last of the items with the greatest key. -/
def LastGreatest (key : α → κ) (items : List α) (item : α) : Prop :=
  ∃ before after, items = before ++ item :: after ∧ (∀ other ∈ before, key other ≤ key item) ∧
    ∀ other ∈ after, key other < key item

theorem sortByKey_cons (item : α) (items : List α) :
    sortByKey key (item :: items) =
      (sortByKey key items).orderedInsert (fun first second => key first ≤ key second) item :=
  rfl

/-- The stable sort begins with the first least item. -/
theorem exists_firstLeast {items : List α} (some : items ≠ []) :
    ∃ least, (sortByKey key items).head? = .some least ∧ FirstLeast key items least := by
  induction items with
  | nil => exact absurd rfl some
  | cons item items ih =>
    cases items with
    | nil => exact ⟨item, rfl, [], [], rfl, by simp, by simp⟩
    | cons next items =>
      obtain ⟨least, begins, before, after, split, above, behind⟩ :=
        ih (List.cons_ne_nil next items)
      obtain ⟨rest, sorted⟩ : ∃ rest, sortByKey key (next :: items) = least :: rest := by
        cases found : sortByKey key (next :: items) with
        | nil => simp [found] at begins
        | cons head rest => exact ⟨rest, by simpa [found] using begins⟩
      rw [sortByKey_cons, sorted, List.orderedInsert_cons]
      by_cases first : key item ≤ key least
      · rw [if_pos first]
        refine ⟨item, rfl, [], next :: items, rfl, by simp, fun other member => ?_⟩
        rw [split] at member
        rcases List.mem_append.mp member with earlier | later
        · exact (lt_of_le_of_lt first (above other earlier)).le
        · rcases List.mem_cons.mp later with rfl | later
          · exact first
          · exact first.trans (behind other later)
      · rw [if_neg first]
        exact ⟨least, rfl, item :: before, after, by rw [split, List.cons_append],
          List.forall_mem_cons.mpr ⟨not_le.mp first, above⟩, behind⟩

/-- An item comes last when its key is above all the others. -/
private theorem orderedInsert_getLast? (item : α) (sorted : List α) :
    (sorted.orderedInsert (fun first second => key first ≤ key second) item).getLast? =
      if ∀ other ∈ sorted, key other < key item then .some item else sorted.getLast? := by
  induction sorted with
  | nil => simp
  | cons head rest ih =>
    rw [List.orderedInsert_cons]
    by_cases first : key item ≤ key head
    · have notAbove : ¬ ∀ other ∈ head :: rest, key other < key item :=
        fun above => absurd (above head List.mem_cons_self) (not_lt.mpr first)
      rw [if_pos first, if_neg notAbove, List.getLast?_cons_cons]
    · have inserted : rest.orderedInsert (fun first second => key first ≤ key second) item ≠ [] :=
        List.ne_nil_of_mem ((List.mem_orderedInsert _).mpr (Or.inl rfl))
      obtain ⟨next, others, split⟩ := List.exists_cons_of_ne_nil inserted
      rw [if_neg first, split, List.getLast?_cons_cons, ← split, ih]
      by_cases above : ∀ other ∈ rest, key other < key item
      · have allBelow : ∀ other ∈ head :: rest, key other < key item :=
          List.forall_mem_cons.mpr ⟨not_le.mp first, above⟩
        rw [if_pos above, if_pos allBelow]
      · have notAbove : ¬ ∀ other ∈ head :: rest, key other < key item :=
          fun all => above (List.forall_mem_cons.mp all).2
        rw [if_neg above, if_neg notAbove]
        cases rest with
        | nil => exact absurd (by simp) above
        | cons second rest => rw [List.getLast?_cons_cons]

/-- The stable sort ends with the last greatest item. -/
theorem exists_lastGreatest {items : List α} (some : items ≠ []) :
    ∃ greatest, (sortByKey key items).getLast? = .some greatest ∧
      LastGreatest key items greatest := by
  induction items with
  | nil => exact absurd rfl some
  | cons item items ih =>
    rw [sortByKey_cons, orderedInsert_getLast?]
    by_cases above : ∀ other ∈ sortByKey key items, key other < key item
    · refine ⟨item, if_pos above, [], items, rfl, by simp, fun other member => ?_⟩
      exact above other ((sortByKey_perm items).symm.subset member)
    · have nonempty : items ≠ [] := by
        rintro rfl
        exact above (by simp [sortByKey])
      obtain ⟨greatest, ends, before, after, split, below, behind⟩ := ih nonempty
      refine ⟨greatest, (if_neg above).trans ends, item :: before, after,
        by rw [split, List.cons_append], ?_, behind⟩
      refine List.forall_mem_cons.mpr ⟨?_, below⟩
      -- some item is no less than the new one, and the greatest is no less than that
      obtain ⟨other, listed, notBelow⟩ := by simpa only [not_forall, exists_prop] using above
      have isItem := (sortByKey_perm items).subset listed
      rw [split] at isItem
      refine (not_lt.mp notBelow).trans ?_
      rcases List.mem_append.mp isItem with earlier | later
      · exact below other earlier
      · rcases List.mem_cons.mp later with rfl | later
        · exact le_rfl
        · exact (behind other later).le

/-- Which two items can come first and last once the items are sorted, in
whatever order they were. -/
theorem exists_perm_ends_iff {items : List α} {first last : α} :
    (∃ shuffled, shuffled.Perm items ∧ 2 ≤ shuffled.length ∧
      (sortByKey key shuffled).head? = some first ∧
      (sortByKey key shuffled).getLast? = some last) ↔
    (∃ others, items.Perm (first :: last :: others)) ∧ ∀ item ∈ items, key first ≤ key item ∧
      key item ≤ key last := by
  constructor
  · rintro ⟨shuffled, perm, two, begins, ends⟩
    have sortedPerm : (sortByKey key shuffled).Perm items := (sortByKey_perm shuffled).trans perm
    obtain ⟨rest, split⟩ := List.head?_eq_some_iff.mp begins
    have more : rest ≠ [] := by
      rintro rfl
      have single : (sortByKey key shuffled).length = shuffled.length :=
        (sortByKey_perm shuffled).length_eq
      simp only [split, List.length_singleton] at single
      omega
    rw [split, List.getLast?_cons, List.getLast?_eq_some_getLast more, Option.getD_some,
      Option.some_inj] at ends
    have whole : rest = rest.dropLast ++ [last] := by rw [← ends, List.dropLast_append_getLast]
    have ordered : (sortByKey key shuffled).Pairwise (key · ≤ key ·) := sortByKey_sorted shuffled
    rw [split, whole] at ordered sortedPerm
    obtain ⟨least, upper⟩ := List.pairwise_cons.mp ordered
    have below : ∀ item ∈ rest.dropLast, key item ≤ key last := fun item member =>
      (List.pairwise_append.mp upper).2.2 item member last List.mem_cons_self
    refine ⟨⟨rest.dropLast, sortedPerm.symm.trans ((List.perm_append_singleton last _).cons first)⟩,
      fun item member => ?_⟩
    rcases List.mem_cons.mp (sortedPerm.mem_iff.mpr member) with rfl | inRest
    · exact ⟨le_rfl, least last (List.mem_append_right _ List.mem_cons_self)⟩
    · refine ⟨least item inRest, ?_⟩
      rcases List.mem_append.mp inRest with early | late
      · exact below item early
      · exact le_of_eq (congrArg key (List.mem_singleton.mp late))
  · rintro ⟨⟨others, perm⟩, bounds⟩
    have some : first :: (others ++ [last]) ≠ [] := List.cons_ne_nil _ _
    have arranged : (first :: (others ++ [last])).Perm items :=
      ((List.perm_append_singleton last others).cons first).trans perm.symm
    refine ⟨first :: (others ++ [last]), arranged, by simp, ?_, ?_⟩
    · obtain ⟨least, begins, before, after, split, above, -⟩ : ∃ least, _ ∧
          FirstLeast key _ least := exists_firstLeast some
      rw [begins]
      cases before with
      | nil => rw [(List.cons.inj split).1]
      | cons head before =>
        have isItem : least ∈ items := arranged.subset (by rw [split]; simp)
        have smaller := above head List.mem_cons_self
        rw [← (List.cons.inj split).1] at smaller
        exact absurd (bounds least isItem).1 (not_le.mpr smaller)
    · obtain ⟨greatest, ends, before, after, split, -, behind⟩ : ∃ greatest, _ ∧
          LastGreatest key _ greatest :=
        exists_lastGreatest some
      rw [ends]
      have final := congrArg List.getLast? split
      rw [← List.cons_append, List.getLast?_concat, List.getLast?_append,
        List.getLast?_cons] at final
      cases shown : after.getLast? with
      | none => simpa [shown] using final.symm
      | some later =>
        have isItem : greatest ∈ items := arranged.subset (by rw [split]; simp)
        have smaller := behind later (List.mem_of_getLast? shown)
        have same : last = later := by simpa [shown] using final
        exact absurd (bounds greatest isItem).2 (not_le.mpr (same ▸ smaller))

end Ends

section Distinct
variable {items others : List κ}

/-- A list that is sorted, and then loses what repeats the entry in front of it. -/
def sortedDistinct (items : List κ) : List κ := (sortByKey id items).destutter (· ≠ ·)

theorem sortedDistinct_eq_dedup (items : List κ) :
    sortedDistinct items = (sortByKey id items).dedup := by
  have sorted : (sortByKey id items).Pairwise (· ≤ ·) := sortByKey_sorted items
  exact sorted.destutter_eq_dedup

theorem mem_sortedDistinct {item : κ} : item ∈ sortedDistinct items ↔ item ∈ items := by
  rw [sortedDistinct_eq_dedup, List.mem_dedup, (sortByKey_perm items).mem_iff]

theorem sortedDistinct_nodup (items : List κ) : (sortedDistinct items).Nodup := by
  rw [sortedDistinct_eq_dedup]
  exact List.nodup_dedup _

theorem sortedDistinct_eq_of_perm (perm : items.Perm others) :
    sortedDistinct items = sortedDistinct others := by
  have sorted : sortByKey id items = sortByKey id others := by
    have keys : (sortByKey id items).map id = (sortByKey id others).map id := sortByKey_keys perm
    simpa using keys
  rw [sortedDistinct, sorted, sortedDistinct]

/-- More than one entry is left where two of them differ. -/
theorem one_lt_length_sortedDistinct :
    1 < (sortedDistinct items).length ↔ ∃ first ∈ items, ∃ second ∈ items, first ≠ second := by
  have distinct := sortedDistinct_nodup items
  constructor
  · intro more
    have apart : (sortedDistinct items)[0] ≠ (sortedDistinct items)[1] := fun same =>
      absurd (distinct.getElem_inj_iff.mp same) (by decide)
    exact ⟨_, mem_sortedDistinct.mp (List.getElem_mem _), _,
      mem_sortedDistinct.mp (List.getElem_mem _), apart⟩
  · rintro ⟨first, listed, second, also, apart⟩
    by_contra few
    match left : sortedDistinct items with
    | [] =>
      have member := mem_sortedDistinct.mpr listed
      rw [left] at member
      cases member
    | [only] =>
      have member := mem_sortedDistinct.mpr listed
      have member' := mem_sortedDistinct.mpr also
      rw [left] at member member'
      exact apart ((List.mem_singleton.mp member).trans (List.mem_singleton.mp member').symm)
    | first :: second :: rest =>
      rw [left] at few
      simp at few

end Distinct

section Ranks
variable {items : List κ} {bound : κ}

/-- The item of a rank is below a bound exactly when more items than the rank are. -/
theorem getElem?_lt_iff (sorted : items.Pairwise (· ≤ ·)) (rank : Nat) :
    (∃ item, items[rank]? = some item ∧ item < bound) ↔ rank < items.countP (· < bound) := by
  induction items generalizing rank with
  | nil => simp
  | cons first rest ih =>
    obtain ⟨least, sortedRest⟩ := List.pairwise_cons.mp sorted
    by_cases below : first < bound
    · have one : (first :: rest).countP (· < bound) = rest.countP (· < bound) + 1 :=
        List.countP_cons_of_pos (by simpa using below)
      rw [one]
      cases rank with
      | zero => exact iff_of_true ⟨first, rfl, below⟩ (Nat.succ_pos _)
      | succ rank =>
        rw [Nat.succ_lt_succ_iff, ← ih sortedRest rank]
        rfl
    · have above : ∀ item ∈ first :: rest, ¬ item < bound := by
        intro item listed less
        rcases List.mem_cons.mp listed with rfl | later
        · exact below less
        · exact below ((least item later).trans_lt less)
      have noneBelow : (first :: rest).countP (· < bound) = 0 := by
        rw [List.countP_eq_zero]
        intro item listed
        simpa using above item listed
      rw [noneBelow]
      refine iff_of_false ?_ (Nat.not_lt_zero rank)
      rintro ⟨item, found, less⟩
      exact above item (List.mem_of_getElem? found) less

end Ranks

end FragglePacket.Lists
