import Mathlib.Algebra.BigOperators.Group.Finset.Basic
import Mathlib.Data.Finset.Dedup

/-! Values reported under keys, where a later report replaces the earlier ones of its key. -/

namespace FragglePacket.Lists

section LatestReports
variable {κ M : Type*} [DecidableEq κ]

/-- The reports behind which their key is reported again. -/
def superseded : List (κ × M) → List (κ × M)
  | [] => []
  | report :: rest =>
    if report.1 ∈ rest.map (·.1) then report :: superseded rest else superseded rest

variable [AddCommMonoid M]

/-- The last value reported under a key. -/
def lastValue (reports : List (κ × M)) (key : κ) : M :=
  ((reports.reverse.find? (·.1 = key)).map (·.2)).getD 0

/-- The last values of all keys that are reported, together. -/
def latestSum (reports : List (κ × M)) : M :=
  ∑ key ∈ (reports.map (·.1)).toFinset, lastValue reports key

theorem lastValue_cons_of_mem {report : κ × M} {rest : List (κ × M)} {key : κ}
    (later : key ∈ rest.map (·.1)) :
    lastValue (report :: rest) key = lastValue rest key := by
  obtain ⟨other, member, rfl⟩ := List.mem_map.mp later
  obtain ⟨last, found⟩ : ∃ last, rest.reverse.find? (·.1 = other.1) = some last := by
    apply Option.isSome_iff_exists.mp
    rw [List.find?_isSome]
    exact ⟨other, List.mem_reverse.mpr member, by simp⟩
  rw [lastValue, List.reverse_cons, List.find?_append, found, Option.some_or, lastValue, found]

theorem lastValue_cons_self {report : κ × M} {rest : List (κ × M)}
    (only : report.1 ∉ rest.map (·.1)) :
    lastValue (report :: rest) report.1 = report.2 := by
  have nothing : rest.reverse.find? (·.1 = report.1) = none := by
    apply List.find?_eq_none.mpr
    intro other member same
    exact only (List.mem_map.mpr ⟨other, List.mem_reverse.mp member, by simpa using same⟩)
  rw [lastValue, List.reverse_cons, List.find?_append, nothing, Option.none_or]
  simp

/-- All reports are the last ones and those that they replace. -/
theorem sum_reports (reports : List (κ × M)) :
    (reports.map (·.2)).sum = latestSum reports + ((superseded reports).map (·.2)).sum := by
  induction reports with
  | nil => simp [latestSum, superseded]
  | cons report rest ih =>
    have kept : ∑ key ∈ (rest.map (·.1)).toFinset, lastValue (report :: rest) key =
        latestSum rest :=
      Finset.sum_congr rfl fun key member => lastValue_cons_of_mem (List.mem_toFinset.mp member)
    have whole : latestSum (report :: rest) =
        ∑ key ∈ insert report.1 (rest.map (·.1)).toFinset, lastValue (report :: rest) key := by
      rw [latestSum, List.map_cons, List.toFinset_cons]
    rw [List.map_cons, List.sum_cons, ih, whole, superseded]
    by_cases again : report.1 ∈ rest.map (·.1)
    · rw [if_pos again, Finset.insert_eq_of_mem (List.mem_toFinset.mpr again), kept, List.map_cons,
        List.sum_cons]
      exact add_left_comm _ _ _
    · rw [if_neg again, Finset.sum_insert (fun member => again (List.mem_toFinset.mp member)),
        lastValue_cons_self again, kept, add_assoc]

end LatestReports

end FragglePacket.Lists
