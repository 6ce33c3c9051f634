import Mathlib.Algebra.Order.Group.Int
import Mathlib.Data.List.Perm.Basic
import FragglePacket.Text.Replace

/-! Words in the result of a rewriting that inserted text may be a part of: the piece of the
input each of them comes from, and the account of everything that was swapped. -/

namespace FragglePacket.Text

universe u
variable {α : Type u}

section Pieces

/-- The part of a script that writes `word`: its first edit reaches into the word from `front`
on, and its last one up to `behind`. -/
structure Writes (part : List (Edit α)) (front word behind : List α) : Prop where
  target : target part = front ++ word ++ behind
  starts : ∀ edit ∈ part.head?, front.length < edit.target.length
  ends : ∀ edit ∈ part.getLast?, behind.length < edit.target.length

private theorem cut_front {script : List (Edit α)} {X rest : List α} (nonempty : rest ≠ [])
    (found : target script = X ++ rest) :
    ∃ before edit after front, script = before ++ edit :: after ∧ X = target before ++ front ∧
      front.length < edit.target.length := by
  induction script generalizing X with
  | nil => simp [nonempty] at found
  | cons edit script ih =>
    have split : edit.target ++ target script = X ++ rest := found
    rcases List.append_eq_append_iff.mp split with ⟨more, rfl, later⟩ | ⟨more, covers, -⟩
    · obtain ⟨before, last, after, front, rfl, rfl, reaches⟩ := ih later
      exact ⟨edit :: before, last, after, front, rfl, (List.append_assoc ..).symm, reaches⟩
    · by_cases inside : more = []
      · subst inside
        have whole : target script = [] ++ rest := by simpa [covers] using split
        obtain ⟨before, last, after, front, rfl, same, reaches⟩ := ih whole
        refine ⟨edit :: before, last, after, front, rfl, ?_, reaches⟩
        have none := List.append_eq_nil_iff.mp same.symm
        change X = (edit.target ++ target before) ++ front
        rw [none.1, none.2, covers]
        simp
      · refine ⟨[], edit, script, X, rfl, rfl, ?_⟩
        have positive := List.length_pos_iff.mpr inside
        rw [covers, List.length_append]
        omega

private theorem cut_back {script : List (Edit α)} {rest Y : List α} (nonempty : rest ≠ [])
    (found : target script = rest ++ Y) :
    ∃ before edit after behind, script = before ++ edit :: after ∧ Y = behind ++ target after ∧
      behind.length < edit.target.length := by
  induction script using List.reverseRecOn generalizing Y with
  | nil => simp [nonempty] at found
  | append_singleton script edit ih =>
    have single : target [edit] = edit.target := List.append_nil _
    rw [target_append, single] at found
    by_cases short : Y.length < edit.target.length
    · exact ⟨script, edit, [], Y, rfl, (List.append_nil Y).symm, short⟩
    · obtain ⟨more, whole, ended⟩ : ∃ more, target script = rest ++ more ∧
          Y = more ++ edit.target := by
        rcases List.append_eq_append_iff.mp found with ⟨more, same, later⟩ | ⟨more, same, later⟩
        · have lengths := congrArg List.length later
          rw [List.length_append] at lengths
          have empty : more = [] := List.length_eq_zero_iff.mp (by omega)
          subst empty
          exact ⟨[], by simpa using same.symm, by simpa using later.symm⟩
        · exact ⟨more, same, later⟩
      obtain ⟨before, last, after, behind, rfl, rfl, reaches⟩ := ih whole
      refine ⟨before, last, after ++ [edit], behind, by simp, ?_, reaches⟩
      rw [ended, target_append, single, List.append_assoc]

/-- Every occurrence in a result is written by a part of the script. -/
theorem exists_writes {script : List (Edit α)} {X word Y : List α} (nonempty : word ≠ [])
    (found : target script = X ++ word ++ Y) :
    ∃ before part after front behind, script = before ++ part ++ after ∧
      Writes part front word behind ∧ X = target before ++ front ∧ Y = behind ++ target after := by
  rw [List.append_assoc] at found
  obtain ⟨before, first, tail, front, rfl, rfl, starts⟩ :=
    cut_front (List.append_ne_nil_of_left_ne_nil nonempty Y) found
  have written : target (first :: tail) = (front ++ word) ++ Y := by
    rw [target_append, List.append_assoc] at found
    simpa using List.append_cancel_left found
  obtain ⟨inner, last, after, behind, split, rfl, ends⟩ :=
    cut_back (List.append_ne_nil_of_right_ne_nil front nonempty) written
  refine ⟨before, inner ++ [last], after, front, behind, by simp [split], ?_, rfl, rfl⟩
  refine ⟨?_, ?_, by simpa using ends⟩
  · have parts : target (inner ++ [last]) ++ target after =
        (front ++ word ++ behind) ++ target after := by
      rw [← target_append, List.append_assoc inner, List.singleton_append, ← split, written,
        List.append_assoc _ behind]
    exact List.append_cancel_right parts
  · intro edit member
    have same : first = edit := by
      cases inner with
      | nil =>
        obtain ⟨rfl, -⟩ := List.cons.inj split
        simpa using member
      | cons head inner =>
        obtain ⟨rfl, -⟩ := List.cons.inj split
        simpa using member
    exact same ▸ starts

/-- The stage makes `word` of the piece between `x` and `y`, and of no less: every edit of the
piece writes some of the word. -/
def Stage.Makes (stage : Stage α) (x piece y x' word y' : List α) : Prop :=
  ∃ before part after front behind, stage.script (x ++ piece ++ y) = before ++ part ++ after ∧
    source before = x ∧ source part = piece ∧ source after = y ∧
    Writes part front word behind ∧ x' = target before ++ front ∧ y' = behind ++ target after

/-- The stages, one after the other, make `word` of the piece between `x` and `y`. -/
def Arises : List (Stage α) → List α → List α → List α → List α → Prop
  | [], _, piece, _, word => piece = word
  | stage :: rest, x, piece, y, word =>
    ∃ x' made y', stage.Makes x piece y x' made y' ∧ Arises rest x' made y' word

/-- Every swap replaces something. -/
def Stage.Solid (stage : Stage α) : Prop :=
  ∀ text old new, Edit.swap old new ∈ stage.script text → old ≠ []

theorem Stage.Makes.apply {stage : Stage α} {x piece y x' word y' : List α}
    (makes : stage.Makes x piece y x' word y') :
    stage.apply (x ++ piece ++ y) = x' ++ word ++ y' := by
  obtain ⟨before, part, after, front, behind, script, -, -, -, writes, rfl, rfl⟩ := makes
  rw [Stage.apply, script, target_append, target_append, writes.target]
  simp

theorem Stage.Makes.piece_ne_nil {stage : Stage α} (solid : stage.Solid)
    {x piece y x' word y' : List α} (makes : stage.Makes x piece y x' word y')
    (nonempty : word ≠ []) : piece ≠ [] := by
  obtain ⟨before, part, after, front, behind, script, -, rfl, -, writes, -, -⟩ := makes
  cases part with
  | nil =>
    have empty : front ++ word ++ behind = [] := writes.target.symm
    simp [nonempty] at empty
  | cons edit rest =>
    cases edit with
    | keep item => simp
    | swap old new =>
      have replaced : old ≠ [] := by
        refine solid (x ++ source (.swap old new :: rest) ++ y) old new ?_
        rw [script]
        simp
      simp [replaced]

theorem arises_piece_ne_nil {stages : List (Stage α)} (solid : ∀ stage ∈ stages, stage.Solid)
    {x piece y word : List α} (nonempty : word ≠ []) (arises : Arises stages x piece y word) :
    piece ≠ [] := by
  induction stages generalizing x piece y with
  | nil => exact (show piece = word from arises) ▸ nonempty
  | cons stage rest ih =>
    obtain ⟨x', made, y', makes, later⟩ := arises
    have made_ne_nil := ih (fun other member => solid other (List.mem_cons_of_mem _ member)) later
    exact makes.piece_ne_nil (solid stage List.mem_cons_self) made_ne_nil

/-- A word occurs after all stages exactly when it arises from a piece of the input. -/
theorem occurs_iff_arises {stages : List (Stage α)} (solid : ∀ stage ∈ stages, stage.Solid)
    {word : List α} (nonempty : word ≠ []) (text : List α) :
    word <:+: applyAll stages text ↔
      ∃ x piece y, text = x ++ piece ++ y ∧ Arises stages x piece y word := by
  induction stages generalizing text with
  | nil =>
    constructor
    · rintro ⟨x, y, found⟩
      exact ⟨x, word, y, found.symm, rfl⟩
    · rintro ⟨x, piece, y, rfl, rfl⟩
      exact ⟨x, y, rfl⟩
  | cons stage rest ih =>
    have restSolid : ∀ other ∈ rest, other.Solid :=
      fun other member => solid other (List.mem_cons_of_mem _ member)
    rw [applyAll_cons, ih restSolid]
    constructor
    · rintro ⟨x', made, y', found, later⟩
      obtain ⟨before, part, after, front, behind, script, writes, left, right⟩ :=
        exists_writes (arises_piece_ne_nil restSolid nonempty later) found
      have split : text = source before ++ source part ++ source after := by
        rw [← stage.source_script text, script, source_append, source_append]
      refine ⟨_, _, _, split, x', made, y', ?_, later⟩
      exact ⟨before, part, after, front, behind, split ▸ script, rfl, rfl, rfl, writes, left, right⟩
    · rintro ⟨x, piece, y, rfl, x', made, y', makes, later⟩
      exact ⟨x', made, y', makes.apply, later⟩

end Pieces

section Account

/-- What a script swaps, and for what. -/
def swaps (script : List (Edit α)) : List (List α × List α) :=
  script.filterMap fun
    | .keep _ => none
    | .swap old new => some (old, new)

theorem mem_swaps_iff {script : List (Edit α)} {old new : List α} :
    (old, new) ∈ swaps script ↔ Edit.swap old new ∈ script := by
  rw [swaps, List.mem_filterMap]
  constructor
  · rintro ⟨edit, member, same⟩
    cases edit with
    | keep item => cases same
    | swap other text =>
      obtain ⟨rfl, rfl⟩ := Prod.mk.inj (Option.some.inj same)
      exact member
  · intro member
    exact ⟨.swap old new, member, rfl⟩

/-- With what was swapped out, the result is the text with what was swapped in. -/
theorem perm_swaps (script : List (Edit α)) :
    (source script ++ (swaps script).flatMap Prod.snd).Perm
      (target script ++ (swaps script).flatMap Prod.fst) := by
  induction script with
  | nil => exact .nil
  | cons edit rest ih =>
    cases edit with
    | keep item => exact ih.cons item
    | swap old new =>
      have front : ((old ++ source rest) ++ (new ++ (swaps rest).flatMap Prod.snd)).Perm
          ((old ++ new) ++ (source rest ++ (swaps rest).flatMap Prod.snd)) := by
        simp only [List.append_assoc]
        exact List.Perm.append_left old (List.perm_append_comm_assoc _ _ _)
      have back : ((old ++ new) ++ (target rest ++ (swaps rest).flatMap Prod.fst)).Perm
          ((new ++ target rest) ++ (old ++ (swaps rest).flatMap Prod.fst)) := by
        refine (List.perm_append_comm.append_right _).trans ?_
        simp only [List.append_assoc]
        exact List.Perm.append_left new (List.perm_append_comm_assoc _ _ _)
      exact front.trans ((ih.append_left _).trans back)

/-- What the stages swap, one after the other. -/
def swapped : List (Stage α) → List α → List (List α × List α)
  | [], _ => []
  | stage :: rest, text => swaps (stage.script text) ++ swapped rest (stage.apply text)

theorem exists_stage_of_swapped {stages : List (Stage α)} {text old new : List α}
    (member : (old, new) ∈ swapped stages text) :
    ∃ stage ∈ stages, ∃ text, Edit.swap old new ∈ stage.script text := by
  induction stages generalizing text with
  | nil => cases member
  | cons stage rest ih =>
    rcases List.mem_append.mp member with here | later
    · exact ⟨stage, List.mem_cons_self, text, mem_swaps_iff.mp here⟩
    · obtain ⟨other, listed, swap⟩ := ih later
      exact ⟨other, List.mem_cons_of_mem _ listed, swap⟩

theorem perm_swapped (stages : List (Stage α)) (text : List α) :
    (text ++ (swapped stages text).flatMap Prod.snd).Perm
      (applyAll stages text ++ (swapped stages text).flatMap Prod.fst) := by
  induction stages generalizing text with
  | nil => exact List.Perm.refl _
  | cons stage rest ih =>
    have here := perm_swaps (stage.script text)
    rw [stage.source_script] at here
    have later := ih (stage.apply text)
    rw [applyAll_cons, swapped, List.flatMap_append, List.flatMap_append, ← List.append_assoc,
      ← List.append_assoc]
    have swap (front middle back : List α) :
        (front ++ middle ++ back).Perm (front ++ back ++ middle) := by
      rw [List.append_assoc, List.append_assoc]
      exact List.perm_append_comm.append_left front
    exact (here.append_right _).trans
      ((swap _ _ _).trans ((later.append_right _).trans (swap _ _ _)))

/-- Stages that come back to the text have swapped in just the letters they swapped out. -/
theorem swapped_perm_of_fixed {stages : List (Stage α)} {text : List α}
    (fixed : applyAll stages text = text) :
    ((swapped stages text).flatMap Prod.snd).Perm ((swapped stages text).flatMap Prod.fst) := by
  have account := perm_swapped stages text
  rw [fixed] at account
  exact (List.perm_append_left_iff text).mp account

/-- What is never swapped in is then never swapped out. -/
theorem swapped_avoids_of_fixed {stages : List (Stage α)} {text : List α}
    (fixed : applyAll stages text = text) {avoided : α → Prop}
    (clean : ∀ pair ∈ swapped stages text, ∀ item ∈ pair.2, ¬ avoided item) :
    ∀ pair ∈ swapped stages text, ∀ item ∈ pair.1, ¬ avoided item := by
  intro pair member item inside
  have out : item ∈ (swapped stages text).flatMap Prod.fst :=
    List.mem_flatMap.mpr ⟨pair, member, inside⟩
  obtain ⟨other, listed, inserted⟩ :=
    List.mem_flatMap.mp ((swapped_perm_of_fixed fixed).mem_iff.mpr out)
  exact clean other listed item inserted

theorem target_eq_source {script : List (Edit α)}
    (same : ∀ old new, Edit.swap old new ∈ script → old = new) : target script = source script := by
  induction script with
  | nil => rfl
  | cons edit rest ih =>
    have later := ih fun old new member => same old new (List.mem_cons_of_mem _ member)
    cases edit with
    | keep item => rw [target_keep, source_keep, later]
    | swap old new => rw [target_swap, source_swap, later, same old new List.mem_cons_self]

theorem Stage.apply_eq_self (stage : Stage α) {text : List α}
    (same : ∀ old new, Edit.swap old new ∈ stage.script text → old = new) :
    stage.apply text = text :=
  (target_eq_source same).trans (stage.source_script text)

/-- A script that swaps one text for one other, again and again, changes its text unless they
are the same. -/
theorem same_of_uniform {script : List (Edit α)} {old new : List α}
    (uniform : ∀ pair ∈ swaps script, pair = (old, new)) (fixed : target script = source script)
    (some : swaps script ≠ []) : old = new := by
  have lengths : old.length = new.length := by
    have account := (perm_swaps script).length_eq
    have copies : swaps script = List.replicate (swaps script).length (old, new) :=
      List.eq_replicate_of_mem uniform
    rw [copies, fixed, List.length_append, List.length_append, List.length_flatMap,
      List.length_flatMap, List.map_replicate, List.map_replicate, List.sum_replicate_nat,
      List.sum_replicate_nat] at account
    dsimp only at account
    have positive := List.length_pos_iff.mpr some
    exact (Nat.eq_of_mul_eq_mul_left positive (by omega)).symm
  induction script with
  | nil => exact absurd rfl some
  | cons edit rest ih =>
    cases edit with
    | keep item => exact ih uniform (List.cons.inj fixed).2 some
    | swap old' new' =>
      obtain ⟨rfl, rfl⟩ := Prod.mk.inj (uniform (old', new') List.mem_cons_self)
      exact (List.append_inj fixed lengths.symm).1.symm

/-- If all that is swapped is swapped for itself, every stage sees the text as it was. -/
theorem same_of_swapped {stages : List (Stage α)} {text : List α}
    (same : ∀ pair ∈ swapped stages text, pair.1 = pair.2) :
    ∀ stage ∈ stages, ∀ old new, Edit.swap old new ∈ stage.script text → old = new := by
  induction stages with
  | nil => simp
  | cons stage rest ih =>
    have here : ∀ old new, Edit.swap old new ∈ stage.script text → old = new :=
      fun old new member => same (old, new) (List.mem_append_left _ (mem_swaps_iff.mpr member))
    intro other listed
    rcases List.mem_cons.mp listed with rfl | later
    · exact here
    · refine ih (fun pair member => same pair (List.mem_append_right _ ?_)) other later
      rwa [stage.apply_eq_self here]

/-- Stages that all see the text as it was leave it as it was. -/
theorem applyAll_eq_self {stages : List (Stage α)} {text : List α}
    (fixed : ∀ stage ∈ stages, stage.apply text = text) : applyAll stages text = text := by
  induction stages with
  | nil => rfl
  | cons stage rest ih =>
    rw [applyAll_cons, fixed stage List.mem_cons_self]
    exact ih fun other listed => fixed other (List.mem_cons_of_mem _ listed)

end Account

end FragglePacket.Text
