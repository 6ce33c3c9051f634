import Mathlib.Data.List.Count
import Mathlib.Data.List.Infix

/-! Edit scripts of text rewriting. A script lists from left to right what a
rewriting kept and what it swapped for other text, so that an occurrence in the
result can be traced back to an occurrence in the input. -/

namespace FragglePacket.Text

universe u
variable {α : Type u}

inductive Edit (α : Type u) where
  | keep (item : α)
  | swap (old new : List α)
deriving DecidableEq

def Edit.source : Edit α → List α
  | .keep item => [item]
  | .swap old _ => old

def Edit.target : Edit α → List α
  | .keep item => [item]
  | .swap _ new => new

/-- The text a script was written for. -/
def source (script : List (Edit α)) : List α := script.flatMap Edit.source

/-- The text a script produces. -/
def target (script : List (Edit α)) : List α := script.flatMap Edit.target

def keeps (text : List α) : List (Edit α) := text.map .keep

@[simp] theorem source_nil : source ([] : List (Edit α)) = [] := rfl

@[simp] theorem target_nil : target ([] : List (Edit α)) = [] := rfl

@[simp] theorem source_keep (item : α) (rest : List (Edit α)) :
    source (.keep item :: rest) = item :: source rest := rfl

@[simp] theorem target_keep (item : α) (rest : List (Edit α)) :
    target (.keep item :: rest) = item :: target rest := rfl

@[simp] theorem source_swap (old new : List α) (rest : List (Edit α)) :
    source (.swap old new :: rest) = old ++ source rest := rfl

@[simp] theorem target_swap (old new : List α) (rest : List (Edit α)) :
    target (.swap old new :: rest) = new ++ target rest := rfl

@[simp] theorem source_append (first second : List (Edit α)) :
    source (first ++ second) = source first ++ source second := List.flatMap_append

@[simp] theorem target_append (first second : List (Edit α)) :
    target (first ++ second) = target first ++ target second := List.flatMap_append

@[simp] theorem source_keeps (text : List α) : source (keeps text) = text := by
  induction text with
  | nil => rfl
  | cons item rest ih => simpa [keeps] using ih

@[simp] theorem target_keeps (text : List α) : target (keeps text) = text := by
  induction text with
  | nil => rfl
  | cons item rest ih => simpa [keeps] using ih

@[simp] theorem keeps_nil : keeps ([] : List α) = [] := rfl

@[simp] theorem keeps_cons (item : α) (rest : List α) :
    keeps (item :: rest) = .keep item :: keeps rest := rfl

@[simp] theorem keeps_append (first second : List α) :
    keeps (first ++ second) = keeps first ++ keeps second := List.map_append

theorem swap_not_mem_keeps (text old new : List α) : Edit.swap old new ∉ keeps text := by
  simp [keeps]

/-- A script without swaps only copies its text. -/
theorem eq_keeps_of_no_swap {script : List (Edit α)}
    (copies : ∀ old new, Edit.swap old new ∉ script) : script = keeps (source script) := by
  induction script with
  | nil => rfl
  | cons edit rest ih =>
    have restCopies : ∀ old new, Edit.swap old new ∉ rest :=
      fun old new member => copies old new (List.mem_cons_of_mem _ member)
    cases edit with
    | keep item => simpa using congrArg (Edit.keep item :: ·) (ih restCopies)
    | swap old new => exact absurd List.mem_cons_self (copies old new)

/-- A swap in a script that copies `word` somewhere comes before or after it. -/
theorem swap_beside_keeps {word old new : List α} {P Q front back : List (Edit α)}
    (same : P ++ .swap old new :: Q = front ++ (keeps word ++ back)) :
    (∃ more, front = P ++ .swap old new :: more ∧ Q = more ++ (keeps word ++ back)) ∨
      ∃ more, back = more ++ .swap old new :: Q ∧ P = front ++ (keeps word ++ more) := by
  rcases List.append_eq_append_iff.mp same with ⟨more, inFront, rest⟩ | ⟨more, inP, rest⟩
  · cases more with
    | nil =>
      refine .inr ⟨[], ?_, ?_⟩
      · cases word with
        | nil => simpa using rest.symm
        | cons item items => simp at rest
      · cases word with
        | nil => simpa using inFront.symm
        | cons item items => simp at rest
    | cons edit more =>
      obtain ⟨rfl, tail⟩ := List.cons.inj rest
      exact .inl ⟨more, inFront, tail⟩
  · rcases List.append_eq_append_iff.mp rest with ⟨after, inMore, tail⟩ | ⟨after, inWord, tail⟩
    · exact .inr ⟨after, tail, by rw [inP, inMore]⟩
    · cases after with
      | nil => exact .inr ⟨[], by simpa using tail.symm, by simp [inP, inWord]⟩
      | cons edit after =>
        obtain ⟨rfl, _⟩ := List.cons.inj tail
        have inside : Edit.swap old new ∈ keeps word := by simp [inWord]
        exact absurd inside (swap_not_mem_keeps word old new)

private theorem eq_nil_of_source {script : List (Edit α)}
    (solid : ∀ old new, Edit.swap old new ∈ script → old ≠ []) (empty : source script = []) :
    script = [] := by
  cases script with
  | nil => rfl
  | cons edit rest =>
    cases edit with
    | keep item => simp at empty
    | swap old new =>
      have gone : old = [] := by
        rw [source_swap, List.append_eq_nil_iff] at empty
        exact empty.1
      exact absurd gone (solid old new List.mem_cons_self)

/-- When every swap replaces something, the amount of text a front part of a
script accounts for determines that part. -/
theorem front_unique {front front' back back' : List (Edit α)}
    (solid : ∀ old new, Edit.swap old new ∈ front ++ back → old ≠ [])
    (same : front ++ back = front' ++ back') (sources : source front = source front') :
    front = front' := by
  have solid' : ∀ old new, Edit.swap old new ∈ front' ++ back' → old ≠ [] := by rwa [← same]
  rcases List.append_eq_append_iff.mp same with ⟨more, split, _⟩ | ⟨more, split, _⟩
  · have empty : more = [] := eq_nil_of_source
      (fun old new member => solid' old new (by simp [split, member]))
      (by simpa [split] using sources)
    simp [split, empty]
  · have empty : more = [] := eq_nil_of_source
      (fun old new member => solid old new (by simp [split, member]))
      (by simpa [split] using sources)
    simp [split, empty]

/-- No occurrence of `word` can overlap an inserted `new`: neither lies in the
other, and no end of one is the opposite end of the other. -/
structure Foreign (word new : List α) : Prop where
  outside : ¬ word <:+: new
  apart : ¬ new <:+: word
  afterwards : ∀ piece, piece ≠ [] → piece <:+ word → ¬ piece <+: new
  before : ∀ piece, piece ≠ [] → piece <+: word → ¬ piece <:+ new

/-- Inserted text whose two ends cannot occur in a word overlaps it nowhere. -/
theorem Foreign.of_ends {word body : List α} {first last : α}
    (noFirst : first ∉ word) (noLast : last ∉ word)
    (outside : ¬ word <:+: first :: (body ++ [last])) :
    Foreign word (first :: (body ++ [last])) where
  outside := outside
  apart := fun inside => noFirst (inside.subset List.mem_cons_self)
  afterwards := by
    rintro piece nonempty suffixed ⟨rest, same⟩
    cases piece with
    | nil => exact nonempty rfl
    | cons head tail =>
      have headFirst : head = first := (List.cons.inj same).1
      exact noFirst (headFirst ▸ suffixed.subset List.mem_cons_self)
  before := by
    rintro piece nonempty prefixed ⟨front, same⟩
    obtain ⟨init, final, rfl⟩ := List.eq_nil_or_concat piece |>.resolve_left nonempty
    have joined : (front ++ init) ++ [final] = (first :: body) ++ [last] := by
      simpa [List.append_assoc] using same
    have ends : final = last := by
      simpa using (List.append_inj' joined rfl).2
    exact noLast (ends ▸ prefixed.subset (by simp))

/-- An end of `word` at the front of the result was copied from the input. -/
private theorem keeps_of_prefix {word : List α} (piece : List α) (suffixed : piece <:+ word)
    {script : List (Edit α)} {after : List α}
    (foreign : ∀ old new, Edit.swap old new ∈ script → Foreign word new)
    (found : target script = piece ++ after) :
    ∃ back, script = keeps piece ++ back ∧ target back = after := by
  induction piece generalizing script with
  | nil => exact ⟨script, rfl, found⟩
  | cons item rest ih =>
    cases script with
    | nil => simp at found
    | cons edit script =>
      cases edit with
      | keep other =>
        have parts : other = item ∧ target script = rest ++ after := by simpa using found
        obtain ⟨rfl, restFound⟩ := parts
        have restSuffixed : rest <:+ word := (List.suffix_cons _ rest).trans suffixed
        obtain ⟨back, same, tail⟩ := ih restSuffixed
          (fun old new member => foreign old new (List.mem_cons_of_mem _ member)) restFound
        exact ⟨back, by simp [same], tail⟩
      | swap old new =>
        have apart := foreign old new List.mem_cons_self
        rw [target_swap] at found
        rcases List.append_eq_append_iff.mp found with ⟨more, inWord, _⟩ | ⟨more, inNew, _⟩
        · have inside : new <:+: item :: rest := ⟨[], more, by simp [inWord]⟩
          exact absurd (inside.trans suffixed.isInfix) apart.apart
        · have prefixed : item :: rest <+: new := ⟨more, inNew.symm⟩
          exact absurd prefixed (apart.afterwards _ (by simp) suffixed)

/-- An occurrence in the result of a word foreign to all inserted text is an
occurrence in the input, copied element by element. -/
theorem keeps_of_infix {word : List α} (nonempty : word ≠ []) {script : List (Edit α)}
    {before after : List α}
    (foreign : ∀ old new, Edit.swap old new ∈ script → Foreign word new)
    (found : target script = before ++ word ++ after) :
    ∃ front back, script = front ++ keeps word ++ back ∧
      target front = before ∧ target back = after := by
  induction script generalizing before with
  | nil => simp [nonempty] at found
  | cons edit script ih =>
    have restForeign : ∀ old new, Edit.swap old new ∈ script → Foreign word new :=
      fun old new member => foreign old new (List.mem_cons_of_mem _ member)
    cases edit with
    | keep item =>
      cases before with
      | nil =>
        obtain ⟨back, same, tail⟩ := keeps_of_prefix word List.suffix_rfl foreign
          (by simpa using found)
        exact ⟨[], back, by simpa using same, rfl, tail⟩
      | cons head before =>
        have parts : item = head ∧ target script = before ++ word ++ after := by
          simpa using found
        obtain ⟨rfl, restFound⟩ := parts
        obtain ⟨front, back, same, left, right⟩ := ih restForeign restFound
        exact ⟨.keep item :: front, back, by simp [same], by simp [left], right⟩
    | swap old new =>
      have apart := foreign old new List.mem_cons_self
      rw [target_swap, List.append_assoc] at found
      rcases List.append_eq_append_iff.mp found with ⟨more, split, rest⟩ | ⟨more, split, rest⟩
      · obtain ⟨front, back, same, left, right⟩ := ih restForeign (by simpa using rest)
        exact ⟨.swap old new :: front, back, by simp [same], by simp [left, split], right⟩
      · -- the word would begin inside the inserted text
        rcases List.append_eq_append_iff.mp rest with ⟨tail, inMore, _⟩ | ⟨tail, inWord, moved⟩
        · have inside : word <:+: new := ⟨before, tail, by rw [split, inMore, List.append_assoc]⟩
          exact absurd inside apart.outside
        · by_cases empty : more = []
          · subst more
            have here : target script = [] ++ word ++ after := by simpa using rest.symm
            obtain ⟨front, back, same, left, right⟩ := ih restForeign here
            refine ⟨.swap old new :: front, back, by simp [same], ?_, right⟩
            simp [left, split]
          · exact absurd ⟨before, split.symm⟩ (apart.before more empty ⟨tail, inWord.symm⟩)

/-- A rewriting presented by its scripts. -/
structure Stage (α : Type u) where
  script : List α → List (Edit α)
  source_script : ∀ text, source (script text) = text

def Stage.apply (stage : Stage α) (text : List α) : List α := target (stage.script text)

/-- The occurrence of `word` between `x` and `y` is copied by the stage, which
turns the text around it into `x'` and `y'`. -/
def Stage.Leaves (stage : Stage α) (x word y x' y' : List α) : Prop :=
  ∃ front back, stage.script (x ++ word ++ y) = front ++ keeps word ++ back ∧
    source front = x ∧ source back = y ∧ target front = x' ∧ target back = y'

def applyAll (stages : List (Stage α)) (text : List α) : List α :=
  stages.foldl (fun current stage => stage.apply current) text

theorem applyAll_cons (stage : Stage α) (rest : List (Stage α)) (text : List α) :
    applyAll (stage :: rest) text = applyAll rest (stage.apply text) := rfl

/-- The occurrence is copied by every stage in turn; `context` is asked of the
text that ends up around it. -/
def Survives : List (Stage α) → List α → List α → List α → (List α → List α → Prop) → Prop
  | [], x, _, y, context => context x y
  | stage :: rest, x, word, y, context =>
    ∃ x' y', stage.Leaves x word y x' y' ∧ Survives rest x' word y' context

theorem Stage.Leaves.apply {stage : Stage α} {x word y x' y' : List α}
    (left : stage.Leaves x word y x' y') : stage.apply (x ++ word ++ y) = x' ++ word ++ y' := by
  obtain ⟨front, back, same, _, _, rfl, rfl⟩ := left
  rw [Stage.apply, same, target_append, target_append, target_keeps]

/-- Occurrences of a foreign word in the result of one stage are exactly the
occurrences in its input that the stage leaves alone. -/
theorem Stage.occurs_iff (stage : Stage α) {word : List α} (nonempty : word ≠ [])
    (text : List α)
    (foreign : ∀ old new, Edit.swap old new ∈ stage.script text → Foreign word new)
    (context : List α → List α → Prop) :
    (∃ X Y, stage.apply text = X ++ word ++ Y ∧ context X Y) ↔
      ∃ x y, text = x ++ word ++ y ∧ ∃ x' y', stage.Leaves x word y x' y' ∧ context x' y' := by
  constructor
  · rintro ⟨X, Y, found, holds⟩
    obtain ⟨front, back, same, left, right⟩ := keeps_of_infix nonempty foreign found
    have split : text = source front ++ word ++ source back := by
      rw [← stage.source_script text, same]
      simp
    exact ⟨source front, source back, split, X, Y,
      ⟨front, back, by rw [← split, same], rfl, rfl, left, right⟩, holds⟩
  · rintro ⟨x, y, rfl, x', y', left, holds⟩
    exact ⟨x', y', left.apply, holds⟩

/-- Occurrences of a foreign word after a run of all stages are exactly the
occurrences in the input that survive every one of them. -/
theorem occurs_iff_survives (stages : List (Stage α)) {word : List α} (nonempty : word ≠ [])
    (foreign : ∀ stage ∈ stages, ∀ text old new,
      Edit.swap old new ∈ stage.script text → Foreign word new)
    (text : List α) (context : List α → List α → Prop) :
    (∃ X Y, applyAll stages text = X ++ word ++ Y ∧ context X Y) ↔
      ∃ x y, text = x ++ word ++ y ∧ Survives stages x word y context := by
  induction stages generalizing text with
  | nil => simp [applyAll, Survives]
  | cons stage rest ih =>
    have restForeign : ∀ other ∈ rest, ∀ text old new,
        Edit.swap old new ∈ other.script text → Foreign word new :=
      fun other member => foreign other (List.mem_cons_of_mem _ member)
    rw [applyAll_cons, ih restForeign]
    exact stage.occurs_iff nonempty text (foreign stage List.mem_cons_self text)
      (fun x y => Survives rest x word y context)

/-- The stage swaps nothing in the text. -/
def Stage.Quiet (stage : Stage α) (text : List α) : Prop :=
  ∀ old new, Edit.swap old new ∉ stage.script text

theorem Stage.Quiet.apply {stage : Stage α} {text : List α} (quiet : stage.Quiet text) :
    stage.apply text = text := by
  have copied : stage.script text = keeps text := by
    have same := eq_keeps_of_no_swap quiet
    rwa [stage.source_script] at same
  rw [Stage.apply, copied, target_keeps]

end FragglePacket.Text
