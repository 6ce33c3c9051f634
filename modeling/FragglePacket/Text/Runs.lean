import FragglePacket.Text.Script
import Mathlib.Data.List.DropRight

/-! Scanning a text for its maximal runs: one left-to-right walk hands every
maximal run of marked elements to a rewriting and copies everything else. -/

namespace FragglePacket.Text

universe u v
variable {α : Type u} {β : Type v}

/-- The walk with the run read so far. A run ends at the first unmarked element
or at the end of the text. -/
def runLoop (inRun : α → Bool) (single : α → List β) (whole : List α → List β) :
    List α → List α → List β
  | run, [] => if run.isEmpty then [] else whole run
  | run, item :: rest =>
    if inRun item then runLoop inRun single whole (run ++ [item]) rest
    else (if run.isEmpty then [] else whole run) ++ single item ++
      runLoop inRun single whole [] rest

/-- Hand every maximal run of `inRun` elements to `whole` and every other
element to `single`, in order. -/
def overRuns (inRun : α → Bool) (single : α → List β) (whole : List α → List β)
    (text : List α) : List β :=
  runLoop inRun single whole [] text

/-- No run reaches over the seam between two texts. -/
def Severed (inRun : α → Bool) (left right : List α) : Prop :=
  ∀ a ∈ left.getLast?, ∀ b ∈ right.head?, ¬ (inRun a = true ∧ inRun b = true)

section Walk
variable {inRun : α → Bool} {single : α → List β} {whole : List α → List β}

private theorem runLoop_marked (piece : List α) (marked : ∀ item ∈ piece, inRun item = true)
    (run rest : List α) :
    runLoop inRun single whole run (piece ++ rest) =
      runLoop inRun single whole (run ++ piece) rest := by
  induction piece generalizing run with
  | nil => simp
  | cons item piece ih =>
    have here : inRun item = true := marked item List.mem_cons_self
    have later := ih (fun other member => marked other (List.mem_cons_of_mem _ member))
    simp [runLoop, here, later, List.append_assoc]

private theorem runLoop_append (left right run : List α)
    (severed : Severed inRun left right)
    (closed : left = [] → run = [] ∨ ∀ b ∈ right.head?, inRun b = false) :
    runLoop inRun single whole run (left ++ right) =
      runLoop inRun single whole run left ++ runLoop inRun single whole [] right := by
  induction left generalizing run with
  | nil =>
    rcases closed rfl with empty | outside
    · simp [empty, runLoop]
    · cases right with
      | nil => simp [runLoop]
      | cons item rest => simp [runLoop, outside item (by simp)]
  | cons item left ih =>
    by_cases last : left = []
    · subst last
      cases right with
      | nil => simp [runLoop]
      | cons next rest =>
        have apart : ¬ (inRun item = true ∧ inRun next = true) :=
          severed item (by simp) next (by simp)
        by_cases here : inRun item = true
        · have outside : inRun next = false := by simpa [here] using apart
          simp [runLoop, here, outside]
        · simp [runLoop, here]
    · have restSevered : Severed inRun left right := by
        intro a member b head
        refine severed a ?_ b head
        rw [Option.mem_def] at member ⊢
        simp [List.getLast?_cons, member]
      have inner (run : List α) := ih run restSevered (fun empty => absurd empty last)
      by_cases here : inRun item = true
      · simp [runLoop, here, inner]
      · simp [runLoop, here, inner]

/-- The walk can be cut wherever no run reaches over the cut. -/
theorem overRuns_append {left right : List α} (severed : Severed inRun left right) :
    overRuns inRun single whole (left ++ right) =
      overRuns inRun single whole left ++ overRuns inRun single whole right :=
  runLoop_append left right [] severed (fun _ => .inl rfl)

@[simp] theorem overRuns_nil : overRuns inRun single whole [] = [] := rfl

theorem overRuns_run {run : List α} (marked : ∀ item ∈ run, inRun item = true)
    (nonempty : run ≠ []) : overRuns inRun single whole run = whole run := by
  have walked : runLoop inRun single whole [] (run ++ []) = _ := runLoop_marked run marked [] []
  simpa [overRuns, runLoop, nonempty] using walked

theorem overRuns_single {item : α} (outside : inRun item = false) :
    overRuns inRun single whole [item] = single item := by
  simp [overRuns, runLoop, outside]

end Walk

theorem Severed.of_left {inRun : α → Bool} {left right : List α}
    (outside : ∀ a ∈ left.getLast?, inRun a = false) : Severed inRun left right :=
  fun a last _ _ both => by simp [outside a last] at both

theorem Severed.of_right {inRun : α → Bool} {left right : List α}
    (outside : ∀ b ∈ right.head?, inRun b = false) : Severed inRun left right :=
  fun _ _ b head both => by simp [outside b head] at both

/-- The longest marked end of a text. -/
def tailRun (inRun : α → Bool) (text : List α) : List α := text.rtakeWhile inRun

/-- A text without its longest marked end. -/
def cutTail (inRun : α → Bool) (text : List α) : List α := text.rdropWhile inRun

/-- The longest marked beginning of a text. -/
def headRun (inRun : α → Bool) (text : List α) : List α := text.takeWhile inRun

/-- A text without its longest marked beginning. -/
def cutHead (inRun : α → Bool) (text : List α) : List α := text.dropWhile inRun

section Edges
variable {inRun : α → Bool}

theorem cutTail_append_tailRun (inRun : α → Bool) (text : List α) :
    cutTail inRun text ++ tailRun inRun text = text :=
  List.rdropWhile_append_rtakeWhile

theorem headRun_append_cutHead (inRun : α → Bool) (text : List α) :
    headRun inRun text ++ cutHead inRun text = text :=
  List.takeWhile_append_dropWhile

theorem tailRun_marked {text : List α} : ∀ item ∈ tailRun inRun text, inRun item = true :=
  fun _ member => List.mem_rtakeWhile_imp member

theorem headRun_marked {text : List α} : ∀ item ∈ headRun inRun text, inRun item = true :=
  fun _ member => List.mem_takeWhile_imp member

theorem cutTail_outside {text : List α} : ∀ a ∈ (cutTail inRun text).getLast?, inRun a = false := by
  intro a last
  have nonempty : cutTail inRun text ≠ [] := by
    intro empty
    simp [empty] at last
  have final := List.rdropWhile_last_not inRun text nonempty
  rw [Option.mem_def, List.getLast?_eq_getLast_of_ne_nil nonempty] at last
  rw [← Option.some.inj last]
  exact Bool.eq_false_iff.mpr final

theorem cutHead_outside {text : List α} : ∀ b ∈ (cutHead inRun text).head?, inRun b = false := by
  intro b head
  have first := List.head?_dropWhile_not inRun text
  rw [Option.mem_def] at head
  simp only [cutHead] at head
  simpa [head] using first

/-- Texts that end outside runs lose nothing to their cut. -/
theorem tailRun_eq_nil {text : List α} (outside : ∀ a ∈ text.getLast?, inRun a = false) :
    tailRun inRun text = [] := by
  refine List.rtakeWhile_eq_nil_iff.mpr ?_
  intro nonempty
  simp [outside _ (List.getLast_mem_getLast? nonempty)]

theorem headRun_eq_nil {text : List α} (outside : ∀ b ∈ text.head?, inRun b = false) :
    headRun inRun text = [] := by
  cases text with
  | nil => rfl
  | cons item rest => simp [headRun, outside item (by simp)]

theorem tailRun_append_of_all {left right : List α} (marked : ∀ item ∈ right, inRun item = true) :
    tailRun inRun (left ++ right) = tailRun inRun left ++ right := by
  have reversed : ∀ item ∈ right.reverse, inRun item = true := by simpa using marked
  simp [tailRun, List.rtakeWhile, List.takeWhile_append_of_pos reversed]

theorem tailRun_append_of_not {left right : List α}
    (unmarked : ¬ ∀ item ∈ right, inRun item = true) :
    tailRun inRun (left ++ right) = tailRun inRun right := by
  have short : (right.reverse.takeWhile inRun).length ≠ right.length := by
    intro same
    have whole : right.reverse.takeWhile inRun = right.reverse :=
      (List.takeWhile_prefix inRun).eq_of_length (same.trans List.length_reverse.symm)
    have all := List.takeWhile_eq_self_iff.mp whole
    exact unmarked (by simpa using all)
  simp [tailRun, List.rtakeWhile, List.takeWhile_append, short]

theorem headRun_append_of_all {left right : List α} (marked : ∀ item ∈ left, inRun item = true) :
    headRun inRun (left ++ right) = left ++ headRun inRun right :=
  List.takeWhile_append_of_pos marked

theorem headRun_append_of_not {left right : List α}
    (unmarked : ¬ ∀ item ∈ left, inRun item = true) :
    headRun inRun (left ++ right) = headRun inRun left := by
  have short : (left.takeWhile inRun).length ≠ left.length := by
    intro same
    have whole := List.takeWhile_prefix inRun |>.eq_of_length same
    exact unmarked (List.takeWhile_eq_self_iff.mp whole)
  simp [headRun, List.takeWhile_append, short]

end Edges

end FragglePacket.Text
