import FragglePacket.Text.Runs

/-! Run rewriting as a stage of edit scripts: which occurrences of a word a pass
over maximal runs leaves alone, and what it makes of the text around them. -/

namespace FragglePacket.Text

universe u v w
variable {α : Type u}

/-- Every text is built from unmarked elements and maximal runs. -/
@[elab_as_elim]
theorem runs_induction (inRun : α → Bool) {motive : List α → Prop}
    (nil : motive [])
    (single : ∀ item rest, inRun item = false → motive rest → motive (item :: rest))
    (run : ∀ run rest, run ≠ [] → (∀ item ∈ run, inRun item = true) →
      (∀ b ∈ rest.head?, inRun b = false) → motive rest → motive (run ++ rest))
    (text : List α) : motive text := by
  induction length : text.length using Nat.strong_induction_on generalizing text with
  | _ size ih =>
    cases text with
    | nil => exact nil
    | cons item rest =>
      by_cases marked : inRun item = true
      · have nonempty : headRun inRun (item :: rest) ≠ [] := by simp [headRun, marked]
        have split := headRun_append_cutHead inRun (item :: rest)
        have shorter : (cutHead inRun (item :: rest)).length < size := by
          have lengths := congrArg List.length split
          have positive := List.length_pos_iff.mpr nonempty
          rw [List.length_append] at lengths
          omega
        rw [← split]
        exact run _ _ nonempty headRun_marked cutHead_outside (ih _ shorter _ rfl)
      · refine single item rest (Bool.eq_false_iff.mpr marked) (ih rest.length ?_ rest rfl)
        rw [← length, List.length_cons]
        omega

section Walk
variable {β : Type v} {γ : Type w} {inRun : α → Bool}

theorem overRuns_cons {single : α → List β} {whole : List α → List β} {item : α} {rest : List α}
    (outside : inRun item = false) :
    overRuns inRun single whole (item :: rest) =
      single item ++ overRuns inRun single whole rest := by
  have severed : Severed inRun [item] rest := .of_left (by simpa using outside)
  have cut : overRuns inRun single whole ([item] ++ rest) = _ := overRuns_append severed
  rwa [overRuns_single outside, List.singleton_append] at cut

theorem overRuns_run_append {single : α → List β} {whole : List α → List β} {run rest : List α}
    (nonempty : run ≠ []) (marked : ∀ item ∈ run, inRun item = true)
    (outside : ∀ b ∈ rest.head?, inRun b = false) :
    overRuns inRun single whole (run ++ rest) = whole run ++ overRuns inRun single whole rest := by
  rw [overRuns_append (.of_right outside), overRuns_run marked nonempty]

theorem overRuns_flatMap (single : α → List β) (whole : List α → List β) (f : β → List γ)
    (text : List α) :
    (overRuns inRun single whole text).flatMap f =
      overRuns inRun (fun item => (single item).flatMap f)
        (fun run => (whole run).flatMap f) text := by
  induction text using runs_induction inRun with
  | nil => rfl
  | single item rest outside ih => simp [overRuns_cons outside, ih]
  | run run rest nonempty marked outside ih =>
    simp [overRuns_run_append nonempty marked outside, ih]

end Walk

/-- Swap every maximal run that `rewrite` has new text for; copy the rest. -/
def runScript (inRun : α → Bool) (rewrite : List α → Option (List α)) : List α → List (Edit α) :=
  overRuns inRun (fun item => [.keep item]) fun run =>
    match rewrite run with
    | some new => [.swap run new]
    | none => keeps run

section Script
variable {inRun : α → Bool} {rewrite : List α → Option (List α)}

theorem runScript_append {left right : List α} (severed : Severed inRun left right) :
    runScript inRun rewrite (left ++ right) =
      runScript inRun rewrite left ++ runScript inRun rewrite right := overRuns_append severed

theorem runScript_cons {item : α} {rest : List α} (outside : inRun item = false) :
    runScript inRun rewrite (item :: rest) = .keep item :: runScript inRun rewrite rest :=
  overRuns_cons outside

theorem runScript_run {run : List α} (nonempty : run ≠ [])
    (marked : ∀ item ∈ run, inRun item = true) :
    runScript inRun rewrite run =
      match rewrite run with
      | some new => [.swap run new]
      | none => keeps run := overRuns_run marked nonempty

theorem source_runScript (inRun : α → Bool) (rewrite : List α → Option (List α))
    (text : List α) : source (runScript inRun rewrite text) = text := by
  induction text using runs_induction inRun with
  | nil => rfl
  | single item rest outside ih => simp [runScript_cons outside, ih]
  | run run rest nonempty marked outside ih =>
    rw [runScript_append (.of_right outside), runScript_run nonempty marked]
    cases rewrite run <;> simp [ih]

/-- The produced text is the walk that writes the new text in place of a run. -/
theorem target_runScript (text : List α) :
    target (runScript inRun rewrite text) =
      overRuns inRun (fun item => [item]) (fun run => (rewrite run).getD run) text := by
  rw [target, runScript, overRuns_flatMap]
  congr 1
  funext run
  cases rewrite run with
  | none => exact target_keeps run
  | some new => simp [Edit.target]

/-- A swapped run is maximal: it is marked throughout and unmarked elements, or
the ends of the text, surround it. -/
structure MaximalSwap (inRun : α → Bool) (rewrite : List α → Option (List α))
    (front : List (Edit α)) (old new : List α) (back : List (Edit α)) : Prop where
  nonempty : old ≠ []
  marked : ∀ item ∈ old, inRun item = true
  before : ∀ a ∈ (source front).getLast?, inRun a = false
  after : ∀ b ∈ (source back).head?, inRun b = false
  rewritten : rewrite old = some new

private theorem last_of_run_append {run rest : List α} {front : List (Edit α)} {old : List α}
    (outside : ∀ b ∈ rest.head?, inRun b = false) (split : rest = source front ++ old)
    (nonempty : old ≠ []) (marked : ∀ item ∈ old, inRun item = true)
    (before : ∀ a ∈ (source front).getLast?, inRun a = false) :
    ∀ a ∈ (run ++ source front).getLast?, inRun a = false := by
  cases here : source front with
  | nil =>
    obtain ⟨first, more, rfl⟩ := List.exists_cons_of_ne_nil nonempty
    have contrary : inRun first = false := outside first (by simp [split, here])
    simp [marked first List.mem_cons_self] at contrary
  | cons item items =>
    intro a member
    refine before a ?_
    rw [Option.mem_def, List.getLast?_append, List.getLast?_cons] at member
    rw [here, Option.mem_def, List.getLast?_cons]
    simpa using member

theorem runScript_maximal (text : List α) {front back : List (Edit α)} {old new : List α}
    (found : runScript inRun rewrite text = front ++ .swap old new :: back) :
    MaximalSwap inRun rewrite front old new back := by
  induction text using runs_induction inRun generalizing front with
  | nil => simp [runScript] at found
  | single item rest outside ih =>
    rw [runScript_cons outside] at found
    cases front with
    | nil => simp at found
    | cons edit front =>
      obtain ⟨rfl, tail⟩ := List.cons.inj found
      have inner := ih tail
      refine { inner with before := ?_ }
      intro a member
      rw [source_keep, Option.mem_def, List.getLast?_cons] at member
      cases last : (source front).getLast? with
      | none => simpa [last] using (by simpa [last] using member : item = a) ▸ outside
      | some b =>
        have same : b = a := by simpa [last] using member
        exact same ▸ inner.before b last
  | run run rest nonempty marked outside ih =>
    have whole := source_runScript inRun rewrite rest
    rw [runScript_append (.of_right outside), runScript_run nonempty marked] at found
    have later (front : List (Edit α))
        (tail : runScript inRun rewrite rest = front ++ .swap old new :: back)
        (lead : List (Edit α)) (leads : source lead = run) :
        MaximalSwap inRun rewrite (lead ++ front) old new back := by
      have inner := ih tail
      have split : rest = source front ++ (old ++ source back) := by
        rw [← whole, tail]
        simp
      have headOutside : ∀ b ∈ (source front ++ old).head?, inRun b = false := by
        intro b member
        refine outside b ?_
        rw [split, ← List.append_assoc, Option.mem_def, List.head?_append, Option.mem_def.mp member]
        rfl
      refine { inner with before := ?_ }
      rw [source_append, leads]
      exact last_of_run_append headOutside rfl inner.nonempty inner.marked inner.before
    cases rewritten : rewrite run with
    | none =>
      simp only [rewritten] at found
      rcases List.append_eq_append_iff.mp found with ⟨more, split, tail⟩ | ⟨more, split, tail⟩
      · rw [split]
        exact later more tail (keeps run) (source_keeps run)
      · cases more with
        | nil =>
          have copied : front = keeps run := by simpa using split.symm
          have lead := later [] (by simpa using tail.symm) (keeps run) (source_keeps run)
          rwa [List.append_nil, ← copied] at lead
        | cons edit more =>
          obtain ⟨rfl, _⟩ := List.cons.inj tail
          have inside : Edit.swap old new ∈ keeps run := by simp [split]
          exact absurd inside (swap_not_mem_keeps run old new)
    | some replacement =>
      simp only [rewritten, List.singleton_append] at found
      cases front with
      | nil =>
        obtain ⟨same, rfl⟩ := List.cons.inj found
        obtain ⟨rfl, rfl⟩ := Edit.swap.inj same
        exact ⟨nonempty, marked, by simp, by rw [whole]; exact outside, rewritten⟩
      | cons edit front =>
        obtain ⟨rfl, tail⟩ := List.cons.inj found
        exact later front tail [.swap run replacement] (by simp)

end Script

/-- The rewriting of maximal runs as a stage. -/
def runStage (inRun : α → Bool) (rewrite : List α → Option (List α)) : Stage α where
  script := runScript inRun rewrite
  source_script := source_runScript inRun rewrite

/-- No run of the text is rewritten. -/
def Spared (inRun : α → Bool) (rewrite : List α → Option (List α)) (text : List α) : Prop :=
  runScript inRun rewrite text = keeps text

section Spared
variable {inRun : α → Bool} {rewrite : List α → Option (List α)}

theorem spared_of_no_swap {text : List α}
    (copies : ∀ old new, Edit.swap old new ∉ runScript inRun rewrite text) :
    Spared inRun rewrite text := by
  have same := eq_keeps_of_no_swap copies
  rwa [source_runScript] at same

@[simp] theorem spared_nil : Spared inRun rewrite [] := rfl

theorem Spared.no_swap {text : List α} (spared : Spared inRun rewrite text) (old new : List α) :
    Edit.swap old new ∉ runScript inRun rewrite text := by
  rw [spared]
  exact swap_not_mem_keeps text old new

theorem Spared.apply {text : List α} (spared : Spared inRun rewrite text) :
    (runStage inRun rewrite).apply text = text := by
  have script : runScript inRun rewrite text = keeps text := spared
  simp [Stage.apply, runStage, script]

@[simp] theorem runStage_nil : (runStage inRun rewrite).apply [] = [] := rfl

theorem runStage_append {left right : List α} (severed : Severed inRun left right) :
    (runStage inRun rewrite).apply (left ++ right) =
      (runStage inRun rewrite).apply left ++ (runStage inRun rewrite).apply right := by
  have script : runScript inRun rewrite (left ++ right) = _ := runScript_append severed
  simp only [Stage.apply, runStage, script, target_append]

theorem runStage_cons {item : α} (outside : inRun item = false) (text : List α) :
    (runStage inRun rewrite).apply (item :: text) =
      item :: (runStage inRun rewrite).apply text := by
  have script : runScript inRun rewrite (item :: text) = _ := runScript_cons outside
  simp only [Stage.apply, runStage, script, target_keep]

theorem runStage_concat {item : α} (outside : inRun item = false) (text : List α) :
    (runStage inRun rewrite).apply (text ++ [item]) =
      (runStage inRun rewrite).apply text ++ [item] := by
  rw [runStage_append (.of_right (by simpa using outside)), runStage_cons outside, runStage_nil]

theorem spared_append {left right : List α} (severed : Severed inRun left right) :
    Spared inRun rewrite (left ++ right) ↔
      Spared inRun rewrite left ∧ Spared inRun rewrite right := by
  constructor
  · intro spared
    have parts (old new : List α) : Edit.swap old new ∉
        runScript inRun rewrite left ++ runScript inRun rewrite right := by
      rw [← runScript_append severed]
      exact spared.no_swap old new
    exact ⟨spared_of_no_swap fun old new member => parts old new (List.mem_append_left _ member),
      spared_of_no_swap fun old new member => parts old new (List.mem_append_right _ member)⟩
  · rintro ⟨first, second⟩
    rw [Spared, runScript_append severed, first, second, keeps_append]

theorem spared_run {run : List α} (nonempty : run ≠ [])
    (marked : ∀ item ∈ run, inRun item = true) :
    Spared inRun rewrite run ↔ rewrite run = none := by
  rw [Spared, runScript_run nonempty marked]
  cases rewritten : rewrite run with
  | none => simp
  | some new =>
    simp only [reduceCtorEq, iff_false]
    intro same
    exact swap_not_mem_keeps run run new (same ▸ List.mem_cons_self)

theorem spared_cons {item : α} {rest : List α} (outside : inRun item = false) :
    Spared inRun rewrite (item :: rest) ↔ Spared inRun rewrite rest := by
  rw [Spared, Spared, runScript_cons outside, keeps_cons, List.cons.injEq]
  simp

/-- A text is spared exactly when none of its maximal runs has new text. -/
theorem spared_iff (text : List α) :
    Spared inRun rewrite text ↔ ∀ X run Y, text = X ++ run ++ Y → run ≠ [] →
      (∀ item ∈ run, inRun item = true) → (∀ a ∈ X.getLast?, inRun a = false) →
      (∀ b ∈ Y.head?, inRun b = false) → rewrite run = none := by
  constructor
  · rintro spared X run Y rfl nonempty marked before after
    have cutRight : Severed inRun (X ++ run) Y := .of_right after
    have cutLeft : Severed inRun X run := .of_left before
    exact (spared_run nonempty marked).mp ((spared_append cutLeft).mp
      ((spared_append cutRight).mp spared).1).2
  · intro none
    apply spared_of_no_swap
    intro old new member
    obtain ⟨front, back, found⟩ := List.append_of_mem member
    have swap := runScript_maximal text found
    have split : text = source front ++ old ++ source back := by
      rw [← source_runScript inRun rewrite text, found]
      simp
    have unchanged := none _ _ _ split swap.nonempty swap.marked swap.before swap.after
    simp [swap.rewritten] at unchanged

end Spared

/-- What the run around an occurrence of `word` takes from the text before it. -/
def reachLeft (inRun : α → Bool) (x word : List α) : List α :=
  if word.head?.any inRun then tailRun inRun x else []

def restLeft (inRun : α → Bool) (x word : List α) : List α :=
  if word.head?.any inRun then cutTail inRun x else x

/-- What the run around an occurrence of `word` takes from the text after it. -/
def reachRight (inRun : α → Bool) (word y : List α) : List α :=
  if word.getLast?.any inRun then headRun inRun y else []

def restRight (inRun : α → Bool) (word y : List α) : List α :=
  if word.getLast?.any inRun then cutHead inRun y else y

/-- An occurrence of `word` completed to whole runs. -/
def reach (inRun : α → Bool) (x word y : List α) : List α :=
  reachLeft inRun x word ++ word ++ reachRight inRun word y

section Leaves
variable {inRun : α → Bool} {rewrite : List α → Option (List α)} {x word y : List α}

theorem restLeft_append_reachLeft (inRun : α → Bool) (x word : List α) :
    restLeft inRun x word ++ reachLeft inRun x word = x := by
  unfold restLeft reachLeft
  split
  · exact cutTail_append_tailRun inRun x
  · simp

theorem reachRight_append_restRight (inRun : α → Bool) (word y : List α) :
    reachRight inRun word y ++ restRight inRun word y = y := by
  unfold restRight reachRight
  split
  · exact headRun_append_cutHead inRun y
  · simp

theorem reachLeft_marked : ∀ item ∈ reachLeft inRun x word, inRun item = true := by
  unfold reachLeft
  split
  · exact tailRun_marked
  · simp

theorem reachRight_marked : ∀ item ∈ reachRight inRun word y, inRun item = true := by
  unfold reachRight
  split
  · exact headRun_marked
  · simp

private theorem head_marked_of_reachLeft (reaching : reachLeft inRun x word ≠ []) :
    ∀ b ∈ word.head?, inRun b = true := by
  unfold reachLeft at reaching
  split at reaching
  · rename_i marked
    intro b member
    simpa [Option.mem_def.mp member] using marked
  · exact absurd rfl reaching

private theorem last_marked_of_reachRight (reaching : reachRight inRun word y ≠ []) :
    ∀ a ∈ word.getLast?, inRun a = true := by
  unfold reachRight at reaching
  split at reaching
  · rename_i marked
    intro a member
    simpa [Option.mem_def.mp member] using marked
  · exact absurd rfl reaching

theorem restLeft_severed (inRun : α → Bool) (x : List α) (nonempty : word ≠ []) (rest : List α) :
    Severed inRun (restLeft inRun x word) (reachLeft inRun x word ++ (word ++ rest)) := by
  unfold restLeft reachLeft
  split
  · exact .of_left cutTail_outside
  · rename_i unmarked
    obtain ⟨first, more, rfl⟩ := List.exists_cons_of_ne_nil nonempty
    exact .of_right (by simpa using unmarked)

theorem restRight_severed (inRun : α → Bool) (y : List α) (nonempty : word ≠ []) (rest : List α) :
    Severed inRun (rest ++ word ++ reachRight inRun word y) (restRight inRun word y) := by
  unfold restRight reachRight
  split
  · exact .of_right cutHead_outside
  · rename_i unmarked
    obtain ⟨init, final, rfl⟩ := (List.eq_nil_or_concat word).resolve_left nonempty
    exact .of_left (by simpa using unmarked)

/-- The script of a text around an occurrence splits at the runs it touches. -/
theorem runScript_reach (nonempty : word ≠ []) :
    runScript inRun rewrite (x ++ word ++ y) =
      runScript inRun rewrite (restLeft inRun x word) ++
        runScript inRun rewrite (reach inRun x word y) ++
          runScript inRun rewrite (restRight inRun word y) := by
  have left := restLeft_severed inRun x nonempty (reachRight inRun word y)
  have right := restRight_severed inRun y nonempty x
  calc runScript inRun rewrite (x ++ word ++ y)
      = runScript inRun rewrite (x ++ word ++ reachRight inRun word y ++
        restRight inRun word y) := by
        rw [List.append_assoc, List.append_assoc, List.append_assoc, reachRight_append_restRight]
    _ = runScript inRun rewrite (x ++ word ++ reachRight inRun word y) ++
          runScript inRun rewrite (restRight inRun word y) := runScript_append right
    _ = _ := by
      have regroup : x ++ word ++ reachRight inRun word y =
          restLeft inRun x word ++ (reachLeft inRun x word ++
            (word ++ reachRight inRun word y)) := by
        rw [← List.append_assoc, restLeft_append_reachLeft, List.append_assoc]
      rw [regroup, runScript_append left, reach, List.append_assoc (reachLeft inRun x word)]

/-- The text before an occurrence after the pass, when the occurrence is left. -/
def leftAfter (inRun : α → Bool) (rewrite : List α → Option (List α)) (x word : List α) : List α :=
  (runStage inRun rewrite).apply (restLeft inRun x word) ++ reachLeft inRun x word

/-- The text after an occurrence after the pass, when the occurrence is left. -/
def rightAfter (inRun : α → Bool) (rewrite : List α → Option (List α)) (word y : List α) : List α :=
  reachRight inRun word y ++ (runStage inRun rewrite).apply (restRight inRun word y)

private theorem solid_runScript (text : List α) (old new : List α)
    (member : Edit.swap old new ∈ runScript inRun rewrite text) : old ≠ [] := by
  obtain ⟨front, back, found⟩ := List.append_of_mem member
  exact (runScript_maximal text found).nonempty

private theorem head_marked_in_reach {more : List α} (rest : List α)
    (suffixed : more <:+ reachLeft inRun x word) (reaching : reachLeft inRun x word ≠ [])
    (nonempty : word ≠ []) :
    ∀ b ∈ (more ++ (word ++ rest)).head?, inRun b = true := by
  intro b head
  cases more with
  | nil =>
    obtain ⟨first, others, rfl⟩ := List.exists_cons_of_ne_nil nonempty
    exact head_marked_of_reachLeft reaching b (by simpa using head)
  | cons item items =>
    have same : item = b := by simpa using head
    exact same ▸ reachLeft_marked item (suffixed.subset List.mem_cons_self)

private theorem last_marked_in_reach {more : List α} (rest : List α)
    (prefixed : more <+: reachRight inRun word y) (reaching : reachRight inRun word y ≠ [])
    (nonempty : word ≠ []) :
    ∀ a ∈ (rest ++ (word ++ more)).getLast?, inRun a = true := by
  intro a last
  cases here : more.getLast? with
  | none =>
    obtain ⟨init, final, rfl⟩ := (List.eq_nil_or_concat word).resolve_left nonempty
    have empty : more = [] := List.getLast?_eq_none_iff.mp here
    subst more
    exact last_marked_of_reachRight reaching a (by simpa using last)
  | some b =>
    have same : b = a := by simpa [List.getLast?_append, here] using last
    exact same ▸ reachRight_marked b (prefixed.subset (List.mem_of_getLast? here))

/-- A script that copies the word rewrites none of the runs the word touches. -/
private theorem reach_spared (nonempty : word ≠ []) {front back : List (Edit α)}
    (script : runScript inRun rewrite (x ++ word ++ y) = front ++ keeps word ++ back)
    (left : source front = x) (right : source back = y) :
    Spared inRun rewrite (reach inRun x word y) := by
  apply spared_of_no_swap
  intro old new member
  obtain ⟨P, Q, found⟩ := List.append_of_mem member
  have swap := runScript_maximal _ found
  have parts : source P ++ (old ++ source Q) =
      reachLeft inRun x word ++ (word ++ reachRight inRun word y) := by
    have whole := source_runScript inRun rewrite (reach inRun x word y)
    rw [found] at whole
    simpa [reach] using whole
  have place : (runScript inRun rewrite (restLeft inRun x word) ++ P) ++ (.swap old new ::
      (Q ++ runScript inRun rewrite (restRight inRun word y))) = front ++ (keeps word ++ back) := by
    rw [runScript_reach nonempty, found] at script
    simpa using script
  rcases swap_beside_keeps place with ⟨more, inFront, _⟩ | ⟨more, inBack, _⟩
  · have reached : reachLeft inRun x word = source P ++ (old ++ source more) := by
      have whole : x = restLeft inRun x word ++ (source P ++ (old ++ source more)) := by
        simpa [source_runScript, left] using congrArg source inFront
      exact List.append_cancel_left ((restLeft_append_reachLeft inRun x word).trans whole)
    have follows : source Q = source more ++ (word ++ reachRight inRun word y) := by
      rw [reached] at parts
      simpa [List.append_assoc] using parts
    have suffixed : source more <:+ reachLeft inRun x word :=
      ⟨source P ++ old, by rw [reached, List.append_assoc]⟩
    have marked := head_marked_in_reach (reachRight inRun word y) suffixed
      (by simp [reached, swap.nonempty]) nonempty
    rw [← follows] at marked
    obtain ⟨first, others, same⟩ := List.exists_cons_of_ne_nil
      (show source Q ≠ [] by simp [follows, nonempty])
    have outside := swap.after first (by simp [same])
    simp [marked first (by simp [same])] at outside
  · have reached : reachRight inRun word y = source more ++ (old ++ source Q) := by
      have whole : y = (source more ++ (old ++ source Q)) ++ restRight inRun word y := by
        simpa [source_runScript, right] using congrArg source inBack
      exact List.append_cancel_right ((reachRight_append_restRight inRun word y).trans whole)
    have precedes : source P = reachLeft inRun x word ++ (word ++ source more) := by
      rw [reached] at parts
      have whole : source P ++ (old ++ source Q) =
          (reachLeft inRun x word ++ (word ++ source more)) ++ (old ++ source Q) := by
        simpa [List.append_assoc] using parts
      exact List.append_cancel_right whole
    have prefixed : source more <+: reachRight inRun word y := ⟨old ++ source Q, reached.symm⟩
    have marked := last_marked_in_reach (reachLeft inRun x word) prefixed
      (by simp [reached, swap.nonempty]) nonempty
    rw [← precedes] at marked
    obtain ⟨init, final, same⟩ := (List.eq_nil_or_concat (source P)).resolve_left
      (by simp [precedes, nonempty])
    have outside := swap.before final (by simp [same])
    simp [marked final (by simp [same])] at outside

/-- The pass leaves an occurrence exactly when it rewrites none of the runs the
occurrence touches; the text around it is then rewritten on its own. -/
theorem leaves_iff (nonempty : word ≠ []) {x' y' : List α} :
    (runStage inRun rewrite).Leaves x word y x' y' ↔
      Spared inRun rewrite (reach inRun x word y) ∧
        x' = leftAfter inRun rewrite x word ∧ y' = rightAfter inRun rewrite word y := by
  have copied (spared : Spared inRun rewrite (reach inRun x word y)) :
      runScript inRun rewrite (x ++ word ++ y) =
        (runScript inRun rewrite (restLeft inRun x word) ++ keeps (reachLeft inRun x word)) ++
          (keeps word ++ (keeps (reachRight inRun word y) ++
            runScript inRun rewrite (restRight inRun word y))) := by
    rw [runScript_reach nonempty, spared, reach]
    simp
  have before : source (runScript inRun rewrite (restLeft inRun x word) ++
      keeps (reachLeft inRun x word)) = x := by
    rw [source_append, source_runScript, source_keeps, restLeft_append_reachLeft]
  have after : source (keeps (reachRight inRun word y) ++
      runScript inRun rewrite (restRight inRun word y)) = y := by
    rw [source_append, source_runScript, source_keeps, reachRight_append_restRight]
  constructor
  · rintro ⟨front, back, script, left, right, rfl, rfl⟩
    have spared := reach_spared nonempty script left right
    have same := copied spared
    have frontSame := front_unique
      (fun old new member => solid_runScript _ old new (by rw [same]; exact member))
      (same.symm.trans (script.trans (List.append_assoc ..))) (before.trans left.symm)
    have backSame := script.symm.trans same
    rw [← frontSame, List.append_assoc] at backSame
    have tails := List.append_cancel_left (List.append_cancel_left backSame)
    refine ⟨spared, ?_, ?_⟩
    · simp [← frontSame, leftAfter, Stage.apply, runStage]
    · simp [tails, rightAfter, Stage.apply, runStage]
  · rintro ⟨spared, rfl, rfl⟩
    refine ⟨_, _, (copied spared).trans (List.append_assoc ..).symm, before, after, ?_, ?_⟩
    · simp [leftAfter, Stage.apply, runStage]
    · simp [rightAfter, Stage.apply, runStage]

/-- A word that begins in a run: the text before it keeps the run's beginning. -/
theorem leftAfter_of_head (marked : word.head?.any inRun = true) :
    leftAfter inRun rewrite x word =
      (runStage inRun rewrite).apply (cutTail inRun x) ++ tailRun inRun x := by
  simp [leftAfter, restLeft, reachLeft, marked]

theorem rightAfter_of_last (marked : word.getLast?.any inRun = true) :
    rightAfter inRun rewrite word y =
      headRun inRun y ++ (runStage inRun rewrite).apply (cutHead inRun y) := by
  simp [rightAfter, restRight, reachRight, marked]

theorem reach_of_ends (head : word.head?.any inRun = true) (last : word.getLast?.any inRun = true) :
    reach inRun x word y = tailRun inRun x ++ word ++ headRun inRun y := by
  simp [reach, reachLeft, reachRight, head, last]

/-- A pass reads an occurrence that belongs to its runs together with the run around it. -/
theorem spared_reach (nonempty : word ≠ []) (marked : ∀ item ∈ word, inRun item = true) :
    Spared inRun rewrite (reach inRun x word y) ↔
      rewrite (tailRun inRun x ++ word ++ headRun inRun y) = none := by
  have head : word.head?.any inRun = true := by
    rw [List.head?_eq_some_head nonempty, Option.any_some]
    exact marked _ (List.head_mem nonempty)
  have last : word.getLast?.any inRun = true := by
    rw [List.getLast?_eq_some_getLast nonempty, Option.any_some]
    exact marked _ (List.getLast_mem nonempty)
  rw [reach_of_ends head last, spared_run (by simp [nonempty])]
  intro item member
  simp only [List.mem_append] at member
  rcases member with (before | inside) | behind
  · exact tailRun_marked item before
  · exact marked item inside
  · exact headRun_marked item behind

/-- A pass changes the run of another kind before an occurrence only beyond an
element that belongs to that run and to none of its own. -/
theorem tailRun_leftAfter (other : α → Bool) (marked : word.head?.any inRun = true) :
    tailRun other (leftAfter inRun rewrite x word) = tailRun other x ∨
      ∃ item, inRun item = false ∧ item ∈ tailRun other (leftAfter inRun rewrite x word) ∧
        item ∈ tailRun other x := by
  have split := cutTail_append_tailRun inRun x
  rw [leftAfter_of_head marked]
  by_cases all : ∀ item ∈ tailRun inRun x, other item = true
  · have whole : tailRun other x = tailRun other (cutTail inRun x) ++ tailRun inRun x := by
      rw [← tailRun_append_of_all all, split]
    rw [whole, tailRun_append_of_all all]
    rcases List.eq_nil_or_concat (cutTail inRun x) with empty | ⟨init, final, same⟩
    · left
      simp [empty]
    · have outside : inRun final = false := by
        refine cutTail_outside final (show final ∈ (cutTail inRun x).getLast? from ?_)
        simp [same]
      rw [same, List.concat_eq_append, runStage_concat outside]
      by_cases belongs : other final = true
      · have single : ∀ item ∈ [final], other item = true := by simpa using belongs
        rw [tailRun_append_of_all single, tailRun_append_of_all single]
        exact .inr ⟨final, outside, by simp, by simp⟩
      · have single : ¬ ∀ item ∈ [final], other item = true := by simpa using belongs
        rw [tailRun_append_of_not single, tailRun_append_of_not single]
        exact .inl rfl
  · have whole : tailRun other x = tailRun other (tailRun inRun x) := by
      conv_lhs => rw [← split]
      exact tailRun_append_of_not all
    rw [whole, tailRun_append_of_not all]
    exact .inl rfl

theorem headRun_rightAfter (other : α → Bool) (marked : word.getLast?.any inRun = true) :
    headRun other (rightAfter inRun rewrite word y) = headRun other y ∨
      ∃ item, inRun item = false ∧ item ∈ headRun other (rightAfter inRun rewrite word y) ∧
        item ∈ headRun other y := by
  have split := headRun_append_cutHead inRun y
  rw [rightAfter_of_last marked]
  by_cases all : ∀ item ∈ headRun inRun y, other item = true
  · have whole : headRun other y = headRun inRun y ++ headRun other (cutHead inRun y) := by
      rw [← headRun_append_of_all all, split]
    rw [whole, headRun_append_of_all all]
    cases same : cutHead inRun y with
    | nil =>
      left
      simp
    | cons first rest =>
      have outside : inRun first = false := by
        refine cutHead_outside first (show first ∈ (cutHead inRun y).head? from ?_)
        simp [same]
      rw [runStage_cons outside]
      by_cases belongs : other first = true
      · exact .inr ⟨first, outside, by simp [headRun, belongs], by simp [headRun, belongs]⟩
      · left
        simp [headRun, belongs]
  · have whole : headRun other y = headRun other (headRun inRun y) := by
      conv_lhs => rw [← split]
      exact headRun_append_of_not all
    rw [whole, headRun_append_of_not all]
    exact .inl rfl

/-- The first piece of a word: its leading run reaches into the text before it. -/
theorem spared_reachLeft (piece : List α) :
    Spared inRun rewrite (reachLeft inRun x piece ++ piece) ↔
      (headRun inRun piece = [] ∨ rewrite (tailRun inRun x ++ headRun inRun piece) = none) ∧
        Spared inRun rewrite (cutHead inRun piece) := by
  cases piece with
  | nil => simp [reachLeft, headRun, cutHead]
  | cons item rest =>
    by_cases marked : inRun item = true
    · have nonempty : headRun inRun (item :: rest) ≠ [] := by simp [headRun, marked]
      have run : ∀ other ∈ tailRun inRun x ++ headRun inRun (item :: rest), inRun other = true := by
        intro other member
        rcases List.mem_append.mp member with before | inside
        · exact tailRun_marked other before
        · exact headRun_marked other inside
      have reached : reachLeft inRun x (item :: rest) = tailRun inRun x := by
        simp [reachLeft, marked]
      rw [reached]
      conv_lhs => rw [← headRun_append_cutHead inRun (item :: rest), ← List.append_assoc]
      rw [spared_append (.of_right cutHead_outside), spared_run (by simp [nonempty]) run]
      simp [nonempty]
    · simp [reachLeft, headRun, cutHead, marked]

/-- The last piece of a word: its trailing run reaches into the text after it. -/
theorem spared_reachRight (piece : List α) :
    Spared inRun rewrite (piece ++ reachRight inRun piece y) ↔
      (tailRun inRun piece = [] ∨ rewrite (tailRun inRun piece ++ headRun inRun y) = none) ∧
        Spared inRun rewrite (cutTail inRun piece) := by
  rcases List.eq_nil_or_concat piece with rfl | ⟨init, final, rfl⟩
  · simp [reachRight, tailRun, cutTail]
  · rw [List.concat_eq_append]
    by_cases marked : inRun final = true
    · have nonempty : tailRun inRun (init ++ [final]) ≠ [] := by
        simp [tailRun, marked]
      have run : ∀ other ∈ tailRun inRun (init ++ [final]) ++ headRun inRun y, inRun other =
          true := by
        intro other member
        rcases List.mem_append.mp member with inside | after
        · exact tailRun_marked other inside
        · exact headRun_marked other after
      have reached : reachRight inRun (init ++ [final]) y = headRun inRun y := by
        simp [reachRight, marked]
      rw [reached]
      conv_lhs => rw [← cutTail_append_tailRun inRun (init ++ [final]), List.append_assoc]
      rw [spared_append (.of_left cutTail_outside), spared_run (by simp [nonempty]) run]
      simp [nonempty, and_comm]
    · simp [reachRight, tailRun, cutTail, marked]

end Leaves

end FragglePacket.Text
