import Mathlib.Data.Finmap
import FragglePacket.Text.Pattern
import FragglePacket.Text.Tokens

/-! Scenarios: a text of steps, read line by line with the step that is open. -/

namespace FragglePacket.NetworkTests

open FragglePacket.Text

structure ScenarioStep where
  name : Str
  kind : Str
  target : Str
  port : Option Nat
  extra : Finmap fun _ : Str => Str

def kindKey : Str := "kind".toList

def targetKey : Str := "target".toList

def portKey : Str := "port".toList

/-- The value of a key; a port is a `u16`. -/
def ScenarioStep.set (step : ScenarioStep) (k v : Str) : ScenarioStep :=
  if k = kindKey then { step with kind := v }
  else if k = targetKey then { step with target := v }
  else if k = portKey then { step with port := parseUnsigned (2 ^ 16) v }
  else { step with extra := step.extra.insert k v }

def ScenarioStep.named (name : Str) : ScenarioStep :=
  { name, kind := [], target := [], port := none, extra := ∅ }

/-- The steps that are complete, and the one that is open. -/
structure Scenario where
  steps : List ScenarioStep
  current : Option ScenarioStep

namespace Scenario

/-- The open step becomes the last of the steps. -/
def flush (scenario : Scenario) : Scenario :=
  match scenario.current with
  | some step => { steps := scenario.steps ++ [step], current := none }
  | none => scenario

/-- The name of a step, behind either spelling of its mark. -/
def headerRest (line : Str) : Option Str :=
  (stripPrefix "# step:".toList line).or (stripPrefix "#step:".toList line)

def readLine (scenario : Scenario) (line : Str) : Scenario :=
  let line := trim line
  if line.isEmpty then scenario.flush
  else if line.head? = some '#' then
    match headerRest line with
    | some rest => { scenario.flush with current := some (.named (trim rest)) }
    | none => scenario
  else
    match scenario.current with
    | none => scenario
    | some step =>
      match splitOnce ':' line with
      | (k, some v) => { scenario with current := some (step.set (trim k) (trim v)) }
      | (_, none) => scenario

def parse (text : Str) : List ScenarioStep :=
  ((lines text).foldl readLine { steps := [], current := none }).flush.steps

end Scenario

section Written

/-- A text that trimming leaves as it is. -/
def Trimmed (text : Str) : Prop := trim text = text

/-- The key of an extra value. -/
structure ExtraKey (key : Str) : Prop where
  trimmed : Trimmed key
  colon : ':' ∉ key
  comment : key.head? ≠ some '#'
  free : key ≠ kindKey ∧ key ≠ targetKey ∧ key ≠ portKey

/-- A step that the format can write. -/
structure Writable (step : ScenarioStep) : Prop where
  name : Trimmed step.name
  kind : Trimmed step.kind
  target : Trimmed step.target
  port : ∀ port ∈ step.port, port < 2 ^ 16
  extra : ∀ key value, step.extra.lookup key = some value → ExtraKey key ∧ Trimmed value

def portFields (step : ScenarioStep) : List (Str × Str) :=
  match step.port with
  | some port => [(portKey, Nat.toDigits 10 port)]
  | none => []

/-- The keys and values of a step, in any order. -/
def Fields (step : ScenarioStep) (fields : List (Str × Str)) : Prop :=
  ∃ extras : List (Str × Str), (extras.map (·.1)).Nodup ∧
    (∀ key value, step.extra.lookup key = some value ↔ (key, value) ∈ extras) ∧
    fields.Perm ((kindKey, step.kind) :: (targetKey, step.target) :: (portFields step ++ extras))

/-- A line that holds a text between any blanks. -/
def Indented (content line : Str) : Prop :=
  ∃ before after, line = before ++ (content ++ after) ∧ (∀ c ∈ before, isWhitespace c = true) ∧
    ∀ c ∈ after, isWhitespace c = true

def HeaderLine (name line : Str) : Prop :=
  Indented ("# step:".toList ++ ' ' :: name) line ∨ Indented ("#step:".toList ++ ' ' :: name) line

def CommentLine (line : Str) : Prop :=
  (trim line).head? = some '#' ∧ Scenario.headerRest (trim line) = none

/-- A line that opens no step. -/
def OutsideLine (line : Str) : Prop := Scenario.headerRest (trim line) = none

/-- The fields of a step on lines of their own, with comments between them. -/
inductive Body : List (Str × Str) → List Str → Prop
  | done : Body [] []
  | field {key value line : Str} {fields : List (Str × Str)} {content : List Str}
      (first : Indented (key ++ ':' :: ' ' :: value) line) (rest : Body fields content) :
      Body ((key, value) :: fields) (line :: content)
  | comment {line : Str} {fields : List (Str × Str)} {content : List Str} (first : CommentLine line)
      (rest : Body fields content) : Body fields (line :: content)

/-- The lines of a scenario, outside any step or behind the lines of one. -/
inductive Layout : Bool → List ScenarioStep → List Str → Prop
  | done {inside : Bool} : Layout inside [] []
  | outside {steps : List ScenarioStep} {line : Str} {content : List Str} (first : OutsideLine line)
      (rest : Layout false steps content) : Layout false steps (line :: content)
  | blank {steps : List ScenarioStep} {line : Str} {content : List Str} (first : trim line = [])
      (rest : Layout false steps content) : Layout true steps (line :: content)
  | step {inside : Bool} {step : ScenarioStep} {steps : List ScenarioStep} {header : Str}
      {fields : List (Str × Str)}
      {body content : List Str} (writable : Writable step) (first : HeaderLine step.name header)
      (written : Fields step fields) (own : Body fields body) (rest : Layout true steps content) :
      Layout inside (step :: steps) (header :: (body ++ content))

end Written

section Fields
variable {step : ScenarioStep} {fields : List (Str × Str)}

/-- Each field of a step changes with its own key alone. -/
theorem set_fields (step : ScenarioStep) (k v : Str) :
    step.set k v =
      { name := step.name
        kind := if k = kindKey then v else step.kind
        target := if k = targetKey then v else step.target
        port := if k = portKey then parseUnsigned (2 ^ 16) v else step.port
        extra := if k = kindKey ∨ k = targetKey ∨
          k = portKey then step.extra else step.extra.insert k v } := by
  have keys : kindKey ≠ targetKey ∧ kindKey ≠ portKey ∧ targetKey ≠ portKey := by decide
  unfold ScenarioStep.set
  by_cases kind : k = kindKey
  · simp only [kind, if_true, keys.1, keys.2.1, if_false, true_or]
  · by_cases target : k = targetKey
    · simp only [target, if_true, keys.1.symm, keys.2.2, if_false, true_or, or_true]
    · by_cases port : k = portKey
      · simp only [port, if_true, keys.2.1.symm, keys.2.2.symm, if_false, or_true]
      · simp only [kind, target, port, if_false, or_self]

/-- Different keys are set in either order. -/
theorem set_comm {k other : Str} (different : k ≠ other) (v also : Str) :
    (step.set k v).set other also = (step.set other also).set k v := by
  have swap {α : Type} (key : Str) (first second old : α) :
      (if other = key then second else if k = key then first else old) =
        if k = key then first else if other = key then second else old := by
    by_cases own : k = key
    · rw [if_neg fun same => different (own.trans same.symm), if_pos own, if_pos own]
    · rw [if_neg own, if_neg own]
  have extra : (step.extra.insert k v).insert other also =
      (step.extra.insert other also).insert k v :=
    Finmap.insert_insert_of_ne _ different
  rw [set_fields, set_fields, set_fields step, set_fields, ScenarioStep.mk.injEq]
  refine ⟨rfl, swap _ _ _ _, swap _ _ _ _, swap _ _ _ _, ?_⟩
  by_cases fixed : k = kindKey ∨ k = targetKey ∨ k = portKey
  · simp only [if_pos fixed]
  · by_cases alsoFixed : other = kindKey ∨ other = targetKey ∨ other = portKey
    · simp only [if_neg fixed, if_pos alsoFixed]
    · simp only [if_neg fixed, if_neg alsoFixed, extra]

theorem set_extra {k : Str} (free : k ≠ kindKey ∧ k ≠ targetKey ∧ k ≠ portKey) (v : Str) :
    step.set k v = { step with extra := step.extra.insert k v } := by
  rw [ScenarioStep.set, if_neg free.1, if_neg free.2.1, if_neg free.2.2]

/-- The extra values are added to those of the step. -/
theorem foldl_extra (step : ScenarioStep) {extras : List (Str × Str)}
    (single : (extras.map (·.1)).Nodup)
    (free : ∀ entry ∈ extras, entry.1 ≠ kindKey ∧ entry.1 ≠ targetKey ∧ entry.1 ≠ portKey) :
    ∃ extra, extras.foldl (fun step entry => step.set entry.1 entry.2) step = { step with extra } ∧
      ∀ key value, extra.lookup key = some value ↔
        (key, value) ∈ extras ∨ key ∉ extras.map (·.1) ∧ step.extra.lookup key = some value := by
  induction extras generalizing step with
  | nil => exact ⟨step.extra, rfl, fun key value => by simp⟩
  | cons entry extras ih =>
    rw [List.map_cons, List.nodup_cons] at single
    rw [List.forall_mem_cons] at free
    obtain ⟨extra, folded, found⟩ := ih (step.set entry.1 entry.2) single.2 free.2
    refine ⟨extra, by rw [List.foldl_cons, folded, set_extra free.1], fun key value => ?_⟩
    rw [found, set_extra free.1, List.map_cons, List.mem_cons, List.mem_cons, Prod.ext_iff]
    by_cases same : key = entry.1
    · subst same
      have later : (entry.1, value) ∉ extras :=
        fun listed => single.1 (List.mem_map.mpr ⟨_, listed, rfl⟩)
      simp only [later, single.1, Finmap.lookup_insert, Option.some.injEq, not_false_eq_true,
        true_and, or_false, not_true_eq_false, false_and, false_or, eq_comm]
    · simp only [Finmap.lookup_insert_of_ne _ same, same, false_and, false_or]

theorem parseUnsigned_port {step : ScenarioStep} (writable : Writable step) :
    (portFields step).foldl (fun step entry => step.set entry.1 entry.2)
        { name := step.name, kind := step.kind, target := step.target, port := none, extra := ∅ } =
      { step with extra := ∅ } := by
  unfold portFields
  cases port : step.port with
  | none => rfl
  | some number =>
    have other : portKey ≠ kindKey ∧ portKey ≠ targetKey := by decide
    rw [List.foldl_cons, List.foldl_nil, ScenarioStep.set, if_neg other.1, if_neg other.2,
      if_pos rfl, parseUnsigned_toDigits (writable.port number port)]

theorem fields_nodup {extras : List (Str × Str)} (single : (extras.map (·.1)).Nodup)
    (free : ∀ entry ∈ extras, entry.1 ≠ kindKey ∧ entry.1 ≠ targetKey ∧ entry.1 ≠ portKey) :
    (((kindKey, step.kind) :: (targetKey, step.target) :: (portFields step ++ extras)).map
      (·.1)).Nodup := by
  have keys : kindKey ≠ targetKey ∧ kindKey ≠ portKey ∧ targetKey ≠ portKey := by decide
  have absent (key : Str) (other : ∀ entry ∈ extras, entry.1 ≠ key) : key ∉ extras.map (·.1) :=
    fun listed => by
      obtain ⟨entry, inExtras, same⟩ := List.mem_map.mp listed
      exact other entry inExtras same
  have kind := absent kindKey fun entry listed => (free entry listed).1
  have target := absent targetKey fun entry listed => (free entry listed).2.1
  have port := absent portKey fun entry listed => (free entry listed).2.2
  unfold portFields
  cases step.port with
  | none =>
    simp only [List.nil_append, List.map_cons, List.nodup_cons, List.mem_cons, keys.1, kind, target,
      single, or_self, not_false_eq_true, and_self]
  | some number =>
    simp only [List.singleton_append, List.map_cons, List.nodup_cons, List.mem_cons, keys.1,
      keys.2.1, keys.2.2, kind, target, port, single, or_self, not_false_eq_true, and_self]

/-- The fields of a step set all of it, in whatever order. -/
theorem foldl_fields (writable : Writable step) (written : Fields step fields) :
    fields.foldl (fun step entry => step.set entry.1 entry.2) (.named step.name) = step := by
  obtain ⟨extras, single, listed, order⟩ := written
  have free : ∀ entry ∈ extras, entry.1 ≠ kindKey ∧ entry.1 ≠ targetKey ∧ entry.1 ≠ portKey :=
    fun entry inExtras =>
      (writable.extra entry.1 entry.2 ((listed _ _).mpr inExtras)).1.free
  have keys : ∀ entry ∈ fields, ∀ other ∈ fields, entry.1 = other.1 → entry = other :=
    fun entry inFields other alsoIn =>
      List.inj_on_of_nodup_map ((order.map _).nodup_iff.mpr (fields_nodup single free))
        inFields alsoIn
  have reordered :=
    order.foldl_eq' (f := fun (step : ScenarioStep) (entry : Str × Str) => step.set entry.1 entry.2)
      (fun entry inFields other alsoIn start => by
        by_cases same : entry.1 = other.1
        · rw [keys entry inFields other alsoIn same]
        · exact set_comm same _ _) (.named step.name)
  rw [reordered, List.foldl_cons, List.foldl_cons, List.foldl_append]
  have canonical : ((ScenarioStep.named step.name).set kindKey step.kind).set targetKey
      step.target =
      { name := step.name, kind := step.kind, target := step.target, port := none,
        extra := ∅ } := by
    rfl
  rw [canonical, parseUnsigned_port writable]
  obtain ⟨extra, folded, found⟩ := foldl_extra { step with extra := ∅ } single free
  rw [folded]
  have same : extra = step.extra := by
    refine Finmap.ext_lookup fun key => Option.ext fun value => ?_
    rw [found, listed]
    simp
  rw [same]

end Fields

section Lines
variable {line value : Str}

theorem dropWhile_solid {c : Char} (solid : isWhitespace c = false) (rest : Str) :
    (c :: rest).dropWhile isWhitespace = c :: rest := List.dropWhile_cons_of_neg (by simp [solid])

/-- Behind a mark that ends with a colon, a line holds its value and blanks. -/
theorem trim_marked (mark : Str) (begins : (mark ++ [':']).dropWhile isWhitespace = mark ++ [':'])
    (indented : Indented (mark ++ ':' :: ' ' :: value) line) (trimmed : Trimmed value) :
    ∃ rest, trim line = mark ++ ':' :: rest ∧ trim rest = value := by
  obtain ⟨before, after, rfl, white, blank⟩ := indented
  refine ⟨trimEnd (' ' :: (value ++ after)), ?_, ?_⟩
  · have ends : (mark ++ [':']).reverse.dropWhile isWhitespace = (mark ++ [':']).reverse := by
      rw [List.reverse_append, List.reverse_singleton, List.singleton_append]
      exact dropWhile_solid (by decide) _
    have front := trim_solid_append (by simp) begins ends (' ' :: (value ++ after))
    rw [trim_blank_append white]
    simpa only [List.append_assoc, List.cons_append, List.nil_append] using front
  · rw [trim_trimEnd]
    have wrapped : trim ([' '] ++ (value ++ after)) = trim value :=
      trimMatches_wrapped (List.forall_mem_singleton.mpr (by decide)) blank
    exact wrapped.trans trimmed

theorem headerRest_spaced (rest : Str) :
    Scenario.headerRest ("# step".toList ++ ':' :: rest) = some rest := by
  have found := stripPrefix_append "# step:".toList rest
  rw [Scenario.headerRest]
  exact congrArg (fun first => Option.or first _) found

theorem headerRest_joined (rest : Str) :
    Scenario.headerRest ("#step".toList ++ ':' :: rest) = some rest := by
  have other : stripPrefix "# step:".toList ("#step".toList ++ ':' :: rest) = none := by rfl
  rw [Scenario.headerRest, other, Option.none_or]
  exact stripPrefix_append "#step:".toList rest

/-- A header ends the step that is open and opens one of its name. -/
theorem readLine_header {name : Str} (trimmed : Trimmed name) (header : HeaderLine name line)
    (scenario : Scenario) :
    scenario.readLine line = { scenario.flush with current := some (.named name) } := by
  have opened (mark : Str) (starts : mark.head? = some '#') (rest : Str)
      (found : Scenario.headerRest (mark ++ ':' :: rest) = some rest)
      (laid : trim line = mark ++ ':' :: rest) (named : trim rest = name) :
      scenario.readLine line = { scenario.flush with current := some (.named name) } := by
    obtain ⟨more, rfl⟩ : ∃ more, mark = '#' :: more := by
      cases mark with
      | nil => cases starts
      | cons c more => exact ⟨more, by rw [Option.some.inj starts]⟩
    simp only [Scenario.readLine, laid, List.cons_append, List.isEmpty_cons, Bool.false_eq_true,
      if_false, List.head?_cons, if_true]
    rw [← List.cons_append, found]
    simp only [named]
  rcases header with spaced | joined
  · obtain ⟨rest, laid, named⟩ := trim_marked "# step".toList (by decide) spaced trimmed
    exact opened _ (by rfl) rest (headerRest_spaced rest) laid named
  · obtain ⟨rest, laid, named⟩ := trim_marked "#step".toList (by decide) joined trimmed
    exact opened _ (by rfl) rest (headerRest_joined rest) laid named

/-- The key of a field. -/
structure FieldKey (key : Str) : Prop where
  trimmed : Trimmed key
  colon : ':' ∉ key
  comment : key.head? ≠ some '#'

theorem readLine_field {key : Str} (proper : FieldKey key) (trimmed : Trimmed value)
    (indented : Indented (key ++ ':' :: ' ' :: value) line) (steps : List ScenarioStep)
    (step : ScenarioStep) :
    Scenario.readLine { steps, current := some step } line =
      { steps, current := some (step.set key value) } := by
  have begins : (key ++ [':']).dropWhile isWhitespace = key ++ [':'] := by
    have whole := dropWhile_of_trimmed proper.trimmed
    cases key with
    | nil => rfl
    | cons c rest =>
      cases white : isWhitespace c with
      | false => exact dropWhile_solid white _
      | true =>
        rw [List.dropWhile_cons_of_pos white] at whole
        have shorter := (List.dropWhile_sublist (l := rest) isWhitespace).length_le
        rw [whole, List.length_cons] at shorter
        omega
  obtain ⟨rest, laid, read⟩ := trim_marked key begins indented trimmed
  have filled : (key ++ ':' :: rest).isEmpty = false := by simp
  have plain : ¬ (key ++ ':' :: rest).head? = some '#' := by
    cases key with
    | nil => exact fun same => absurd (Option.some.inj same) (by decide)
    | cons c more => exact proper.comment
  simp only [Scenario.readLine, laid, filled, Bool.false_eq_true, if_false, plain,
    splitOnce_append proper.colon, read]
  rw [proper.trimmed]

theorem readLine_comment (comment : CommentLine line) (scenario : Scenario) :
    scenario.readLine line = scenario := by
  have filled : (trim line).isEmpty = false := by
    cases empty : trim line with
    | nil =>
      have starts := comment.1
      rw [empty] at starts
      cases starts
    | cons c rest => rfl
  simp only [Scenario.readLine, filled, Bool.false_eq_true, if_false, comment.1, if_true, comment.2]

theorem readLine_outside (outside : OutsideLine line) (steps : List ScenarioStep) :
    Scenario.readLine { steps, current := none } line = { steps, current := none } := by
  have unopened : Scenario.headerRest (trim line) = none := outside
  simp only [Scenario.readLine, Scenario.flush, unopened]
  split_ifs <;> rfl

theorem readLine_blank (blank : trim line = []) (scenario : Scenario) :
    scenario.readLine line = scenario.flush := by
  simp only [Scenario.readLine, blank, List.isEmpty_nil, if_true]

end Lines

section Texts
variable {steps : List ScenarioStep} {step : ScenarioStep} {fields : List (Str × Str)}
  {content : List Str}

theorem toDigits_trimmed (number : Nat) : Trimmed (Nat.toDigits 10 number) :=
  trimMatches_eq_self (toDigits_token number).2

theorem reserved_proper : FieldKey kindKey ∧ FieldKey targetKey ∧ FieldKey portKey :=
  ⟨⟨by rfl, by decide, by decide⟩, ⟨by rfl, by decide, by decide⟩, ⟨by rfl, by decide, by decide⟩⟩

theorem fields_proper (writable : Writable step) (written : Fields step fields) :
    ∀ entry ∈ fields, FieldKey entry.1 ∧ Trimmed entry.2 := by
  obtain ⟨extras, -, listed, order⟩ := written
  intro entry inFields
  have member := order.mem_iff.mp inFields
  rw [List.mem_cons, List.mem_cons, List.mem_append] at member
  rcases member with rfl | rfl | port | extra
  · exact ⟨reserved_proper.1, writable.kind⟩
  · exact ⟨reserved_proper.2.1, writable.target⟩
  · unfold portFields at port
    split at port
    · obtain rfl := List.mem_singleton.mp port
      exact ⟨reserved_proper.2.2, toDigits_trimmed _⟩
    · cases port
  · obtain ⟨key, value⟩ := writable.extra entry.1 entry.2 ((listed _ _).mpr extra)
    exact ⟨⟨key.trimmed, key.colon, key.comment⟩, value⟩

/-- The lines of a step set its fields and leave it open. -/
theorem foldl_body (proper : ∀ entry ∈ fields, FieldKey entry.1 ∧ Trimmed entry.2)
    (body : Body fields content) (done : List ScenarioStep) (step : ScenarioStep) :
    content.foldl Scenario.readLine { steps := done, current := some step } =
      { steps := done, current := some
          (fields.foldl (fun step entry => step.set entry.1 entry.2) step) } := by
  induction body generalizing step with
  | done => rfl
  | field first _ ih =>
    rw [List.forall_mem_cons] at proper
    rw [List.foldl_cons, readLine_field proper.1.1 proper.1.2 first, ih proper.2, List.foldl_cons]
  | comment first _ ih => rw [List.foldl_cons, readLine_comment first, ih proper]

/-- Outside a step the scenario goes on with no step open, and behind the lines of a
step with that step open. -/
theorem foldl_layout {inside : Bool} (layout : Layout inside steps content) :
    (inside = false → ∀ done, (content.foldl Scenario.readLine
      { steps := done, current := none }).flush.steps = done ++ steps) ∧
      (inside = true → ∀ done step,
        (content.foldl Scenario.readLine { steps := done, current := some step }).flush.steps =
          done ++ step :: steps) := by
  induction layout with
  | done => exact ⟨fun _ done => (List.append_nil done).symm, fun _ done step => rfl⟩
  | outside first _ ih =>
    refine ⟨fun _ done => ?_, fun inside => absurd inside (by decide)⟩
    rw [List.foldl_cons, readLine_outside first]
    exact ih.1 rfl done
  | blank first _ ih =>
    refine ⟨fun outside => absurd outside (by decide), fun _ done step => ?_⟩
    rw [List.foldl_cons, readLine_blank first, Scenario.flush]
    exact (ih.1 rfl _).trans (List.append_assoc done [step] _)
  | @step _ step steps _ _ _ _ writable first written own _ ih =>
    have opened (done : List ScenarioStep) :=
      foldl_body (fields_proper writable written) own done (.named step.name)
    rw [foldl_fields writable written] at opened
    constructor
    · intro _ done
      have closed : ({ steps := done, current := none } : Scenario).flush =
          { steps := done, current := none } := rfl
      rw [List.foldl_cons, readLine_header writable.name first, closed, List.foldl_append, opened]
      exact ih.2 rfl done step
    · intro _ done before
      have flushed : ({ steps := done, current := some before } : Scenario).flush =
          { steps := done ++ [before], current := none } := rfl
      rw [List.foldl_cons, readLine_header writable.name first, flushed, List.foldl_append, opened]
      exact (ih.2 rfl (done ++ [before]) step).trans
        (List.append_assoc done [before] (step :: steps))

end Texts

/-- A text laid out as the format has it gives back its steps, whatever stands outside them. -/
theorem parse_layout (steps : List ScenarioStep) (text : Str)
    (layout : Layout false steps (lines text)) :
    Scenario.parse text = steps :=
  (foldl_layout layout).1 rfl []

section CheckHttp

def viaKey : Str := ['v', 'i', 'a']

def viaValue : Str := "proxy: #2".toList

def checkHttp : ScenarioStep where
  name := "check-http".toList
  kind := "https".toList
  target := "example.com".toList
  port := some 443
  extra := (∅ : Finmap fun _ : Str => Str).insert viaKey viaValue

theorem checkHttp_extra (key value : Str) :
    checkHttp.extra.lookup key = some value ↔ (key, value) ∈ [(viaKey, viaValue)] := by
  change ((∅ : Finmap fun _ : Str => Str).insert viaKey viaValue).lookup key = some value ↔ _
  rw [List.mem_singleton, Prod.mk.injEq]
  by_cases same : key = viaKey
  · rw [same, Finmap.lookup_insert, Option.some.injEq, eq_comm, eq_self_iff_true, true_and]
  · rw [Finmap.lookup_insert_of_ne _ same, Finmap.lookup_empty]
    exact iff_of_false (by simp) fun both => same both.1

theorem checkHttp_writable : Writable checkHttp where
  name := by rfl
  kind := by rfl
  target := by rfl
  port := by
    intro port present
    obtain rfl := Option.some.inj present
    decide
  extra := by
    intro key value found
    obtain ⟨named, read⟩ :=
      Prod.mk.inj (List.mem_singleton.mp ((checkHttp_extra key value).mp found))
    rw [named, read]
    exact ⟨⟨by rfl, by decide, by decide, by decide⟩, by rfl⟩

theorem checkHttp_fields :
    Fields checkHttp [(portKey, "443".toList), (kindKey, checkHttp.kind), (viaKey, viaValue),
      (targetKey, checkHttp.target)] :=
  ⟨[(viaKey, viaValue)], by decide, checkHttp_extra, by decide⟩

def checkHttpBody : List Str :=
  [" port: 443".toList, "kind: https".toList, "# a comment".toList, "via: proxy: #2".toList,
    "\ttarget: example.com".toList]

theorem checkHttp_body :
    Body [(portKey, "443".toList), (kindKey, checkHttp.kind), (viaKey, viaValue),
      (targetKey, checkHttp.target)] checkHttpBody := by
  have none : ∀ c ∈ ([] : Str), isWhitespace c = true :=
    fun c member => absurd member List.not_mem_nil
  have space : ∀ c ∈ [' '], isWhitespace c = true := List.forall_mem_singleton.mpr (by decide)
  have tab : ∀ c ∈ ['\t'], isWhitespace c = true := List.forall_mem_singleton.mpr (by decide)
  exact .field ⟨[' '], [], by rfl, space, none⟩ (.field ⟨[], [], by rfl, none, none⟩
    (.comment ⟨by rfl, by rfl⟩ (.field ⟨[], [], by rfl, none, none⟩
      (.field ⟨['\t'], [], by rfl, tab, none⟩ .done))))

/-- A step with the two fields that every step has. -/
def pingGateway : ScenarioStep where
  name := "ping gateway".toList
  kind := "ping".toList
  target := "192.0.2.1".toList
  port := none
  extra := ∅

theorem pingGateway_extra (key value : Str) : ¬ pingGateway.extra.lookup key = some value := by
  change ¬ (∅ : Finmap fun _ : Str => Str).lookup key = some value
  rw [Finmap.lookup_empty]
  exact nofun

theorem pingGateway_writable : Writable pingGateway where
  name := by rfl
  kind := by rfl
  target := by rfl
  port := fun port absent => by cases absent
  extra := fun key value found => absurd found (pingGateway_extra key value)

theorem pingGateway_fields :
    Fields pingGateway [(targetKey, pingGateway.target), (kindKey, pingGateway.kind)] :=
  ⟨[], List.nodup_nil, fun key value => iff_of_false (pingGateway_extra key value) List.not_mem_nil,
    by decide⟩

def pingGatewayBody : List Str := ["target: 192.0.2.1".toList, "kind: ping".toList]

theorem pingGateway_body :
    Body [(targetKey, pingGateway.target), (kindKey, pingGateway.kind)] pingGatewayBody := by
  have none : ∀ c ∈ ([] : Str), isWhitespace c = true :=
    fun c member => absurd member List.not_mem_nil
  exact .field ⟨[], [], by rfl, none, none⟩ (.field ⟨[], [], by rfl, none, none⟩ .done)

/-- The second step begins right behind the fields of the first. -/
def checkHttpText : Str := unlines
  ("left out".toList :: "  # step: check-http".toList :: (checkHttpBody ++
    "#step: ping gateway".toList :: (pingGatewayBody ++ [[], "left: out".toList])))

theorem checkHttp_layout : Layout false [checkHttp, pingGateway] (lines checkHttpText) := by
  have laid : lines checkHttpText =
      "left out".toList :: "  # step: check-http".toList :: (checkHttpBody ++
        "#step: ping gateway".toList :: (pingGatewayBody ++ [[], "left: out".toList])) :=
          by decide +kernel
  have none : ∀ c ∈ ([] : Str), isWhitespace c = true :=
    fun c member => absurd member List.not_mem_nil
  have header : HeaderLine checkHttp.name "  # step: check-http".toList :=
    Or.inl ⟨[' ', ' '], [], by rfl, List.all_eq_true.mp (by decide), none⟩
  have next : HeaderLine pingGateway.name "#step: ping gateway".toList :=
    Or.inr ⟨[], [], by rfl, none, none⟩
  rw [laid]
  exact .outside (by rfl) (.step checkHttp_writable header checkHttp_fields checkHttp_body
    (.step pingGateway_writable next pingGateway_fields pingGateway_body
      (.blank (by rfl) (.outside (by rfl) .done))))

theorem parse_layout_checkHttp : Scenario.parse checkHttpText = [checkHttp, pingGateway] :=
  parse_layout [checkHttp, pingGateway] checkHttpText checkHttp_layout

end CheckHttp

end FragglePacket.NetworkTests
