import Mathlib.Algebra.BigOperators.Group.List.Basic
import Mathlib.Algebra.Order.Ring.Int
import FragglePacket.Net.DottedQuad
import FragglePacket.Redact.Exposure
import FragglePacket.Redact.MacShape
import FragglePacket.Text.Arising

/-! When a second application of a redacting policy finds nothing more to mask. A second
application that changes nothing has swapped letters for the same letters: no address, since
no label has a colon or a dot, and literals only if they are together an anagram of labels. -/

namespace FragglePacket.Redact

open FragglePacket.Text FragglePacket.Net

/-- `default_redacted()` followed by a `with_literal` call for each literal. -/
def RedactionPolicy.ofLiterals (literals : List Str) : RedactionPolicy :=
  literals.foldl RedactionPolicy.withLiteral RedactionPolicy.defaultRedacted

theorem ofLiterals_eq (literals : List Str) :
    RedactionPolicy.ofLiterals literals = ⟨.redacted, literals⟩ := by
  have appended (policy : RedactionPolicy) : literals.foldl RedactionPolicy.withLiteral policy =
      { policy with extraLiterals := policy.extraLiterals ++ literals } := by
    induction literals generalizing policy with
    | nil => simp
    | cons literal rest ih => simp [ih, RedactionPolicy.withLiteral]
  exact appended _

/-- The replacement of one literal as a stage; the empty literal is skipped. -/
def literalStage (literal : Str) : Stage Char where
  script text := if literal = [] then keeps text else replaceScript literal redacted text
  source_script text := by
    split
    · exact source_keeps text
    · next nonempty => exact source_replaceScript redacted nonempty text

theorem literalStage_apply (literal out : Str) :
    (literalStage literal).apply out = replaceLiteral out literal := by
  by_cases empty : literal = []
  · simp [literalStage, Stage.apply, replaceLiteral, empty]
  · simp [literalStage, Stage.apply, replaceLiteral, replace, empty]

theorem literalStage_swap {literal text old new : Str}
    (member : Edit.swap old new ∈ (literalStage literal).script text) :
    literal ≠ [] ∧ old = literal ∧ new = redacted := by
  by_cases empty : literal = []
  · simp [literalStage, empty, swap_not_mem_keeps] at member
  · simp only [literalStage, empty, ↓reduceIte] at member
    exact ⟨empty, replaceScript_swap empty member⟩

theorem literalStage_quiet_iff (literal text : Str) :
    (literalStage literal).Quiet text ↔ (literal ≠ [] → ¬ literal <:+: text) := by
  by_cases empty : literal = []
  · simp [Stage.Quiet, literalStage, empty, swap_not_mem_keeps]
  · simp only [Stage.Quiet, literalStage, empty, ↓reduceIte, ne_eq, not_false_eq_true, true_implies]
    exact replaceScript_quiet_iff empty text

/-- Everything a redacting policy does, in order. -/
def stages (literals : List Str) : List (Stage Char) := passes ++ literals.map literalStage

theorem applyAll_literals (literals : List Str) (text : Str) :
    applyAll (literals.map literalStage) text = literals.foldl replaceLiteral text := by
  simp only [applyAll, List.foldl_map, literalStage_apply]

theorem applyAll_stages (literals : List Str) (text : Str) :
    applyAll (stages literals) text = applyAll (literals.map literalStage) (applyAll passes text) :=
  List.foldl_append

theorem ofLiterals_apply (literals : List Str) (text : Str) :
    (RedactionPolicy.ofLiterals literals).apply text = applyAll (stages literals) text := by
  rw [ofLiterals_eq, applyAll_stages, applyAll_literals, passes_apply]
  rfl

theorem stages_labels (literals : List Str) : ∀ stage ∈ stages literals, ∀ text old new,
    Edit.swap old new ∈ stage.script text → new ∈ redacted :: addressLabels := by
  intro stage member text old new swap
  rcases List.mem_append.mp member with pass | literal
  · exact List.mem_cons_of_mem _ (passes_labels stage pass text old new swap)
  · obtain ⟨literal, _, rfl⟩ := List.mem_map.mp literal
    simp [(literalStage_swap swap).2.2]

/-- A run of candidate characters that its pass recognises. -/
structure Recognised (isCandidateChar : Char → Bool) (tryRedact : Str → Option Str)
    (run : Str) : Prop where
  nonempty : run ≠ []
  marked : ∀ c ∈ run, isCandidateChar c = true
  found : tryRedact run ≠ none

/-- No candidate character touches what stands between `x` and `y`. -/
def Maximal (isCandidateChar : Char → Bool) (x y : Str) : Prop :=
  (∀ a ∈ x.getLast?, isCandidateChar a = false) ∧ ∀ b ∈ y.head?, isCandidateChar b = false

theorem runStage_quiet_iff (isCandidateChar : Char → Bool) (tryRedact : Str → Option Str)
    (text : Str) :
    (runStage isCandidateChar tryRedact).Quiet text ↔
      ∀ run, Recognised isCandidateChar tryRedact run →
        ¬ ∃ X Y, text = X ++ run ++ Y ∧ Maximal isCandidateChar X Y := by
  have spared : (runStage isCandidateChar tryRedact).Quiet text ↔
      Spared isCandidateChar tryRedact text :=
    ⟨spared_of_no_swap, Spared.no_swap⟩
  rw [spared, spared_iff]
  constructor
  · intro none run shape ⟨X, Y, split, before, after⟩
    exact shape.found (none X run Y split shape.nonempty shape.marked before after)
  · intro none X run Y split nonempty marked before after
    by_contra found
    exact none run ⟨nonempty, marked, found⟩ ⟨X, Y, split, before, after⟩

/-- A run the pass would recognise survives all stages, and what they make of its
surroundings leaves it maximal. -/
def LeftOver (literals : List Str) (isCandidateChar : Char → Bool) (tryRedact : Str → Option Str)
    (text : Str) : Prop :=
  ∃ run, Recognised isCandidateChar tryRedact run ∧ ∃ x y, text = x ++ run ++ y ∧
    Survives (stages literals) x run y (Maximal isCandidateChar)

private theorem quiet_iff_not_leftOver {isCandidateChar : Char → Bool}
    {tryRedact : Str → Option Str} (noOpen : isCandidateChar '<' = false)
    (noClose : isCandidateChar '>' = false) (separator : ∀ run, tryRedact run ≠ none →
      ':' ∈ run ∨ '.' ∈ run) (literals : List Str) (text : Str) :
    (runStage isCandidateChar tryRedact).Quiet (applyAll (stages literals) text) ↔
      ¬ LeftOver literals isCandidateChar tryRedact text := by
  have traced (run : Str) (shape : Recognised isCandidateChar tryRedact run) :
      (∃ X Y, applyAll (stages literals) text = X ++ run ++ Y ∧ Maximal isCandidateChar X Y) ↔
        ∃ x y, text = x ++ run ++ y ∧
          Survives (stages literals) x run y (Maximal isCandidateChar) := by
    have outside {bracket : Char} (unmarked : isCandidateChar bracket = false) : bracket ∉ run :=
      fun member => by simp [shape.marked bracket member] at unmarked
    refine occurs_iff_survives (stages literals) shape.nonempty ?_ text _
    intro stage member text old new swap
    exact foreign_label (outside noOpen) (outside noClose) (separator run shape.found) new
      (stages_labels literals stage member text old new swap)
  rw [runStage_quiet_iff]
  constructor
  · intro none ⟨run, shape, survivor⟩
    exact none run shape ((traced run shape).mpr survivor)
  · intro none run shape occurrence
    exact none ⟨run, shape, (traced run shape).mp occurrence⟩

/-- Some address is unmasked only once the others are. -/
def Residual (literals : List Str) (text : Str) : Prop :=
  LeftOver literals isMacChar tryRedactMac text ∨ LeftOver literals isIpv4Char tryRedactIpv4 text ∨
    LeftOver literals isIpv6Char tryRedactIpv6 text

theorem tryRedactMac_separator (run : Str) (found : tryRedactMac run ≠ none) :
    ':' ∈ run ∨ '.' ∈ run := by
  have shaped : isMacShaped run = true := by
    by_contra unshaped
    exact found (by simp [tryRedactMac, unshaped])
  obtain ⟨mac, rfl⟩ := (isMacShaped_iff run).mp shaped
  exact .inl (by simp [MacSpelling.text])

theorem tryRedactIpv4_separator (run : Str) (found : tryRedactIpv4 run ≠ none) :
    ':' ∈ run ∨ '.' ∈ run := by
  have parsed : parseIpv4 run ≠ none := by simpa [tryRedactIpv4] using found
  obtain ⟨addr, same⟩ := Option.ne_none_iff_exists'.mp parsed
  exact .inr (List.count_pos_iff.mp (by rw [parseIpv4_dots same]; omega))

theorem tryRedactIpv6_separator (run : Str) (found : tryRedactIpv6 run ≠ none) :
    ':' ∈ run ∨ '.' ∈ run := by
  by_cases few : run.count ':' < 2
  · simp [tryRedactIpv6, few] at found
  · exact .inl (List.count_pos_iff.mp (by omega))

/-- The passes find nothing in the output unless a run was left over. -/
theorem passes_quiet_iff (literals : List Str) (text : Str) :
    (∀ stage ∈ passes, stage.Quiet (applyAll (stages literals) text)) ↔
      ¬ Residual literals text := by
  simp only [passes, List.mem_cons, List.not_mem_nil, or_false, forall_eq_or_imp, forall_eq,
    Residual, not_or]
  rw [macPass, ipv4Pass, ipv6Pass,
    quiet_iff_not_leftOver (by decide) (by decide) tryRedactMac_separator,
    quiet_iff_not_leftOver (by decide) (by decide) tryRedactIpv4_separator,
    quiet_iff_not_leftOver (by decide) (by decide) tryRedactIpv6_separator]

/-- No run is left over, and no piece of the text becomes a literal other than the label. -/
structure Settled (literals : List Str) (text : Str) : Prop where
  runs : ¬ Residual literals text
  literals : ∀ literal ∈ literals, literal ≠ [] → literal ≠ redacted →
    ¬ ∃ x piece y, text = x ++ piece ++ y ∧ Arises (stages literals) x piece y literal

/-- A further application has nothing to do: each of its steps leaves the text as it is. -/
structure NothingLeft (literals : List Str) (text : Str) : Prop where
  mac : redactMacOrBssid text = text
  ipv4 : redactIpv4 text = text
  ipv6 : redactIpv6 text = text
  literals : ∀ literal ∈ literals, replaceLiteral text literal = text

/-- Some of the literals, repeated as may be, are together an anagram of as many labels. -/
def Undoable (literals : List Str) : Prop :=
  ∃ words : List Str, words ≠ [] ∧
    (∀ word ∈ words, word ∈ literals ∧ word ≠ [] ∧ word ≠ redacted) ∧
    words.flatten.Perm (List.replicate words.length redacted).flatten

section Swaps
variable {literals : List Str} {text : Str}

theorem pass_separator {stage : Stage Char} (pass : stage ∈ passes) {text old new : Str}
    (swap : Edit.swap old new ∈ stage.script text) : ':' ∈ old ∨ '.' ∈ old := by
  have found {isCandidateChar : Char → Bool} {tryRedact : Str → Option Str} {old new : Str}
      (separator : ∀ run, tryRedact run ≠ none → ':' ∈ run ∨ '.' ∈ run)
      (swap : Edit.swap old new ∈ (runStage isCandidateChar tryRedact).script text) :
      ':' ∈ old ∨ '.' ∈ old := by
    obtain ⟨front, back, split⟩ := List.append_of_mem swap
    exact separator old (by simp [(runScript_maximal text split).rewritten])
  simp only [passes, List.mem_cons, List.not_mem_nil, or_false] at pass
  rcases pass with rfl | rfl | rfl
  · exact found tryRedactMac_separator swap
  · exact found tryRedactIpv4_separator swap
  · exact found tryRedactIpv6_separator swap

theorem stages_solid (literals : List Str) : ∀ stage ∈ stages literals, stage.Solid := by
  intro stage member text old new swap
  rcases List.mem_append.mp member with pass | literal
  · rcases pass_separator pass swap with colon | dot
    · exact List.ne_nil_of_mem colon
    · exact List.ne_nil_of_mem dot
  · obtain ⟨literal, _, rfl⟩ := List.mem_map.mp literal
    obtain ⟨nonempty, rfl, -⟩ := literalStage_swap swap
    exact nonempty

theorem labels_avoid_separators {new : Str} (label : new ∈ redacted :: addressLabels) :
    ∀ c ∈ new, ¬ (c = ':' ∨ c = '.') := by
  have plain : (redacted :: addressLabels).all (·.all fun c => c ≠ ':' && c ≠ '.') = true := by
    decide
  intro c inside
  have apart := List.all_eq_true.mp (List.all_eq_true.mp plain new label) c inside
  simpa only [Bool.and_eq_true, decide_eq_true_eq, ne_eq, not_or] using apart

/-- Stages that come back to the text have swapped nothing that a pass recognises: their labels
have no separator to put in its place. -/
theorem no_pass_of_fixed {all : List (Stage Char)}
    (labelled : ∀ stage ∈ all, ∀ text old new, Edit.swap old new ∈ stage.script text →
      new ∈ redacted :: addressLabels)
    (fixed : applyAll all text = text) {old new : Str} (member : (old, new) ∈ swapped all text)
    {stage : Stage Char} (pass : stage ∈ passes) {inner : Str}
    (swap : Edit.swap old new ∈ stage.script inner) : False := by
  have clean : ∀ pair ∈ swapped all text, ∀ c ∈ pair.2, ¬ (c = ':' ∨ c = '.') := by
    rintro ⟨old, new⟩ member
    obtain ⟨stage, listed, text, swap⟩ := exists_stage_of_swapped member
    exact labels_avoid_separators (labelled stage listed text old new swap)
  have avoids := swapped_avoids_of_fixed fixed clean
  rcases pass_separator pass swap with colon | dot
  · exact avoids _ member ':' colon (.inl rfl)
  · exact avoids _ member '.' dot (.inr rfl)

/-- Coming back to the text, the stages have swapped literals only. -/
theorem swapped_literal_of_fixed (fixed : applyAll (stages literals) text = text) :
    ∀ pair ∈ swapped (stages literals) text,
      pair.1 ∈ literals ∧ pair.1 ≠ [] ∧ pair.2 = redacted := by
  rintro ⟨old, new⟩ member
  obtain ⟨stage, listed, text, swap⟩ := exists_stage_of_swapped member
  rcases List.mem_append.mp listed with pass | literal
  · exact (no_pass_of_fixed (stages_labels literals) fixed member pass swap).elim
  · obtain ⟨literal, inList, rfl⟩ := List.mem_map.mp literal
    obtain ⟨nonempty, rfl, rfl⟩ := literalStage_swap swap
    exact ⟨inList, nonempty, rfl⟩

/-- Unless literals can undo each other, stages that come back have swapped nothing but labels
for labels. -/
theorem swapped_same_of_fixed (rigid : ¬ Undoable literals)
    (fixed : applyAll (stages literals) text = text) :
    ∀ pair ∈ swapped (stages literals) text, pair.1 = pair.2 := by
  have fired := swapped_literal_of_fixed fixed
  let olds := (swapped (stages literals) text).map Prod.fst
  let words := olds.filter (· ≠ redacted)
  let labels := olds.filter fun old => !decide (old ≠ redacted)
  have news : (swapped (stages literals) text).map Prod.snd =
      List.replicate olds.length redacted := by
    rw [List.eq_replicate_iff]
    refine ⟨by simp [olds], fun new member => ?_⟩
    obtain ⟨pair, listed, rfl⟩ := List.mem_map.mp member
    exact (fired pair listed).2.2
  have same : labels = List.replicate labels.length redacted := by
    rw [List.eq_replicate_iff]
    refine ⟨rfl, fun label member => ?_⟩
    simpa using (List.mem_filter.mp member).2
  have parted : (words ++ labels).Perm olds := List.filter_append_perm _ olds
  have anagram : words.flatten.Perm (List.replicate words.length redacted).flatten := by
    have account := swapped_perm_of_fixed fixed
    rw [List.flatMap_def, List.flatMap_def, news, ← parted.length_eq, List.length_append,
      List.replicate_add, List.flatten_append, ← same] at account
    have letters := account.trans parted.symm.flatten
    rw [List.flatten_append] at letters
    exact ((List.perm_append_right_iff _).mp letters).symm
  have none : words = [] := by
    by_contra some
    refine rigid ⟨words, some, fun word member => ?_, anagram⟩
    obtain ⟨listed, apart⟩ := List.mem_filter.mp member
    obtain ⟨pair, inSwapped, rfl⟩ := List.mem_map.mp listed
    exact ⟨(fired pair inSwapped).1, (fired pair inSwapped).2.1, by simpa using apart⟩
  intro pair member
  rw [(fired pair member).2.2]
  by_contra apart
  have inWords : pair.1 ∈ words :=
    List.mem_filter.mpr ⟨List.mem_map_of_mem member, by simpa using apart⟩
  rw [none] at inWords
  cases inWords

end Swaps

section Fixed

/-- A pass leaves a text as it is only if it finds nothing in it. -/
theorem pass_fixed_iff {stage : Stage Char} (pass : stage ∈ passes) (text : Str) :
    stage.apply text = text ↔ stage.Quiet text := by
  refine ⟨fun fixed old new swap => ?_, Stage.Quiet.apply⟩
  have labelled : ∀ other ∈ [stage], ∀ text old new, Edit.swap old new ∈ other.script text →
      new ∈ redacted :: addressLabels := by
    intro other listed text old new inserted
    obtain rfl := List.mem_singleton.mp listed
    exact List.mem_cons_of_mem _ (passes_labels other pass text old new inserted)
  have back : applyAll [stage] text = text := fixed
  have member : (old, new) ∈ swapped [stage] text :=
    List.mem_append_left _ (mem_swaps_iff.mpr swap)
  exact no_pass_of_fixed labelled back member pass swap

/-- A literal is replaced to no effect only if it is empty, is the label, or does not occur. -/
theorem literal_fixed_iff (literal text : Str) :
    replaceLiteral text literal = text ↔
      (literal ≠ [] → literal ≠ redacted → ¬ literal <:+: text) := by
  rw [← literalStage_apply]
  constructor
  · intro fixed nonempty other occurs
    have fires : ¬ (literalStage literal).Quiet text := by
      rw [literalStage_quiet_iff]
      exact fun silent => silent nonempty occurs
    have uniform : ∀ pair ∈ swaps ((literalStage literal).script text), pair =
        (literal, redacted) := by
      rintro ⟨old, new⟩ member
      obtain ⟨-, rfl, rfl⟩ := literalStage_swap (mem_swaps_iff.mp member)
      rfl
    refine other (same_of_uniform uniform ?_ ?_)
    · exact fixed.trans ((literalStage literal).source_script text).symm
    · intro none
      refine fires fun old new swap => ?_
      have member := mem_swaps_iff.mpr swap
      rw [none] at member
      cases member
  · intro absent
    by_cases label : literal = redacted
    · refine Stage.apply_eq_self _ fun old new swap => ?_
      obtain ⟨-, rfl, rfl⟩ := literalStage_swap swap
      exact label
    · refine Stage.Quiet.apply ?_
      rw [literalStage_quiet_iff]
      exact fun nonempty => absent nonempty label

theorem nothingLeft_iff (literals : List Str) (text : Str) :
    NothingLeft literals text ↔ ∀ stage ∈ stages literals, stage.apply text = text := by
  constructor
  · rintro ⟨mac, ipv4, ipv6, replaced⟩ stage member
    rcases List.mem_append.mp member with pass | replacement
    · simp only [passes, List.mem_cons, List.not_mem_nil, or_false] at pass
      rcases pass with rfl | rfl | rfl
      · exact (macPass_apply text).trans mac
      · exact (ipv4Pass_apply text).trans ipv4
      · exact (ipv6Pass_apply text).trans ipv6
    · obtain ⟨literal, listed, rfl⟩ := List.mem_map.mp replacement
      exact (literalStage_apply literal text).trans (replaced literal listed)
  · intro fixed
    refine ⟨?_, ?_, ?_, fun literal listed => ?_⟩
    · exact (macPass_apply text).symm.trans (fixed macPass (by simp [stages, passes]))
    · exact (ipv4Pass_apply text).symm.trans (fixed ipv4Pass (by simp [stages, passes]))
    · exact (ipv6Pass_apply text).symm.trans (fixed ipv6Pass (by simp [stages, passes]))
    · refine (literalStage_apply literal text).symm.trans (fixed _ ?_)
      exact List.mem_append_right _ (List.mem_map_of_mem listed)

/-- The first application settles the text exactly when the second has nothing to do. -/
theorem settled_iff_nothingLeft (literals : List Str) (text : Str) :
    Settled literals text ↔ NothingLeft literals (applyAll (stages literals) text) := by
  have silent : (∀ stage ∈ passes, stage.apply (applyAll (stages literals) text) =
      applyAll (stages literals) text) ↔ ¬ Residual literals text := by
    rw [← passes_quiet_iff]
    exact forall₂_congr fun stage pass => pass_fixed_iff pass _
  have unborn (literal : Str) :
      (literalStage literal).apply (applyAll (stages literals) text) =
        applyAll (stages literals) text ↔
        (literal ≠ [] → literal ≠ redacted →
          ¬ ∃ x piece y, text = x ++ piece ++ y ∧ Arises (stages literals) x piece y literal) := by
    rw [literalStage_apply, literal_fixed_iff]
    refine forall_congr' fun nonempty => ?_
    rw [occurs_iff_arises (stages_solid literals) nonempty]
  rw [nothingLeft_iff]
  constructor
  · rintro ⟨runs, literalsAbsent⟩ stage member
    rcases List.mem_append.mp member with pass | replacement
    · exact silent.mpr runs stage pass
    · obtain ⟨literal, listed, rfl⟩ := List.mem_map.mp replacement
      exact (unborn literal).mpr (literalsAbsent literal listed)
  · intro fixed
    refine ⟨silent.mp fun stage pass => fixed stage (List.mem_append_left _ pass), ?_⟩
    intro literal listed
    exact (unborn literal).mp (fixed _ (List.mem_append_right _ (List.mem_map_of_mem listed)))

end Fixed

/-- With a weight of letters under which every literal is lighter than the label, no literals
undo each other. -/
theorem not_undoable_of_lighter {literals : List Str} (weight : Char → ℤ)
    (lighter : ∀ literal ∈ literals, literal ≠ [] → literal ≠ redacted →
      (literal.map weight).sum < (redacted.map weight).sum) : ¬ Undoable literals := by
  rintro ⟨words, some, drawn, anagram⟩
  have total (words : List Str)
      (drawn : ∀ word ∈ words, word ∈ literals ∧ word ≠ [] ∧ word ≠ redacted) (some : words ≠ []) :
      (words.flatten.map weight).sum <
        ((List.replicate words.length redacted).flatten.map weight).sum := by
    induction words with
    | nil => exact absurd rfl some
    | cons word rest ih =>
      obtain ⟨listed, nonempty, other⟩ := drawn word List.mem_cons_self
      have here := lighter word listed nonempty other
      simp only [List.flatten_cons, List.map_append, List.sum_append, List.length_cons,
        List.replicate_succ]
      cases rest with
      | nil => simpa using here
      | cons next rest =>
        have later := ih (fun word member => drawn word (List.mem_cons_of_mem _ member)) (by simp)
        exact Int.add_lt_add here later
  have equal := (anagram.map weight).sum_eq
  have less := total words drawn some
  omega

/-- A further application has nothing to do exactly on settled texts, where redaction is
idempotent; and unless literals can undo each other, it is idempotent on no others. -/
theorem apply_idempotent_iff (literals : List Str) (text : Str) :
    let policy := RedactionPolicy.ofLiterals literals
    (Settled literals text ↔ NothingLeft literals (policy.apply text)) ∧
    (Settled literals text → policy.apply (policy.apply text) = policy.apply text) ∧
    (¬ Undoable literals →
      (policy.apply (policy.apply text) = policy.apply text ↔ Settled literals text)) := by
  simp only [ofLiterals_apply]
  have holds (settled : Settled literals text) :
      applyAll (stages literals) (applyAll (stages literals) text) =
        applyAll (stages literals) text :=
    applyAll_eq_self ((nothingLeft_iff literals _).mp
      ((settled_iff_nothingLeft literals text).mp settled))
  refine ⟨settled_iff_nothingLeft literals text, holds, fun rigid => ⟨fun fixed => ?_, holds⟩⟩
  rw [settled_iff_nothingLeft, nothingLeft_iff]
  intro stage member
  exact stage.apply_eq_self (same_of_swapped (swapped_same_of_fixed rigid fixed) stage member)

/-- A literal that ends in the label's bracket, over its own text. -/
theorem apply_idempotent_home : Settled ["Home<".toList] "Home<".toList := by
  have rigid : ¬ Undoable ["Home<".toList] :=
    not_undoable_of_lighter (fun c => if c = 'H' then -10 else 1) (by decide)
  exact ((apply_idempotent_iff ["Home<".toList] "Home<".toList).2.2 rigid).mp (by decide)

/-- Masking the IPv4 address sets the MAC address behind it free. -/
theorem apply_not_idempotent : ¬ ∀ (literals : List Str) (text : Str),
    (RedactionPolicy.ofLiterals literals).apply ((RedactionPolicy.ofLiterals literals).apply text) =
      (RedactionPolicy.ofLiterals literals).apply text := by
  intro claim
  exact absurd (claim [] "1.2.3.4aa:bb:cc:dd:ee:ff".toList) (by decide)

end FragglePacket.Redact
