import FragglePacket.Redact.Policy

/-! Which occurrences of a word the three passes of the redaction leave in the
text. An occurrence is exposed when no pass rewrites a run it touches. -/

namespace FragglePacket.Redact

open FragglePacket.Text FragglePacket.Net

def macPass : Stage Char := runStage isMacChar tryRedactMac

def ipv4Pass : Stage Char := runStage isIpv4Char tryRedactIpv4

def ipv6Pass : Stage Char := runStage isIpv6Char tryRedactIpv6

def passes : List (Stage Char) := [macPass, ipv4Pass, ipv6Pass]

theorem macPass_apply (text : Str) : macPass.apply text = redactMacOrBssid text :=
  target_runScript text

theorem ipv4Pass_apply (text : Str) : ipv4Pass.apply text = redactIpv4 text :=
  target_runScript text

theorem ipv6Pass_apply (text : Str) : ipv6Pass.apply text = redactIpv6 text :=
  target_runScript text

theorem passes_apply (text : Str) :
    applyAll passes text = redactIpv6 (redactIpv4 (redactMacOrBssid text)) := by
  simp [applyAll, passes, macPass_apply, ipv4Pass_apply, ipv6Pass_apply]

theorem defaultRedacted_apply (text : Str) :
    RedactionPolicy.defaultRedacted.apply text = applyAll passes text := by
  rw [passes_apply]
  rfl

/-- The labels the passes write. -/
def addressLabels : List Str := [redactedMac, redactedPrivateIp, redactedPublicIp]

theorem redactionLabelFor_mem (addr : IpAddr) : redactionLabelFor addr ∈ addressLabels := by
  unfold redactionLabelFor
  split <;> simp [addressLabels]

theorem tryRedactMac_label {run label : Str} (found : tryRedactMac run = some label) :
    label ∈ addressLabels := by
  unfold tryRedactMac at found
  split at found
  · simp [addressLabels, ← Option.some.inj found]
  · cases found

theorem tryRedactIpv4_label {run label : Str} (found : tryRedactIpv4 run = some label) :
    label ∈ addressLabels := by
  obtain ⟨addr, _, rfl⟩ := Option.map_eq_some_iff.mp found
  exact redactionLabelFor_mem _

theorem tryRedactIpv6_label {run label : Str} (found : tryRedactIpv6 run = some label) :
    label ∈ addressLabels := by
  unfold tryRedactIpv6 at found
  split at found
  · cases found
  · obtain ⟨addr, _, rfl⟩ := Option.map_eq_some_iff.mp found
    exact redactionLabelFor_mem _

private theorem runStage_label {inRun : Char → Bool} {rewrite : Str → Option Str}
    (labels : ∀ run label, rewrite run = some label → label ∈ addressLabels)
    {text old new : Str} (member : Edit.swap old new ∈ (runStage inRun rewrite).script text) :
    new ∈ addressLabels := by
  obtain ⟨front, back, found⟩ := List.append_of_mem member
  exact labels old new (runScript_maximal text found).rewritten

theorem passes_labels : ∀ stage ∈ passes, ∀ text old new,
    Edit.swap old new ∈ stage.script text → new ∈ addressLabels := by
  intro stage member text old new swap
  simp only [passes, List.mem_cons, List.not_mem_nil, or_false] at member
  rcases member with rfl | rfl | rfl
  · exact runStage_label (fun _ _ => tryRedactMac_label) swap
  · exact runStage_label (fun _ _ => tryRedactIpv4_label) swap
  · exact runStage_label (fun _ _ => tryRedactIpv6_label) swap

/-- A bracketed label cannot overlap a word that has no bracket and does have a
character the label lacks. -/
theorem foreign_bracketed {word : Str} (noOpen : '<' ∉ word) (noClose : '>' ∉ word) {c : Char}
    (member : c ∈ word) {body : Str} (absent : c ∉ '<' :: (body ++ ['>'])) :
    Foreign word ('<' :: (body ++ ['>'])) :=
  .of_ends noOpen noClose fun inside => absent (inside.subset member)

/-- No label overlaps a word that has a colon or a dot but no bracket. -/
theorem foreign_label {word : Str} (noOpen : '<' ∉ word) (noClose : '>' ∉ word)
    (separator : ':' ∈ word ∨ '.' ∈ word) :
    ∀ label ∈ redacted :: addressLabels, Foreign word label := by
  intro label member
  have bodies : ∃ body, label = '<' :: (body ++ ['>']) ∧ ':' ∉ label ∧ '.' ∉ label := by
    simp only [addressLabels, List.mem_cons, List.not_mem_nil, or_false] at member
    rcases member with rfl | rfl | rfl | rfl
    · exact ⟨"redacted".toList, by decide⟩
    · exact ⟨"redacted-mac".toList, by decide⟩
    · exact ⟨"redacted-private-ip".toList, by decide⟩
    · exact ⟨"redacted-public-ip".toList, by decide⟩
  obtain ⟨body, rfl, noColon, noDot⟩ := bodies
  rcases separator with colon | dot
  · exact foreign_bracketed noOpen noClose colon noColon
  · exact foreign_bracketed noOpen noClose dot noDot

/-- The text before an occurrence of `word` that the MAC pass leaves. -/
def afterMacLeft (x word : Str) : Str := leftAfter isMacChar tryRedactMac x word

def afterMacRight (word y : Str) : Str := rightAfter isMacChar tryRedactMac word y

/-- The text before an occurrence of `word` that the MAC and IPv4 passes leave. -/
def afterIpv4Left (x word : Str) : Str :=
  leftAfter isIpv4Char tryRedactIpv4 (afterMacLeft x word) word

def afterIpv4Right (word y : Str) : Str :=
  rightAfter isIpv4Char tryRedactIpv4 word (afterMacRight word y)

/-- The text before an occurrence of `word` that all three passes leave. -/
def afterIpv6Left (x word : Str) : Str :=
  leftAfter isIpv6Char tryRedactIpv6 (afterIpv4Left x word) word

def afterIpv6Right (word y : Str) : Str :=
  rightAfter isIpv6Char tryRedactIpv6 word (afterIpv4Right word y)

/-- No pass rewrites a run the occurrence of `word` between `x` and `y` touches. -/
structure Exposed (x word y : Str) : Prop where
  mac : Spared isMacChar tryRedactMac (reach isMacChar x word y)
  ipv4 : Spared isIpv4Char tryRedactIpv4
    (reach isIpv4Char (afterMacLeft x word) word (afterMacRight word y))
  ipv6 : Spared isIpv6Char tryRedactIpv6
    (reach isIpv6Char (afterIpv4Left x word) word (afterIpv4Right word y))

theorem survives_passes_iff {x word y : Str} (nonempty : word ≠ []) (context : Str → Str → Prop) :
    Survives passes x word y context ↔
      Exposed x word y ∧ context (afterIpv6Left x word) (afterIpv6Right word y) := by
  simp only [passes, Survives, macPass, ipv4Pass, ipv6Pass, leaves_iff nonempty]
  constructor
  · rintro ⟨_, _, ⟨mac, rfl, rfl⟩, _, _, ⟨ipv4, rfl, rfl⟩, _, _, ⟨ipv6, rfl, rfl⟩, holds⟩
    exact ⟨⟨mac, ipv4, ipv6⟩, holds⟩
  · rintro ⟨exposed, holds⟩
    exact ⟨_, _, ⟨exposed.mac, rfl, rfl⟩, _, _, ⟨exposed.ipv4, rfl, rfl⟩,
      _, _, ⟨exposed.ipv6, rfl, rfl⟩, holds⟩

/-- Occurrences in the redacted text are exactly the exposed occurrences in the
text, each with what the passes make of its surroundings. -/
theorem occurs_passes_iff {word : Str} (noOpen : '<' ∉ word) (noClose : '>' ∉ word)
    (separator : ':' ∈ word ∨ '.' ∈ word) (text : Str) (context : Str → Str → Prop) :
    (∃ X Y, applyAll passes text = X ++ word ++ Y ∧ context X Y) ↔
      ∃ x y, text = x ++ word ++ y ∧ Exposed x word y ∧
        context (afterIpv6Left x word) (afterIpv6Right word y) := by
  have nonempty : word ≠ [] := by
    rcases separator with member | member <;> exact List.ne_nil_of_mem member
  rw [occurs_iff_survives passes nonempty]
  · simp only [survives_passes_iff nonempty]
  · intro stage member text old new swap
    exact foreign_label noOpen noClose separator new
      (List.mem_cons_of_mem _ (passes_labels stage member text old new swap))

/-- The default policy leaks a word exactly when the text has an exposed
occurrence of it. -/
theorem leaks_iff {word : Str} (noOpen : '<' ∉ word) (noClose : '>' ∉ word)
    (separator : ':' ∈ word ∨ '.' ∈ word) (text : Str) :
    word <:+: RedactionPolicy.defaultRedacted.apply text ↔
      ∃ x y, text = x ++ word ++ y ∧ Exposed x word y := by
  have occurs := occurs_passes_iff noOpen noClose separator text (fun _ _ => True)
  simp only [and_true] at occurs
  rw [← occurs, defaultRedacted_apply]
  simp only [List.IsInfix, eq_comm]

end FragglePacket.Redact
