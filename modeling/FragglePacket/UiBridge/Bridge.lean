import Mathlib.Data.List.DropRight
import FragglePacket.Text.Fields
import FragglePacket.Text.Json
import FragglePacket.Text.Slices
import FragglePacket.Text.Unicode

/-! What the bridge between the user interfaces and the command line makes of a command's output. -/

namespace FragglePacket.UiBridge

open FragglePacket.Text FragglePacket.Wire

/-- Why there is no outcome: a slice that does not start between two characters. -/
inductive BridgeHalt where
  | notBoundary

inductive Outcome (Value : Type) where
  | json (value : Value)
  | textOnly (text : Str)
  | failed (exitCode : Option Int32) (stderr : Str)
  | notRun (reason : Str)

def isPad (c : Char) : Bool := c == '\uFEFF' || c == ' ' || c == '\t'

/-- The line after what `trim_start_matches` takes off its front. -/
def trimPad (line : Str) : Str := line.dropWhile isPad

def beginsPayload (line : Str) : Bool :=
  (trimPad line).head? == some '{' || (trimPad line).head? == some '['

/-- The loop over the lines, with the offset of the line in bytes. -/
def payloadFrom (stdout : Str) : Nat → List Str → Except BridgeHalt (Option Str)
  | _, [] => .ok none
  | offset, line :: rest =>
    if beginsPayload line then
      match sliceFrom stdout (offset + (byteLen line - byteLen (trimPad line))) with
      | some payload => .ok (some payload)
      | none => .error .notBoundary
    else payloadFrom stdout (offset + byteLen line) rest

def extractJsonPayload (stdout : Str) : Except BridgeHalt (Option Str) :=
  payloadFrom stdout 0 (splitInclusive stdout)

/-- What a command leaves when it has run; a command that a signal ends has no code. -/
structure Output where
  code : Option Int32
  stdout : Bytes
  stderr : Bytes

def Output.success (output : Output) : Bool := output.code == some 0

section Run
variable {Value : Type} (fromStr : Str → Except String Value)

/-- `run_subcommand_with` for a command that was launched. -/
def classify (output : Output) : Except BridgeHalt (Outcome Value) := do
  let stdout := fromUtf8Lossy output.stdout
  let stderr := fromUtf8Lossy output.stderr
  if !output.success then
    let reason := if (trim stderr).isEmpty then trim stdout else stderr
    return .failed output.code reason
  else
    match ← extractJsonPayload stdout with
    | some payload =>
      match fromStr payload with
      | .ok v => return .json v
      | .error _ => return .textOnly stdout
    | none => return .textOnly stdout

/-- The launch of a command: its output, or why it could not be executed. -/
abbrev Launcher := Str → Str → List Str → Except Str Output

def runSubcommandWith (launch : Launcher) (bin subcommand : Str) (args : List Str) :
    Except BridgeHalt (Outcome Value) :=
  match launch bin subcommand args with
  | .error e => .ok (.notRun ("failed to execute ".toList ++ bin ++ ": ".toList ++ e))
  | .ok output => classify fromStr output

end Run

section Payload
variable {stdout line : Str} {before after : List Str}

/-- What is taken off a line and what is left of it. -/
theorem exists_pad (line : Str) :
    ∃ pad, line = pad ++ trimPad line ∧ byteLen line - byteLen (trimPad line) = byteLen pad := by
  have parts : line.takeWhile isPad ++ trimPad line = line := List.takeWhile_append_dropWhile
  refine ⟨line.takeWhile isPad, parts.symm, ?_⟩
  have sizes := byteLen_append (line.takeWhile isPad) (trimPad line)
  rw [parts] at sizes
  omega

/-- The loop stops at the first line that begins a payload, behind the text it has passed. -/
theorem payloadFrom_of_begins (passed : Str)
    (none_before : ∀ other ∈ before, beginsPayload other = false)
    (begins : beginsPayload line = true)
    (whole : stdout = passed ++ before.flatten ++ (line ++ after.flatten)) :
    payloadFrom stdout (byteLen passed) (before ++ line :: after) =
      .ok (some (trimPad line ++ after.flatten)) := by
  induction before generalizing passed with
  | nil =>
    obtain ⟨pad, parts, size⟩ := exists_pad line
    have offset : byteLen passed + byteLen pad = byteLen (passed ++ pad) :=
      (byteLen_append passed pad).symm
    have split : stdout = (passed ++ pad) ++ (trimPad line ++ after.flatten) := by
      rw [whole, List.flatten_nil, List.append_nil]
      conv_lhs => rw [parts]
      simp only [List.append_assoc]
    rw [List.nil_append, payloadFrom, if_pos begins, size, offset, split, sliceFrom_byteLen]
  | cons other rest ih =>
    have passes := none_before other List.mem_cons_self
    rw [List.cons_append, payloadFrom, if_neg (by rw [passes]; decide), ← byteLen_append]
    refine ih (passed ++ other) (fun next member => none_before next
      (List.mem_cons_of_mem other member)) ?_
    rw [whole, List.flatten_cons]
    simp only [List.append_assoc]

theorem payloadFrom_of_none (offset : Nat) {lines : List Str}
    (none_begins : ∀ line ∈ lines, beginsPayload line = false) :
    payloadFrom stdout offset lines = .ok none := by
  induction lines generalizing offset with
  | nil => rfl
  | cons line rest ih =>
    have passes := none_begins line List.mem_cons_self
    rw [payloadFrom, if_neg (by rw [passes]; decide)]
    exact ih _ fun other member => none_begins other (List.mem_cons_of_mem line member)

theorem extractJsonPayload_of_begins (lines : splitInclusive stdout = before ++ line :: after)
    (none_before : ∀ other ∈ before, beginsPayload other = false)
    (begins : beginsPayload line = true) :
    extractJsonPayload stdout = .ok (some (trimPad line ++ after.flatten)) := by
  have whole := splitInclusive_flatten stdout
  rw [lines, List.flatten_append, List.flatten_cons] at whole
  rw [extractJsonPayload, lines]
  exact payloadFrom_of_begins [] none_before begins whole.symm

/-- There is no payload exactly where no line begins one. -/
theorem extractJsonPayload_eq_none_iff (stdout : Str) :
    extractJsonPayload stdout = .ok none ↔
      ∀ line ∈ splitInclusive stdout, beginsPayload line = false := by
  constructor
  · intro nothing
    cases first : (splitInclusive stdout).find? beginsPayload with
    | none =>
      exact fun line listed => Bool.eq_false_iff.mpr (List.find?_eq_none.mp first line listed)
    | some line =>
      obtain ⟨begins, before, after, lines, passed⟩ := List.find?_eq_some_iff_append.mp first
      have found := extractJsonPayload_of_begins lines
        (fun other member => by simpa using passed other member) begins
      rw [nothing] at found
      cases found
  · exact payloadFrom_of_none 0

end Payload

section Recovery
variable {preamble pad json tail : Str}

/-- Whole lines, none of which begins a payload. -/
structure Preamble (text : Str) : Prop where
  ends : text = [] ∨ text.getLast? = some '\n'
  plain : ∀ line ∈ splitInclusive text, beginsPayload line = false

theorem newline_not_mem_pad (blank : ∀ c ∈ pad, isPad c = true) : '\n' ∉ pad := fun member =>
  absurd (blank _ member) (by decide)

theorem trimPad_append (blank : ∀ c ∈ pad, isPad c = true) {c : Char} (other : isPad c = false)
    (rest : Str) :
    trimPad (pad ++ c :: rest) = c :: rest := by
  rw [trimPad, List.dropWhile_append_of_pos blank,
    List.dropWhile_cons_of_neg (by rw [other]; decide)]

theorem extractJsonPayload_of_bracket (front : Preamble preamble)
    (blank : ∀ c ∈ pad, isPad c = true) {bracket : Char} (composite : bracket = '{' ∨ bracket = '[')
    (rest : Str) :
    extractJsonPayload (preamble ++ (pad ++ bracket :: rest)) = .ok (some (bracket :: rest)) := by
  have solid : bracket ≠ '\n' ∧ isPad bracket = false := by
    obtain rfl | rfl := composite <;> decide
  obtain ⟨line, more, split⟩ : ∃ line more, splitInclusive (bracket :: rest) =
      (bracket :: line) :: more := by
    rw [splitInclusive_cons solid.1]
    cases splitInclusive rest with
    | nil => exact ⟨[], [], rfl⟩
    | cons line more => exact ⟨line, more, rfl⟩
  have lines : splitInclusive (preamble ++ (pad ++ bracket :: rest)) =
      splitInclusive preamble ++ (pad ++ bracket :: line) :: more := by
    rw [splitInclusive_append front.ends,
      splitInclusive_append_plain (newline_not_mem_pad blank) split]
  have trimmed := trimPad_append blank solid.2 line
  have begins : beginsPayload (pad ++ bracket :: line) = true := by
    rw [beginsPayload, trimmed]
    obtain rfl | rfl := composite <;> rfl
  have whole := splitInclusive_flatten (bracket :: rest)
  rw [split, List.flatten_cons] at whole
  rw [extractJsonPayload_of_begins lines front.plain begins, trimmed, whole]

variable {Value : Type} {fromStr : Str → Except String Value} {output : Output}

/-- A composite text and the whitespace behind it come out of any preamble and parse
to the value of the text. -/
theorem exists_payload_value (reads : ReadsJson fromStr) (front : Preamble preamble)
    (blank : ∀ c ∈ pad, isPad c = true)
    (composite : JsonGrammar .object json ∨ JsonGrammar .array json) (gap : JsonGap tail) :
    extractJsonPayload (preamble ++ pad ++ json ++ tail) = .ok (some (json ++ tail)) ∧
      ∃ value, fromStr json = .ok value ∧ fromStr (json ++ tail) = .ok value := by
  have text := JsonText.of_value (JsonGrammar.value_of_composite composite)
  obtain ⟨value, parsed⟩ := (reads.accepts json).mpr text
  obtain ⟨bracket, rest, rfl, begins⟩ := JsonGrammar.bracket composite
  refine ⟨?_, value, parsed, (reads.trailing _ tail text gap).trans parsed⟩
  rw [List.append_assoc, List.append_assoc]
  exact extractJsonPayload_of_bracket front blank begins (rest ++ tail)

theorem classify_failed (unsuccessful : output.success = false) :
    ∃ reason, classify fromStr output = .ok (.failed output.code reason) := by
  rw [classify, unsuccessful]
  exact ⟨_, rfl⟩

theorem classify_of_payload (success : output.success = true) {payload : Str} {value : Value}
    (extracted : extractJsonPayload (fromUtf8Lossy output.stdout) = .ok (some payload))
    (parsed : fromStr payload = .ok value) :
    classify fromStr output = .ok (.json value) := by
  rw [classify, success, extracted]
  change (match fromStr payload with
    | .ok v => Except.ok (Outcome.json v)
    | .error _ => Except.ok (Outcome.textOnly (fromUtf8Lossy output.stdout))) = _
  rw [parsed]

/-- What the bridge recovers of the output of a command. -/
structure Recovers (fromStr : Str → Except String Value) : Prop where
  payload : ∀ preamble pad json tail, Preamble preamble → (∀ c ∈ pad, isPad c = true) →
    (JsonGrammar .object json ∨ JsonGrammar .array json) → JsonGap tail →
    extractJsonPayload (preamble ++ pad ++ json ++ tail) = .ok (some (json ++ tail))
  nothing : ∀ stdout, extractJsonPayload stdout = .ok none ↔
    ∀ line ∈ splitInclusive stdout, beginsPayload line = false
  json : ∀ launch bin subcommand args output preamble pad json tail, launch bin subcommand args =
    .ok output → Preamble preamble → (∀ c ∈ pad, isPad c = true) →
      (JsonGrammar .object json ∨ JsonGrammar .array json) → JsonGap tail →
    fromUtf8Lossy output.stdout = preamble ++ pad ++ json ++ tail →
      ∃ value, fromStr json = .ok value ∧
      (runSubcommandWith fromStr launch bin subcommand args = .ok (.json value) ↔
        output.success = true)
  failed : ∀ launch bin subcommand args output, launch bin subcommand args = .ok output →
    output.success = false → ∃ reason, runSubcommandWith fromStr launch bin subcommand args =
      .ok (.failed output.code reason)

/-- The bridge recovers the text of an object or an array from behind any banner, for
every successful command. -/
theorem bridge_recovers (fromStr : Str → Except String Value)
    (reads : ReadsJson fromStr) : Recovers fromStr where
  payload := fun _ _ _ _ front blank composite gap =>
    (exists_payload_value reads front blank composite gap).1
  nothing := extractJsonPayload_eq_none_iff
  json := by
    intro launch bin subcommand args output preamble pad json tail launched front blank composite
      gap printed
    obtain ⟨extracted, value, parsed, payload⟩ :=
      exists_payload_value reads front blank composite gap
    refine ⟨value, parsed, ?_⟩
    rw [runSubcommandWith, launched]
    constructor
    · intro outcome
      by_contra unsuccessful
      obtain ⟨reason, failed⟩ := @classify_failed _ fromStr _ (Bool.eq_false_iff.mpr unsuccessful)
      rw [show classify fromStr output = .ok (.json value) from outcome] at failed
      cases failed
    · intro success
      exact classify_of_payload success (printed ▸ extracted) payload
  failed := by
    intro launch bin subcommand args output launched unsuccessful
    rw [runSubcommandWith, launched]
    exact classify_failed unsuccessful

open Classical in
/-- A reader that gives each JSON text back without the whitespace behind it. -/
noncomputable def verbatim (text : Str) : Except String Str :=
  if JsonText text then .ok (text.rdropWhile isJsonWhitespace) else .error "expected value"

theorem verbatim_readsJson : ReadsJson verbatim where
  accepts := by
    intro text
    unfold verbatim
    by_cases json : JsonText text
    · rw [if_pos json]
      exact iff_of_true ⟨_, rfl⟩ json
    · rw [if_neg json]
      exact iff_of_false (fun ⟨_, parsed⟩ => by cases parsed) json
  trailing := by
    intro text gap json blank
    have reversed : ∀ c ∈ gap.reverse, isJsonWhitespace c = true :=
      fun c member => blank c (List.mem_reverse.mp member)
    rw [verbatim, verbatim, if_pos (json.append_gap blank), if_pos json, List.rdropWhile,
      List.reverse_append, List.dropWhile_append_of_pos reversed]
    rfl

def banner : Str := "Gerät wlan0 – Messung läuft …\n\t fertig ✓\n".toList

def reading : Str := ['{', '"', 'ß', '"', ':', '[', ']', '}']

theorem banner_preamble : Preamble banner where
  ends := .inr (by decide +kernel)
  plain := by decide +kernel

theorem reading_object : JsonGrammar .object reading := by
  have name : JsonString ['"', 'ß', '"'] :=
    .quoted (.plain (by decide) (by decide) (by decide) .nil)
  have empty : JsonGrammar .value ['[', ']'] := .ofArray (.emptyArray .nil)
  exact .object (.member .nil name .nil .nil empty .nil)

/-- The object is found behind characters of two and three bytes and a byte order mark. -/
theorem bridge_recovers_verbatim :
    Recovers verbatim ∧
      extractJsonPayload (banner ++ ['\uFEFF', ' '] ++ reading ++ ['\n']) =
        .ok (some (reading ++ ['\n'])) := by
  have recovers := bridge_recovers verbatim verbatim_readsJson
  have blank : ∀ c ∈ ['\uFEFF', ' '], isPad c = true := List.all_eq_true.mp (by decide)
  have gap : JsonGap ['\n'] := List.forall_mem_singleton.mpr (by decide)
  exact ⟨recovers, recovers.payload banner _ reading _ banner_preamble blank
    (.inl reading_object) gap⟩

end Recovery

end FragglePacket.UiBridge
