import FragglePacket.Lists.Sections
import FragglePacket.Lists.WithPast
import FragglePacket.Systems.Machine
import FragglePacket.Text.Fields

/-! Extraction of the lines that stand in the allowed sections of a report. -/

namespace FragglePacket.Redact

open FragglePacket.Text FragglePacket.Lists FragglePacket.Systems

structure SectionAllowlist where
  allowedSections : List Str

namespace SectionAllowlist

/-- The test for a header, which the loop makes of lines that are not blank. -/
def isHeader (rawLine : Str) : Bool := rawLine.head? != some ' ' && !(trim rawLine).contains ':'

/-- What a line does to `current_allowed`, and the line that the callback is called with. -/
def visit (allowlist : SectionAllowlist) (currentAllowed : Bool)
    (rawLine : Str) : Bool × Option Str :=
  let trimmed := trim rawLine
  if trimmed.isEmpty then (currentAllowed, none)
  else if isHeader rawLine then (allowlist.allowedSections.contains trimmed, none)
  else (currentAllowed, if currentAllowed then some trimmed else none)

/-- What the callback receives at each line of the text. -/
def received (allowlist : SectionAllowlist) (text : Str) : List (Option Str) :=
  answers allowlist.visit false (lines text)

/-- The lines that the callback is called with, in order. -/
def extractFields (allowlist : SectionAllowlist) (text : Str) : List Str :=
  (allowlist.received text).filterMap id

end SectionAllowlist

/-- A header as the documentation has it: a line that starts at column 0 and has no colon. -/
def documentedHeader (line : Str) : Bool :=
  (line.head?.any fun c => !isWhitespace c) && !line.contains ':'

namespace SectionAllowlist

variable (allowlist : SectionAllowlist)

/-- The name of the header is allowed. -/
def opens (header : Str) : Bool := allowlist.allowedSections.contains (trim header)

/-- What the callback is to receive at a line: the line without the blanks around it, where it
is neither blank nor a header and stands in an allowed section. -/
def documentedField (before : List Str) (line : Str) : Option Str :=
  if !(trim line).isEmpty && !documentedHeader line &&
    sectionOpen documentedHeader allowlist.opens before then
    some (trim line)
  else none

/-- The lines that the callback is to be called with, in order. -/
def documentedFields (text : Str) : List Str := withPast allowlist.documentedField (lines text)

/-- The callback receives at every line what it is to receive there. -/
def DeliversExactly (text : Str) : Prop :=
  ∀ before line after, lines text = before ++ line :: after →
    (allowlist.received text)[before.length]? = some (allowlist.documentedField before line)

end SectionAllowlist

/-- A line that is not blank, with no colon, behind a blank at column 0 that is no space. -/
def isStray (line : Str) : Bool :=
  !(trim line).isEmpty && SectionAllowlist.isHeader line && !documentedHeader line

/-- A line that is neither blank nor a header to the loop. -/
def isField (line : Str) : Bool := !(trim line).isEmpty && !SectionAllowlist.isHeader line

/-- No stray line stands in an allowed section, nor does one whose own text is allowed have a
field line next. -/
def SectionAllowlist.StraysHarmless (allowlist : SectionAllowlist) (text : Str) : Prop :=
  ∀ before stray after, lines text = before ++ stray :: after → isStray stray = true →
    sectionOpen documentedHeader allowlist.opens before = false ∧
      (allowlist.opens stray = true → ∀ quiet field rest, after = quiet ++ field :: rest →
        (∀ line ∈ quiet, (trim line).isEmpty = true) → isField field = false)

namespace SectionAllowlist

section Loop

/-- The lines that set `current_allowed`. -/
def entersSection (line : Str) : Bool := !(trim line).isEmpty && isHeader line

variable {allowlist : SectionAllowlist} {line : Str}

theorem visit_eq (currentAllowed : Bool) : allowlist.visit currentAllowed line =
    (if entersSection line then allowlist.opens line else currentAllowed,
      if isField line && currentAllowed then some (trim line) else none) := by
  cases blank : (trim line).isEmpty <;> cases header : isHeader line <;>
    simp [visit, entersSection, isField, opens, blank, header]

/-- The loop is in the section of the last line that entered one. -/
theorem currentAllowed_eq (before : List Str) :
    stateAfter allowlist.visit false before = sectionOpen entersSection allowlist.opens before := by
  let Holds (past : List Str) (state : Bool) : Prop :=
    state = sectionOpen entersSection allowlist.opens past
  have initially : Holds [] false := rfl
  refine stateAfter_holds initially (fun past state line holds => ?_) before
  change (allowlist.visit state line).1 = _
  rw [visit_eq]
  cases enters : entersSection line with
  | true =>
    rw [sectionOpen_header enters]
    rfl
  | false =>
    rw [sectionOpen_other enters]
    exact holds

theorem received_getElem? {text : Str} {before after : List Str}
    (split : lines text = before ++ line :: after) :
    (allowlist.received text)[before.length]? =
      some (if isField line && sectionOpen entersSection allowlist.opens before
        then some (trim line) else none) := by
  rw [received, split, answers_getElem?, currentAllowed_eq, visit_eq]

end Loop

section Headers

variable {line : Str}

theorem documentedHeader_enters (header : documentedHeader line = true) :
    entersSection line = true := by
  obtain ⟨begins, colonless⟩ := Bool.and_eq_true_iff.mp header
  obtain ⟨first, atStart, solid⟩ := (Option.any_eq_true _ _).mp begins
  have firstSolid : isWhitespace first = false := by simpa using solid
  have inTrim := mem_trim (List.mem_of_head? atStart) firstSolid
  have notSpace : first ≠ ' ' := by
    rintro rfl
    exact absurd firstSolid (by decide)
  have noColon : ':' ∉ trim line := fun member => by
    simp [mem_of_mem_trim member] at colonless
  have kept : trim line ≠ [] := List.ne_nil_of_mem inTrim
  simp [entersSection, isHeader, atStart, notSpace, noColon, kept]

theorem isStray_iff :
    isStray line = true ↔ entersSection line = true ∧ documentedHeader line = false := by
  rw [isStray, entersSection, Bool.and_eq_true, Bool.not_eq_true']

theorem isField_iff :
    isField line = true ↔ (trim line).isEmpty = false ∧ entersSection line = false := by
  cases blank : (trim line).isEmpty <;> simp [isField, entersSection, blank]

/-- A line that enters no section is a field line or blank. -/
theorem plain_cases (plain : entersSection line = false) :
    isField line = true ∨ (trim line).isEmpty = true := by
  cases blank : (trim line).isEmpty with
  | true => exact .inr rfl
  | false => exact .inl (isField_iff.mpr ⟨blank, plain⟩)

theorem not_blank (enters : entersSection line = true) : (trim line).isEmpty = false := by
  cases blank : (trim line).isEmpty with
  | false => rfl
  | true => simp [entersSection, blank] at enters

theorem not_field (enters : entersSection line = true) : isField line = false := by
  cases field : isField line with
  | false => rfl
  | true => exact enters.symm.trans (isField_iff.mp field).2

theorem not_documented (plain : entersSection line = false) : documentedHeader line = false := by
  cases documented : documentedHeader line with
  | false => rfl
  | true => exact (documentedHeader_enters documented).symm.trans plain

end Headers

section Delivery

variable {allowlist : SectionAllowlist} {text : Str}

/-- Behind lines that enter no section, the first line that is not blank is a field line. -/
theorem exists_next_field {later : List Str} (after : List Str) {line : Str}
    (plain : ∀ line ∈ later, entersSection line = false) (field : isField line = true) :
    ∃ quiet next rest, later ++ line :: after = quiet ++ next :: rest ∧
      (∀ line ∈ quiet, (trim line).isEmpty = true) ∧ isField next = true := by
  induction later with
  | nil => exact ⟨[], line, after, rfl, by simp, field⟩
  | cons first later ih =>
    rcases plain_cases (plain first List.mem_cons_self) with here | blank
    · exact ⟨[], first, later ++ line :: after, rfl, by simp, here⟩
    · obtain ⟨quiet, next, rest, split, quietBlank, nextField⟩ :=
        ih fun other member => plain other (List.mem_cons_of_mem first member)
      exact ⟨first :: quiet, next, rest, by simp [split],
        List.forall_mem_cons.mpr ⟨blank, quietBlank⟩, nextField⟩

/-- At a field line the loop is in a section that is allowed just when the documentation is. -/
theorem sections_agree (harmless : allowlist.StraysHarmless text) {before after : List Str}
    {line : Str} (split : lines text = before ++ line :: after) (field : isField line = true) :
    sectionOpen entersSection allowlist.opens before =
      sectionOpen documentedHeader allowlist.opens before := by
  rcases exists_last_header entersSection before with none |
    ⟨earlier, header, later, rfl, enters, plain⟩
  · have undocumented : ∀ line ∈ before, documentedHeader line = false :=
      fun line member => not_documented (none line member)
    rw [← List.nil_append before, sectionOpen_append none, sectionOpen_append undocumented]
    rfl
  · have undocumented : ∀ line ∈ later, documentedHeader line = false :=
      fun line member => not_documented (plain line member)
    rw [sectionOpen_behind enters plain]
    cases documented : documentedHeader header with
    | true => rw [sectionOpen_behind documented undocumented]
    | false =>
      -- the header is a stray line, so the section that the documentation sees is shut
      have whole : lines text = earlier ++ header :: (later ++ line :: after) := by simp [split]
      obtain ⟨shut, leads⟩ := harmless earlier header _ whole (isStray_iff.mpr ⟨enters, documented⟩)
      rw [sectionOpen_append (List.forall_mem_cons.mpr ⟨documented, undocumented⟩), shut]
      obtain ⟨quiet, next, rest, follows, quietBlank, nextField⟩ :=
        exists_next_field after plain field
      cases allowed : allowlist.opens header with
      | false => rfl
      | true => exact nextField.symm.trans (leads allowed quiet next rest follows quietBlank)

theorem deliversExactly_of_harmless (harmless : allowlist.StraysHarmless text) :
    allowlist.DeliversExactly text := by
  intro before line after split
  rw [received_getElem? split, documentedField]
  congr 1
  cases enters : entersSection line with
  | true =>
    cases documented : documentedHeader line with
    | true => simp [not_field enters]
    | false =>
      have shut := (harmless before line after split (isStray_iff.mpr ⟨enters, documented⟩)).1
      simp [not_field enters, shut]
  | false =>
    have undocumented := not_documented enters
    rcases plain_cases enters with field | blank
    · rw [sections_agree harmless split field]
      simp [field, undocumented, (isField_iff.mp field).1]
    · simp [isField, blank]

theorem harmless_of_deliversExactly (exactly : allowlist.DeliversExactly text) :
    allowlist.StraysHarmless text := by
  intro before stray after split isStray
  obtain ⟨enters, undocumented⟩ := isStray_iff.mp isStray
  have agrees {earlier later : List Str} {line : Str}
      (split : lines text = earlier ++ line :: later) :=
    Option.some.inj ((received_getElem? split).symm.trans (exactly earlier line later split))
  have shut : sectionOpen documentedHeader allowlist.opens before = false := by
    have here := agrees split
    cases opened : sectionOpen documentedHeader allowlist.opens before with
    | false => rfl
    | true =>
      simp [documentedField, not_field enters, not_blank enters, undocumented, opened] at here
  refine ⟨shut, fun allowed quiet field rest follows quietBlank => ?_⟩
  have whole : lines text = (before ++ stray :: quiet) ++ field :: rest := by simp [split, follows]
  have there := agrees whole
  have plain : ∀ line ∈ quiet, entersSection line = false := by
    intro line member
    simp [entersSection, quietBlank line member]
  have undocumentedSince : ∀ line ∈ stray :: quiet, documentedHeader line = false :=
    List.forall_mem_cons.mpr ⟨undocumented, fun line member => not_documented (plain line member)⟩
  rw [sectionOpen_behind enters plain, allowed, documentedField,
    sectionOpen_append undocumentedSince, shut] at there
  cases isField : isField field with
  | false => rfl
  | true => simp [isField] at there

theorem received_length (allowlist : SectionAllowlist) (text : Str) :
    (allowlist.received text).length = (lines text).length :=
      answers_length allowlist.visit false (lines text)

/-- Where each line is delivered as documented, so is the whole text, in its order. -/
theorem extractFields_eq (exactly : allowlist.DeliversExactly text) :
    allowlist.extractFields text = allowlist.documentedFields text := by
  have same : allowlist.received text =
      (lines text).zipIdx.map fun entry => allowlist.documentedField
        ((lines text).take entry.2) entry.1 := by
    refine List.ext_getElem (by simp [received_length]) fun place here there => ?_
    have inText : place < (lines text).length := by simpa [received_length] using here
    have split : lines text = (lines text).take place ++ (lines text)[place] ::
        (lines text).drop (place + 1) := by simp
    have delivered := exactly _ _ _ split
    rw [List.length_take, Nat.min_eq_left (Nat.le_of_lt inText), List.getElem?_eq_getElem here]
      at delivered
    simpa using Option.some.inj delivered
  rw [extractFields, same, documentedFields, withPast, List.filterMap_map]
  rfl

/-- The callback receives at every line what the documentation says exactly when no stray line
is taken for the header of something. -/
theorem deliversExactly_iff (allowlist : SectionAllowlist) (text : Str) :
    (allowlist.DeliversExactly text ↔ allowlist.StraysHarmless text) ∧
      (allowlist.StraysHarmless text →
        allowlist.extractFields text = allowlist.documentedFields text) :=
  ⟨⟨harmless_of_deliversExactly, deliversExactly_of_harmless⟩,
    fun harmless => extractFields_eq (deliversExactly_of_harmless harmless)⟩

def exampleReport : Str := "BLUETOOTH\n\tWIFI\n  Address : 11:22:33:44:55:66\n".toList

/-- A line of the Bluetooth section reaches the callback of an allowlist for Wi-Fi. -/
theorem tab_opens_section :
    (SectionAllowlist.mk ["WIFI".toList]).extractFields exampleReport =
      ["Address : 11:22:33:44:55:66".toList] ∧
      (SectionAllowlist.mk ["WIFI".toList]).documentedFields exampleReport = [] ∧
      ¬ (SectionAllowlist.mk ["WIFI".toList]).DeliversExactly exampleReport := by
  refine ⟨by decide, by decide, fun exactly => ?_⟩
  have leaked := extractFields_eq exactly
  revert leaked
  decide

end Delivery

end SectionAllowlist

end FragglePacket.Redact
