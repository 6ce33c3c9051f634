import Mathlib.Data.List.AList
import FragglePacket.Text.Tokens

/-! The Prometheus text format 0.0.4: one record a line, with help texts in which a backslash
and a newline are escaped. -/

namespace FragglePacket.Text

/-- The blanks between the tokens of a record. -/
def isBlank (c : Char) : Bool := c == ' ' || c == '\t'

def isNameStart (c : Char) : Bool :=
  ('a' ≤ c && c ≤ 'z') || ('A' ≤ c && c ≤ 'Z') || c == '_' || c == ':'

def isNameChar (c : Char) : Bool := isNameStart c || isAsciiDigit c

/-- `[a-zA-Z_:][a-zA-Z0-9_:]*`. -/
def isMetricName : Str → Bool
  | [] => false
  | c :: rest => isNameStart c && rest.all isNameChar

/-- A help text without its escapes; a backslash in front of anything else is malformed. -/
def unescape : Str → Option Str
  | [] => some []
  | '\\' :: '\\' :: rest => (unescape rest).map ('\\' :: ·)
  | '\\' :: 'n' :: rest => (unescape rest).map ('\n' :: ·)
  | '\\' :: _ => none
  | c :: rest => (unescape rest).map (c :: ·)

structure MetricSample where
  name : Str
  labels : Str
  value : Str
  timestamp : Option Str
deriving DecidableEq

inductive MetricRecord where
  | help (name text : Str)
  | typed (name kind : Str)
  | sample (s : MetricSample)
  | comment

/-- The token in front of a text, and what follows it. -/
def nextToken (text : Str) : Str × Str :=
  let rest := text.dropWhile isBlank
  (rest.takeWhile fun c => !isBlank c, rest.dropWhile fun c => !isBlank c)

def helpKeyword : Str := ['H', 'E', 'L', 'P']

def typeKeyword : Str := ['T', 'Y', 'P', 'E']

def gaugeKind : Str := ['g', 'a', 'u', 'g', 'e']

def metricKinds : List Str :=
  ["counter".toList, gaugeKind, "histogram".toList, "summary".toList, "untyped".toList]

/-- The record of a line behind its number sign. The help text is all that follows
one blank behind the name. -/
def parseComment (text : Str) : Option MetricRecord :=
  let (keyword, after) := nextToken text
  let (name, behind) := nextToken after
  if keyword = helpKeyword then
    if isMetricName name then (unescape (behind.drop 1)).map (.help name) else none
  else if keyword = typeKeyword then
    let (kind, rest) := nextToken behind
    if isMetricName name ∧ kind ∈ metricKinds ∧ rest.all isBlank then some (.typed name kind)
    else none
  else some .comment

/-- The text of a label set up to its closing brace, which may stand in a quoted value. -/
def splitLabels (quoted : Bool) (taken : Str) : Str → Option (Str × Str)
  | [] => none
  | '\\' :: c :: rest => if quoted then splitLabels quoted (taken ++ ['\\', c]) rest else none
  | '"' :: rest => splitLabels (!quoted) (taken ++ ['"']) rest
  | '\x7d' :: rest =>
    if quoted then splitLabels quoted (taken ++ ['\x7d']) rest else some (taken, rest)
  | c :: rest => splitLabels quoted (taken ++ [c]) rest

def isTimestamp : Str → Bool
  | '-' :: digits => !digits.isEmpty && digits.all isAsciiDigit
  | digits => !digits.isEmpty && digits.all isAsciiDigit

/-- A value, and perhaps a timestamp. -/
def parseValue (name labels text : Str) : Option MetricRecord :=
  let (value, behind) := nextToken text
  let (timestamp, rest) := nextToken behind
  if value = [] ∨ ¬ rest.all isBlank then none
  else if timestamp = [] then some (.sample { name, labels, value, timestamp := none })
  else if isTimestamp timestamp then
    some (.sample { name, labels, value, timestamp := some timestamp })
  else none

def parseSample (line : Str) : Option MetricRecord :=
  let name := line.takeWhile isNameChar
  if isMetricName name then
    match line.dropWhile isNameChar with
    | '\x7b' :: rest =>
      (splitLabels false [] rest).bind fun (labels, behind) => parseValue name labels behind
    | c :: rest => if isBlank c then parseValue name [] rest else none
    | [] => none
  else none

def parseRecord (line : Str) : Option MetricRecord :=
  match line.dropWhile isBlank with
  | [] => some .comment
  | '#' :: rest => parseComment rest
  | body => parseSample body

/-- What the records read so far say of the metrics. -/
structure Exposition where
  helps : AList fun _ : Str => Str
  kinds : AList fun _ : Str => Str
  samples : List MetricSample

namespace Exposition

def empty : Exposition := { helps := ∅, kinds := ∅, samples := [] }

/-- One help and one kind for each name, the kind in front of its samples, and one sample for
each name with its labels. -/
def accept (exposition : Exposition) : MetricRecord → Option Exposition
  | .comment => some exposition
  | .help name text =>
    if name ∈ exposition.helps then none
    else some { exposition with helps := exposition.helps.insert name text }
  | .typed name kind =>
    if name ∈ exposition.kinds ∨ name ∈ exposition.samples.map (·.name) then none
    else some { exposition with kinds := exposition.kinds.insert name kind }
  | .sample s =>
    if (s.name, s.labels) ∈ exposition.samples.map (fun other => (other.name, other.labels)) then
      none
    else some { exposition with samples := exposition.samples ++ [s] }

def read (exposition : Exposition) : List Str → Option Exposition
  | [] => some exposition
  | line :: rest => ((parseRecord line).bind exposition.accept).bind fun next => read next rest

def parse (text : Str) : Option Exposition := empty.read (text.splitOn '\n')

end Exposition

section Unescape
variable {text result : Str}

theorem unescape_plain (plain : '\\' ∉ text) : unescape text = some text := by
  fun_induction unescape text with
  | case1 => rfl
  | case2 => exact absurd List.mem_cons_self plain
  | case3 => exact absurd List.mem_cons_self plain
  | case4 => exact absurd List.mem_cons_self plain
  | case5 c rest _ _ _ ih =>
    rw [ih fun member => plain (List.mem_cons_of_mem c member), Option.map_some]

/-- No text grows, and every escape makes it shorter. -/
theorem unescape_shorter (read : unescape text = some result) :
    result.length ≤ text.length ∧ ('\\' ∈ text → result.length < text.length) := by
  fun_induction unescape text generalizing result with
  | case1 =>
    obtain rfl := Option.some.inj read
    exact ⟨le_rfl, fun member => absurd member List.not_mem_nil⟩
  | case2 rest ih =>
    obtain ⟨inner, found, rfl⟩ := Option.map_eq_some_iff.mp read
    have shorter := (ih found).1
    simp only [List.length_cons]
    omega
  | case3 rest ih =>
    obtain ⟨inner, found, rfl⟩ := Option.map_eq_some_iff.mp read
    have shorter := (ih found).1
    simp only [List.length_cons]
    omega
  | case4 => cases read
  | case5 c rest _ _ other ih =>
    obtain ⟨inner, found, rfl⟩ := Option.map_eq_some_iff.mp read
    obtain ⟨shorter, strict⟩ := ih found
    have plain : c ≠ '\\' := other
    simp only [List.length_cons, List.mem_cons, plain.symm, false_or]
    exact ⟨by omega, fun member => by have := strict member; omega⟩

end Unescape

section Tokens
variable {token rest : Str}

/-- A token behind one blank, up to the next one. -/
theorem nextToken_solid (some : token ≠ []) (solid : ∀ c ∈ token, isBlank c = false)
    (ends : rest = [] ∨ ∃ c more, rest = c :: more ∧ isBlank c = true) :
    nextToken (' ' :: (token ++ rest)) = (token, rest) := by
  have start : (' ' :: (token ++ rest)).dropWhile isBlank = token ++ rest := by
    obtain ⟨c, more, rfl⟩ := List.exists_cons_of_ne_nil some
    rw [List.dropWhile_cons_of_pos (by decide), List.cons_append,
      List.dropWhile_cons_of_neg (by simp [solid c List.mem_cons_self])]
  have inside : ∀ c ∈ token, (!isBlank c) = true := fun c member => by rw [solid c member]; rfl
  have halts : rest.takeWhile (fun c => !isBlank c) = [] ∧
      rest.dropWhile (fun c => !isBlank c) = rest := by
    rcases ends with rfl | ⟨c, more, rfl, blank⟩
    · exact ⟨rfl, rfl⟩
    · simp [blank]
  rw [nextToken, start, List.takeWhile_append_of_pos inside, List.dropWhile_append_of_pos inside,
    halts.1, halts.2, List.append_nil]

theorem isBlank_of_nameChar {c : Char} (inName : isNameChar c = true) : isBlank c = false := by
  cases blank : isBlank c with
  | false => rfl
  | true =>
    rcases Bool.or_eq_true_iff.mp blank with same | same
    · rw [beq_iff_eq.mp same] at inName
      exact absurd inName (by decide)
    · rw [beq_iff_eq.mp same] at inName
      exact absurd inName (by decide)

theorem isBlank_of_solid {c : Char} (solid : isWhitespace c = false) : isBlank c = false := by
  cases blank : isBlank c with
  | false => rfl
  | true =>
    rcases Bool.or_eq_true_iff.mp blank with same | same
    · rw [beq_iff_eq.mp same] at solid
      exact absurd solid (by decide)
    · rw [beq_iff_eq.mp same] at solid
      exact absurd solid (by decide)

theorem metricName_chars {name : Str} (valid : isMetricName name = true) :
    name ≠ [] ∧ ∀ c ∈ name, isNameChar c = true := by
  cases name with
  | nil => cases valid
  | cons c rest =>
    obtain ⟨start, others⟩ := Bool.and_eq_true_iff.mp valid
    refine ⟨List.cons_ne_nil c rest, List.forall_mem_cons.mpr ⟨?_, List.all_eq_true.mp others⟩⟩
    rw [isNameChar, start, Bool.true_or]

end Tokens

section Records
variable {name : Str}

/-- The line of a help text. -/
def helpLine (name text : Str) : Str := '#' :: ' ' :: (helpKeyword ++ ' ' :: (name ++ ' ' :: text))

def gaugeLine (name : Str) : Str := '#' :: ' ' :: (typeKeyword ++ ' ' :: (name ++ ' ' :: gaugeKind))

def sampleLine (name value : Str) : Str := name ++ ' ' :: value

theorem parseRecord_number_sign (text : Str) : parseRecord ('#' :: text) = parseComment text := rfl

theorem nextToken_name {token : Str} (valid : isMetricName token = true) (rest : Str) :
    nextToken (' ' :: (token ++ ' ' :: rest)) = (token, ' ' :: rest) := by
  obtain ⟨written, chars⟩ := metricName_chars valid
  exact nextToken_solid written (fun c member => isBlank_of_nameChar (chars c member))
    (Or.inr ⟨' ', rest, rfl, by decide⟩)

theorem parseRecord_helpLine (valid : isMetricName name = true) (text : Str) :
    parseRecord (helpLine name text) = (unescape text).map (.help name) := by
  have keyword : nextToken (' ' :: (helpKeyword ++ ' ' :: (name ++ ' ' :: text))) =
      (helpKeyword, ' ' :: (name ++ ' ' :: text)) :=
    nextToken_name (by decide) _
  have named : nextToken (' ' :: (name ++ ' ' :: text)) = (name, ' ' :: text) :=
    nextToken_name valid text
  simp only [helpLine, parseRecord_number_sign, parseComment, keyword, named, if_true, valid,
    List.drop_succ_cons, List.drop_zero]

theorem parseRecord_gaugeLine (valid : isMetricName name = true) :
    parseRecord (gaugeLine name) = some (.typed name gaugeKind) := by
  have keyword : nextToken (' ' :: (typeKeyword ++ ' ' :: (name ++ ' ' :: gaugeKind))) =
      (typeKeyword, ' ' :: (name ++ ' ' :: gaugeKind)) := nextToken_name (by decide) _
  have named : nextToken (' ' :: (name ++ ' ' :: gaugeKind)) = (name, ' ' :: gaugeKind) :=
    nextToken_name valid gaugeKind
  have kind : nextToken (' ' :: gaugeKind) = (gaugeKind, []) := by decide
  have other : ¬ typeKeyword = helpKeyword := by decide
  have known : gaugeKind ∈ metricKinds := by decide
  simp only [gaugeLine, parseRecord_number_sign, parseComment, keyword, named, kind, if_neg other,
    if_true, valid, known, List.all_nil, and_self]

theorem parseValue_token {labels value : Str} (token : Token value) :
    parseValue name labels (' ' :: value) =
      some (.sample { name, labels, value, timestamp := none }) := by
  have solid : ∀ c ∈ value, isBlank c = false := fun c member => isBlank_of_solid (token.2 c member)
  have first : nextToken (' ' :: value) = (value, []) := by
    have found := nextToken_solid token.1 solid (Or.inl rfl)
    rwa [List.append_nil] at found
  have last : nextToken [] = ([], []) := rfl
  simp only [parseValue, first, last, token.1, List.all_nil, not_true_eq_false, or_self,
    if_false, if_true]

theorem parseRecord_sampleLine (valid : isMetricName name = true) {value : Str}
    (token : Token value) :
    parseRecord (sampleLine name value) =
      some (.sample { name, labels := [], value, timestamp := none }) := by
  obtain ⟨written, chars⟩ := metricName_chars valid
  have taken : (sampleLine name value).takeWhile isNameChar = name := by
    rw [sampleLine, List.takeWhile_append_of_pos chars, List.takeWhile_cons_of_neg (by decide),
      List.append_nil]
  have dropped : (sampleLine name value).dropWhile isNameChar = ' ' :: value := by
    rw [sampleLine, List.dropWhile_append_of_pos chars, List.dropWhile_cons_of_neg (by decide)]
  have parsed : parseSample (sampleLine name value) = parseValue name [] (' ' :: value) := by
    rw [parseSample, taken, dropped, if_pos valid]
    exact if_pos (by decide)
  rw [← parseValue_token token, ← parsed]
  -- a name begins neither with a blank nor with a number sign
  obtain ⟨c, rest, rfl⟩ := List.exists_cons_of_ne_nil written
  have first := chars c List.mem_cons_self
  have plain : c ≠ '#' := fun same => absurd (same ▸ first) (by decide)
  rw [parseRecord, sampleLine, List.cons_append,
    List.dropWhile_cons_of_neg (by simp [isBlank_of_nameChar first])]
  split
  · next empty => cases empty
  · next begins => exact absurd (List.cons.inj begins).1 plain
  · rfl

end Records

section Reading
variable {exposition next final : Exposition} {name text : Str}

namespace Exposition

theorem read_append (exposition : Exposition) (front back : List Str) :
    exposition.read (front ++ back) = (exposition.read front).bind fun next => next.read back := by
  induction front generalizing exposition with
  | nil => rfl
  | cons line front ih =>
    rw [List.cons_append, read, read]
    cases (parseRecord line).bind exposition.accept with
    | none => rfl
    | some next => exact ih next

theorem accept_keeps_help {record : MetricRecord} (accepted : exposition.accept record = some next)
    (present : exposition.helps.lookup name = some text) : next.helps.lookup name = some text := by
  cases record with
  | comment => exact Option.some.inj accepted ▸ present
  | help other added =>
    simp only [accept] at accepted
    split at accepted
    · cases accepted
    · next absent =>
      obtain rfl := Option.some.inj accepted
      have different : name ≠ other :=
        fun same => absent (AList.lookup_isSome.mp (by rw [← same, present]; rfl))
      rw [AList.lookup_insert_ne different, present]
  | typed other kind =>
    simp only [accept] at accepted
    split at accepted
    · cases accepted
    · exact Option.some.inj accepted ▸ present
  | sample s =>
    simp only [accept] at accepted
    split at accepted
    · cases accepted
    · exact Option.some.inj accepted ▸ present

theorem read_cons {line : Str} {rest : List Str}
    (done : exposition.read (line :: rest) = some final) :
    ∃ record next, parseRecord line = some record ∧ exposition.accept record = some next ∧
      next.read rest = some final := by
  obtain ⟨next, stepped, later⟩ := Option.bind_eq_some_iff.mp done
  obtain ⟨record, parsed, accepted⟩ := Option.bind_eq_some_iff.mp stepped
  exact ⟨record, next, parsed, accepted, later⟩

theorem read_keeps_help {rest : List Str} (done : exposition.read rest = some final)
    (present : exposition.helps.lookup name = some text) : final.helps.lookup name = some text := by
  induction rest generalizing exposition with
  | nil => exact Option.some.inj done ▸ present
  | cons line rest ih =>
    obtain ⟨record, next, -, accepted, later⟩ := read_cons done
    exact ih later (accept_keeps_help accepted present)

/-- Every line of an accepted text is a record, and a help text is the one of its metric. -/
theorem help_of_read {line : Str} {content : List Str} (done : exposition.read content = some final)
    (listed : line ∈ content) : ∃ record, parseRecord line = some record ∧
      ∀ name text, record = .help name text → final.helps.lookup name = some text := by
  induction content generalizing exposition with
  | nil => cases listed
  | cons first rest ih =>
    obtain ⟨record, next, parsed, accepted, later⟩ := read_cons done
    rcases List.mem_cons.mp listed with rfl | behind
    · refine ⟨record, parsed, ?_⟩
      rintro name text rfl
      simp only [accept] at accepted
      split at accepted
      · cases accepted
      · obtain rfl := Option.some.inj accepted
        exact read_keeps_help later (AList.lookup_insert _)
    · exact ih later behind

end Exposition

end Reading

section Pieces
variable {content : List Str} {piece text : Str}

theorem splitOn_unlines (single : ∀ line ∈ content, '\n' ∉ line) :
    (unlines content).splitOn '\n' = content ++ [[]] := by
  induction content with
  | nil => rfl
  | cons line content ih =>
    rw [unlines_cons, List.splitOn_append_cons_self_of_not_mem (single line List.mem_cons_self),
      ih fun later member => single later (List.mem_cons_of_mem line member), List.cons_append]

/-- The lines behind whole lines are lines of the text. -/
theorem mem_splitOn_unlines_append (content : List Str) (listed : piece ∈ text.splitOn '\n') :
    piece ∈ (unlines content ++ text).splitOn '\n' := by
  induction content with
  | nil => exact listed
  | cons line content ih =>
    rw [unlines_cons, List.append_assoc, List.cons_append, List.splitOn_append_cons_self]
    exact List.mem_append_right _ ih

theorem newline_not_mem_name {name : Str} (valid : isMetricName name = true) : '\n' ∉ name :=
  fun member => absurd ((metricName_chars valid).2 '\n' member) (by decide)

theorem newline_not_mem_helpLine {name : Str} (valid : isMetricName name = true)
    (single : '\n' ∉ text) :
    '\n' ∉ helpLine name text := by
  have keyword : '\n' ∉ helpKeyword := by decide
  simp only [helpLine, List.mem_cons, List.mem_append, keyword, newline_not_mem_name valid, single,
    or_false]
  decide

/-- A help text with a newline ends its line there. -/
theorem mem_splitOn_helpLine {name : Str} (valid : isMetricName name = true) (help rest : Str) :
    helpLine name (help.takeWhile (· ≠ '\n')) ∈
      (helpLine name help ++ '\n' :: rest).splitOn '\n' := by
  have front : '\n' ∉ help.takeWhile (· ≠ '\n') := by
    intro member
    have other := List.mem_takeWhile_imp member
    simp at other
  have ends : ∃ more, help.dropWhile (· ≠ '\n') ++ '\n' :: rest = '\n' :: more := by
    cases tail : help.dropWhile (· ≠ '\n') with
    | nil => exact ⟨rest, rfl⟩
    | cons c more =>
      have halt := List.head?_dropWhile_not (· ≠ '\n') help
      rw [tail] at halt
      have newline : c = '\n' := by simpa using halt
      exact ⟨more ++ '\n' :: rest, by rw [newline, List.cons_append]⟩
  have laid : helpLine name help ++ '\n' :: rest =
      helpLine name (help.takeWhile (· ≠ '\n')) ++ (help.dropWhile (· ≠ '\n') ++ '\n' :: rest) := by
    simp only [helpLine, List.cons_append, List.append_assoc]
    rw [← List.append_assoc (help.takeWhile _), List.takeWhile_append_dropWhile]
  obtain ⟨others, split⟩ := splitOn_first (newline_not_mem_helpLine valid front) (Or.inr ends)
  rw [laid, split]
  exact List.mem_cons_self

end Pieces

end FragglePacket.Text
