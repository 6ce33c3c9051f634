import Mathlib.Data.Finset.Card
import Mathlib.Data.Finset.Dedup
import FragglePacket.Net.DottedQuad
import FragglePacket.Text.Tokens

/-! The hops that a `traceroute` output lists, and the loops seen among them. -/

namespace FragglePacket.NetworkTests

open FragglePacket.Text FragglePacket.Net

structure Hop where
  addr : Str
  rttMs : F64
  timeout : Bool
deriving DecidableEq

/-- The hop of a line `n * * *`. -/
def silentHop : Hop := { addr := ['*'], rttMs := .finite 0, timeout := true }

def isParenthesis (c : Char) : Bool := c == '(' || c == ')'

/-- The scan over the parts of a hop line, from the first part or behind it, with
the address found so far. -/
def scanParts (first : Bool) (addr : Str) : List Str → Str × F64
  | [] => (addr, .finite 0)
  | part :: rest =>
    let addr := if '.' ∈ part ∧ ¬ ['m', 's'] <:+ part then trimMatches isParenthesis part else addr
    if ¬ first ∧ rest.head? = some ['m', 's'] then (addr, (parseF64 part).getD (.finite 0))
    else scanParts false addr rest

/-- The hop of a line, if it holds one. -/
def parseHop (line : Str) : Option Hop :=
  let line := trim line
  if line.isEmpty || "traceroute".toList.isPrefixOf line ||
    "tracepath".toList.isPrefixOf line then none
  else if contains line "* * *".toList then some silentHop
  else
    let parts := splitWhitespace line
    if parts.length < 3 then none
    else
      let (addr, rttMs) := scanParts true [] parts
      if addr.isEmpty then none else some { addr, rttMs, timeout := false }

def parseTraceroute (output : Str) : List Hop := (lines output).filterMap parseHop

/-- The routing-loop test: fewer addresses than hops that answered. -/
def possibleRoutingLoop (hops : List Hop) : Bool :=
  let answered := hops.filter fun hop => !hop.timeout
  (answered.map (·.addr)).toFinset.card < answered.length

section Output

/-- What a hop reports. -/
inductive HopReport where
  | answered (host : Str) (ip : Ipv4Addr) (r1 r2 r3 : DecimalNumber)
  | silent

/-- The lines that report hop `n`, with any blanks around and between their fields. -/
inductive HopLine (n : Nat) : HopReport → Str → Prop
  | answered {line host : Str} {ip : Ipv4Addr} {r1 r2 r3 : DecimalNumber}
      (fields : splitWhitespace line = [Nat.toDigits 10 n, host, '(' :: ip.text ++ [')'],
        r1.text, ['m', 's'], r2.text, ['m', 's'], r3.text, ['m', 's']]) :
      HopLine n (.answered host ip r1 r2 r3) line
  | silent {front gap back : Str} (white : ∀ c ∈ front ++ gap ++ back, isWhitespace c = true) :
      HopLine n .silent (front ++ (Nat.toDigits 10 n ++ gap ++ "* * *".toList ++ back))

/-- A line for each hop in order, the first with that number. -/
inductive HopLines : Nat → List HopReport → List Str → Prop
  | done {n : Nat} : HopLines n [] []
  | more {n : Nat} {report : HopReport} {line : Str} {reports : List HopReport} {rest : List Str}
      (first : HopLine n report line) (others : HopLines (n + 1) reports rest) :
      HopLines n (report :: reports) (line :: rest)

def TracerouteHeader (line : Str) : Prop :=
  "traceroute".toList.isPrefixOf (trim line) = true ∨
    "tracepath".toList.isPrefixOf (trim line) = true

/-- A header line, and the lines of the hops from the first on. -/
def Traceroute (reports : List HopReport) (output : Str) : Prop :=
  ∃ header hopLines, lines output = header :: hopLines ∧ TracerouteHeader header ∧
    HopLines 1 reports hopLines

/-- The hop as reported. -/
def HopReport.hop : HopReport → Hop
  | answered _ ip r1 _ _ => { addr := ip.text, rttMs := .finite r1.value, timeout := false }
  | silent => silentHop

/-- The hop as read: a time with a point takes the address's place. -/
def HopReport.read : HopReport → Hop
  | answered _ ip r1 _ _ =>
    { addr := if r1.fraction = [] then ip.text else r1.text, rttMs := .finite r1.value,
      timeout := false }
  | silent => silentHop

theorem parseHop_header {line : Str} (header : TracerouteHeader line) : parseHop line = none := by
  have skipped : ((trim line).isEmpty || "traceroute".toList.isPrefixOf (trim line) ||
      "tracepath".toList.isPrefixOf (trim line)) = true := by
    rcases header with header | header
    · rw [header, Bool.or_true, Bool.true_or]
    · rw [header, Bool.or_true]
  exact if_pos skipped

/-- A line whose first field begins with a digit is not skipped. -/
theorem parseHop_numbered {line more : Str} {digit : Char} {fields : List Str}
    (numeric : isAsciiDigit digit = true)
    (begins : splitWhitespace line = (digit :: more) :: fields) :
    ((trim line).isEmpty || "traceroute".toList.isPrefixOf (trim line) ||
      "tracepath".toList.isPrefixOf (trim line)) = false := by
  obtain ⟨rest, trimmed⟩ := exists_trim_cons begins
  have plain : digit ≠ 't' := by
    rintro rfl
    exact absurd numeric (by decide)
  rw [trimmed]
  simp [List.isPrefixOf, plain.symm]

theorem exists_digit (n : Nat) :
    ∃ digit digits, Nat.toDigits 10 n = digit :: digits ∧ isAsciiDigit digit = true := by
  obtain ⟨digit, digits, number⟩ :=
    List.exists_cons_of_ne_nil (Nat.toDigits_ne_nil (b := 10) (n := n))
  exact ⟨digit, digits, number, toDigits_isAsciiDigit n digit (number ▸ List.mem_cons_self)⟩

theorem parseHop_silent {n : Nat} {front gap back : Str}
    (white : ∀ c ∈ front ++ gap ++ back, isWhitespace c = true) :
    parseHop (front ++ (Nat.toDigits 10 n ++ gap ++ "* * *".toList ++ back)) = some silentHop := by
  obtain ⟨digit, digits, number, numeric⟩ := exists_digit n
  have opens : ∀ c ∈ front, isWhitespace c = true := fun c member =>
    white c (List.mem_append_left back (List.mem_append_left gap member))
  have closes : ∀ c ∈ back, isWhitespace c = true :=
    fun c member => white c (List.mem_append_right _ member)
  have solid := not_whitespace_of_digit numeric
  have shape : Nat.toDigits 10 n ++ gap ++ "* * *".toList =
      digit :: (digits ++ gap ++ "* * ".toList ++ ['*']) := by
    rw [number]
    simp
  have trimmed : trim (front ++ (Nat.toDigits 10 n ++ gap ++ "* * *".toList ++ back)) =
      Nat.toDigits 10 n ++ gap ++ "* * *".toList :=
    calc trimMatches isWhitespace (front ++ (Nat.toDigits 10 n ++ gap ++ "* * *".toList ++ back))
      _ = trimMatches isWhitespace (Nat.toDigits 10 n ++ gap ++ "* * *".toList) :=
        trimMatches_wrapped opens closes
      _ = Nat.toDigits 10 n ++ gap ++ "* * *".toList := by
        rw [shape]
        exact trimMatches_solid solid (by decide)
  obtain ⟨more, fields, begins⟩ :=
    splitWhitespace_cons (digits ++ gap ++ "* * ".toList ++ ['*']) solid
  have opened : splitWhitespace (front ++ (Nat.toDigits 10 n ++ gap ++ "* * *".toList ++ back)) =
      (digit :: more) :: fields := by
    rw [← splitWhitespace_trim, trimmed, shape, begins]
  have numbered := parseHop_numbered numeric opened
  have stars : contains (Nat.toDigits 10 n ++ gap ++ "* * *".toList) "* * *".toList = true :=
    contains_iff_infix.mpr ⟨Nat.toDigits 10 n ++ gap, [], by rw [List.append_nil]⟩
  rw [trimmed] at numbered
  simp only [parseHop, trimmed, numbered, Bool.false_eq_true, if_false, stars, if_true]

section Answered
variable {n : Nat} {line host : Str} {ip : Ipv4Addr} {r1 r2 r3 : DecimalNumber}

theorem decimal_ne {word : Str} (other : ∃ c ∈ word, isAsciiDigit c = false ∧ c ≠ '.')
    (number : DecimalNumber) :
    number.text ≠ word := by
  rintro rfl
  obtain ⟨c, member, notDigit, notPoint⟩ := other
  rcases number.mem_text member with digit | point
  · rw [notDigit] at digit
    cases digit
  · exact notPoint point

/-- Only the host can be a star, and no star stands in front of it. -/
theorem not_contains_stars
    (fields : splitWhitespace line = [Nat.toDigits 10 n, host, '(' :: ip.text ++ [')'],
    r1.text, ['m', 's'], r2.text, ['m', 's'], r3.text, ['m', 's']]) : contains
      (trim line) "* * *".toList = false := by
  by_contra found
  rw [Bool.not_eq_false, contains_iff_infix] at found
  obtain ⟨front, back, laid⟩ := found
  have stars : splitWhitespace line =
      splitWhitespace (front ++ ['*']) ++ ['*'] :: splitWhitespace ('*' :: back) := by
    rw [← splitWhitespace_trim, laid]
    have first := splitWhitespace_append_blank (front ++ ['*']) ("* *".toList ++ back)
      (by decide : isWhitespace ' ' = true)
    have second := splitWhitespace_append_blank ['*'] ('*' :: back)
      (by decide : isWhitespace ' ' = true)
    calc splitWhitespace (front ++ ("* * *".toList ++ back))
      _ = splitWhitespace (front ++ ['*'] ++ ' ' :: ("* *".toList ++ back)) := by simp
      _ = splitWhitespace (front ++ ['*']) ++ splitWhitespace (['*'] ++ ' ' :: '*' :: back) := first
      _ = splitWhitespace (front ++ ['*']) ++ ['*'] :: splitWhitespace ('*' :: back) := by
        rw [second]; rfl
  obtain ⟨field, inFront, star⟩ : ∃ field ∈ splitWhitespace (front ++ ['*']), '*' ∈ field :=
    mem_splitWhitespace.mpr
      ⟨List.mem_append_right _ List.mem_cons_self, by decide⟩
  have starred (number : DecimalNumber) : number.text ≠ ['*'] :=
    decimal_ne ⟨'*', List.mem_cons_self, by decide, by decide⟩ number
  rw [fields] at stars
  rcases before : splitWhitespace (front ++ ['*']) with _ | ⟨number, _ | ⟨name, others⟩⟩
  · rw [before] at inFront
    cases inFront
  · rw [before] at inFront stars
    rw [List.mem_singleton.mp inFront, ← (List.cons.inj stars).1] at star
    exact absurd (toDigits_isAsciiDigit n '*' star) (by decide)
  · rw [before] at stars
    have later : _ = others ++ ['*'] :: splitWhitespace ('*' :: back) :=
      (List.cons.inj (List.cons.inj stars).2).2
    have member : ['*'] ∈ others ++ ['*'] :: splitWhitespace ('*' :: back) :=
      List.mem_append_right _ List.mem_cons_self
    rw [← later] at member
    simp [(starred _).symm] at member

theorem trimMatches_ip : trimMatches isParenthesis ('(' :: ip.text ++ [')']) = ip.text := by
  have bare : ∀ c ∈ ip.text, isParenthesis c = false := by
    intro c member
    simp only [isParenthesis, Bool.or_eq_false_iff, beq_eq_false_iff_ne]
    rcases ipv4_text_chars ip c member with digit | rfl
    · constructor
      · rintro rfl
        exact absurd digit (by decide)
      · rintro rfl
        exact absurd digit (by decide)
    · decide
  have wrapped : trimMatches isParenthesis (['('] ++ (ip.text ++ [')'])) =
      trimMatches isParenthesis ip.text :=
    trimMatches_wrapped (List.forall_mem_singleton.mpr (by decide))
      (List.forall_mem_singleton.mpr (by decide))
  exact wrapped.trans (trimMatches_eq_self bare)

theorem trimMatches_number (number : DecimalNumber) :
    trimMatches isParenthesis number.text = number.text := by
  apply trimMatches_eq_self
  intro c member
  simp only [isParenthesis, Bool.or_eq_false_iff, beq_eq_false_iff_ne]
  rcases number.mem_text member with digit | rfl
  · constructor
    · rintro rfl
      exact absurd digit (by decide)
    · rintro rfl
      exact absurd digit (by decide)
  · decide

/-- The scan stops at the first time, and takes it for the address if there is a point in it. -/
theorem scanParts_answered :
    scanParts true [] [Nat.toDigits 10 n, host, '(' :: ip.text ++ [')'], r1.text, ['m', 's'],
      r2.text, ['m', 's'], r3.text, ['m', 's']] =
        (if r1.fraction = [] then ip.text else r1.text, .finite r1.value) := by
  have plain : '.' ∉ Nat.toDigits 10 n :=
    fun member => absurd (toDigits_isAsciiDigit n '.' member) (by decide)
  have dotted : '.' ∈ '(' :: ip.text ++ [')'] ∧ ¬ ['m', 's'] <:+ '(' :: ip.text ++ [')'] := by
    constructor
    · have dots : 0 < ip.text.count '.' := by rw [ipv4_text_dots]; decide
      exact List.mem_append_left _ (List.mem_cons_of_mem _ (List.count_pos_iff.mp dots))
    · intro suffix
      have last := suffix.getLast (List.cons_ne_nil _ _)
      simp at last
  have number : ¬ ['m', 's'] <:+ r1.text := by
    intro suffix
    rcases r1.mem_text (suffix.subset List.mem_cons_self) with digit | point
    · exact absurd digit (by decide)
    · exact absurd point (by decide)
  have next : r1.text ≠ ['m', 's'] := decimal_ne ⟨'m', List.mem_cons_self, by decide, by decide⟩ r1
  have opened : ('(' :: ip.text ++ [')']) ≠ ['m', 's'] :=
    fun same => absurd (List.cons.inj same).1 (by decide)
  -- the number and the host are passed over, the address is taken, and the
  -- time behind it ends the scan
  rw [scanParts, if_neg (fun both => both.1 rfl), scanParts,
    if_neg (fun both => opened (Option.some.inj both.2)), scanParts, if_pos dotted, if_neg
      (fun both => next (Option.some.inj both.2)), scanParts, if_pos ⟨by decide, rfl⟩,
      trimMatches_ip,
    trimMatches_number, r1.parseF64_text, Option.getD_some]
  congr 1
  by_cases whole : r1.fraction = []
  · rw [if_pos whole, if_neg fun both => r1.point_mem_text.mp both.1 whole]
  · rw [if_neg whole, if_pos ⟨r1.point_mem_text.mpr whole, number⟩]

theorem parseHop_answered
    (fields : splitWhitespace line = [Nat.toDigits 10 n, host, '(' :: ip.text ++ [')'],
    r1.text, ['m', 's'], r2.text, ['m', 's'], r3.text, ['m', 's']]) :
    parseHop line = some (HopReport.answered host ip r1 r2 r3).read := by
  obtain ⟨digit, digits, number, numeric⟩ := exists_digit n
  have numbered := parseHop_numbered numeric (by rw [fields, number])
  have address : (if r1.fraction = [] then ip.text else r1.text).isEmpty = false := by
    split
    · simpa using ipv4_text_ne_nil ip
    · simpa using r1.text_ne_nil
  simp only [parseHop, numbered, Bool.false_eq_true, if_false, not_contains_stars fields,
    splitWhitespace_trim, fields, scanParts_answered, address]
  rfl

end Answered

theorem parseHop_hopLine {n : Nat} {report : HopReport} {line : Str}
    (reported : HopLine n report line) :
    parseHop line = some report.read := by
  cases reported with
  | answered fields => exact parseHop_answered fields
  | silent white => exact parseHop_silent white

theorem parseHop_hopLines {n : Nat} {reports : List HopReport} {hopLines : List Str}
    (reported : HopLines n reports hopLines) :
    hopLines.filterMap parseHop = reports.map HopReport.read := by
  induction reported with
  | done => rfl
  | more first _ ih => rw [List.filterMap_cons, parseHop_hopLine first, List.map_cons, ih]

/-- Every hop is read in its place, with its time, but not always with its address. -/
theorem parseTraceroute_read {reports : List HopReport} {output : Str}
    (printed : Traceroute reports output) :
    parseTraceroute output = reports.map HopReport.read := by
  obtain ⟨header, hopLines, laid, skipped, reported⟩ := printed
  rw [parseTraceroute, laid, List.filterMap_cons, parseHop_header skipped,
    parseHop_hopLines reported]

/-- The hops are read as reported where no first time is written with a point. -/
theorem map_read_iff (reports : List HopReport) :
    reports.map HopReport.read = reports.map HopReport.hop ↔
    ∀ host ip r1 r2 r3, HopReport.answered host ip r1 r2 r3 ∈ reports → r1.fraction = [] := by
  rw [List.map_inj_left]
  constructor
  · intro same host ip r1 r2 r3 listed
    by_contra some
    have addresses : r1.text = ip.text := by
      simpa [HopReport.read, HopReport.hop, some] using same _ listed
    have points := r1.points_le_one
    rw [addresses, ipv4_text_dots] at points
    omega
  · intro whole report listed
    cases report with
    | silent => rfl
    | answered host ip r1 r2 r3 =>
      simp only [HopReport.read, HopReport.hop, whole host ip r1 r2 r3 listed, if_true]

section Loops

/-- The addresses that answered, in the order of their hops. -/
def answeredIps (reports : List HopReport) : List Ipv4Addr :=
  reports.filterMap fun report =>
    match report with
    | .answered _ ip _ _ _ => some ip
    | .silent => none

theorem toFinset_card_lt_iff {addrs : List Str} :
    addrs.toFinset.card < addrs.length ↔ ¬ addrs.Nodup := by
  rw [List.card_toFinset]
  constructor
  · intro fewer nodup
    rw [nodup.dedup] at fewer
    exact fewer.false
  · intro repeated
    refine lt_of_le_of_ne (List.dedup_sublist addrs).length_le fun same => repeated ?_
    exact List.dedup_eq_self.mp ((List.dedup_sublist addrs).eq_of_length same)

theorem ipv4_text_injective : Function.Injective Ipv4Addr.text := fun first second same => by
  have read := parseIpv4_text first
  rw [same, parseIpv4_text] at read
  exact (Option.some.inj read).symm

theorem answeredAddrs_reported (reports : List HopReport) :
    ((reports.map HopReport.hop).filter fun hop => !hop.timeout).map (·.addr) =
      (answeredIps reports).map Ipv4Addr.text := by
  induction reports with
  | nil => rfl
  | cons report reports ih =>
    cases report with
    | silent => exact ih
    | answered host ip r1 r2 r3 => exact congrArg (ip.text :: ·) ih

/-- On hops as reported the test sees an address that answered twice. -/
theorem possibleRoutingLoop_reported (reports : List HopReport) :
    possibleRoutingLoop (reports.map HopReport.hop) = true ↔ ¬ (answeredIps reports).Nodup := by
  simp only [possibleRoutingLoop, decide_eq_true_eq]
  rw [← List.length_map (·.addr), answeredAddrs_reported, toFinset_card_lt_iff,
    List.nodup_map_iff ipv4_text_injective]

end Loops

/-- The output gives back its hops exactly where no first time is written with a point, and then the
loop test compares addresses. -/
theorem parseTraceroute_hops_iff (reports : List HopReport) (output : Str)
    (printed : Traceroute reports output) :
    (parseTraceroute output = reports.map HopReport.hop ↔
      ∀ host ip r1 r2 r3, HopReport.answered host ip r1 r2 r3 ∈ reports → r1.fraction = []) ∧
    ((∀ host ip r1 r2 r3, HopReport.answered host ip r1 r2 r3 ∈ reports → r1.fraction = []) →
      (possibleRoutingLoop (parseTraceroute output) = true ↔ ¬ (answeredIps reports).Nodup)) := by
  rw [parseTraceroute_read printed]
  refine ⟨map_read_iff reports, fun whole => ?_⟩
  rw [(map_read_iff reports).mpr whole]
  exact possibleRoutingLoop_reported reports

section Runs

/-- Two routers and a silent hop, with times in tenths or in whole milliseconds. -/
def router (third : UInt8) (fraction : Str)
    (numeric : (['1'] ++ fraction).all isAsciiDigit = true) :
    HopReport :=
  let time : DecimalNumber :=
    { whole := ['1'], fraction, written := by decide, numeric := List.all_eq_true.mp numeric }
  .answered "router.local".toList { a := 192, b := 168, c := third, d := 1 } time time time

def wholeTimes : Str := unlines
  ["traceroute to example.com".toList, " 1  router.local (192.168.1.1)  1 ms  1 ms  1 ms".toList,
    " 2  * * *".toList]

/-- Three lines of a program text that end nowhere inside. -/
private theorem lines_threeLiterals {first second third : List Char}
    (single : ∀ chars ∈ [first, second, third], '\n' ∉ chars)
    (plain : ∀ chars ∈ [first, second, third], '\r' ∉ chars) :
    lines (unlines [(String.ofList first).toList, (String.ofList second).toList,
      (String.ofList third).toList]) =
      [(String.ofList first).toList, (String.ofList second).toList,
        (String.ofList third).toList] := by
  simp only [String.toList_ofList]
  exact lines_unlines_eq_self single plain

theorem parseTraceroute_hops_iff_wholeTimes :
    (parseTraceroute wholeTimes = [router 1 [] (by decide), .silent].map HopReport.hop ↔
      ∀ host ip r1 r2 r3, HopReport.answered host ip r1 r2 r3 ∈ [router 1 [] (by decide), .silent] →
        r1.fraction = []) ∧
    ((∀ host ip r1 r2 r3, HopReport.answered host ip r1 r2 r3 ∈ [router 1 [] (by decide), .silent] →
      r1.fraction = []) → (possibleRoutingLoop (parseTraceroute wholeTimes) = true ↔
        ¬ (answeredIps [router 1 [] (by decide), .silent]).Nodup)) := by
  apply parseTraceroute_hops_iff
  have second : HopLine 2 .silent " 2  * * *".toList :=
    @HopLine.silent 2 [' '] [' ', ' '] [] (List.all_eq_true.mp (by decide))
  exact ⟨_, _, lines_threeLiterals (by decide) (by decide), Or.inl (by decide),
    .more (.answered (by rfl)) (.more second .done)⟩

def fractionTimes : Str := unlines
  ["traceroute to example.com".toList,
    " 1  router.local (192.168.1.1)  1.5 ms  1.5 ms  1.5 ms".toList,
    " 2  router.local (192.168.2.1)  1.5 ms  1.5 ms  1.5 ms".toList]

/-- The times stand where the addresses should, and two hops with one time look like a loop. -/
theorem fractionTimes_misread :
    Traceroute [router 1 ['5'] (by decide), router 2 ['5'] (by decide)] fractionTimes ∧
      parseTraceroute fractionTimes ≠
        [router 1 ['5'] (by decide), router 2 ['5'] (by decide)].map HopReport.hop ∧
      (answeredIps [router 1 ['5'] (by decide), router 2 ['5'] (by decide)]).Nodup ∧
      possibleRoutingLoop (parseTraceroute fractionTimes) = true := by
  have printed : Traceroute [router 1 ['5'] (by decide), router 2 ['5'] (by decide)]
      fractionTimes :=
    ⟨_, _, lines_threeLiterals (by decide) (by decide),
      Or.inl (by decide), .more (.answered (by rfl)) (.more (.answered (by rfl)) .done)⟩
  refine ⟨printed, ?_⟩
  rw [parseTraceroute_read printed]
  decide

end Runs

end Output

end FragglePacket.NetworkTests
