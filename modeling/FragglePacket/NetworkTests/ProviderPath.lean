import FragglePacket.Lists.Readings
import FragglePacket.Net.AddressText
import FragglePacket.NetworkTests.PathAnalysis
import FragglePacket.Text.Pattern
import FragglePacket.Text.Unicode

/-! One `traceroute` run with a probe for each hop, and what is read of its output. -/

namespace FragglePacket.NetworkTests

open FragglePacket FragglePacket.Text FragglePacket.Net

inductive HopOutcome where
  | responded
  | noResponse
  deriving DecidableEq

structure TraceHop where
  hopNumber : Nat
  outcome : HopOutcome
  addr : Option Str
  rttMs : Option F64
  deriving DecidableEq

structure TraceRun where
  target : Str
  hops : List TraceHop
  reachedTarget : Bool
  deriving DecidableEq

/-- The first part with a dot that does not end in `ms` is the address; a part in
front of `ms` is the time. -/
def scanHopParts (addr : Option Str) (rttMs : Option F64) : List Str → Option Str × Option F64
  | [] => (addr, rttMs)
  | tok :: rest =>
    let addr :=
      if '.' ∈ tok ∧ ¬ "ms".toList <:+ tok ∧ addr = none then some (trimMatches isParenthesis tok)
      else addr
    let rttMs := if rest.head? = some "ms".toList then parseF64 tok else rttMs
    scanHopParts addr rttMs rest

/-- The hop with that number out of what follows the number. -/
def hopOfParts (hopNumber : Nat) (rest : List Str) : TraceHop :=
  if rest.all fun t => t.all (· == '*') then ⟨hopNumber, .noResponse, none, none⟩
  else
    let (addr, rttMs) := scanHopParts none none rest
    if addr.isSome || rttMs.isSome then ⟨hopNumber, .responded, addr, rttMs⟩
    else ⟨hopNumber, .noResponse, none, none⟩

/-- The hop of a line, if there is a number in front of it. -/
def parseTraceLine (tables : CaseTables) (line : Str) : Option TraceHop :=
  let line := trim line
  if line.isEmpty || "traceroute".toList.isPrefixOf (tables.toLowercase line) then none
  else
    match splitWhitespace line with
    | [] => none
    | hopToken :: rest =>
      (parseUnsigned (2 ^ 32) (trimEndMark ':' hopToken)).map fun hopNumber =>
        hopOfParts hopNumber rest

def parseTraceHops (tables : CaseTables) (output : Str) : List TraceHop :=
  (lines output).filterMap (parseTraceLine tables)

/-- The arguments of the `traceroute` command. -/
def tracerouteArgs (target : Str) (maxHops waitSecs : UInt8) (interface : Option Str) : List Str :=
  ["-q".toList, "1".toList, "-w".toList, Nat.toDigits 10 waitSecs.toNat, "-m".toList,
    Nat.toDigits 10 maxHops.toNat] ++ (match interface with
      | some iface => ["-i".toList, iface]
      | none => []) ++ [target]

def reachedTarget (hops : List TraceHop) : Bool := hops.getLast?.any fun h => h.outcome = .responded

/-- A run of the command, which gives its output or does not start. -/
def runTraceroute (tables : CaseTables) (execute : List Str → Except Str Wire.Bytes) (target : Str)
    (maxHops waitSecs : UInt8) (interface : Option Str) : Except Str TraceRun :=
  match execute (tracerouteArgs target maxHops waitSecs interface) with
  | .error e => .error ("failed to run traceroute: ".toList ++ e)
  | .ok stdout =>
    let hops := parseTraceHops tables (fromUtf8Lossy stdout)
    .ok ⟨target, hops, reachedTarget hops⟩

section Output

/-- What the line of a hop reports: a host by its address and perhaps its name, or nothing. -/
inductive ProbeReport where
  | answered (host : Option Str) (ip : IpText) (rtt : DecimalNumber)
  | silent

/-- The fields behind the number. -/
def ProbeReport.fields : ProbeReport → List Str
  | answered (some host) ip rtt => [host, '(' :: ip.text ++ [')'], rtt.text, "ms".toList]
  | answered none ip rtt => [ip.text, rtt.text, "ms".toList]
  | silent => ["*".toList]

/-- An annotation such as `!H`, where there is one. -/
def Annotation : List Str → Prop
  | [] => True
  | [mark] => ∃ code, mark = '!' :: code ∧ '.' ∉ code
  | _ => False

/-- A line with the number and report, any blanks around and between its fields;
only answers are annotated. -/
inductive ProbeLine (n : Nat) : ProbeReport → Str → Prop
  | answered {line : Str} {host : Option Str} {ip : IpText} {rtt : DecimalNumber} {marks : List Str}
      (marked : Annotation marks) (fields : splitWhitespace line =
        Nat.toDigits 10 n :: ((ProbeReport.answered host ip rtt).fields ++ marks)) :
      ProbeLine n (.answered host ip rtt) line
  | silent {line : Str} (fields : splitWhitespace line =
      Nat.toDigits 10 n :: ProbeReport.silent.fields) :
      ProbeLine n .silent line

/-- A header, and a line for each numbered report in order. -/
def ProbeOutput (reports : List (Nat × ProbeReport)) (output : Str) : Prop :=
  ∃ header hopLines, lines output = header :: hopLines ∧ "traceroute".toList <+: trim header ∧
    List.Forall₂ (fun report line => ProbeLine report.1 report.2 line) reports hopLines

/-- The hop keeps its line's number, outcome, address and time. -/
def HopShown (report : Nat × ProbeReport) (hop : TraceHop) : Prop :=
  hop.hopNumber = report.1 ∧
    match report.2 with
    | .answered host ip rtt =>
      hop.outcome = .responded ∧ (hop.addr = some ip.text ∨ ∃ name, host = some name ∧
        hop.addr = some (trimMatches isParenthesis name)) ∧ hop.rttMs = some (.finite rtt.value)
    | .silent => hop.outcome = .noResponse

/-- A part that can be taken for the address. -/
def AddressLike (tok : Str) : Prop := '.' ∈ tok ∧ ¬ "ms".toList <:+ tok

instance (tok : Str) : Decidable (AddressLike tok) := inferInstanceAs (Decidable (_ ∧ _))

/-- The number fits, and an answer has an address with a dot or a name that is taken for one. -/
def ReportRead (report : Nat × ProbeReport) : Prop :=
  report.1 < 2 ^ 32 ∧
    match report.2 with
    | .answered host ip _ => '.' ∈ ip.text ∨ ∃ name, host = some name ∧ AddressLike name
    | .silent => True

/-- The last line is that of a host named by the address. -/
def LastNames (address : Str) (reports : List (Nat × ProbeReport)) : Prop :=
  ∃ n host ip rtt, reports.getLast? = some (n, .answered host ip rtt) ∧
    (ip.text = address ∨ host = some address)

def LastAnswered (reports : List (Nat × ProbeReport)) : Prop :=
  ∃ n host ip rtt, reports.getLast? = some (n, .answered host ip rtt)

section Lines
variable {tables : CaseTables} {line : Str} {n : Nat} {rest : List Str}

theorem parseTraceLine_header (header : "traceroute".toList <+: trim line) :
    parseTraceLine tables line = none := by
  obtain ⟨behind, laid⟩ := header
  have lower : "traceroute".toList.isPrefixOf (tables.toLowercase (trim line)) = true := by
    have small : ("traceroute".toList.all fun c => decide (c.toNat < 128)) = true := by decide
    have ascii : ∀ c ∈ "traceroute".toList, c.toNat < 128 := by
      simpa only [List.all_eq_true, decide_eq_true_eq] using small
    rw [← laid, CaseTables.toLowercase, CaseTables.lowercaseFrom_ascii ascii,
      List.isPrefixOf_iff_prefix]
    exact ⟨_, rfl⟩
  simp only [parseTraceLine, lower, Bool.or_true, if_true]

/-- A line with a number in front is read, if the number fits. -/
theorem parseTraceLine_numbered (fields : splitWhitespace line = Nat.toDigits 10 n :: rest) :
    parseTraceLine tables line = if n < 2 ^ 32 then some (hopOfParts n rest) else none := by
  obtain ⟨digit, digits, number, numeric⟩ := exists_digit n
  obtain ⟨behind, trimmed⟩ := exists_trim_cons (c := digit) (by rw [fields, number])
  have listed : ((trim line).isEmpty ||
      "traceroute".toList.isPrefixOf (tables.toLowercase (trim line))) = false := by
    have plain : digit ≠ 't' := by
      rintro rfl
      exact absurd numeric (by decide)
    have ascii : ∀ c ∈ [digit], c.toNat < 128 := by
      have bounds : '0' ≤ digit ∧ digit ≤ '9' := by simpa [isAsciiDigit] using numeric
      have upper : digit.toNat ≤ 57 := UInt32.le_iff_toNat_le.mp (Char.le_def.mp bounds.2)
      exact List.forall_mem_singleton.mpr (by omega)
    have lower := @CaseTables.lowercaseFrom_ascii tables [digit] ascii [] behind
    rw [List.singleton_append] at lower
    rw [trimmed, CaseTables.toLowercase, lower, List.map_singleton,
      DecimalNumber.toLower_digit numeric]
    simp [List.isPrefixOf, plain.symm]
  have token : trimEndMark ':' (Nat.toDigits 10 n) = Nat.toDigits 10 n := by
    refine List.rdropWhile_eq_self_iff.mpr fun some => ?_
    have last := toDigits_isAsciiDigit n _ (List.getLast_mem some)
    intro colon
    rw [beq_iff_eq.mp colon] at last
    exact absurd last (by decide)
  simp only [parseTraceLine, listed, Bool.false_eq_true, if_false, splitWhitespace_trim,
    fields, token]
  split
  case isTrue fits => rw [parseUnsigned_toDigits fits, Option.map_some]
  case isFalse beyond => rw [parseUnsigned_toDigits_of_le (not_lt.mp beyond), Option.map_none]

end Lines

section Parts
variable {addr : Option Str} {time : Option F64} {tok : Str} {rest : List Str}

theorem scanHopParts_cons (addr : Option Str) (time : Option F64)
    (plain : rest.head? ≠ some "ms".toList) :
    scanHopParts addr time (tok :: rest) =
      scanHopParts (addr.or (if AddressLike tok then some (trimMatches isParenthesis tok)
        else none)) time rest := by
  rw [scanHopParts, if_neg plain]
  congr 1
  cases addr with
  | none =>
    rw [Option.none_or]
    exact if_congr (by simp [AddressLike]) rfl rfl
  | some addr => simp

theorem scanHopParts_marks {marks : List Str} (marked : Annotation marks) :
    scanHopParts addr time marks = (addr, time) := by
  rcases marks with _ | ⟨mark, _ | ⟨more, others⟩⟩
  · rfl
  · obtain ⟨code, rfl, plain⟩ := marked
    have other : ¬ AddressLike ('!' :: code) := by
      rintro ⟨dotted, _⟩
      exact plain ((List.mem_cons.mp dotted).resolve_left (by decide))
    rw [scanHopParts_cons addr time (by simp), if_neg other, Option.or_none]
    rfl
  · exact marked.elim

theorem number_addressLike (rtt : DecimalNumber) : AddressLike rtt.text ↔ '.' ∈ rtt.text := by
  refine and_iff_left fun suffix => ?_
  exact rtt.not_mem_text (by decide : isAsciiDigit 'm' = false ∧ 'm' ≠ '.')
    (suffix.subset List.mem_cons_self)

/-- The time is read in front of `ms`, and is the address where none was
found and it has a point. -/
theorem scanHopParts_time (addr : Option Str) (rtt : DecimalNumber) {marks : List Str}
    (marked : Annotation marks) :
    scanHopParts addr time (rtt.text :: "ms".toList :: marks) =
      (addr.or (if '.' ∈ rtt.text then some rtt.text else none), some (.finite rtt.value)) := by
  have unit : ¬ AddressLike "ms".toList := by decide
  have address : (if '.' ∈ rtt.text ∧ ¬ "ms".toList <:+ rtt.text ∧
      addr = none then some (trimMatches isParenthesis rtt.text)
      else addr) = addr.or (if '.' ∈ rtt.text then some rtt.text else none) := by
    have like := number_addressLike rtt
    cases addr with
    | none =>
      rw [trimMatches_number, Option.none_or]
      simp only [and_true]
      exact if_congr like rfl rfl
    | some addr => simp
  have behind : marks.head? ≠ some "ms".toList := by
    rcases marks with _ | ⟨mark, _ | ⟨more, others⟩⟩
    · simp
    · obtain ⟨code, rfl, _⟩ := marked
      simp
    · exact marked.elim
  have unitNext : ("ms".toList :: marks).head? = some "ms".toList := rfl
  rw [scanHopParts, if_pos unitNext, rtt.parseF64_text, scanHopParts_cons _ _ behind, if_neg unit,
    Option.or_none, scanHopParts_marks marked, address]

/-- An address is taken for one where it has a dot. -/
theorem ip_addressLike (ip : IpText) : AddressLike ip.text ↔ '.' ∈ ip.text := by
  refine and_iff_left fun suffix => ?_
  exact ip.not_mem (by decide : isAddressChar 'm' = false) (suffix.subset List.mem_cons_self)

theorem wrapped_addressLike (ip : IpText) :
    AddressLike ('(' :: ip.text ++ [')']) ↔ '.' ∈ ip.text := by
  have ends : ¬ "ms".toList <:+ '(' :: ip.text ++ [')'] := by
    intro suffix
    have last := suffix.getLast (by decide)
    simp at last
  have inside : '.' ∈ '(' :: ip.text ++ [')'] ↔ '.' ∈ ip.text := by simp
  rw [AddressLike, and_iff_left ends, inside]

theorem ip_bare (ip : IpText) : ∀ c ∈ ip.text, isParenthesis c = false := by
  intro c member
  simp only [isParenthesis, Bool.or_eq_false_iff, beq_eq_false_iff_ne]
  constructor
  · rintro rfl
    exact ip.not_mem (by decide) member
  · rintro rfl
    exact ip.not_mem (by decide) member

theorem trimMatches_wrapped_ip (ip : IpText) :
    trimMatches isParenthesis ('(' :: ip.text ++ [')']) = ip.text := by
  have wrapped : trimMatches isParenthesis (['('] ++ (ip.text ++ [')'])) =
      trimMatches isParenthesis ip.text :=
    trimMatches_wrapped (List.forall_mem_singleton.mpr (by decide))
      (List.forall_mem_singleton.mpr (by decide))
  exact wrapped.trans (trimMatches_eq_self (ip_bare ip))

/-- The address as it is read: the name, or else the address itself, or else a time with a point. -/
def ProbeReport.readAddr (host : Option Str) (ip : IpText) (rtt : DecimalNumber) : Option Str :=
  (host.bind fun name => if AddressLike name then some (trimMatches isParenthesis name)
    else none).or
    ((if '.' ∈ ip.text then some ip.text else none).or
      (if '.' ∈ rtt.text then some rtt.text else none))

theorem scanHopParts_answered (host : Option Str) (ip : IpText) (rtt : DecimalNumber)
    {marks : List Str} (marked : Annotation marks) :
    scanHopParts none none ((ProbeReport.answered host ip rtt).fields ++ marks) =
      (ProbeReport.readAddr host ip rtt, some (.finite rtt.value)) := by
  have number : rtt.text ≠ "ms".toList := decimal_ne ⟨'m', by decide, by decide, by decide⟩ rtt
  cases host with
  | none =>
    have notUnit : (rtt.text :: "ms".toList :: marks).head? ≠ some "ms".toList := by
      simpa using number
    change scanHopParts none none (ip.text :: rtt.text :: "ms".toList :: marks) = _
    rw [scanHopParts_cons _ _ notUnit, scanHopParts_time _ rtt marked,
      trimMatches_eq_self (ip_bare ip), if_congr (ip_addressLike ip) rfl rfl]
    rfl
  | some name =>
    have notUnit : (rtt.text :: "ms".toList :: marks).head? ≠ some "ms".toList := by
      simpa using number
    have opened : (('(' :: ip.text ++ [')']) :: rtt.text :: "ms".toList :: marks).head? ≠
        some "ms".toList := by simp
    change scanHopParts none none (name :: ('(' :: ip.text ++ [')']) :: rtt.text :: "ms".toList ::
      marks) = _
    rw [scanHopParts_cons _ _ opened, scanHopParts_cons _ _ notUnit, scanHopParts_time _ rtt marked,
      trimMatches_wrapped_ip, if_congr (wrapped_addressLike ip) rfl rfl, Option.none_or,
        Option.or_assoc]
    rfl

/-- An answer is a hop that responded, with its time. -/
theorem hopOfParts_answered (n : Nat) (host : Option Str) (ip : IpText) (rtt : DecimalNumber)
    {marks : List Str} (marked : Annotation marks) :
    hopOfParts n ((ProbeReport.answered host ip rtt).fields ++ marks) =
      ⟨n, .responded, ProbeReport.readAddr host ip rtt, some (.finite rtt.value)⟩ := by
  have listed : "ms".toList ∈ (ProbeReport.answered host ip rtt).fields ++ marks := by
    cases host <;> simp [ProbeReport.fields]
  have starred : ((ProbeReport.answered host ip rtt).fields ++ marks).all (fun t =>
      t.all (· == '*')) = false :=
    List.all_eq_false.mpr ⟨_, listed, by decide⟩
  rw [hopOfParts, starred, scanHopParts_answered host ip rtt marked]
  simp

end Parts

section Shown
variable {n : Nat} {host : Option Str} {ip : IpText} {rtt : DecimalNumber}

/-- A name that is not taken for an address is not the text of a time either. -/
theorem stripped_ne_time {name : Str} (other : ¬ AddressLike name) (point : '.' ∈ rtt.text) :
    trimMatches isParenthesis name ≠ rtt.text := by
  intro same
  have dotted : '.' ∈ name :=
    (mem_trimMatches (by decide : isParenthesis '.' = false)).mp (same ▸ point)
  have ends : "ms".toList <:+ name := by
    by_contra plain
    exact other ⟨dotted, plain⟩
  have kept : 'm' ∈ trimMatches isParenthesis name :=
    (mem_trimMatches (by decide : isParenthesis 'm' = false)).mpr (ends.subset List.mem_cons_self)
  exact rtt.not_mem_text (by decide : isAsciiDigit 'm' = false ∧ 'm' ≠ '.') (same ▸ kept)

/-- The address of an answer is read exactly where it has a dot or the
name in front of it is taken. -/
theorem readAddr_iff : (ProbeReport.readAddr host ip rtt = some ip.text ∨
    ∃ name, host = some name ∧
      ProbeReport.readAddr host ip rtt = some (trimMatches isParenthesis name)) ↔
      '.' ∈ ip.text ∨ ∃ name, host = some name ∧ AddressLike name := by
  by_cases taken : ∃ name, host = some name ∧ AddressLike name
  · obtain ⟨name, rfl, like⟩ := taken
    have read : ProbeReport.readAddr (some name) ip rtt =
        some (trimMatches isParenthesis name) := by
      simp [ProbeReport.readAddr, like]
    exact iff_of_true (Or.inr ⟨name, rfl, read⟩) (Or.inr ⟨name, rfl, like⟩)
  · have passed : (host.bind fun name => if AddressLike name then some
        (trimMatches isParenthesis name) else none) = none := by
      cases host with
      | none => rfl
      | some name => exact if_neg fun like => taken ⟨name, rfl, like⟩
    rw [or_iff_left taken, ProbeReport.readAddr, passed, Option.none_or]
    by_cases dotted : '.' ∈ ip.text
    · exact iff_of_true (Or.inl (by rw [if_pos dotted, Option.some_or])) dotted
    · rw [if_neg dotted, Option.none_or]
      refine iff_of_false ?_ dotted
      split
      case isTrue point =>
        rintro (same | ⟨name, named, same⟩)
        · exact dotted (Option.some.inj same ▸ point)
        · exact stripped_ne_time (fun like => taken ⟨name, named, like⟩) point
            (Option.some.inj same).symm
      case isFalse => simp

theorem hopOfParts_silent (n : Nat) :
    hopOfParts n ProbeReport.silent.fields = ⟨n, .noResponse, none, none⟩ := rfl

/-- What a line gives keeps the report exactly where the report can be read. -/
theorem parseTraceLine_shown_iff {tables : CaseTables} {report : Nat × ProbeReport} {line : Str}
    (printed : ProbeLine report.1 report.2 line) :
    (∃ hop, parseTraceLine tables line = some hop ∧ HopShown report hop) ↔ ReportRead report := by
  obtain ⟨n, report⟩ := report
  have unread (none : ¬ n < 2 ^ 32) (hop : TraceHop) :
      (∃ shown, (if n < 2 ^ 32 then some hop else Option.none) = some shown ∧
        HopShown (n, report) shown) ↔
        ReportRead (n, report) := by
    rw [if_neg none]
    refine iff_of_false ?_ fun read => none read.1
    rintro ⟨_, found, _⟩
    cases found
  cases printed with
  | @answered line host ip rtt marks marked fields =>
    rw [parseTraceLine_numbered fields, hopOfParts_answered n host ip rtt marked]
    by_cases fits : n < 2 ^ 32
    · rw [if_pos fits]
      simp only [Option.some.injEq, exists_eq_left', HopShown, ReportRead, true_and, and_true,
        and_iff_right fits]
      exact readAddr_iff
    · exact unread fits _
  | silent fields =>
    rw [parseTraceLine_numbered fields, hopOfParts_silent]
    by_cases fits : n < 2 ^ 32
    · rw [if_pos fits]
      exact iff_of_true ⟨_, rfl, rfl, rfl⟩ ⟨fits, trivial⟩
    · exact unread fits _

end Shown

section Runs
variable {tables : CaseTables} {reports : List (Nat × ProbeReport)} {output : Str}

theorem parseTraceHops_printed (header : Str) {hopLines : List Str}
    (laid : lines output = header :: hopLines) (skipped : "traceroute".toList <+: trim header) :
    parseTraceHops tables output = hopLines.filterMap (parseTraceLine tables) := by
  rw [parseTraceHops, laid, List.filterMap_cons, parseTraceLine_header skipped]

/-- The hops keep the reports exactly where every report can be read. -/
theorem parseTraceHops_shown_iff (printed : ProbeOutput reports output) :
    List.Forall₂ HopShown reports (parseTraceHops tables output) ↔
      ∀ report ∈ reports, ReportRead report := by
  obtain ⟨header, hopLines, laid, skipped, reported⟩ := printed
  rw [parseTraceHops_printed header laid skipped]
  exact Lists.forall₂_filterMap_iff reported fun _ _ line => parseTraceLine_shown_iff line

/-- The target counts as reached where the last line is an answer, whoever gave it. -/
theorem reachedTarget_iff {hops : List TraceHop} (shown : List.Forall₂ HopShown reports hops) :
    reachedTarget hops = true ↔ LastAnswered reports := by
  have lasts := Lists.forall₂_getLast? shown
  rw [reachedTarget, LastAnswered]
  cases lastHop : hops.getLast? with
  | none =>
    rw [lastHop] at lasts
    cases lastReport : reports.getLast? with
    | none => simp
    | some report =>
      rw [lastReport] at lasts
      cases lasts
  | some hop =>
    rw [lastHop] at lasts
    cases lastReport : reports.getLast? with
    | none =>
      rw [lastReport] at lasts
      cases lasts
    | some report =>
      rw [lastReport] at lasts
      cases lasts with
      | some shows =>
        obtain ⟨n, host | _⟩ := report
        · simp [shows.2.1]
        · have silent : hop.outcome = .noResponse := shows.2
          simp [silent]

variable {execute : List Str → Except Str Wire.Bytes} {target : Str} {maxHops waitSecs : UInt8}
  {interface : Option Str} {stdout : Wire.Bytes}

theorem runTraceroute_ran
    (ran : execute (tracerouteArgs target maxHops waitSecs interface) = .ok stdout) :
    runTraceroute tables execute target maxHops waitSecs interface =
      .ok ⟨target, parseTraceHops tables (fromUtf8Lossy stdout),
        reachedTarget (parseTraceHops tables (fromUtf8Lossy stdout))⟩ := by
  rw [runTraceroute, ran]

/-- Every hop is kept with its address, and only the target's address counts as reached, exactly
where every line can be read and no other host answers last. -/
theorem runTraceroute_kept_iff (tables : CaseTables) (execute : List Str → Except Str Wire.Bytes)
    (target address : Str) (maxHops waitSecs : UInt8) (interface : Option Str) (stdout : Wire.Bytes)
    (reports : List (Nat × ProbeReport))
    (ran : execute (tracerouteArgs target maxHops waitSecs interface) = .ok stdout)
    (printed : ProbeOutput reports (fromUtf8Lossy stdout)) :
    (List.Forall₂ HopShown reports (parseTraceHops tables (fromUtf8Lossy stdout)) ∧
      ∀ run, runTraceroute tables execute target maxHops waitSecs interface = .ok run →
        run.reachedTarget = true → LastNames address reports) ↔
    (∀ report ∈ reports, ReportRead report) ∧
      (LastAnswered reports → LastNames address reports) := by
  rw [← @parseTraceHops_shown_iff tables _ _ printed, runTraceroute_ran ran]
  refine and_congr_right fun shown => ?_
  have reached := reachedTarget_iff shown
  constructor
  · intro named answered
    exact named _ rfl (reached.mpr answered)
  · rintro named run same
    rw [← Except.ok.inj same]
    exact fun answered => named (reached.mp answered)

section Printed

def routerV4 : IpText := ⟨"192.168.1.1".toList, by decide⟩

def routerV6 : IpText := ⟨"2001:db8::1".toList, by decide⟩

def tenths : DecimalNumber :=
  { whole := ['2'], fraction := ['5'], written := by decide, numeric := List.all_eq_true.mp
      (by decide) }

/-- The output of a command whose lines hold nothing that ends a line. -/
theorem lines_printed {content : List Str}
    (clean : (content.all fun line => line.all fun c => c != '\n' && c != '\r') = true) :
    lines (fromUtf8Lossy (encodeUtf8 (unlines content))) = content := by
  have each (line : Str) (listed : line ∈ content) (c : Char) (member : c ∈ line) : c ≠ '\n' ∧
      c ≠ '\r' := by
    simpa using List.all_eq_true.mp (List.all_eq_true.mp clean line listed) c member
  rw [fromUtf8Lossy_encodeUtf8]
  exact lines_unlines_eq_self (fun line listed newline => (each line listed _ newline).1 rfl)
    fun line listed mark => (each line listed _ mark).2 rfl

def tracedLines : List Str :=
  ["traceroute to 192.168.1.1".toList, " 1  *".toList,
    " 2  gateway (192.168.1.1)  2.5 ms !X".toList]

theorem runTraceroute_kept_iff_traced :
    (List.Forall₂ HopShown [(1, .silent), (2, .answered (some "gateway".toList) routerV4 tenths)]
        (parseTraceHops .ascii (fromUtf8Lossy (encodeUtf8 (unlines tracedLines)))) ∧
      ∀ run, runTraceroute .ascii (fun _ => .ok (encodeUtf8 (unlines tracedLines))) routerV4.text 30
        1 none = .ok run → run.reachedTarget = true →
          LastNames routerV4.text [(1, .silent),
            (2, .answered (some "gateway".toList) routerV4 tenths)]) ↔
    (∀ report ∈ [(1, .silent), (2, .answered (some "gateway".toList) routerV4 tenths)],
      ReportRead report) ∧
      (LastAnswered [(1, .silent), (2, .answered (some "gateway".toList) routerV4 tenths)] →
        LastNames routerV4.text [(1, .silent),
          (2, .answered (some "gateway".toList) routerV4 tenths)]) := by
  refine runTraceroute_kept_iff .ascii (fun _ => .ok _) _ _ 30 1 none _ _ rfl
    ⟨_, _, lines_printed (by decide), ?_, ?_⟩
  · exact List.isPrefixOf_iff_prefix.mp (by decide)
  · have marked : Annotation ["!X".toList] := ⟨['X'], rfl, by decide⟩
    exact .cons (.silent (by rfl)) (.cons (.answered marked (by rfl)) .nil)

def undottedLines : List Str :=
  ["traceroute6 to 2001:db8::1".toList, " 1  router (2001:db8::1)  2.5 ms".toList]

/-- The time of an answer stands where its address should. -/
theorem undotted_misread :
    ProbeOutput [(1, .answered (some "router".toList) routerV6 tenths)]
      (fromUtf8Lossy (encodeUtf8 (unlines undottedLines))) ∧
      (parseTraceHops .ascii (fromUtf8Lossy (encodeUtf8 (unlines undottedLines)))).map (·.addr) =
        [some tenths.text] ∧
      ¬ List.Forall₂ HopShown [(1, .answered (some "router".toList) routerV6 tenths)]
        (parseTraceHops .ascii (fromUtf8Lossy (encodeUtf8 (unlines undottedLines)))) := by
  have unmarked : Annotation [] := trivial
  have printed : ProbeOutput [(1, .answered (some "router".toList) routerV6 tenths)]
      (fromUtf8Lossy (encodeUtf8 (unlines undottedLines))) :=
    ⟨_, _, lines_printed (by decide), List.isPrefixOf_iff_prefix.mp (by decide),
      .cons (.answered unmarked (by rfl)) .nil⟩
  refine ⟨printed, ?_, ?_⟩
  · rw [parseTraceHops, lines_printed (by decide)]
    decide
  · rw [parseTraceHops_shown_iff printed]
    intro read
    rcases (read _ List.mem_cons_self).2 with dotted | ⟨name, named, dotted, _⟩
    · exact absurd dotted (by decide)
    · rw [← Option.some.inj named] at dotted
      exact absurd dotted (by decide)

end Printed

end Runs

end Output

end FragglePacket.NetworkTests
