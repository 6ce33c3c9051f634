import FragglePacket.Lists.LatestReports
import FragglePacket.NetworkTests.CaptureReport

/-! Capture files, block by block, and the drop count of their report. -/

namespace FragglePacket.NetworkTests

open FragglePacket.Wire FragglePacket.Lists

inductive InterfaceDescriptionOption where
  | ifName (name : String)
  | other

inductive InterfaceStatisticsOption where
  | isbIfDrop (drops : UInt64)
  | other

/-- A block of a pcapng file, as the reader of the format gives it. The link type is the name
that it is shown under. -/
inductive Block where
  | sectionHeader
  | interfaceDescription (snaplen : UInt32) (linktype : String)
      (options : List InterfaceDescriptionOption)
  | interfaceStatistics (interfaceId : UInt32) (options : List InterfaceStatisticsOption)
  | enhancedPacket (originalLen : UInt32) (data : Bytes) (timestamp : Nat)
  | simplePacket (originalLen : UInt32) (data : Bytes)
  | other

inductive PcapReportError where
  | io (detail : String)
  | unrecognizedFormat
  | pcap (detail : String)

def PcapReportError.text : PcapReportError → String
  | .io detail => "IO error: " ++ detail
  | .unrecognizedFormat => "unrecognized capture format (not pcap or pcapng)"
  | .pcap detail => "pcap parse error: " ++ detail

/-- Why there is no report: an error, or a `u64` addition that overflows. -/
inductive PcapHalt where
  | error (error : PcapReportError)
  | overflow

/-- What the loop over the blocks keeps. -/
structure NgReading where
  acc : Option Accumulator
  isbDrop : Option Nat
  sawIsb : Bool
  ifName : Option String

def unknownLink : Accumulator := .new 0xFFFFFFFF "Unknown"

def addDrop (isbDrop : Option Nat) : InterfaceStatisticsOption → Except PcapHalt (Option Nat)
  | .isbIfDrop drops =>
    if isbDrop.getD 0 + drops.toNat < 2 ^ 64 then .ok (some (isbDrop.getD 0 + drops.toNat))
    else .error .overflow
  | .other => .ok isbDrop

def nameOption (ifName : Option String) : InterfaceDescriptionOption → Option String
  | .ifName name => some name
  | .other => ifName

namespace NgReading

def initial : NgReading := ⟨none, none, false, none⟩

def observe (slicer : LaxSlicer) (reading : NgReading) (packet : CapturedPacket) : NgReading :=
  { reading with acc := some ((reading.acc.getD unknownLink).observe slicer packet) }

def visit (slicer : LaxSlicer) (reading : NgReading) : Block → Except PcapHalt NgReading
  | .interfaceDescription snaplen linktype options => .ok { reading with
      acc := some (reading.acc.getD (.new (if snaplen = 0 then 0xFFFFFFFF else snaplen) linktype))
      ifName := options.foldl nameOption reading.ifName }
  | .interfaceStatistics _ options => do
    return { reading with sawIsb := true, isbDrop := ← options.foldlM addDrop reading.isbDrop }
  | .enhancedPacket originalLen data timestamp =>
    .ok (reading.observe slicer ⟨originalLen.toUInt64, data, some timestamp⟩)
  | .simplePacket originalLen data =>
    .ok (reading.observe slicer ⟨originalLen.toUInt64, data, none⟩)
  | .sectionHeader => .ok reading
  | .other => .ok reading

/-- A block that cannot be read ends the loop. -/
def next (slicer : LaxSlicer) (reading : NgReading) :
    Except String Block → Except PcapHalt NgReading
  | .ok block => reading.visit slicer block
  | .error detail => .error (.error (.pcap detail))

def drops (reading : NgReading) : Option Nat :=
  if reading.sawIsb then some (reading.isbDrop.getD 0) else none

end NgReading

def analyzePcapng (slicer : LaxSlicer) (path : String) (blocks : List (Except String Block)) :
    Except PcapHalt PcapReport := do
  let reading ← blocks.foldlM (NgReading.next slicer) .initial
  return (reading.acc.getD unknownLink).finish path "pcapng" reading.ifName reading.drops

structure PcapHeader where
  snaplen : UInt32
  datalink : String

/-- The classic format has no count of drops. -/
def analyzePcapClassic (slicer : LaxSlicer) (path : String) (header : PcapHeader)
    (packets : List (Except String CapturedPacket)) : Except PcapHalt PcapReport := do
  let acc ← packets.foldlM (fun acc packet =>
      (packet.mapError fun detail => .error (.pcap detail)).map (acc.observe slicer))
    (Accumulator.new header.snaplen header.datalink)
  return acc.finish path "pcap" none none

section Drops

/-- The values of the drop counts among the options of a block. -/
def dropValues (options : List InterfaceStatisticsOption) : List Nat :=
  options.filterMap fun
    | .isbIfDrop drops => some drops.toNat
    | .other => none

/-- An interface: a section of the file and the number of the interface in it. -/
abbrev Interface := Nat × UInt32

/-- The drop counts from a section on, in the order in which they are reported. -/
def dropReportsFrom (sect : Nat) : List Block → List (Interface × Nat)
  | [] => []
  | .sectionHeader :: rest => dropReportsFrom (sect + 1) rest
  | .interfaceStatistics interfaceId options :: rest =>
    (dropValues options).map (((sect, interfaceId), ·)) ++ dropReportsFrom sect rest
  | .interfaceDescription .. :: rest => dropReportsFrom sect rest
  | .enhancedPacket .. :: rest => dropReportsFrom sect rest
  | .simplePacket .. :: rest => dropReportsFrom sect rest
  | .other :: rest => dropReportsFrom sect rest

def dropReports (blocks : List Block) : List (Interface × Nat) := dropReportsFrom 0 blocks

/-- What the blocks say of the drops: nothing, or the last count of every interface together. -/
def knownDrops (blocks : List Block) : Option Nat :=
  if dropReports blocks = [] then none else some (latestSum (dropReports blocks))

def Block.isStatistics : Block → Bool
  | .interfaceStatistics .. => true
  | _ => false

/-- The drop counts that a block adds. -/
def Block.drops : Block → List Nat
  | .interfaceStatistics _ options => dropValues options
  | _ => []

/-- A count that more values are added to. -/
def accumulate (isbDrop : Option Nat) (values : List Nat) : Option Nat :=
  if values = [] then isbDrop else some (isbDrop.getD 0 + values.sum)

@[simp] theorem accumulate_nil (isbDrop : Option Nat) : accumulate isbDrop [] = isbDrop :=
  if_pos rfl

theorem accumulate_cons (isbDrop : Option Nat) (value : Nat) (values : List Nat) :
    accumulate isbDrop (value :: values) = some (isbDrop.getD 0 + (value + values.sum)) := by
  simp [accumulate]

theorem accumulate_some (count : Nat) (values : List Nat) :
    accumulate (some count) values = some (count + values.sum) := by
  cases values with
  | nil => rfl
  | cons value values => exact accumulate_cons (some count) value values

theorem accumulate_getD (isbDrop : Option Nat) (values : List Nat) :
    (accumulate isbDrop values).getD 0 = isbDrop.getD 0 + values.sum := by
  cases values with
  | nil => simp
  | cons value values => simp [accumulate_cons]

theorem accumulate_append (isbDrop : Option Nat) (first second : List Nat) :
    accumulate isbDrop (first ++ second) = accumulate (accumulate isbDrop first) second := by
  cases second with
  | nil => simp
  | cons value second =>
    rw [accumulate_cons, accumulate_getD, accumulate, if_neg (by simp), List.sum_append,
      List.sum_cons, Nat.add_assoc]

theorem foldlM_addDrop {isbDrop : Option Nat} (fits : isbDrop.getD 0 < 2 ^ 64)
    (options : List InterfaceStatisticsOption) :
    options.foldlM addDrop isbDrop =
      if isbDrop.getD 0 + (dropValues options).sum < 2 ^ 64 then
        .ok (accumulate isbDrop (dropValues options))
      else .error .overflow := by
  induction options generalizing isbDrop with
  | nil => exact (if_pos fits).symm
  | cons option options ih =>
    cases option with
    | other => exact ih fits
    | isbIfDrop drops =>
      have values : dropValues (.isbIfDrop drops :: options) =
          drops.toNat :: dropValues options := rfl
      rw [List.foldlM_cons, addDrop, values, accumulate_cons, List.sum_cons]
      by_cases within : isbDrop.getD 0 + drops.toNat < 2 ^ 64
      · have rest := ih (show (some (isbDrop.getD 0 + drops.toNat)).getD 0 < 2 ^ 64 from within)
        rw [accumulate_some, Option.getD_some, Nat.add_assoc] at rest
        rw [if_pos within]
        exact rest
      · rw [if_neg within, if_neg (by omega)]
        rfl

/-- What a reading makes of blocks with these drop counts: the counts added, where they fit,
or no result. -/
structure Advances (reading : NgReading) (statistics : Bool) (values : List Nat)
    (result : Except PcapHalt NgReading) :
    Prop where
  adds : reading.isbDrop.getD 0 + values.sum < 2 ^ 64 → ∃ next, result = .ok next ∧
    next.sawIsb = (reading.sawIsb || statistics) ∧ next.isbDrop = accumulate reading.isbDrop values
  overflows : ¬ reading.isbDrop.getD 0 + values.sum < 2 ^ 64 → result = .error .overflow

theorem next_advances (slicer : LaxSlicer) {reading : NgReading}
    (fits : reading.isbDrop.getD 0 < 2 ^ 64) (block : Block) :
    Advances reading block.isStatistics block.drops (reading.next slicer (.ok block)) := by
  cases block with
  | interfaceStatistics interfaceId options =>
    constructor
    · intro within
      have added : options.foldlM addDrop reading.isbDrop =
          .ok (accumulate reading.isbDrop (dropValues options)) := by
        rw [foldlM_addDrop fits]
        exact if_pos within
      refine ⟨{ reading with sawIsb := true, isbDrop := accumulate reading.isbDrop
                               (dropValues options) }, ?_, ?_, rfl⟩
      · rw [NgReading.next, NgReading.visit, added]
        rfl
      · simp [Block.isStatistics]
    · intro beyond
      have overflown : options.foldlM addDrop reading.isbDrop = .error .overflow := by
        rw [foldlM_addDrop fits]
        exact if_neg beyond
      rw [NgReading.next, NgReading.visit, overflown]
      rfl
  | _ =>
    exact ⟨fun _ => ⟨_, rfl, by simp [Block.isStatistics, NgReading.observe],
      by simp [Block.drops, NgReading.observe]⟩,
      fun beyond => absurd fits (by simpa [Block.drops] using beyond)⟩

theorem foldlM_next_advances (slicer : LaxSlicer) {reading : NgReading}
    (fits : reading.isbDrop.getD 0 < 2 ^ 64) (blocks : List Block) :
    Advances reading (blocks.any Block.isStatistics) (blocks.flatMap Block.drops)
      ((blocks.map .ok).foldlM (NgReading.next slicer) reading) := by
  induction blocks generalizing reading with
  | nil =>
    exact ⟨fun _ => ⟨reading, rfl, by simp, by simp⟩,
      fun beyond => absurd fits (by simpa using beyond)⟩
  | cons block blocks ih =>
    rw [List.map_cons, List.foldlM_cons, List.flatMap_cons, List.any_cons]
    have step := next_advances slicer fits block
    by_cases within : reading.isbDrop.getD 0 + block.drops.sum < 2 ^ 64
    · obtain ⟨next, stepped, seen, added⟩ := step.adds within
      have count : next.isbDrop.getD 0 = reading.isbDrop.getD 0 + block.drops.sum := by
        rw [added, accumulate_getD]
      have rest := ih (show next.isbDrop.getD 0 < 2 ^ 64 by omega)
      rw [stepped]
      constructor
      · intro whole
        rw [List.sum_append] at whole
        obtain ⟨final, ended, finalSeen, finalAdded⟩ := rest.adds (by omega)
        exact ⟨final, ended, by rw [finalSeen, seen, Bool.or_assoc],
          by rw [finalAdded, added, accumulate_append]⟩
      · intro beyond
        rw [List.sum_append] at beyond
        exact rest.overflows (by omega)
    · rw [step.overflows within]
      refine ⟨fun whole => absurd whole ?_, fun _ => rfl⟩
      rw [List.sum_append]
      omega

theorem dropReportsFrom_values (sect : Nat) (blocks : List Block) :
    (dropReportsFrom sect blocks).map (·.2) = blocks.flatMap Block.drops := by
  induction blocks generalizing sect with
  | nil => rfl
  | cons block blocks ih =>
    cases block with
    | interfaceStatistics interfaceId options =>
      rw [dropReportsFrom, List.map_append, ih, List.map_map, List.flatMap_cons]
      exact congrArg (· ++ _) (List.map_id _)
    | _ => exact ih _

/-- What the whole loop ends with. -/
theorem analyzePcapng_drops (slicer : LaxSlicer) (path : String) (blocks : List Block) :
    (((dropReports blocks).map (·.2)).sum < 2 ^ 64 →
      ∃ report, analyzePcapng slicer path (blocks.map .ok) = .ok report ∧ report.health.dropsKnown =
        if blocks.any Block.isStatistics then some ((dropReports blocks).map (·.2)).sum else none) ∧
    (¬ ((dropReports blocks).map (·.2)).sum < 2 ^ 64 →
      analyzePcapng slicer path (blocks.map .ok) = .error .overflow) := by
  have empty : NgReading.initial.isbDrop.getD 0 < 2 ^ 64 := show 0 < 2 ^ 64 by omega
  have whole := foldlM_next_advances slicer empty blocks
  have start : NgReading.initial.isbDrop.getD 0 + (blocks.flatMap Block.drops).sum =
      ((dropReports blocks).map (·.2)).sum := by
    rw [dropReports, dropReportsFrom_values]
    exact Nat.zero_add _
  rw [← start]
  constructor
  · intro fits
    obtain ⟨final, read, seen, added⟩ := whole.adds fits
    refine ⟨(final.acc.getD unknownLink).finish path "pcapng" final.ifName final.drops, ?_, ?_⟩
    · rw [analyzePcapng, read]
      rfl
    · have count : final.isbDrop.getD 0 =
          NgReading.initial.isbDrop.getD 0 + (blocks.flatMap Block.drops).sum := by
        rw [added, accumulate_getD]
      change final.drops = _
      rw [NgReading.drops, seen, count]
      rfl
  · intro beyond
    rw [analyzePcapng, whole.overflows beyond]
    rfl

theorem dropReports_eq_nil {blocks : List Block}
    (none : ∀ block ∈ blocks, block.isStatistics = false) :
    dropReports blocks = [] := by
  have values : blocks.flatMap Block.drops = [] := by
    apply List.flatMap_eq_nil_iff.mpr
    intro block member
    have other := none block member
    cases block with
    | interfaceStatistics interfaceId options => cases other
    | _ => rfl
  rw [← dropReportsFrom_values 0] at values
  exact List.map_eq_nil_iff.mp values

/-- The report has the drop count that the blocks give exactly when no statistics block is there,
or some count is, every count that a later one replaces is zero, and the sum fits. -/
theorem drops_known_iff (slicer : LaxSlicer) (path : String) (blocks : List Block) :
    (∃ report, analyzePcapng slicer path (blocks.map .ok) = .ok report ∧
        report.health.dropsKnown = knownDrops blocks) ↔
      (∀ block ∈ blocks, block.isStatistics = false) ∨
        (dropReports blocks ≠ [] ∧ (∀ report ∈ superseded (dropReports blocks), report.2 = 0) ∧
          ((dropReports blocks).map (·.2)).sum < 2 ^ 64) := by
  obtain ⟨reported, overflown⟩ := analyzePcapng_drops slicer path blocks
  have total := sum_reports (dropReports blocks)
  by_cases fits : ((dropReports blocks).map (·.2)).sum < 2 ^ 64
  · obtain ⟨report, analysed, drops⟩ := reported fits
    have only : (∃ report, analyzePcapng slicer path (blocks.map .ok) = .ok report ∧
        report.health.dropsKnown = knownDrops blocks) ↔
          report.health.dropsKnown = knownDrops blocks := by
      constructor
      · rintro ⟨other, same, known⟩
        obtain rfl := Except.ok.inj (analysed.symm.trans same)
        exact known
      · exact fun known => ⟨report, analysed, known⟩
    rw [only, drops, knownDrops]
    cases seen : blocks.any Block.isStatistics with
    | false =>
      have none : ∀ block ∈ blocks, block.isStatistics = false := by simpa using seen
      rw [if_pos (dropReports_eq_nil none)]
      exact iff_of_true rfl (.inl none)
    | true =>
      have some : ¬ ∀ block ∈ blocks, block.isStatistics = false := by simpa using seen
      rw [or_iff_right some]
      by_cases empty : dropReports blocks = []
      · rw [if_pos empty]
        exact iff_of_false (by simp) (fun holds => holds.1 empty)
      · have zeros : (∀ report ∈ superseded (dropReports blocks), report.2 = 0) ↔
            ((superseded (dropReports blocks)).map (·.2)).sum = 0 := by
          rw [List.sum_eq_zero_iff_forall_eq_nat, List.forall_mem_map]
        rw [if_neg empty, zeros, and_iff_right empty, and_iff_left fits]
        simp only [if_true, Option.some.injEq]
        omega
  · rw [overflown fits]
    refine iff_of_false (by simp) ?_
    rintro (none | ⟨-, -, within⟩)
    · rw [dropReports_eq_nil none] at fits
      exact fits (by simp)
    · exact fits within

/-- The report of these blocks. -/
def exampleDrops (blocks : List Block) : Option (Option Nat) :=
  match analyzePcapng (fun _ => none) "capture.pcapng" (blocks.map .ok) with
  | .ok report => some report.health.dropsKnown
  | .error _ => none

/-- A statistics block without a drop count is reported as no drops at all, and two counts of
one interface are added. -/
theorem drops_invented :
    exampleDrops [.interfaceStatistics 0 []] = some (some 0) ∧
      knownDrops [.interfaceStatistics 0 []] = none ∧
      exampleDrops [.interfaceStatistics 0 [.isbIfDrop 5], .interfaceStatistics 0 [.isbIfDrop 7]] =
        some (some 12) ∧
      knownDrops [.interfaceStatistics 0 [.isbIfDrop 5], .interfaceStatistics 0 [.isbIfDrop 7]] =
        some 7 :=
  ⟨rfl, rfl, rfl, by decide⟩

end Drops

end FragglePacket.NetworkTests
