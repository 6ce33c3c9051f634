import FragglePacket.Lists.SortByKey
import FragglePacket.Text.Integer
import FragglePacket.Text.Pattern
import FragglePacket.Text.Unicode
import Mathlib.Algebra.Order.BigOperators.Group.Finset
import Mathlib.Data.Char
import Mathlib.Data.Finset.Sort
import Mathlib.Data.List.Lex

/-! A bounded capture: the poll loop over a growing set of files, and what it reports of them. -/

namespace FragglePacket.NetworkTests

open FragglePacket.Lists FragglePacket.Text

/-- The files of a directory, and the length of each. -/
structure Directory where
  names : Finset Str
  length : Str → ℕ

/-- A path with a file name, in the form in which a join of the two writes it. -/
structure OutputPath where
  parent : Str
  fileName : Str

namespace OutputPath
variable (path : OutputPath)

def join (name : Str) : Str :=
  if path.parent = [] ∨ path.parent.getLast? = some '/' then path.parent ++ name
  else path.parent ++ '/' :: name

def display : Str := path.join path.fileName

/-- The length of the file at the path. -/
def metadata (directory : Directory) : Option ℕ :=
  if path.fileName ∈ directory.names then some (directory.length path.fileName) else none

/-- The parent of a bare file name is empty, and an empty path names no directory. -/
def readDir (directory : Directory) : Option (List Str) :=
  if path.parent = [] then none else some (directory.names.sort (· ≤ ·))

def listRotatedFiles (directory : Directory) : List Str :=
  let found :=
    sortByKey id (((path.readDir directory).getD []).filter path.fileName.isPrefixOf |>.map
      path.join)
  if found = [] then [path.display] else found

end OutputPath

structure CaptureOptions where
  interface : Str
  durationSecs : UInt64
  snaplen : UInt32
  maxBytes : UInt64
  rotateFileMb : Option UInt64
  rotateFileCount : Option UInt32
  filter : Option Str
  outputPath : OutputPath

inductive StopReason where
  | durationElapsed
  | byteCapReached
  | processExited
  | operatorInterrupted
  deriving DecidableEq

inductive CaptureError where
  | toolMissing
  | privilegeRequired (detail command : Str)
  | spawnFailed (reason : Str)
  | exitedWithError (detail : Str)
  | io (reason : Str)
  deriving DecidableEq

structure CaptureMetadata where
  interface : Str
  startedUnixSecs : UInt64
  requestedDurationSecs : UInt64
  actualDurationSecs : ℚ
  snaplen : UInt32
  maxBytes : UInt64
  filter : Option Str
  stopReason : StopReason
  outputFiles : List Str
  totalBytesWritten : ℕ
  tcpdumpCommand : Str

/-- How the process ended, and what it had written to its standard error. -/
structure ExitStatus where
  success : Bool
  stderr : Str

/-- What a poll sees: whether the process has ended, whether the deadline
has passed, and the files. -/
structure Poll where
  status : Except Str (Option ExitStatus)
  late : Bool
  directory : Directory

/-- What the capture finds around it: the capture tool, whether it starts, and the clock. -/
structure CaptureHost where
  tcpdumpBinary : Option Str
  spawned : Except Str Unit
  startedUnixSecs : UInt64
  elapsedSecs : ℚ

def stderrNamesAPermissionProblem (tables : CaseTables) (stderr : Str) : Bool :=
  let lower := tables.toLowercase stderr
  contains lower "permission denied".toList || contains lower "operation not permitted".toList ||
    contains lower "you don't have permission to capture".toList ||
      contains lower "socket: uid".toList

namespace CaptureOptions
variable (opts : CaptureOptions) (host : CaptureHost) (tables : CaseTables)

def buildCommand : Str × List Str :=
  (host.tcpdumpBinary.getD "tcpdump".toList,
    ["-i".toList, opts.interface, "-s".toList, Nat.toDigits 10 opts.snaplen.toNat, "-w".toList,
      opts.outputPath.display, "-U".toList] ++
    (opts.rotateFileMb.elim [] fun mb => ["-C".toList, Nat.toDigits 10 mb.toNat]) ++
    (opts.rotateFileCount.elim [] fun count => ["-W".toList, Nat.toDigits 10 count.toNat]) ++
    opts.filter.toList)

def suggestedPrivilegedCommand : Str :=
  let (bin, args) := opts.buildCommand host
  [' '].intercalate (bin :: args)

/-- Why the loop ends on a process that has exited. -/
def exitOutcome (exit : ExitStatus) : Except CaptureError StopReason :=
  let joined := ['\n'].intercalate (lines exit.stderr)
  if exit.success then .ok .processExited
  else if stderrNamesAPermissionProblem tables joined then
    .error (.privilegeRequired (trim joined) (opts.suggestedPrivilegedCommand host))
  else .error (.exitedWithError (trim joined))

/-- One turn of the loop, with nothing where it sleeps and goes on. -/
def pollOnce (poll : Poll) : Option (Except CaptureError StopReason) :=
  match poll.status with
  | .error reason => some (.error (.io reason))
  | .ok (some exit) => some (opts.exitOutcome host tables exit)
  | .ok none =>
    if poll.late then some (.ok .durationElapsed)
    else match opts.outputPath.metadata poll.directory with
      | some bytes => if opts.maxBytes.toNat ≤ bytes then some (.ok .byteCapReached) else none
      | none => none

def pollLoop (polls : List Poll) : Option (Except CaptureError StopReason) :=
  polls.findSome? (opts.pollOnce host tables)

/-- What is reported of the files that are left. -/
def captureMetadata (final : Directory) (stopReason : StopReason) : CaptureMetadata where
  interface := opts.interface
  startedUnixSecs := host.startedUnixSecs
  requestedDurationSecs := opts.durationSecs
  actualDurationSecs := host.elapsedSecs
  snaplen := opts.snaplen
  maxBytes := opts.maxBytes
  filter := opts.filter
  stopReason := stopReason
  outputFiles := if opts.rotateFileMb.isSome then opts.outputPath.listRotatedFiles final else
    [opts.outputPath.display]
  totalBytesWritten := (opts.outputPath.metadata final).getD 0
  tcpdumpCommand := opts.suggestedPrivilegedCommand host

/-- The capture over its polls, with nothing while it is still going. -/
def runBoundedCapture (polls : List Poll) (final : Directory) :
    Option (Except CaptureError CaptureMetadata) :=
  match host.tcpdumpBinary with
  | none => some (.error .toolMissing)
  | some _ =>
    match host.spawned with
    | .error reason => some (.error (.spawnFailed reason))
    | .ok () =>
      (opts.pollLoop host tables polls).map fun outcome =>
        outcome.map (opts.captureMetadata host final)

/-- The files the capture process writes: the output path, followed by a
file number under rotation. -/
def inSet (name : Str) : Bool :=
  match opts.rotateFileMb with
  | none => name == opts.outputPath.fileName
  | some _ =>
    (stripPrefix opts.outputPath.fileName name).any fun number => !number.isEmpty &&
    number.all isAsciiDigit

/-- The total length of the set's files. -/
def setTotal (directory : Directory) : ℕ :=
  ∑ name ∈ directory.names.filter (opts.inSet ·), directory.length name

/-- Nothing happens to the files but that some of the set are created or grow. -/
structure Grows (earlier later : Directory) : Prop where
  kept : ∀ name ∈ earlier.names, name ∈ later.names ∧ earlier.length name ≤ later.length name
  confined : ∀ name ∈ later.names, opts.inSet name = false →
    name ∈ earlier.names ∧ later.length name = earlier.length name

end CaptureOptions

/-- A run of the capture process from the files it starts on, as the polls see it. -/
structure CaptureRun (opts : CaptureOptions) where
  host : CaptureHost
  start : Directory
  polls : List Poll
  final : Directory
  grows : (start :: (polls.map (·.directory) ++ [final])).IsChain opts.Grows

namespace CaptureRun
variable {opts : CaptureOptions} (run : CaptureRun opts) (tables : CaseTables)

/-- What the loop has come to after some polls. -/
def stopped (polls : List Poll) : Option (Except CaptureError StopReason) :=
  opts.pollLoop run.host tables polls

def outcome : Option (Except CaptureError CaptureMetadata) :=
  opts.runBoundedCapture run.host tables run.polls run.final

/-- The process can be waited for, and has opened a file of the set when the capture ends. -/
structure Clean : Prop where
  opened : ∃ name ∈ run.final.names, opts.inSet name = true
  waited : ∀ poll ∈ run.polls, ∀ reason, poll.status ≠ .error reason

/-- The loop stops the process at the first poll at which the set has the capped length, and the
set's files, with their length, are what is reported. -/
structure ByteCapHolds : Prop where
  stops : ∀ before poll after, run.polls = before ++ poll :: after →
    run.stopped tables before = none →
    (∀ exit, poll.status ≠ .ok (some exit)) → opts.maxBytes.toNat ≤ opts.setTotal poll.directory →
    ∃ reason, run.stopped tables (before ++ [poll]) = some (.ok reason)
  reached : ∀ before poll after, run.polls = before ++ poll :: after →
    run.stopped tables before = none →
    run.stopped tables (before ++ [poll]) = some (.ok .byteCapReached) →
    opts.maxBytes.toNat ≤ opts.setTotal poll.directory
  listed : ∀ metadata, run.outcome tables = some (.ok metadata) →
    ∀ file, file ∈ metadata.outputFiles ↔
    ∃ name ∈ run.final.names, opts.inSet name = true ∧ file = opts.outputPath.join name
  total : ∀ metadata, run.outcome tables = some (.ok metadata) →
    metadata.totalBytesWritten = opts.setTotal run.final

end CaptureRun

section Growth
variable {opts : CaptureOptions} {earlier later : Directory}

theorem CaptureOptions.Grows.trans {latest : Directory} (first : opts.Grows earlier later)
    (second : opts.Grows later latest) : opts.Grows earlier latest where
  kept name member := by
    obtain ⟨middle, grown⟩ := first.kept name member
    obtain ⟨present, more⟩ := second.kept name middle
    exact ⟨present, grown.trans more⟩
  confined name member outside := by
    obtain ⟨middle, same⟩ := second.confined name member outside
    obtain ⟨present, unchanged⟩ := first.confined name middle outside
    exact ⟨present, same.trans unchanged⟩

instance : Trans opts.Grows opts.Grows opts.Grows := ⟨CaptureOptions.Grows.trans⟩

theorem CaptureOptions.Grows.refl (opts : CaptureOptions) (directory : Directory) :
    opts.Grows directory directory :=
  ⟨fun _ member => ⟨member, le_rfl⟩, fun _ member _ => ⟨member, rfl⟩⟩

/-- The set's length never falls. -/
theorem CaptureOptions.Grows.setTotal_le (grows : opts.Grows earlier later) :
    opts.setTotal earlier ≤ opts.setTotal later := by
  have longer : opts.setTotal earlier ≤ ∑ name ∈ earlier.names.filter (opts.inSet ·),
      later.length name :=
    Finset.sum_le_sum fun name member => (grows.kept name (Finset.mem_filter.mp member).1).2
  refine longer.trans (Finset.sum_le_sum_of_subset fun name member => ?_)
  obtain ⟨present, inside⟩ := Finset.mem_filter.mp member
  exact Finset.mem_filter.mpr ⟨(grows.kept name present).1, inside⟩

variable {run : CaptureRun opts}

theorem grows_pairwise :
    (run.start :: (run.polls.map (·.directory) ++ [run.final])).Pairwise opts.Grows :=
  List.isChain_iff_pairwise.mp run.grows

theorem grows_from_start {directory : Directory}
    (seen : directory ∈ run.polls.map (·.directory) ++ [run.final]) :
    opts.Grows run.start directory := (List.pairwise_cons.mp grows_pairwise).1 directory seen

theorem grows_to_final {poll : Poll} (member : poll ∈ run.polls) :
    opts.Grows poll.directory run.final := by
  have pairs := (List.pairwise_cons.mp (@grows_pairwise opts run)).2
  exact (List.pairwise_append.mp pairs).2.2 _ (List.mem_map_of_mem member) _
    (List.mem_singleton_self _)

end Growth

section Loop
variable {opts : CaptureOptions} {host : CaptureHost} {tables : CaseTables} {poll : Poll}

theorem metadata_present {path : OutputPath} {directory : Directory}
    (present : path.fileName ∈ directory.names) :
    path.metadata directory = some (directory.length path.fileName) := if_pos present

theorem metadata_absent {path : OutputPath} {directory : Directory}
    (absent : path.fileName ∉ directory.names) :
    path.metadata directory = none := if_neg absent

theorem pollOnce_running (running : poll.status = .ok none) (early : poll.late = false) :
    opts.pollOnce host tables poll =
    (opts.outputPath.metadata poll.directory).bind fun bytes =>
      if opts.maxBytes.toNat ≤ bytes then some (.ok .byteCapReached) else none := by
  unfold CaptureOptions.pollOnce
  rw [running]
  simp only [early, Bool.false_eq_true, if_false]
  cases opts.outputPath.metadata poll.directory <;> rfl

/-- The cap stops the loop only where the output path has reached it. -/
theorem pollOnce_eq_byteCapReached_iff :
    opts.pollOnce host tables poll = some (.ok .byteCapReached) ↔
    poll.status = .ok none ∧ poll.late = false ∧ opts.outputPath.fileName ∈ poll.directory.names ∧
      opts.maxBytes.toNat ≤ poll.directory.length opts.outputPath.fileName := by
  cases status : poll.status with
  | error reason => simp [CaptureOptions.pollOnce, status]
  | ok ended =>
    cases ended with
    | some exit =>
      simp only [CaptureOptions.pollOnce, status, CaptureOptions.exitOutcome]
      split_ifs <;> simp
    | none =>
      cases early : poll.late with
      | true => simp [CaptureOptions.pollOnce, status, early]
      | false =>
        rw [pollOnce_running status early]
        by_cases present : opts.outputPath.fileName ∈ poll.directory.names
        · simp [metadata_present present, present]
        · simp [metadata_absent present, present]

variable {run : CaptureRun opts}

theorem stopped_eq_pollOnce {before : List Poll} (going : run.stopped tables before = none) :
    run.stopped tables (before ++ [poll]) = opts.pollOnce run.host tables poll := by
  have passed : before.findSome? (opts.pollOnce run.host tables) = none := going
  rw [CaptureRun.stopped, CaptureOptions.pollLoop, List.findSome?_append, passed, Option.none_or,
    List.findSome?_singleton]

/-- A capture that is done was started, and its loop has stopped. -/
theorem outcome_eq_ok_iff {metadata : CaptureMetadata} : run.outcome tables = some (.ok metadata) ↔
    run.host.tcpdumpBinary.isSome ∧ run.host.spawned = .ok () ∧
      ∃ reason, run.stopped tables run.polls = some (.ok reason) ∧
        opts.captureMetadata run.host run.final reason = metadata := by
  unfold CaptureRun.outcome CaptureOptions.runBoundedCapture
  cases run.host.tcpdumpBinary with
  | none => simp
  | some bin =>
    cases run.host.spawned with
    | error reason => simp
    | ok started =>
      rw [CaptureRun.stopped]
      cases opts.pollLoop run.host tables run.polls with
      | none => simp
      | some outcome => cases outcome <;> simp [Except.map]

end Loop

section Set
variable {opts : CaptureOptions} {directory : Directory}

theorem inSet_unrotated (unrotated : opts.rotateFileMb = none) {name : Str} :
    opts.inSet name = true ↔ name = opts.outputPath.fileName := by
  rw [CaptureOptions.inSet, unrotated]
  exact beq_iff_eq

theorem inSet_numbered {size : UInt64} (rotated : opts.rotateFileMb = some size) {number : Str}
    (some : number ≠ []) (numeric : number.all isAsciiDigit = true) :
    opts.inSet (opts.outputPath.fileName ++ number) = true := by
  rw [CaptureOptions.inSet, rotated]
  simp [stripPrefix_append, numeric, some]

/-- Under rotation the output path itself is no file of the set. -/
theorem inSet_fileName {size : UInt64} (rotated : opts.rotateFileMb = some size) :
    opts.inSet opts.outputPath.fileName = false := by
  have bare := stripPrefix_append opts.outputPath.fileName []
  rw [List.append_nil] at bare
  rw [CaptureOptions.inSet, rotated]
  simp [bare]

theorem setTotal_unrotated (unrotated : opts.rotateFileMb = none) :
    opts.setTotal directory = (opts.outputPath.metadata directory).getD 0 := by
  have alone : directory.names.filter (opts.inSet ·) =
      directory.names.filter (· = opts.outputPath.fileName) :=
    Finset.filter_congr fun name _ => inSet_unrotated unrotated
  rw [CaptureOptions.setTotal, alone, Finset.filter_eq']
  by_cases present : opts.outputPath.fileName ∈ directory.names
  · rw [if_pos present, Finset.sum_singleton, metadata_present present]
    rfl
  · rw [if_neg present, Finset.sum_empty, metadata_absent present]
    rfl

end Set

section Cap
variable {opts : CaptureOptions} {run : CaptureRun opts} {tables : CaseTables}

/-- Without rotation, a poll in time stops the process exactly where the
set has the capped length. -/
theorem pollOnce_capped_iff (unrotated : opts.rotateFileMb = none) (capped : opts.maxBytes ≠ 0)
    {poll : Poll} (running : poll.status = .ok none) (early : poll.late = false) :
    opts.pollOnce run.host tables poll = some (.ok .byteCapReached) ↔
      opts.maxBytes.toNat ≤ opts.setTotal poll.directory := by
  rw [pollOnce_eq_byteCapReached_iff, setTotal_unrotated unrotated]
  by_cases present : opts.outputPath.fileName ∈ poll.directory.names
  · rw [metadata_present present]
    exact ⟨fun cap => cap.2.2.2, fun full => ⟨running, early, present, full⟩⟩
  · rw [metadata_absent present]
    refine iff_of_false (fun cap => present cap.2.2.1) fun full => capped ?_
    exact UInt64.toNat_inj.mp (Nat.le_zero.mp full)

/-- Without rotation, the one file that is listed is the set. -/
theorem mem_outputFiles_iff (unrotated : opts.rotateFileMb = none) (clean : run.Clean)
    {reason : StopReason} {file : Str} :
    file ∈ (opts.captureMetadata run.host run.final reason).outputFiles ↔
      ∃ name ∈ run.final.names, opts.inSet name = true ∧ file = opts.outputPath.join name := by
  obtain ⟨name, present, inside⟩ := clean.opened
  obtain rfl := (inSet_unrotated unrotated).mp inside
  have files : (opts.captureMetadata run.host run.final reason).outputFiles =
      [opts.outputPath.display] := by
    simp [CaptureOptions.captureMetadata, unrotated]
  rw [files, List.mem_singleton]
  constructor
  · exact fun same => ⟨_, present, inside, same⟩
  · rintro ⟨other, -, insideToo, rfl⟩
    rw [(inSet_unrotated unrotated).mp insideToo]
    rfl

/-- Without rotation, a cap above zero holds over every clean run. -/
theorem byteCapHolds_unrotated (unrotated : opts.rotateFileMb = none) (capped : opts.maxBytes ≠ 0)
    (clean : run.Clean) :
    run.ByteCapHolds tables where
  stops before poll after polls going alive full := by
    rw [stopped_eq_pollOnce going]
    have member : poll ∈ run.polls := polls ▸ List.mem_append_right _ (List.mem_cons_self ..)
    cases status : poll.status with
    | error reason => exact absurd status (clean.waited poll member reason)
    | ok ended =>
      cases ended with
      | some exit => exact absurd status (alive exit)
      | none =>
        cases early : poll.late with
        | true => exact ⟨.durationElapsed, by simp [CaptureOptions.pollOnce, status, early]⟩
        | false =>
          exact ⟨.byteCapReached, (pollOnce_capped_iff unrotated capped status early).mpr full⟩
  reached before poll after polls going stopped := by
    rw [stopped_eq_pollOnce going] at stopped
    obtain ⟨running, early, -, -⟩ := pollOnce_eq_byteCapReached_iff.mp stopped
    exact (pollOnce_capped_iff unrotated capped running early).mp stopped
  listed metadata done file := by
    obtain ⟨-, -, reason, -, rfl⟩ := outcome_eq_ok_iff.mp done
    exact mem_outputFiles_iff unrotated clean
  total metadata done := by
    obtain ⟨-, -, reason, -, rfl⟩ := outcome_eq_ok_iff.mp done
    exact (setTotal_unrotated unrotated).symm

/-- A poll in time that does not find the output path is passed over, however long the set is. -/
theorem not_byteCapHolds (before : List Poll) {after : List Poll} {poll : Poll}
    (polls : run.polls = before ++ poll :: after) (going : run.stopped tables before = none)
    (running : poll.status = .ok none) (early : poll.late = false)
    (absent : opts.outputPath.fileName ∉ poll.directory.names)
    (full : opts.maxBytes.toNat ≤ opts.setTotal poll.directory) : ¬ run.ByteCapHolds tables := by
  intro holds
  obtain ⟨reason, stopped⟩ := holds.stops before poll after polls going (by simp [running]) full
  rw [stopped_eq_pollOnce going, pollOnce_running running early, metadata_absent absent] at stopped
  exact absurd stopped (by simp)

/-- The run that starts on a directory, grows it once and is then still going. -/
def growingRun (opts : CaptureOptions) (seen final : Directory)
    (grows : opts.Grows seen final) : CaptureRun opts where
  host := ⟨some "tcpdump".toList, .ok (), 0, 0⟩
  start := seen
  polls := [⟨.ok none, false, seen⟩]
  final := final
  grows := .cons_cons (.refl opts seen) (.cons_cons grows (.singleton _))

theorem growingRun_fails {seen final : Directory} (grows : opts.Grows seen final)
    (opened : ∃ name ∈ final.names, opts.inSet name = true)
    (absent : opts.outputPath.fileName ∉ seen.names)
    (full : opts.maxBytes.toNat ≤ opts.setTotal seen) :
    ¬ ∀ run : CaptureRun opts, run.Clean → run.ByteCapHolds tables := by
  intro holds
  have clean : (growingRun opts seen final grows).Clean := by
    refine ⟨opened, fun poll member reason => ?_⟩
    obtain rfl := List.mem_singleton.mp member
    exact fun failed => absurd failed (by simp)
  exact not_byteCapHolds [] rfl rfl rfl rfl absent full (holds _ clean)

/-- The cap holds over every clean run exactly where the capture does not rotate,
and the cap is above zero. -/
theorem byteCapHolds_iff (opts : CaptureOptions) (tables : CaseTables) :
    (∀ run : CaptureRun opts, run.Clean → run.ByteCapHolds tables) ↔
      opts.rotateFileMb = none ∧ opts.maxBytes ≠ 0 := by
  constructor
  · intro holds
    cases rotation : opts.rotateFileMb with
    | none =>
      refine ⟨rfl, fun uncapped => ?_⟩
      have grows : opts.Grows ⟨∅, fun _ => 0⟩ ⟨{opts.outputPath.fileName}, fun _ => 0⟩ := by
        refine ⟨fun name member => absurd member (Finset.notMem_empty name),
          fun name member outside => ?_⟩
        rw [(inSet_unrotated rotation).mpr (Finset.mem_singleton.mp member)] at outside
        exact absurd outside (by simp)
      refine absurd holds (growingRun_fails grows ⟨_, Finset.mem_singleton_self _, ?_⟩
        (Finset.notMem_empty _) ?_)
      · exact (inSet_unrotated rotation).mpr rfl
      · simp [uncapped]
    | some size =>
      let seen : Directory := ⟨{opts.outputPath.fileName ++ ['1']}, fun _ => opts.maxBytes.toNat⟩
      have numbered : opts.inSet (opts.outputPath.fileName ++ ['1']) = true :=
        inSet_numbered rotation (List.cons_ne_nil _ _) rfl
      have total : opts.setTotal seen = opts.maxBytes.toNat := by
        simp [seen, CaptureOptions.setTotal, Finset.filter_singleton, numbered]
      refine absurd holds (growingRun_fails (.refl opts seen)
        ⟨_, Finset.mem_singleton_self _, numbered⟩ ?_ total.ge)
      simp [seen]
  · rintro ⟨unrotated, capped⟩ run clean
    exact byteCapHolds_unrotated unrotated capped clean

/-- The files of a set of two, each of which is below the cap. -/
def twoFiles : Directory := ⟨{"cap.pcap0".toList, "cap.pcap1".toList}, fun _ => 60⟩

def rotatedCapture : CaptureOptions :=
  ⟨"en0".toList, 30, 262, 100, some 1, some 5, none, ⟨"/tmp".toList, "cap.pcap".toList⟩⟩

theorem rotated_capture_uncapped :
    ¬ (growingRun rotatedCapture twoFiles twoFiles (.refl _ _)).ByteCapHolds
      ⟨fun c => [c], fun _ => false, fun _ => false⟩ :=
  not_byteCapHolds [] rfl rfl rfl rfl (by decide) (by decide)

/-- A capture that stops for the cap has written as much. -/
theorem capped_total {metadata : CaptureMetadata} (done : run.outcome tables = some (.ok metadata))
    (capped : metadata.stopReason = .byteCapReached) :
    opts.maxBytes.toNat ≤ metadata.totalBytesWritten := by
  obtain ⟨-, -, reason, stopped, rfl⟩ := outcome_eq_ok_iff.mp done
  obtain rfl : reason = .byteCapReached := capped
  obtain ⟨poll, member, cap⟩ := List.exists_of_findSome?_eq_some stopped
  obtain ⟨-, -, present, full⟩ := pollOnce_eq_byteCapReached_iff.mp cap
  obtain ⟨left, grown⟩ := (grows_to_final member).kept _ present
  have written : (opts.captureMetadata run.host run.final .byteCapReached).totalBytesWritten =
      run.final.length opts.outputPath.fileName := by
    rw [CaptureOptions.captureMetadata, metadata_present left]
    rfl
  rw [written]
  exact full.trans grown

/-- Under rotation, a capture that starts without a file at the output path never stops for the
cap and reports no bytes, whatever the set has come to. -/
theorem rotated_uncounted {size : UInt64} (rotated : opts.rotateFileMb = some size)
    (fresh : opts.outputPath.fileName ∉ run.start.names) {metadata : CaptureMetadata}
    (done : run.outcome tables = some (.ok metadata)) {poll : Poll} (member : poll ∈ run.polls)
    (full : opts.maxBytes.toNat ≤ opts.setTotal poll.directory) :
    metadata.stopReason ≠ .byteCapReached ∧ metadata.totalBytesWritten = 0 ∧
      opts.maxBytes.toNat ≤ opts.setTotal run.final := by
  have absent : ∀ directory ∈ run.polls.map (·.directory) ++ [run.final],
      opts.outputPath.fileName ∉ directory.names :=
    fun directory seen present => fresh
      ((grows_from_start seen).confined _ present (inSet_fileName rotated)).1
  obtain ⟨-, -, reason, stopped, rfl⟩ := outcome_eq_ok_iff.mp done
  refine ⟨fun capped => ?_, ?_, full.trans (grows_to_final member).setTotal_le⟩
  · obtain rfl : reason = .byteCapReached := capped
    obtain ⟨last, among, cap⟩ := List.exists_of_findSome?_eq_some stopped
    obtain ⟨-, -, present, -⟩ := pollOnce_eq_byteCapReached_iff.mp cap
    exact absent _ (List.mem_append_left _ (List.mem_map_of_mem among)) present
  · have gone := absent run.final (List.mem_append_right _ (List.mem_singleton_self _))
    rw [CaptureOptions.captureMetadata, metadata_absent gone]
    rfl

end Cap

end FragglePacket.NetworkTests
