import FragglePacket.Systems.Machine
import FragglePacket.Text.Integer
import FragglePacket.UiBridge.Bridge

/-! The command browser: the registry of subcommands, the keys of the panel, and what it runs. -/

namespace FragglePacket.Tui

open FragglePacket.Systems FragglePacket.Text FragglePacket.UiBridge

inductive Bucket where
  | wifiRf
  | throughput
  | pathMtu
  | dnsAddressing
  | infrastructure
  | securityPolicy
  | tools
deriving DecidableEq

def Bucket.all : List Bucket :=
  [.wifiRf, .throughput, .pathMtu, .dnsAddressing, .infrastructure, .securityPolicy, .tools]

inductive Platform where
  | anyPlatform
  | macOsOnly
  | macOsForLiveSampling

inductive Availability where
  | available
  | ingestOnly (reason : String)
  | unavailable (reason : String)

def Availability.isBlocked : Availability → Bool
  | .unavailable _ => true
  | _ => false

inductive InputKind where
  | target
  | targetList
  | interface
  | existingFile
  | port
  | text

namespace InputKind

def fromPlaceholder (name : String) : InputKind :=
  if name ∈ ["TARGET", "HOST", "GATEWAY", "REMOTE", "AFFECTED_HOST", "CONTROL_HOST", "NAME"] then
    .target
  else if name ∈ ["TARGETS", "RESOLVERS"] then .targetList
  else if name ∈ ["INTERFACE", "IFACE"] then .interface
  else if name ∈ ["PCAP", "FILE", "FILES", "MANIFEST", "MANIFEST_FILE", "BRACKET", "RUN",
    "MEASUREMENTS_FILE"] then
    .existingFile
  else if name = "PORT" then .port
  else .text

def hint : InputKind → String
  | target => "hostname or IP"
  | targetList => "comma-separated hosts"
  | interface => "interface name, e.g. en0"
  | existingFile => "path to an existing file"
  | port => "port number"
  | text => "value"

/-- What cannot work is refused; the value is read without the blanks around it. -/
def validate (isFile : Str → Bool) (kind : InputKind) (value : Str) : Except String Unit :=
  let v := trim value
  if v.isEmpty then .error (kind.hint ++ " is required")
  else
    match kind with
    | port =>
      match parseUnsigned (2 ^ 16) v with
      | some _ => .ok ()
      | none => .error "port must be a number from 0 to 65535"
    | existingFile => if isFile v then .ok () else .error ("no file at " ++ String.ofList v)
    | _ => if 1 < (splitWhitespace v).length then .error "must not contain spaces" else .ok ()

end InputKind

structure Cmd where
  name : String
  bucket : Bucket
  requiredInputs : List String
  emitsJson : Bool
  platform : Platform

namespace Cmd

def typedInputs (cmd : Cmd) : List (String × InputKind) :=
  cmd.requiredInputs.map fun name => (name, InputKind.fromPlaceholder name)

/-- The problem with the value of one input. -/
def inputErrors (isFile : Str → Bool) (values : List Str) (input : (String × InputKind) × Nat) :
    List String :=
  match values[input.2]? with
  | some v =>
    match input.1.2.validate isFile v with
    | .ok _ => []
    | .error e => [input.1.1 ++ ": " ++ e]
  | none => [input.1.1 ++ ": " ++ input.1.2.hint ++ " is required"]

def validateInputs (isFile : Str → Bool) (cmd : Cmd) (values : List Str) :
    Except (List String) Unit :=
  let typed := cmd.typedInputs
  let errors :=
    (if values.length < typed.length then
      ["expected " ++ toString typed.length ++ " value(s), got " ++ toString values.length]
        else []) ++
      typed.zipIdx.flatMap (inputErrors isFile values)
  if errors.isEmpty then .ok () else .error errors

def availability (darwin : Bool) (cmd : Cmd) : Availability :=
  match cmd.platform with
  | .anyPlatform => .available
  | .macOsOnly =>
    if darwin then .available
    else .unavailable
      "needs macOS: reads system_profiler/wdutil/networkQuality, which have no equivalent here"
  | .macOsForLiveSampling =>
    if darwin then .available
    else .ingestOnly "live sampling needs macOS/BSD tooling; supply operator JSON to run it here"

def invocation (cmd : Cmd) (userArgs : List Str) : List Str :=
  if cmd.emitsJson && !userArgs.any (· == "--json".toList) then userArgs ++ ["--json".toList]
  else userArgs

end Cmd

inductive Focus where
  | buckets
  | commands
deriving DecidableEq

structure CommandPanelState where
  focus : Focus
  selectedBucket : Nat
  selectedCommand : Nat
  lastOutput : Option String
  lastCommand : Option String
  running : Bool
  inputValues : List Str
  editingInput : Option Nat

/-- A command that was started, with its arguments. -/
structure Launch where
  name : String
  args : List Str

/-- What the host answers while a key is handled: its files, and what a command comes to; the
JSON of an outcome is its text. -/
structure Host where
  isFile : Str → Bool
  runSubcommand : String → List Str → Outcome Str

/-- An exit code as `{:?}` shows it. -/
def shownCode : Option Int32 → String
  | some code => "Some(" ++ toString code.toInt ++ ")"
  | none => "None"

def shownOutcome : Outcome Str → String
  | .json value => String.ofList value
  | .textOnly text => String.ofList text
  | .failed exitCode stderr =>
    "failed (exit " ++ shownCode exitCode ++ "): " ++ String.ofList (trim stderr)
  | .notRun reason => "could not run: " ++ String.ofList reason

namespace CommandPanelState

def start : CommandPanelState := ⟨.buckets, 0, 0, none, none, false, [], none⟩

section Registry
variable (registry : List Cmd) (panel : CommandPanelState)

def currentBucket : Bucket :=
  Bucket.all[min panel.selectedBucket (Bucket.all.length - 1)]?.getD .wifiRf

def commands : List Cmd := registry.filter (·.bucket = panel.currentBucket)

def currentCommand : Option Cmd :=
  (panel.commands registry)[min panel.selectedCommand ((panel.commands registry).length - 1)]?

def nextBucket : CommandPanelState :=
  { panel with
    selectedBucket := (panel.selectedBucket + 1) % Bucket.all.length, selectedCommand := 0
    inputValues := [], editingInput := none }

def prevBucket : CommandPanelState :=
  { panel with
    selectedBucket :=
      if panel.selectedBucket = 0 then Bucket.all.length - 1 else panel.selectedBucket - 1
    selectedCommand := 0, inputValues := [], editingInput := none }

def nextCommand : CommandPanelState :=
  let n := (panel.commands registry).length
  { panel with
    selectedCommand := if 0 < n then (panel.selectedCommand + 1) % n else panel.selectedCommand
    inputValues := [], editingInput := none }

def prevCommand : CommandPanelState :=
  let n := (panel.commands registry).length
  { panel with
    selectedCommand :=
      if 0 < n then (if panel.selectedCommand = 0 then n - 1 else panel.selectedCommand - 1)
      else panel.selectedCommand
    inputValues := [], editingInput := none }

def beginInput : CommandPanelState :=
  match panel.currentCommand registry with
  | none => panel
  | some c =>
    if c.requiredInputs.isEmpty then panel
    else
      { panel with
        inputValues :=
          if panel.inputValues.length ≠ c.requiredInputs.length then
            List.replicate c.requiredInputs.length []
          else panel.inputValues
        editingInput := some 0 }

def cancelInput : CommandPanelState := { panel with editingInput := none }

/-- The next field, or the end of the input. -/
def advanceInput : CommandPanelState × Bool :=
  match panel.editingInput with
  | none => (panel, false)
  | some i =>
    if i + 1 < panel.inputValues.length then ({ panel with editingInput := some (i + 1) }, false)
    else ({ panel with editingInput := none }, true)

/-- A change of the field that is being edited. -/
def editField (edit : Str → Str) : CommandPanelState :=
  match panel.editingInput with
  | none => panel
  | some i => { panel with inputValues := panel.inputValues.modify i edit }

def pushChar (ch : Char) : CommandPanelState := panel.editField (· ++ [ch])

def popChar : CommandPanelState := panel.editField List.dropLast

def isEditing : Bool := panel.editingInput.isSome

def toggleFocus : CommandPanelState :=
  { panel with focus := match panel.focus with | .buckets => .commands | .commands => .buckets }

/-- `App::run_selected_registry_command`. -/
def runSelected (darwin : Bool) (host : Host) : CommandPanelState × Option Launch :=
  match panel.currentCommand registry with
  | none => (panel, none)
  | some cmd =>
    match cmd.availability darwin with
    | .unavailable reason =>
      ({ panel with lastCommand := some cmd.name,
                    lastOutput := some ("not run on this host: " ++ reason) }, none)
    | _ =>
      match if cmd.requiredInputs.isEmpty then .ok
        () else cmd.validateInputs host.isFile panel.inputValues with
      | .error errors =>
        ({ panel with
            lastCommand := some cmd.name
            lastOutput := some ("cannot run yet:\n  " ++ "\n  ".intercalate errors ++
              "\npress [i] to enter values") }, none)
      | .ok _ =>
        let args := cmd.invocation panel.inputValues
        ({ panel with
            running := false
            lastCommand := some (cmd.name ++ " " ++ " ".intercalate (args.map String.ofList))
            lastOutput := some (shownOutcome (host.runSubcommand cmd.name args)) },
              some ⟨cmd.name, args⟩)

end Registry

end CommandPanelState

inductive AppMode where
  | dashboard
  | targetDetail
  | simulator
  | fuzzingPanel
  | httpsPanel
  | testPanel
  | commandPanel
  | help
deriving DecidableEq

structure App where
  mode : AppMode
  shouldQuit : Bool
  showPopup : Bool
  commandPanel : CommandPanelState

inductive Key where
  | char (ch : Char)
  | backspace
  | esc
  | enter
  | tab
  | up
  | down
  | pageUp
  | pageDown
  | other
deriving DecidableEq

/-- A key that is pressed, and what it meets at that moment: whether a tracepath runs or has left
lines, whether there is one to run, and the host. -/
structure KeyEvent where
  key : Key
  tracing : Bool
  traceable : Bool
  host : Host

/-- The mode that a letter or a digit switches to. -/
def switchMode (mode : AppMode) (ch : Char) : Option AppMode :=
  if ch = '?' ∨ ch = 'h' then some .help
  else if ch = '1' then (if mode = .testPanel then none else some .dashboard)
  else if ch = '3' then (if mode = .testPanel then none else some .simulator)
  else if ch = 'f' ∨ ch = 'F' then some .fuzzingPanel
  else if ch = 'T' then some .testPanel
  else if ch = 'H' then some .httpsPanel
  else if ch = 'C' ∨ ch = 'c' then some .commandPanel
  else none

namespace App
variable (registry : List Cmd) (darwin : Bool)

def start : App := ⟨.dashboard, false, false, .start⟩

def isEditing (app : App) : Bool := app.mode = .commandPanel && app.commandPanel.isEditing

/-- The panel moves up or down in the list that has the focus. -/
def navigate (app : App) (forward : Bool) : App :=
  { app with
    commandPanel :=
      match app.commandPanel.focus, forward with
      | .buckets, true => app.commandPanel.nextBucket
      | .buckets, false => app.commandPanel.prevBucket
      | .commands, true => app.commandPanel.nextCommand registry
      | .commands, false => app.commandPanel.prevCommand registry }

def runCommand (app : App) (host : Host) : App × Option Launch :=
  let ran := app.commandPanel.runSelected registry darwin host
  ({ app with commandPanel := ran.1 }, ran.2)

/-- A key that goes to the field being edited. -/
def handleEditing (app : App) (event : KeyEvent) : App × Option Launch :=
  match event.key with
  | .char ch => ({ app with commandPanel := app.commandPanel.pushChar ch }, none)
  | .backspace => ({ app with commandPanel := app.commandPanel.popChar }, none)
  | .esc => ({ app with commandPanel := app.commandPanel.cancelInput }, none)
  | .enter =>
    let advanced := app.commandPanel.advanceInput
    if advanced.2 then runCommand registry darwin { app with commandPanel := advanced.1 } event.host
    else ({ app with commandPanel := advanced.1 }, none)
  | _ => (app, none)

/-- Whether a key moves the selection of the panel, and which way. -/
def movement (app : App) (event : KeyEvent) : Option Bool :=
  if app.isEditing || app.showPopup && event.tracing || app.mode ≠ .commandPanel then none
  else if event.key = .up ∨ event.key = .char 'k' then some false
  else if event.key = .down ∨ event.key = .char 'j' then some true
  else none

/-- What a key does to all but the popup. -/
def handleKey (app : App) (event : KeyEvent) : App × Option Launch :=
  if app.isEditing then handleEditing registry darwin app event
  else
    match app.movement event with
    | some forward => (app.navigate registry forward, none)
    | none =>
      match event.key with
      | .char ch =>
        if ch = 'q' then ({ app with shouldQuit := true }, none)
        else if ch = 'i' ∧ app.mode = .commandPanel then
          ({ app with commandPanel := app.commandPanel.beginInput registry }, none)
        else ({ app with mode := (switchMode app.mode ch).getD app.mode }, none)
      | .tab =>
        if app.mode = .commandPanel then
          ({ app with commandPanel := app.commandPanel.toggleFocus }, none) else (app, none)
      | .esc => ({ app with mode := .dashboard }, none)
      | .enter =>
        if app.mode = .commandPanel then runCommand registry darwin app event.host
        else if app.mode = .dashboard then ({ app with mode := .targetDetail }, none)
        else (app, none)
      | _ => (app, none)

/-- The keys that do not close a popup: those that open one, and those that scroll. -/
def popupKeys : List Key :=
  [.char 'r', .char 'R', .char 's', .char 't', .up, .down, .char 'k', .char 'j', .pageUp, .pageDown]

/-- A retest and a report always open a popup, a tracepath where there is one to run. What opens
one by any other key closes it at once. -/
def opensPopup (event : KeyEvent) : Bool :=
  event.key = .char 'r' || event.key = .char 'R' || event.key = .char 's' ||
    event.key = .char 't' && event.traceable

def popupAfter (app : App) (event : KeyEvent) : Bool :=
  if event.key ∈ popupKeys then app.showPopup || !app.isEditing && opensPopup event else false

def handleEvents (app : App) (event : KeyEvent) : App × Option Launch :=
  let handled := app.handleKey registry darwin event
  ({ handled.1 with showPopup := app.popupAfter event }, handled.2)

end App

/-- What holds of the panel between keys: its indices point into their lists, and the values
belong to the command that is highlighted. -/
structure PanelSound (registry : List Cmd) (panel : CommandPanelState) : Prop where
  bucket : panel.selectedBucket < Bucket.all.length
  command : 0 < (panel.commands registry).length →
    panel.selectedCommand < (panel.commands registry).length
  values : panel.inputValues.length = 0 ∨
    ∃ cmd, panel.currentCommand registry = some cmd ∧
      panel.inputValues.length = cmd.requiredInputs.length
  editing : ∀ i, panel.editingInput = some i → i < panel.inputValues.length
  idle : panel.running = false

namespace PanelSound
variable {registry : List Cmd} {panel panel' : CommandPanelState}

theorem start : PanelSound registry .start where
  bucket := by decide
  command := id
  values := Or.inl rfl
  editing := fun _ none => by cases none
  idle := rfl

/-- A change that leaves the selection and the number of values alone. -/
theorem transfer (sound : PanelSound registry panel)
    (bucket : panel'.selectedBucket = panel.selectedBucket)
    (command : panel'.selectedCommand = panel.selectedCommand)
    (values : panel'.inputValues.length = panel.inputValues.length)
    (editing : ∀ i, panel'.editingInput = some i → i < panel.inputValues.length)
    (idle : panel'.running = panel.running) : PanelSound registry panel' := by
  have sameCommands : panel'.commands registry = panel.commands registry := by
    rw [CommandPanelState.commands, CommandPanelState.currentBucket, bucket]
    rfl
  have sameCurrent : panel'.currentCommand registry = panel.currentCommand registry := by
    rw [CommandPanelState.currentCommand, sameCommands, command]
    rfl
  constructor
  case bucket => rw [bucket]; exact sound.bucket
  case command => rw [sameCommands, command]; exact sound.command
  case values => rw [values, sameCurrent]; exact sound.values
  case editing => rw [values]; exact editing
  case idle => rw [idle]; exact sound.idle

/-- A change of the selection, which drops the values. -/
theorem select (sound : PanelSound registry panel)
    (bucket : panel'.selectedBucket < Bucket.all.length)
    (command : 0 < (panel'.commands registry).length →
      panel'.selectedCommand < (panel'.commands registry).length) (values : panel'.inputValues = [])
        (editing : panel'.editingInput = none) (idle : panel'.running = panel.running) :
    PanelSound registry panel' where
  bucket := bucket
  command := command
  values := Or.inl (by rw [values]; rfl)
  editing := fun i some => by rw [editing] at some; cases some
  idle := idle.trans sound.idle

theorem nextBucket (sound : PanelSound registry panel) : PanelSound registry panel.nextBucket :=
  sound.select (Nat.mod_lt _ (by decide)) id rfl rfl rfl

theorem prevBucket (sound : PanelSound registry panel) : PanelSound registry panel.prevBucket := by
  refine sound.select ?_ id rfl rfl rfl
  have within := sound.bucket
  show (if panel.selectedBucket = 0 then _ else _) < _
  split
  · decide
  · omega

theorem nextCommand (sound : PanelSound registry panel) :
    PanelSound registry (panel.nextCommand registry) := by
  refine sound.select sound.bucket (fun some => ?_) rfl rfl rfl
  show (if 0 < (panel.commands registry).length then _ else _) < _
  rw [if_pos (show 0 < (panel.commands registry).length from some)]
  exact Nat.mod_lt _ some

theorem prevCommand (sound : PanelSound registry panel) :
    PanelSound registry (panel.prevCommand registry) := by
  refine sound.select sound.bucket (fun some => ?_) rfl rfl rfl
  have within := sound.command some
  show (if 0 < (panel.commands registry).length then _ else _) < _
  rw [if_pos (show 0 < (panel.commands registry).length from some)]
  show (if panel.selectedCommand = 0 then (panel.commands registry).length - 1
    else panel.selectedCommand - 1) <
    (panel.commands registry).length
  change 0 < (panel.commands registry).length at some
  split
  · omega
  · omega

theorem beginInput (sound : PanelSound registry panel) :
    PanelSound registry (panel.beginInput registry) := by
  rw [CommandPanelState.beginInput]
  cases highlighted : panel.currentCommand registry with
  | none => exact sound
  | some c =>
    dsimp only
    by_cases nothing : c.requiredInputs.isEmpty = true
    · rw [if_pos nothing]
      exact sound
    · rw [if_neg nothing]
      have asked : 0 < c.requiredInputs.length := by
        rw [List.isEmpty_iff] at nothing
        exact List.length_pos_iff.mpr nothing
      have sized : (if panel.inputValues.length ≠
          c.requiredInputs.length then List.replicate c.requiredInputs.length []
          else panel.inputValues).length = c.requiredInputs.length := by
        split
        case isTrue => exact List.length_replicate
        case isFalse same => exact not_not.mp same
      exact
        { bucket := sound.bucket
          command := sound.command
          values := Or.inr ⟨c, highlighted, sized⟩
          editing := fun i first => by
            obtain rfl : 0 = i := Option.some.inj first
            exact asked.trans_eq sized.symm
          idle := sound.idle }

theorem cancelInput (sound : PanelSound registry panel) : PanelSound registry panel.cancelInput :=
  sound.transfer rfl rfl rfl (fun _ none => by cases none) rfl

theorem toggleFocus (sound : PanelSound registry panel) : PanelSound registry panel.toggleFocus :=
  sound.transfer rfl rfl rfl sound.editing rfl

theorem advanceInput (sound : PanelSound registry panel) :
    PanelSound registry panel.advanceInput.1 := by
  rw [CommandPanelState.advanceInput]
  cases field : panel.editingInput with
  | none => exact sound
  | some i =>
    by_cases more : i + 1 < panel.inputValues.length
    · simp only [if_pos more]
      refine sound.transfer rfl rfl rfl (fun j next => ?_) rfl
      obtain rfl : i + 1 = j := Option.some.inj next
      exact more
    · simp only [if_neg more]
      exact sound.transfer rfl rfl rfl (fun _ none => by cases none) rfl

theorem editField (sound : PanelSound registry panel) (edit : Str → Str) :
    PanelSound registry (panel.editField edit) := by
  rw [CommandPanelState.editField]
  cases field : panel.editingInput with
  | none => exact sound
  | some i =>
    dsimp only
    exact sound.transfer rfl rfl (List.length_modify ..)
      (fun j same => sound.editing j (field.trans same)) rfl

theorem runSelected (sound : PanelSound registry panel) (darwin : Bool) (host : Host) :
    PanelSound registry (panel.runSelected registry darwin host).1 := by
  rw [CommandPanelState.runSelected]
  split
  · exact sound
  · split
    · exact sound.transfer rfl rfl rfl sound.editing rfl
    · split
      · exact sound.transfer rfl rfl rfl sound.editing rfl
      · exact sound.transfer rfl rfl rfl sound.editing sound.idle.symm

end PanelSound

/-- All values were accepted, position by position. -/
def Accepted (isFile : Str → Bool) (cmd : Cmd) (values : List Str) : Prop :=
  ∀ (i : Nat) (input : String × InputKind), cmd.typedInputs[i]? = some input →
    ∃ v, values[i]? = some v ∧ input.2.validate isFile v = .ok ()

theorem inputErrors_eq_nil {isFile : Str → Bool} {values : List Str}
    {input : (String × InputKind) × Nat} (clean : Cmd.inputErrors isFile values input = []) :
    ∃ v, values[input.2]? = some v ∧ input.1.2.validate isFile v = .ok () := by
  rw [Cmd.inputErrors] at clean
  cases given : values[input.2]? with
  | none =>
    rw [given] at clean
    cases clean
  | some v =>
    cases checked : input.1.2.validate isFile v with
    | error e =>
      rw [given] at clean
      simp only [checked] at clean
      cases clean
    | ok done => exact ⟨v, rfl, checked⟩

/-- What passes has a value for each input, and each of them is accepted. -/
theorem accepted_of_validateInputs {isFile : Str → Bool} {cmd : Cmd} {values : List Str}
    (passed : cmd.validateInputs isFile values = .ok ()) :
    cmd.requiredInputs.length ≤ values.length ∧ Accepted isFile cmd values := by
  have typed : cmd.typedInputs.length = cmd.requiredInputs.length := List.length_map _
  have clean : (if values.length < cmd.typedInputs.length then
      ["expected " ++ toString cmd.typedInputs.length ++ " value(s), got " ++
        toString values.length] else []) ++
      cmd.typedInputs.zipIdx.flatMap (Cmd.inputErrors isFile values) = [] := by
    by_contra found
    rw [← List.isEmpty_iff] at found
    have refused := (if_neg found).symm.trans passed
    cases refused
  obtain ⟨counted, each⟩ := List.append_eq_nil_iff.mp clean
  constructor
  · by_contra few
    rw [if_pos (by omega)] at counted
    cases counted
  · intro i input listed
    have member : (input, i) ∈ cmd.typedInputs.zipIdx := List.mem_zipIdx_iff_getElem?.mpr listed
    exact inputErrors_eq_nil (List.flatMap_eq_nil_iff.mp each (input, i) member)

theorem currentCommand_mem {registry : List Cmd} {panel : CommandPanelState} {cmd : Cmd}
    (highlighted : panel.currentCommand registry = some cmd) :
    cmd ∈ registry ∧ cmd.bucket = panel.currentBucket := by
  have listed := List.mem_filter.mp (List.mem_of_getElem? highlighted)
  exact ⟨listed.1, of_decide_eq_true listed.2⟩

/-- What a started command is: one of the registry that the host does not block, with an accepted
value for each of its inputs and nothing else but the flag that it knows. -/
structure LaunchSound (registry : List Cmd) (darwin : Bool) (host : Host) (typed : Str)
    (launch : Launch) : Prop where
  started : ∃ cmd ∈ registry, ∃ values : List Str, launch = ⟨cmd.name, cmd.invocation values⟩ ∧
    (cmd.availability darwin).isBlocked = false ∧ values.length = cmd.requiredInputs.length ∧
    Accepted host.isFile cmd values ∧ ∀ value ∈ values, value.Sublist typed

/-- The only way a command starts. -/
theorem runSelected_launch {registry : List Cmd} {panel : CommandPanelState} {darwin : Bool}
    {host : Host} {launch : Launch} (sound : PanelSound registry panel)
    (started : (panel.runSelected registry darwin host).2 = some launch) :
    ∃ cmd ∈ registry, launch = ⟨cmd.name, cmd.invocation panel.inputValues⟩ ∧
      (cmd.availability darwin).isBlocked = false ∧
      panel.inputValues.length = cmd.requiredInputs.length ∧
        Accepted host.isFile cmd panel.inputValues := by
  rw [CommandPanelState.runSelected] at started
  cases highlighted : panel.currentCommand registry with
  | none =>
    rw [highlighted] at started
    cases started
  | some cmd =>
    rw [highlighted] at started
    dsimp only at started
    have listed := (currentCommand_mem highlighted).1
    have sized : panel.inputValues.length = 0 ∨
        panel.inputValues.length = cmd.requiredInputs.length := by
      rcases sound.values with none | ⟨other, same, counted⟩
      · exact Or.inl none
      · rw [highlighted] at same
        obtain rfl := Option.some.inj same
        exact Or.inr counted
    have unblocked : (cmd.availability darwin).isBlocked = false := by
      cases host : cmd.availability darwin with
      | available => rfl
      | ingestOnly reason => rfl
      | unavailable reason =>
        rw [host] at started
        cases started
    have checked : (if cmd.requiredInputs.isEmpty then Except.ok
        () else cmd.validateInputs host.isFile panel.inputValues) =
          .ok () ∧ launch = ⟨cmd.name, cmd.invocation panel.inputValues⟩ := by
      split at started
      · cases started
      · split at started
        · cases started
        case h_2 checked => exact ⟨checked, (Option.some.inj started).symm⟩
    obtain ⟨passed, rfl⟩ := checked
    refine ⟨cmd, listed, rfl, unblocked, ?_⟩
    by_cases nothing : cmd.requiredInputs.isEmpty = true
    · have none : cmd.requiredInputs.length = 0 :=
        List.length_eq_zero_iff.mpr (List.isEmpty_iff.mp nothing)
      refine ⟨sized.elim (fun empty => empty.trans none.symm) id, ?_⟩
      intro i input asked
      rw [Cmd.typedInputs, List.isEmpty_iff.mp nothing] at asked
      cases asked
    · rw [if_neg nothing] at passed
      obtain ⟨enough, accepted⟩ := accepted_of_validateInputs passed
      have asked : 0 < cmd.requiredInputs.length := by
        rw [List.isEmpty_iff] at nothing
        exact List.length_pos_iff.mpr nothing
      exact ⟨sized.elim (fun empty => by omega) id, accepted⟩

/-! What was typed is followed beside the panel, and it is what the values are made of. -/

theorem mem_editField {panel : CommandPanelState} {edit : Str → Str} {value : Str}
    (member : value ∈ (panel.editField edit).inputValues) :
    value ∈ panel.inputValues ∨ ∃ old ∈ panel.inputValues, value = edit old := by
  rw [CommandPanelState.editField] at member
  cases field : panel.editingInput with
  | none =>
    rw [field] at member
    exact Or.inl member
  | some i =>
    rw [field] at member
    obtain ⟨j, listed⟩ := List.mem_iff_getElem?.mp member
    rw [List.getElem?_modify] at listed
    obtain ⟨old, there, changed⟩ := Option.map_eq_some_iff.mp listed
    have kept := List.mem_of_getElem? there
    by_cases edited : i = j
    · rw [if_pos edited] at changed
      exact Or.inr ⟨old, kept, changed.symm⟩
    · rw [if_neg edited] at changed
      exact Or.inl (changed ▸ kept)

theorem mem_beginInput {registry : List Cmd} {panel : CommandPanelState} {value : Str}
    (member : value ∈ (panel.beginInput registry).inputValues) :
    value ∈ panel.inputValues ∨ value = [] := by
  rw [CommandPanelState.beginInput] at member
  split at member
  · exact Or.inl member
  · split at member
    · exact Or.inl member
    · dsimp only at member
      split at member
      · exact Or.inr (List.eq_of_mem_replicate member)
      · exact Or.inl member

theorem advanceInput_inputValues (panel : CommandPanelState) :
    panel.advanceInput.1.inputValues = panel.inputValues := by
  rw [CommandPanelState.advanceInput]
  split
  · rfl
  · split <;> rfl

theorem runSelected_inputValues (registry : List Cmd) (panel : CommandPanelState) (darwin : Bool)
    (host : Host) :
    (panel.runSelected registry darwin host).1.inputValues = panel.inputValues := by
  rw [CommandPanelState.runSelected]
  split
  · rfl
  · split
    · rfl
    · split <;> rfl

namespace App

/-- A character adds to what was typed. -/
def typedBy (typed : Str) : Key → Str
  | .char ch => typed ++ [ch]
  | _ => typed

/-- The application beside the text that was typed since the selection last moved. -/
def watched (registry : List Cmd) (darwin : Bool) (state : App × Str)
    (event : KeyEvent) : (App × Str) × Option Launch :=
  let next := state.1.handleEvents registry darwin event
  let typed :=
    if (state.1.movement event).isSome then []
    else if state.1.isEditing then typedBy state.2 event.key
    else state.2
  ((next.1, typed), next.2)

def typedSince (registry : List Cmd) (darwin : Bool) (past : List KeyEvent) : Str :=
  (stateAfter (watched registry darwin) (.start, []) past).2

/-- The panel is sound, and each of its values is part of what was typed
for the selected command. -/
structure Sound (registry : List Cmd) (state : App × Str) : Prop where
  panel : PanelSound registry state.1.commandPanel
  typed : ∀ value ∈ state.1.commandPanel.inputValues, value.Sublist state.2

variable {registry : List Cmd} {darwin : Bool} {app : App} {typed : Str}

theorem Sound.start : Sound registry (.start, []) := ⟨PanelSound.start, fun _ none => by cases none⟩

/-- Another panel with the same values. -/
theorem Sound.same {app' : App} (sound : Sound registry (app, typed))
    (panel : PanelSound registry app'.commandPanel) (values : app'.commandPanel.inputValues =
      app.commandPanel.inputValues) : Sound registry (app', typed) where
  panel := panel
  typed := fun value member => sound.typed value (values ▸ member)

theorem Sound.runCommand (sound : Sound registry (app, typed)) (host : Host) :
    Sound registry ((app.runCommand registry darwin host).1, typed) :=
  sound.same (sound.panel.runSelected darwin host)
    (runSelected_inputValues registry app.commandPanel darwin host)

/-- A key that goes to the field: only a character adds to what was typed. -/
theorem Sound.handleEditing (sound : Sound registry (app, typed)) (event : KeyEvent) :
    Sound registry ((app.handleEditing registry darwin event).1, typedBy typed event.key) := by
  rw [App.handleEditing]
  cases event.key with
  | char ch =>
    refine ⟨sound.panel.editField _, fun value member => ?_⟩
    rcases mem_editField member with kept | ⟨old, kept, rfl⟩
    · exact (sound.typed value kept).trans (List.sublist_append_left typed [ch])
    · exact (sound.typed old kept).append_right [ch]
  | backspace =>
    refine ⟨sound.panel.editField _, fun value member => ?_⟩
    rcases mem_editField member with kept | ⟨old, kept, rfl⟩
    · exact sound.typed value kept
    · exact (List.dropLast_sublist old).trans (sound.typed old kept)
  | esc => exact sound.same sound.panel.cancelInput rfl
  | enter =>
    have advanced : Sound registry
        ({ app with commandPanel := app.commandPanel.advanceInput.1 }, typed) :=
      sound.same sound.panel.advanceInput (advanceInput_inputValues app.commandPanel)
    dsimp only
    split
    · exact advanced.runCommand event.host
    · exact advanced
  | tab => exact sound
  | up => exact sound
  | down => exact sound
  | pageUp => exact sound
  | pageDown => exact sound
  | other => exact sound

theorem Sound.navigate (sound : Sound registry (app, typed)) (forward : Bool) :
    Sound registry (app.navigate registry forward, []) := by
  have moved {panel : CommandPanelState} (kept : PanelSound registry panel)
      (emptied : panel.inputValues = []) :
      Sound registry ({ app with commandPanel := panel }, []) :=
    ⟨kept, fun value member => absurd (emptied ▸ member) List.not_mem_nil⟩
  unfold App.navigate
  cases app.commandPanel.focus <;> cases forward
  · exact moved sound.panel.prevBucket rfl
  · exact moved sound.panel.nextBucket rfl
  · exact moved sound.panel.prevCommand rfl
  · exact moved sound.panel.nextCommand rfl

theorem Sound.beginInput (sound : Sound registry (app, typed)) :
    Sound registry ({ app with commandPanel := app.commandPanel.beginInput registry }, typed) := by
  refine ⟨sound.panel.beginInput, fun value member => ?_⟩
  rcases mem_beginInput member with kept | rfl
  · exact sound.typed value kept
  · exact List.nil_sublist typed

/-- Every other key leaves the values, or prepares empty ones. -/
theorem Sound.handleKey_still (sound : Sound registry (app, typed)) {event : KeyEvent}
    (reading : app.isEditing = false) (still : app.movement event = none) :
    Sound registry ((app.handleKey registry darwin event).1, typed) := by
  have same (mode : AppMode) (quit : Bool) :
      Sound registry (⟨mode, quit, app.showPopup, app.commandPanel⟩, typed) :=
    sound.same sound.panel rfl
  rw [App.handleKey, if_neg (by rw [reading]; decide), still]
  dsimp only
  cases event.key with
  | char ch =>
    dsimp only
    split
    · exact same _ _
    · split
      · exact sound.beginInput
      · exact same _ _
  | tab =>
    dsimp only
    split
    · exact sound.same sound.panel.toggleFocus rfl
    · exact sound
  | esc => exact same _ _
  | enter =>
    dsimp only
    split
    · exact sound.runCommand event.host
    · split
      · exact same _ _
      · exact sound
  | backspace => exact sound
  | up => exact sound
  | down => exact sound
  | pageUp => exact sound
  | pageDown => exact sound
  | other => exact sound

theorem movement_of_editing {event : KeyEvent} (reading : app.isEditing = true) :
    app.movement event = none := by
  rw [movement, reading]
  rfl

theorem Sound.handleKey (sound : Sound registry (app, typed)) (event : KeyEvent) :
    Sound registry ((app.handleKey registry darwin event).1,
      if (app.movement event).isSome then [] else if app.isEditing then typedBy typed event.key
      else typed) := by
  cases reading : app.isEditing with
  | true =>
    rw [movement_of_editing reading, if_neg (by decide), if_pos rfl, App.handleKey, if_pos reading]
    exact sound.handleEditing event
  | false =>
    cases moved : app.movement event with
    | none =>
      rw [if_neg (by decide), if_neg (by decide)]
      exact sound.handleKey_still reading moved
    | some forward =>
      rw [if_pos (show (some forward).isSome from rfl), App.handleKey,
        if_neg (by rw [reading]; decide), moved]
      exact sound.navigate forward

/-- One key. -/
theorem Sound.watched {state : App × Str} (sound : Sound registry state) (event : KeyEvent) :
    Sound registry (App.watched registry darwin state event).1 :=
  (sound.handleKey event).same (sound.handleKey event).panel rfl

theorem silent_ite {c : Prop} [Decidable c] {first second : App × Option Launch}
    (left : first.2 = none) (right : second.2 = none) : (if c then first else second).2 = none := by
  split
  · exact left
  · exact right

/-- A key of the field starts a command only where it ends the last field. -/
theorem handleEditing_launch {event : KeyEvent} {launch : Launch}
    (started : (app.handleEditing registry darwin event).2 = some launch) :
    (app.commandPanel.advanceInput.1.runSelected registry darwin event.host).2 = some launch := by
  rw [App.handleEditing] at started
  cases key : event.key with
  | enter =>
    rw [key] at started
    dsimp only at started
    by_cases last : app.commandPanel.advanceInput.2 = true
    · rw [if_pos last] at started
      exact started
    · rw [if_neg last] at started
      cases started
  | _ =>
    rw [key] at started
    cases started

/-- A command starts at a key only by the panel as it is, or as it is after its last field. -/
theorem handleEvents_launch {event : KeyEvent} {launch : Launch}
    (handled : (app.handleEvents registry darwin event).2 = some launch) :
    (app.commandPanel.runSelected registry darwin event.host).2 = some launch ∨
      (app.commandPanel.advanceInput.1.runSelected registry darwin event.host).2 = some launch := by
  have started : (app.handleKey registry darwin event).2 = some launch := handled
  by_cases reading : app.isEditing = true
  · rw [App.handleKey, if_pos reading] at started
    exact Or.inr (handleEditing_launch started)
  · rw [App.handleKey, if_neg reading] at started
    cases moved : app.movement event with
    | some forward =>
      rw [moved] at started
      cases started
    | none =>
      rw [moved] at started
      dsimp only at started
      cases key : event.key with
      | enter =>
        rw [key] at started
        dsimp only at started
        by_cases shown : app.mode = .commandPanel
        · rw [if_pos shown] at started
          exact Or.inl started
        · rw [if_neg shown] at started
          cases (silent_ite rfl rfl).symm.trans started
      | char ch =>
        rw [key] at started
        cases (silent_ite rfl (silent_ite rfl rfl)).symm.trans started
      | tab =>
        rw [key] at started
        cases (silent_ite rfl rfl).symm.trans started
      | _ =>
        rw [key] at started
        cases started

/-- After any keys the panel is sound, and its values are parts of what was typed. -/
theorem sound_reached (registry : List Cmd) (darwin : Bool) (past : List KeyEvent) :
    Sound registry (stateAfter (handleEvents registry darwin) .start past,
      typedSince registry darwin past) := by
  have kept (_ : List KeyEvent) (state : App × Str) (event : KeyEvent)
      (sound : Sound registry state) :
      Sound registry (App.watched registry darwin state event).1 := sound.watched event
  have shown : (stateAfter (App.watched registry darwin) (.start, []) past).1 =
      stateAfter (handleEvents registry darwin) .start past :=
    stateAfter_shows Prod.fst (fun _ _ => rfl) (App.start, []) past
  have followed : Sound registry (stateAfter (App.watched registry darwin) (.start, []) past) := by
    refine stateAfter_holds ?_ kept past
    exact Sound.start
  exact ⟨shown ▸ followed.panel, shown ▸ followed.typed⟩

/-- Whatever keys were pressed, a command that starts is one of the registry that the host can run,
with a value for each of its inputs that was checked at that moment and typed for this command. -/
theorem launches_sound (registry : List Cmd) (darwin : Bool) (past : List KeyEvent)
    (event : KeyEvent) (launch : Launch)
    (started : ((stateAfter (handleEvents registry darwin) .start past).handleEvents registry
      darwin event).2 = some launch) :
    LaunchSound registry darwin event.host (typedSince registry darwin past) launch := by
  have sound := sound_reached registry darwin past
  rcases handleEvents_launch started with direct | last
  · obtain ⟨cmd, listed, shape, unblocked, sized, accepted⟩ := runSelected_launch sound.panel direct
    exact ⟨cmd, listed, _, shape, unblocked, sized, accepted, sound.typed⟩
  · obtain ⟨cmd, listed, shape, unblocked, sized, accepted⟩ :=
      runSelected_launch sound.panel.advanceInput last
    rw [advanceInput_inputValues] at shape sized accepted
    exact ⟨cmd, listed, _, shape, unblocked, sized, accepted, sound.typed⟩

/-- A host without files, where nothing runs. -/
def emptyHost : Host := ⟨fun _ => false, fun _ _ => .notRun []⟩

/-- A key, where a tracepath runs or could be run. -/
def pressed (host : Host) (key : Key) : KeyEvent := ⟨key, true, true, host⟩

def probe : Cmd := ⟨"probe", .wifiRf, ["TARGET"], true, .anyPlatform⟩

theorem launches_sound_typed :
    LaunchSound [probe] false emptyHost ['h', 'q'] ⟨"probe", [['h', 'q'], "--json".toList]⟩ :=
  launches_sound [probe] false ([Key.char 'c', Key.char 'i', Key.char 'h', Key.char 'q'].map
    (pressed emptyHost))
    (pressed emptyHost .enter) ⟨"probe", [['h', 'q'], "--json".toList]⟩ (by rfl)

end App

/-! Every command of the registry can be highlighted by keys alone. -/

namespace App
variable {registry : List Cmd} {darwin : Bool} {host : Host}

/-- The panel is shown without a popup, and its keys move. -/
structure Browsing (app : App) (focus : Focus) : Prop where
  mode : app.mode = .commandPanel
  focused : app.commandPanel.focus = focus
  reading : app.commandPanel.editingInput = none
  closed : app.showPopup = false
  running : app.shouldQuit = false

theorem Browsing.isEditing {app : App} {focus : Focus} (browsing : Browsing app focus) :
    app.isEditing = false := by
  rw [App.isEditing, CommandPanelState.isEditing, browsing.reading]
  exact Bool.and_false _

theorem Browsing.down {app : App} {focus : Focus} (browsing : Browsing app focus) {event : KeyEvent}
    (key : event.key = .down) :
    (app.handleEvents registry darwin event).1 = app.navigate registry true := by
  have moves : app.movement event = some true := by
    simp [movement, key, browsing.isEditing, browsing.mode, browsing.closed]
  have handled : app.handleKey registry darwin event = (app.navigate registry true, none) := by
    rw [handleKey, if_neg (by rw [browsing.isEditing]; decide), moves]
  have closed : app.popupAfter event = app.showPopup := by
    simp [popupAfter, popupKeys, opensPopup, key]
  rw [handleEvents, handled, closed]
  rfl

theorem Browsing.tab {app : App} {focus : Focus} (browsing : Browsing app focus) {event : KeyEvent}
    (key : event.key = .tab) :
    (app.handleEvents registry darwin event).1 =
      { app with commandPanel := app.commandPanel.toggleFocus } := by
  have still : app.movement event = none := by simp [movement, key]
  have handled : (app.handleKey registry darwin event).1 =
      { app with commandPanel := app.commandPanel.toggleFocus } := by
    rw [handleKey, if_neg (by rw [browsing.isEditing]; decide), still, key]
    exact congrArg Prod.fst (if_pos browsing.mode)
  have closed : app.popupAfter event = app.showPopup := by
    rw [browsing.closed]
    simp [popupAfter, popupKeys, key]
  rw [handleEvents, handled, closed]

theorem Browsing.toBuckets {app : App} (browsing : Browsing app .commands) :
    Browsing { app with commandPanel := app.commandPanel.toggleFocus } .buckets :=
  { browsing with focused := by simp only [CommandPanelState.toggleFocus, browsing.focused] }

theorem Browsing.toCommands {app : App} (browsing : Browsing app .buckets) :
    Browsing { app with commandPanel := app.commandPanel.toggleFocus } .commands :=
  { browsing with focused := by simp only [CommandPanelState.toggleFocus, browsing.focused] }

/-- Keys lead to a property whatever the host and its tracepaths do meanwhile. -/
abbrev KeysLead (registry : List Cmd) (darwin : Bool) (app : App) (keys : List Key)
    (Holds : App → Prop) : Prop :=
  Leads (handleEvents registry darwin) KeyEvent.key app keys Holds

/-- No popup is shown, and of the panel the focus and the bucket are as they were. -/
structure Cleared (app next : App) : Prop where
  closed : next.showPopup = false
  running : next.shouldQuit = app.shouldQuit
  focus : next.commandPanel.focus = app.commandPanel.focus
  bucket : next.commandPanel.selectedBucket = app.commandPanel.selectedBucket

theorem Cleared.trans {app mid next : App} (first : Cleared app mid)
    (second : Cleared mid next) : Cleared app next where
  closed := second.closed
  running := second.running.trans first.running
  focus := second.focus.trans first.focus
  bucket := second.bucket.trans first.bucket

/-- [esc] closes the popup and ends the editing of a field. -/
theorem leads_esc (app : App) : KeysLead registry darwin app [.esc] fun next =>
    Cleared app next ∧ next.isEditing = false ∧
      (app.mode = .commandPanel → next.commandPanel.editingInput = none) := by
  refine .single fun event key => ?_
  have closed : app.popupAfter event = false := by simp [popupAfter, popupKeys, key]
  by_cases reading : app.isEditing = true
  · have handled : (app.handleKey registry darwin event).1 =
        { app with commandPanel := app.commandPanel.cancelInput } := by
      rw [handleKey, if_pos reading, handleEditing, key]
    rw [handleEvents, handled, closed]
    refine ⟨⟨rfl, rfl, rfl, rfl⟩, ?_, fun _ => rfl⟩
    exact Bool.and_false _
  · have still : app.movement event = none := by simp [movement, key]
    have handled : (app.handleKey registry darwin event).1 = { app with mode := .dashboard } := by
      rw [handleKey, if_neg reading, still, key]
    rw [handleEvents, handled, closed]
    refine ⟨⟨rfl, rfl, rfl, rfl⟩, rfl, fun shown => ?_⟩
    simpa [App.isEditing, CommandPanelState.isEditing, shown] using reading

/-- [c] shows the panel. -/
theorem leads_panel {app : App} (reading : app.isEditing = false) :
    KeysLead registry darwin app [.char 'c'] fun next =>
      Cleared app next ∧ next.mode = .commandPanel ∧
        next.commandPanel.editingInput = app.commandPanel.editingInput := by
  refine .single fun event key => ?_
  have closed : app.popupAfter event = false := by simp [popupAfter, popupKeys, key]
  have still : app.movement event = none := by simp [movement, key]
  have handled : (app.handleKey registry darwin event).1 = { app with mode := .commandPanel } := by
    rw [handleKey, if_neg (by rw [reading]; decide), still, key]
    rfl
  rw [handleEvents, handled, closed]
  exact ⟨⟨rfl, rfl, rfl, rfl⟩, rfl, rfl⟩

/-- From every state that has not ended, keys open the panel where it was left. A field may still be
open in it, so it is shown twice. -/
theorem leads_browsing {app : App} (running : app.shouldQuit = false) :
    KeysLead registry darwin app [.esc, .char 'c', .esc, .char 'c'] fun next =>
      Browsing next app.commandPanel.focus ∧
        next.commandPanel.selectedBucket = app.commandPanel.selectedBucket := by
  have shown : KeysLead registry darwin app ([.esc] ++ [.char 'c']) fun next =>
      Cleared app next ∧ next.mode = .commandPanel := by
    refine (leads_esc app).append fun escaped ⟨cleared, reading, _⟩ => ?_
    exact (leads_panel reading).imp fun next ⟨again, mode, _⟩ => ⟨cleared.trans again, mode⟩
  refine shown.append fun first ⟨cleared, mode⟩ => ?_
  refine (leads_esc first).append fun escaped ⟨again, reading, done⟩ => ?_
  refine (leads_panel reading).imp fun next ⟨last, browsed, field⟩ => ?_
  have all := (cleared.trans again).trans last
  exact ⟨⟨browsed, all.focus, field.trans (done mode), all.closed, all.running.trans running⟩,
    all.bucket⟩

theorem exists_leads_buckets {app : App} (running : app.shouldQuit = false) :
    ∃ keys, KeysLead registry darwin app keys fun next =>
      Browsing next .buckets ∧
        next.commandPanel.selectedBucket = app.commandPanel.selectedBucket := by
  have opened := @leads_browsing registry darwin app running
  cases focus : app.commandPanel.focus with
  | buckets =>
    refine ⟨_, opened.imp fun next ⟨browsing, bucket⟩ => ⟨?_, bucket⟩⟩
    exact focus ▸ browsing
  | commands =>
    refine ⟨[.esc, .char 'c', .esc, .char 'c'] ++ [.tab],
      opened.append fun next ⟨browsing, bucket⟩ => ?_⟩
    refine .single fun event key => ?_
    rw [focus] at browsing
    rw [browsing.tab key]
    exact ⟨browsing.toBuckets, bucket⟩

theorem Browsing.nextBucket {app : App} (browsing : Browsing app .buckets) {event : KeyEvent}
    (key : event.key = .down) :
    let moved := (app.handleEvents registry darwin event).1
    Browsing moved .buckets ∧
      moved.commandPanel.selectedBucket = (app.commandPanel.selectedBucket + 1) % 7 ∧
      moved.commandPanel.selectedCommand = 0 := by
  have bucket : app.navigate registry true =
      { app with commandPanel := app.commandPanel.nextBucket } := by
    simp only [App.navigate, browsing.focused]
  rw [browsing.down key, bucket]
  exact ⟨{ browsing with reading := rfl }, rfl, rfl⟩

/-- Down, on the buckets. -/
theorem leads_downBuckets {app : App} (browsing : Browsing app .buckets) (k : ℕ) :
    KeysLead registry darwin app (List.replicate (k + 1) .down) fun moved =>
      Browsing moved .buckets ∧
        moved.commandPanel.selectedBucket = (app.commandPanel.selectedBucket + (k + 1)) % 7 ∧
        moved.commandPanel.selectedCommand = 0 := by
  let reached (done : ℕ) (moved : App) : Prop :=
    Browsing moved .buckets ∧
      moved.commandPanel.selectedBucket = (app.commandPanel.selectedBucket + (done + 1)) % 7 ∧
      moved.commandPanel.selectedCommand = 0
  have start : KeysLead registry darwin app [.down] (reached 0) :=
    .single fun event key => browsing.nextBucket key
  rw [List.replicate_succ]
  refine start.append fun next begins => .replicate reached begins ?_
  intro done _ moved ⟨still, counted, _⟩ event key
  obtain ⟨again, bucket, command⟩ := @Browsing.nextBucket registry darwin _ still _ key
  refine ⟨again, ?_, command⟩
  rw [bucket, counted]
  omega

/-- Down, on the commands of a bucket. -/
theorem leads_downCommands {app : App} (browsing : Browsing app .commands)
    (first : app.commandPanel.selectedCommand = 0) (j : ℕ)
    (listed : j < (app.commandPanel.commands registry).length) :
    KeysLead registry darwin app (List.replicate j .down) fun moved =>
      Browsing moved .commands ∧
        moved.commandPanel.selectedBucket = app.commandPanel.selectedBucket ∧
        moved.commandPanel.selectedCommand = j := by
  refine .replicate (fun done moved => Browsing moved .commands ∧
    moved.commandPanel.selectedBucket = app.commandPanel.selectedBucket ∧
    moved.commandPanel.selectedCommand = done) ⟨browsing, rfl, first⟩ ?_
  intro done less moved ⟨still, bucket, there⟩ event key
  have same : moved.commandPanel.commands registry = app.commandPanel.commands registry := by
    rw [CommandPanelState.commands, CommandPanelState.currentBucket, bucket]
    rfl
  have command : moved.navigate registry true =
      { moved with commandPanel := moved.commandPanel.nextCommand registry } := by
    simp only [App.navigate, still.focused]
  rw [still.down key, command]
  refine ⟨{ still with reading := rfl }, bucket, ?_⟩
  show (if 0 < (moved.commandPanel.commands registry).length then
    (moved.commandPanel.selectedCommand + 1) % (moved.commandPanel.commands registry).length
      else _) = done + 1
  rw [same, if_pos (by omega), there, Nat.mod_eq_of_lt (by omega)]

theorem exists_bucket (bucket : Bucket) : ∃ i, i < 7 ∧ Bucket.all[i]? = some bucket := by
  cases bucket
  case wifiRf => exact ⟨0, by decide, rfl⟩
  case throughput => exact ⟨1, by decide, rfl⟩
  case pathMtu => exact ⟨2, by decide, rfl⟩
  case dnsAddressing => exact ⟨3, by decide, rfl⟩
  case infrastructure => exact ⟨4, by decide, rfl⟩
  case securityPolicy => exact ⟨5, by decide, rfl⟩
  case tools => exact ⟨6, by decide, rfl⟩

theorem commands_of_bucket {panel : CommandPanelState} {i : ℕ} {bucket : Bucket} (small : i < 7)
    (listed : Bucket.all[i]? = some bucket) (chosen : panel.selectedBucket = i) :
    panel.commands registry = registry.filter (·.bucket = bucket) := by
  have clamped : min i (Bucket.all.length - 1) = i := Nat.min_eq_left (Nat.le_sub_one_of_lt small)
  rw [CommandPanelState.commands, CommandPanelState.currentBucket, chosen, clamped, listed]
  rfl

/-- Down to the bucket of a command, over to its list, and down to the command. -/
theorem exists_leads_highlighted {bucket : ℕ} (within : bucket < 7) {cmd : Cmd}
    (registered : cmd ∈ registry) :
    ∃ keys, ∀ app, Browsing app .buckets → app.commandPanel.selectedBucket = bucket →
      KeysLead registry darwin app keys fun last =>
        Browsing last .commands ∧ last.commandPanel.currentCommand registry = some cmd := by
  obtain ⟨i, small, isBucket⟩ := exists_bucket cmd.bucket
  have listed : cmd ∈ registry.filter (·.bucket = cmd.bucket) :=
    List.mem_filter.mpr ⟨registered, decide_eq_true rfl⟩
  obtain ⟨j, isCommand⟩ := List.mem_iff_getElem?.mp listed
  have inside := (List.getElem?_eq_some_iff.mp isCommand).1
  refine ⟨List.replicate (i + 6 - bucket + 1) .down ++ ([.tab] ++ List.replicate j .down), ?_⟩
  rintro app opened rfl
  refine (leads_downBuckets opened _).append fun onBucket ⟨onBuckets, moved, first⟩ => ?_
  have atBucket : onBucket.commandPanel.selectedBucket = i := by omega
  have turned : KeysLead registry darwin onBucket [.tab] fun next =>
      next = { onBucket with commandPanel := onBucket.commandPanel.toggleFocus } :=
    .single fun event key => onBuckets.tab key
  refine turned.append fun next same => ?_
  subst same
  have commands : onBucket.commandPanel.commands registry =
      registry.filter (·.bucket = cmd.bucket) :=
    commands_of_bucket small isBucket atBucket
  refine (leads_downCommands onBuckets.toCommands first j (commands.symm ▸ inside)).imp ?_
  rintro last ⟨browsing, sameBucket, there⟩
  refine ⟨browsing, ?_⟩
  rw [CommandPanelState.currentCommand, commands_of_bucket small isBucket
    (sameBucket.trans atBucket), there,
    Nat.min_eq_left (Nat.le_sub_one_of_lt inside)]
  exact isCommand

/-- Whatever keys were pressed before, short of ending the program, more of them lead to any command
of the registry, and the next [enter] is for that command. -/
theorem every_command_reached (registry : List Cmd) (darwin : Bool) (past : List KeyEvent)
    (cmd : Cmd) (registered : cmd ∈ registry)
    (running : (stateAfter (handleEvents registry darwin) .start past).shouldQuit = false) :
    ∃ keys, ∀ events, events.map KeyEvent.key = keys →
      let app := stateAfter (handleEvents registry darwin) .start (past ++ events)
      app.mode = .commandPanel ∧ app.isEditing = false ∧ app.showPopup = false ∧
        app.shouldQuit = false ∧
        app.commandPanel.currentCommand registry = some cmd := by
  have within := (sound_reached registry darwin past).panel.bucket
  obtain ⟨opening, opened⟩ := @exists_leads_buckets registry darwin _ running
  obtain ⟨keys, highlights⟩ := @exists_leads_highlighted registry darwin _ within cmd registered
  have reached := opened.append fun app ⟨browsing, bucket⟩ => highlights app browsing bucket
  refine ⟨opening ++ keys, fun events same => ?_⟩
  rw [stateAfter_append]
  obtain ⟨browsing, highlighted⟩ := reached events same
  exact ⟨browsing.mode, browsing.isEditing, browsing.closed, browsing.running, highlighted⟩

def pcapReport : Cmd := ⟨"pcap-report", .tools, ["PCAP"], true, .anyPlatform⟩

/-- A tracepath has been opened over the panel, and scrolls. -/
def tracedPast : List KeyEvent := [Key.char 'c', .char 't', .down].map (pressed emptyHost)

theorem every_command_reached_traced :
    ∃ keys, ∀ events, events.map KeyEvent.key = keys →
      let app := stateAfter (handleEvents [probe, pcapReport] false) .start (tracedPast ++ events)
      app.mode = .commandPanel ∧ app.isEditing = false ∧ app.showPopup = false ∧
        app.shouldQuit = false ∧
        app.commandPanel.currentCommand [probe, pcapReport] = some pcapReport :=
  every_command_reached [probe, pcapReport] false tracedPast pcapReport (by simp) rfl

end App

end FragglePacket.Tui
