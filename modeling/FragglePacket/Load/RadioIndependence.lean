import FragglePacket.Load.RadioText
import FragglePacket.Systems.Machine

/-! Snapshots of texts that differ in network names only. Whatever a name is, it stands on a line
that is read for its keys like any other. -/

namespace FragglePacket.Load

open FragglePacket.Systems FragglePacket.Text

/-- Names of one line each. One of them has no effect on a snapshot. -/
structure NameClass (Inert : Str → Prop) where
  Admits : Str → Prop
  single : ∀ name, Admits name → '\n' ∉ name
  quiet : ∃ name, Admits name ∧ Inert name

section Ioreg

def ssidKey : Str := "\"IO80211SSID\" = ".toList
def bssidKey : Str := "\"IO80211BSSID\" = ".toList

/-- The tree that is drawn in front of a line. -/
def TreeFront (front : Str) : Prop := ∀ c ∈ front, c = ' ' ∨ c = '|'

instance : DecidablePred TreeFront := fun front => List.decidableBAll _ front

theorem treeFront_nil : TreeFront [] := fun _ member => nomatch member

/-- Lines that are the same but for the value of a network name. -/
inductive IoregAlike (admits : Str → Prop) : Unit → Str → Str → Unit → Prop
  | same (line : Str) : IoregAlike admits () line line ()
  | named {key front value other : Str} : key ∈ [ssidKey, bssidKey] → TreeFront front →
      admits value → admits other →
      IoregAlike admits () (front ++ key ++ value) (front ++ key ++ other) ()

/-- Texts that differ in the values of network names only have one snapshot. -/
def IoregIndependent (admits : Str → Prop) : Prop :=
  ∀ text other, Alike (IoregAlike admits) () (lines text) (lines other) →
    parseIoregWlan text = parseIoregWlan other

/-- The value holds none of the keys; with the key of the band no band follows. -/
structure IoregInert (value : Str) : Prop where
  channel : extractIoregValue value channelKey = none
  width : extractIoregValue value channelBandwidthKey = none
  band : ∀ v, extractIoregValue value bandKey = some v → cleanedBand v = []

theorem extract_named {key front keyEq : Str} (named : key ∈ [ssidKey, bssidKey])
    (tree : TreeFront front) (read : keyEq ∈ [channelKey, channelBandwidthKey, bandKey])
    (value : Str) :
    extractIoregValue (front ++ key ++ value) keyEq = extractIoregValue value keyEq := by
  have unquoted : '"' ∉ front := by
    intro quote
    rcases tree '"' quote with same | same
    · exact absurd same (by decide)
    · exact absurd same (by decide)
  have begins : ∀ keyEq ∈ [channelKey, channelBandwidthKey, bandKey], ∃ rest, keyEq =
      '"' :: rest := by
    simp only [List.forall_mem_cons]
    exact ⟨⟨_, rfl⟩, ⟨_, rfl⟩, ⟨_, rfl⟩, fun _ member => nomatch member⟩
  have apart : ∀ key ∈ [ssidKey, bssidKey], ∀ keyEq ∈ [channelKey, channelBandwidthKey, bandKey],
      Apart keyEq key := by
    decide
  obtain ⟨rest, quoted⟩ := begins keyEq read
  have clear : Apart keyEq front := quoted ▸ apart_of_not_mem unquoted
  rw [extractIoregValue, List.append_assoc, afterFirst_append clear,
    afterFirst_append (apart key named keyEq read), extractIoregValue]

/-- A line with a name is read as the name would be. -/
theorem ioregLine_named {key front : Str} (named : key ∈ [ssidKey, bssidKey])
    (tree : TreeFront front) (snap : RadioSnapshot) (value : Str) :
    ioregLine snap (front ++ key ++ value) = ioregLine snap value := by
  have extract (keyEq : Str) (read : keyEq ∈ [channelKey, channelBandwidthKey, bandKey]) :=
    extract_named named tree read value
  rw [ioregLine, extract channelKey (by simp), extract channelBandwidthKey (by simp),
    extract bandKey (by simp), ioregLine]

theorem IoregInert.line {value : Str} (inert : IoregInert value) (snap : RadioSnapshot) :
    ioregLine snap value = snap := by
  rw [ioregLine, inert.channel, inert.width]
  cases found : extractIoregValue value bandKey with
  | none => rfl
  | some v =>
    have nothing : (cleanedBand v).isEmpty = true := by rw [inert.band v found, List.isEmpty_nil]
    exact if_pos nothing

theorem ioreg_independent_of_inert {admits : Str → Prop}
    (inert : ∀ value, admits value → IoregInert value) :
    IoregIndependent admits := by
  intro text other alike
  have unwinds : ∀ place first second next snap, IoregAlike admits place first second next → True →
      ioregLine snap first = ioregLine snap second ∧ True := by
    intro _ first second _ snap related _
    cases related with
    | same => exact ⟨rfl, trivial⟩
    | named key tree value other =>
      rw [ioregLine_named key tree, ioregLine_named key tree, (inert _ value).line,
        (inert _ other).line]
      exact ⟨rfl, trivial⟩
  have same : (lines text).foldl ioregLine .unavailable =
      (lines other).foldl ioregLine .unavailable :=
    alike.foldl_eq unwinds trivial
  rw [parseIoregWlan, parseIoregWlan, ioregSnapshot, ioregSnapshot, same]

/-- In independent texts a name has no effect behind any lines. -/
theorem IoregIndependent.steady {values : NameClass IoregInert}
    (independent : IoregIndependent values.Admits) {value : Str} (admitted : values.Admits value)
    (front : List Str) (single : ∀ line ∈ front, '\n' ∉ line) :
    ioregSnapshot (front ++ [value]) = ioregSnapshot front := by
  obtain ⟨quiet, quietAdmitted, inert⟩ := values.quiet
  have named (name : Str) (admitted : values.Admits name) :
      ∃ text, lines text = front ++ [ssidKey ++ name] := by
    apply exists_lines
    intro line member
    rcases List.mem_append.mp member with before | last
    · exact single line before
    · rw [List.mem_singleton.mp last]
      exact List.not_mem_append (not_mem_literal (by decide)) (values.single name admitted)
  have read (name : Str) : ioregSnapshot (front ++ [ssidKey ++ name]) =
      ioregSnapshot (front ++ [name]) := by
    have line (snap : RadioSnapshot) : ioregLine snap (ssidKey ++ name) = ioregLine snap name :=
      ioregLine_named List.mem_cons_self treeFront_nil snap name
    rw [ioregSnapshot, ioregSnapshot, List.foldl_append, List.foldl_append, List.foldl_cons,
      List.foldl_cons, line]
  obtain ⟨text, textLines⟩ := named value admitted
  obtain ⟨other, otherLines⟩ := named quiet quietAdmitted
  have alike : Alike (IoregAlike values.Admits) () (lines text) (lines other) := by
    rw [textLines, otherLines]
    refine Alike.prepend (fun _ line => ⟨(), .same line⟩) front (fun _ => ?_) ()
    exact .cons (@IoregAlike.named _ ssidKey [] _ _ List.mem_cons_self treeFront_nil admitted
      quietAdmitted) .nil
  calc ioregSnapshot (front ++ [value])
      = ioregSnapshot (lines text) := by rw [textLines, read]
    _ = ioregSnapshot (lines other) := independent text other alike
    _ = ioregSnapshot front := by
        rw [otherLines, read, ioregSnapshot, List.foldl_append, List.foldl_cons, inert.line,
          List.foldl_nil, ioregSnapshot]

/-- Nor does it set a field that some line can set. -/
theorem IoregIndependent.not_sets {values : NameClass IoregInert}
    (independent : IoregIndependent values.Admits) {value : Str} (admitted : values.Admits value)
    {α : Type} (field : RadioSnapshot → Option α)
    (reads : ∀ snap associated, field { snap with associated := associated } = field snap)
    (unset : field .unavailable = none) {line : Str} (single : '\n' ∉ line)
    (set : (field (ioregLine .unavailable line)).isSome = true) (x : Option α) :
    ¬ ∀ snap, field (ioregLine snap value) = x := by
  intro sets
  have after (front : List Str) (lines : ∀ line ∈ front, '\n' ∉ line) :
      x = field (front.foldl ioregLine .unavailable) := by
    calc x = field (ioregLine (front.foldl ioregLine .unavailable) value) := (sets _).symm
      _ = field ((front ++ [value]).foldl ioregLine .unavailable) := by rw [List.foldl_append]; rfl
      _ = field (ioregSnapshot (front ++ [value])) := (reads _ _).symm
      _ = field (ioregSnapshot front) := congrArg field (independent.steady admitted front lines)
      _ = field (front.foldl ioregLine .unavailable) := reads _ _
  have alone : x = none := (after [] fun _ member => nomatch member).trans unset
  have behind : x = field (ioregLine .unavailable line) := after [line] (by simpa using single)
  rw [← behind, alone] at set
  cases set

theorem ioreg_independent_iff (values : NameClass IoregInert) :
    IoregIndependent values.Admits ↔ ∀ value, values.Admits value → IoregInert value := by
  refine ⟨fun independent value admitted => ?_, ioreg_independent_of_inert⟩
  have channel : extractIoregValue value channelKey = none := by
    by_contra found
    obtain ⟨v, found⟩ := Option.ne_none_iff_exists'.mp found
    have single : '\n' ∉ "\"IO80211Channel\" = 1".toList := not_mem_literal (by decide)
    exact independent.not_sets admitted RadioSnapshot.channel (fun _ _ => rfl) rfl single rfl _
      fun snap => by rw [ioregLine, found]
  have width : extractIoregValue value channelBandwidthKey = none := by
    by_contra found
    obtain ⟨v, found⟩ := Option.ne_none_iff_exists'.mp found
    have single : '\n' ∉ "\"IO80211ChannelBandwidth\" = 1".toList := not_mem_literal (by decide)
    exact independent.not_sets admitted RadioSnapshot.widthMhz (fun _ _ => rfl) rfl single rfl _
      fun snap => by rw [ioregLine, channel, found]
  refine ⟨channel, width, fun v found => ?_⟩
  by_contra nonempty
  have single : '\n' ∉ "\"IO80211Band\" = 6GHz".toList := not_mem_literal (by decide)
  apply independent.not_sets admitted RadioSnapshot.band (fun _ _ => rfl) rfl single rfl
    (some (String.ofList (cleanedBand v)))
  intro snap
  rw [ioregLine, channel, width, found]
  exact congrArg RadioSnapshot.band (if_neg (by simpa using nonempty))

end Ioreg

section Airport

def macAddressKey : Str := "MAC Address:".toList

def Blank (front : Str) : Prop := ∀ c ∈ front, isWhitespace c = true

instance : DecidablePred Blank := fun front => List.decidableBAll _ front

/-- Lines that are the same but for the name of the current network, on the line under its
heading, or for a MAC address. The place says whether the next line is that line. -/
inductive AirportAlike (admits : Str → Prop) : Bool → Str → Str → Bool → Prop
  | same (under : Bool) (line : Str) : AirportAlike admits under line line (trim line == currentKey)
  | macAddress {under : Bool} {front value other : Str} : Blank front →
      AirportAlike admits under (front ++ macAddressKey ++ value)
        (front ++ macAddressKey ++ other) false
  | network {front name other : Str} : Blank front → admits name → admits other →
      AirportAlike admits true (front ++ (name ++ [':'])) (front ++ (other ++ [':'])) false

/-- Texts that differ in the name of the current network and in MAC
addresses only have one snapshot. -/
def AirportIndependent (admits : Str → Prop) : Prop :=
  ∀ text other, Alike (AirportAlike admits) false (lines text) (lines other) →
    parseAirportText text = parseAirportText other

/-- The keys that a line of the current network is read for. -/
def airportKeys : List Str :=
  [statusKey, otherKey, phyModeKey, channelFieldKey, signalKey, rateKey, mcsKey]

/-- The line of the name begins with none of the keys. -/
def AirportInert (name : Str) : Prop := ∀ key ∈ airportKeys, ¬ key <+: trim (name ++ [':'])

theorem step_current (state : AirportState) : state.step currentKey = ⟨state.snap, true⟩ := rfl

/-- What a line of the current network does, for each key that it may begin with. -/
theorem step_key (snap : RadioSnapshot) (rest : Str) :
    (AirportState.mk snap true).step (statusKey ++ rest) =
        ⟨{ snap with associated := contains (statusKey ++ rest) "Connected".toList }, true⟩ ∧
      (AirportState.mk snap true).step (otherKey ++ rest) = ⟨snap, false⟩ ∧
      (AirportState.mk snap true).step (phyModeKey ++ rest) =
        ⟨{ snap with phyMode := some (String.ofList (trim rest)) }, true⟩ ∧
      (AirportState.mk snap true).step (channelFieldKey ++ rest) =
        ⟨parseChannel (trim rest) snap, true⟩ ∧
      (AirportState.mk snap true).step (signalKey ++ rest) =
        ⟨parseSignalNoise (trim rest) snap, true⟩ ∧
      (AirportState.mk snap true).step (rateKey ++ rest) =
        ⟨{ snap with txRateMbps := parseF64 (trim rest) }, true⟩ ∧
      (AirportState.mk snap true).step (mcsKey ++ rest) =
        ⟨{ snap with mcsIndex := parseU32 (trim rest) }, true⟩ :=
  ⟨rfl, rfl, rfl, rfl, rfl, rfl, rfl⟩

theorem airportField_inert {line : Str} (inert : ∀ key ∈ airportKeys, ¬ key <+: line)
    (snap : RadioSnapshot) :
    airportField snap line = snap := by
  have skipped (key : Str) (member : key ∈ airportKeys) : stripPrefix key line = none :=
    stripPrefix_eq_none_iff.mpr (inert key member)
  rw [airportField, skipped phyModeKey (by simp [airportKeys]),
    skipped channelFieldKey (by simp [airportKeys]), skipped signalKey (by simp [airportKeys]),
    skipped rateKey (by simp [airportKeys]), skipped mcsKey (by simp [airportKeys])]

theorem step_inert {line : Str} (inert : ∀ key ∈ airportKeys, ¬ key <+: line) {state : AirportState}
    (inCurrent : state.inCurrent = true) : state.step line = state := by
  have skipped (key : Str) (member : key ∈ airportKeys) : key.isPrefixOf line = false := by
    simpa [← List.isPrefixOf_iff_prefix] using inert key member
  rw [AirportState.step, skipped statusKey (by simp [airportKeys]),
    skipped otherKey (by simp [airportKeys]), airportField_inert inert]
  obtain ⟨snap, current⟩ := state
  obtain rfl : current = true := inCurrent
  split
  · rfl
  · rfl

theorem airportLine_name {front : Str} (blank : Blank front) (state : AirportState) (name : Str) :
    airportLine state (front ++ name) = airportLine state name := by
  rw [airportLine, trim_blank_append blank, airportLine]

/-- A MAC address is never read. -/
theorem airportLine_macAddress {front : Str} (blank : Blank front) (state : AirportState)
    (value : Str) :
    airportLine state (front ++ macAddressKey ++ value) = state := by
  have trimmed : trim (macAddressKey ++ value) = macAddressKey ++ trimEnd value :=
    trim_solid_append (by decide) (by decide) (by decide) value
  rw [List.append_assoc, airportLine_name blank, airportLine, trimmed]
  obtain ⟨snap, current⟩ := state
  cases current with
  | false => rfl
  | true => rfl

/-- Under its heading the current network is read. -/
def Headed (under : Bool) (state : AirportState) : Prop := under = true → state.inCurrent = true

theorem airport_independent_of_inert {admits : Str → Prop}
    (inert : ∀ name, admits name → AirportInert name) :
    AirportIndependent admits := by
  intro text other alike
  have unwinds : ∀ under first second next state, AirportAlike admits under first second next →
      Headed under state → airportLine state first = airportLine state second ∧
        Headed next (airportLine state first) := by
    intro under first second next state related heading
    cases related with
    | same _ line =>
      refine ⟨rfl, fun headed => ?_⟩
      rw [airportLine, eq_of_beq headed, step_current]
    | macAddress blank =>
      rw [airportLine_macAddress blank, airportLine_macAddress blank]
      exact ⟨rfl, fun never => nomatch never⟩
    | network blank name other =>
      have inCurrent := heading rfl
      rw [airportLine_name blank, airportLine_name blank, airportLine, airportLine,
        step_inert (inert _ name) inCurrent, step_inert (inert _ other) inCurrent]
      exact ⟨rfl, fun never => nomatch never⟩
  have start : Headed false ⟨.unavailable, false⟩ := fun never => nomatch never
  have same := alike.foldl_eq unwinds start
  rw [parseAirportText, parseAirportText, airportSnapshot, airportSnapshot, same]

theorem trim_currentKey : trim currentKey = currentKey := by decide

theorem newline_not_mem_currentKey : '\n' ∉ currentKey := not_mem_literal (by decide)

theorem airportAlike_heading {admits : Str → Prop} (under : Bool) :
    AirportAlike admits under currentKey currentKey true := by
  have same : AirportAlike admits under currentKey currentKey (trim currentKey == currentKey) :=
    .same under currentKey
  rwa [trim_currentKey, beq_self_eq_true] at same

theorem airportLine_heading (state : AirportState) :
    airportLine state currentKey = ⟨state.snap, true⟩ := by
  rw [airportLine, trim_currentKey, step_current]

/-- In independent texts the name has no effect between any lines. -/
theorem AirportIndependent.steady {names : NameClass AirportInert}
    (independent : AirportIndependent names.Admits) {name : Str} (admitted : names.Admits name)
    (front behind : List Str) (single : ∀ line ∈ front ++ currentKey :: behind, '\n' ∉ line) :
    airportSnapshot (front ++ currentKey :: (name ++ [':']) :: behind) =
      airportSnapshot (front ++ currentKey :: behind) := by
  obtain ⟨quiet, quietAdmitted, inert⟩ := names.quiet
  have named (name : Str) (admitted : names.Admits name) :
      ∃ text, lines text = front ++ currentKey :: (name ++ [':']) :: behind := by
    apply exists_lines
    intro line member
    simp only [List.mem_append, List.mem_cons] at member single
    rcases member with before | heading | own | after
    · exact single line (.inl before)
    · exact single line (.inr (.inl heading))
    · rw [own]
      simpa using names.single name admitted
    · exact single line (.inr (.inr after))
  have same (under : Bool) (line : Str) : ∃ next, AirportAlike names.Admits under line line next :=
    ⟨_, .same under line⟩
  obtain ⟨text, textLines⟩ := named name admitted
  obtain ⟨other, otherLines⟩ := named quiet quietAdmitted
  have alike : Alike (AirportAlike names.Admits) false (lines text) (lines other) := by
    rw [textLines, otherLines]
    refine Alike.prepend same front (fun under => .cons (airportAlike_heading under) ?_) false
    have blank : Blank [] := fun _ member => nomatch member
    exact .cons (.network blank admitted quietAdmitted) (Alike.refl same behind false)
  have passed : airportLine ⟨(front.foldl airportLine ⟨.unavailable, false⟩).snap, true⟩
      (quiet ++ [':']) =
      ⟨(front.foldl airportLine ⟨.unavailable, false⟩).snap, true⟩ := step_inert inert rfl
  calc airportSnapshot (front ++ currentKey :: (name ++ [':']) :: behind)
      = airportSnapshot (lines text) := by rw [textLines]
    _ = airportSnapshot (lines other) := independent text other alike
    _ = airportSnapshot (front ++ currentKey :: behind) := by
        rw [otherLines, airportSnapshot, airportSnapshot, List.foldl_append, List.foldl_append,
          List.foldl_cons, List.foldl_cons, airportLine_heading, passed, List.foldl_cons,
          airportLine_heading]

/-- Nor does it set a field that some lines can set. -/
theorem AirportIndependent.not_sets {names : NameClass AirportInert}
    (independent : AirportIndependent names.Admits) {name : Str} (admitted : names.Admits name)
    {α : Type} (field : RadioSnapshot → Option α)
    (reads : ∀ snap associated, field { snap with associated := associated } = field snap)
    (unset : field .unavailable = none) {line : Str} (single : '\n' ∉ line)
    (set : (field (airportLine ⟨.unavailable, true⟩ line).snap).isSome = true) (x : Option α) :
    ¬ ∀ snap, field (airportLine ⟨snap, true⟩ (name ++ [':'])).snap = x := by
  intro sets
  let start : AirportState := ⟨.unavailable, false⟩
  have read (content : List Str) : field (airportSnapshot content) =
      field (content.foldl airportLine start).snap := by
    rw [airportSnapshot]
    split
    · exact reads _ _
    · rfl
  have after (front : List Str) (lines : ∀ line ∈ front ++ [currentKey], '\n' ∉ line) :
      x = field (front.foldl airportLine start).snap := by
    calc x = field (airportLine ⟨(front.foldl airportLine start).snap, true⟩
           (name ++ [':'])).snap := (sets _).symm
      _ = field ((front ++ [currentKey, name ++ [':']]).foldl airportLine start).snap := by
          rw [List.foldl_append, List.foldl_cons, airportLine_heading]
          rfl
      _ = field (airportSnapshot (front ++ [currentKey, name ++ [':']])) := (read _).symm
      _ = field (airportSnapshot (front ++ [currentKey])) :=
          congrArg field (independent.steady admitted front [] lines)
      _ = field ((front ++ [currentKey]).foldl airportLine start).snap := read _
      _ = field (front.foldl airportLine start).snap := by
          rw [List.foldl_append, List.foldl_cons, airportLine_heading, List.foldl_nil]
  have headed : '\n' ∉ currentKey := newline_not_mem_currentKey
  have alone : x = none := (after [] (by simpa using headed)).trans unset
  have behind : x = field (airportLine ⟨.unavailable, true⟩ line).snap := by
    refine after [currentKey, line] ?_
    simp only [List.cons_append, List.nil_append, List.forall_mem_cons]
    exact ⟨headed, single, headed, fun _ member => nomatch member⟩
  rw [← behind, alone] at set
  cases set

theorem parseChannel_channel (v : Str) (snap : RadioSnapshot) :
    (parseChannel v snap).channel = parseU32 (trim (splitOnce '(' v).1) := by
  have token (snap : RadioSnapshot) (token : Str) : (channelToken snap token).channel =
      snap.channel := by
    rw [channelToken]
    split
    · rfl
    · split
      · rfl
      · rfl
  have tokens (parts : List Str) (snap : RadioSnapshot) : (parts.foldl channelToken snap).channel =
      snap.channel := by
    induction parts generalizing snap with
    | nil => rfl
    | cons part parts ih => rw [List.foldl_cons, ih, token]
  rw [parseChannel]
  obtain ⟨chanStr, rest⟩ := splitOnce '(' v
  cases rest with
  | none => rfl
  | some rest => exact tokens _ _

theorem parseSignalNoise_rssi (v : Str) (snap : RadioSnapshot) :
    (parseSignalNoise v snap).rssiDbm = (parseSignalNoise v .unavailable).rssiDbm := by
  rw [parseSignalNoise, parseSignalNoise]
  cases parts : v.splitOn '/' with
  | nil => exact absurd parts (List.splitOnP_ne_nil _ v)
  | cons rssi rest =>
    cases rest with
    | nil => rfl
    | cons noise rest => rfl

section Keys
variable {names : NameClass AirportInert} {name : Str}

theorem AirportIndependent.no_status (independent : AirportIndependent names.Admits)
    (admitted : names.Admits name) :
    ¬ statusKey <+: trim (name ++ [':']) := by
  intro ⟨rest, line⟩
  have sets (snap : RadioSnapshot) : airportLine ⟨snap, true⟩ (name ++ [':']) =
      ⟨{ snap with associated := contains (statusKey ++ rest) "Connected".toList }, true⟩ := by
    rw [airportLine, ← line]
    obtain ⟨status, -⟩ := step_key snap rest
    exact status
  have alone := congrArg RadioSnapshot.associated
    (independent.steady admitted [] [] (List.forall_mem_singleton.mpr newline_not_mem_currentKey))
  have behind := congrArg RadioSnapshot.associated
    (independent.steady admitted ["Status: Connected".toList] [] (List.forall_mem_cons.mpr
      ⟨not_mem_literal (by decide), List.forall_mem_singleton.mpr newline_not_mem_currentKey⟩))
  have off : contains (statusKey ++ rest) "Connected".toList = false := by
    rw [List.nil_append, airportSnapshot, List.foldl_cons, airportLine_heading, List.foldl_cons,
      sets] at alone
    exact alone
  have on : contains (statusKey ++ rest) "Connected".toList = true := by
    rw [airportSnapshot, List.foldl_append, List.foldl_cons, airportLine_heading, List.foldl_cons,
      sets] at behind
    exact behind
  rw [off] at on
  cases on

theorem AirportIndependent.no_other (independent : AirportIndependent names.Admits)
    (admitted : names.Admits name) :
    ¬ otherKey <+: trim (name ++ [':']) := by
  intro ⟨rest, line⟩
  have closes (snap : RadioSnapshot) : airportLine ⟨snap, true⟩ (name ++ [':']) =
      ⟨snap, false⟩ := by
    rw [airportLine, ← line]
    obtain ⟨-, other, -⟩ := step_key snap rest
    exact other
  have closed := congrArg RadioSnapshot.mcsIndex
    (independent.steady admitted [] ["MCS Index: 1".toList] (List.forall_mem_cons.mpr
      ⟨newline_not_mem_currentKey, List.forall_mem_singleton.mpr (not_mem_literal (by decide))⟩))
  rw [List.nil_append, airportSnapshot, List.foldl_cons, airportLine_heading, List.foldl_cons,
    closes] at closed
  exact absurd closed (by decide)

/-- No name begins with a key whose line sets a field to what follows the key. -/
theorem AirportIndependent.no_field (independent : AirportIndependent names.Admits)
    (admitted : names.Admits name) {key : Str} (read : key ∈ airportKeys) {α : Type}
    (field : RadioSnapshot → Option α)
    (reads : ∀ snap associated, field { snap with associated := associated } = field snap)
    (unset : field .unavailable = none) (value : Str → Option α)
    (sets : ∀ snap rest, field ((AirportState.mk snap true).step (key ++ rest)).snap = value rest)
    (set : (value ['1']).isSome = true) : ¬ key <+: trim (name ++ [':']) := by
  intro ⟨rest, line⟩
  have spelled : ∀ key ∈ airportKeys, '\n' ∉ key ++ ['1'] ∧
      trim (key ++ ['1']) = key ++ ['1'] := by decide
  have one : field (airportLine ⟨.unavailable, true⟩ (key ++ ['1'])).snap = value ['1'] := by
    rw [airportLine, (spelled key read).2, sets]
  refine independent.not_sets admitted field reads unset (spelled key read).1 (by rwa [one])
    (value rest) fun snap => ?_
  rw [airportLine, ← line, sets]

end Keys

theorem airport_independent_iff (names : NameClass AirportInert) :
    AirportIndependent names.Admits ↔ ∀ name, names.Admits name → AirportInert name := by
  refine ⟨fun independent name admitted => ?_, airport_independent_of_inert⟩
  have no_field {key : Str} (read : key ∈ airportKeys) {α : Type}
      (field : RadioSnapshot → Option α) :=
    independent.no_field admitted read field
  simp only [AirportInert, airportKeys, List.forall_mem_cons]
  refine ⟨independent.no_status admitted, independent.no_other admitted, ?_, ?_, ?_, ?_, ?_,
    fun _ member => nomatch member⟩
  · refine no_field (by simp [airportKeys]) RadioSnapshot.phyMode (fun _ _ => rfl) rfl
      (fun rest => some (String.ofList (trim rest))) (fun snap rest => ?_) rfl
    obtain ⟨-, -, phyMode, -⟩ := step_key snap rest
    rw [phyMode]
  · refine no_field (by simp [airportKeys]) RadioSnapshot.channel (fun _ _ => rfl) rfl
      (fun rest => parseU32 (trim (splitOnce '(' (trim rest)).1)) (fun snap rest => ?_) rfl
    obtain ⟨-, -, -, channel, -⟩ := step_key snap rest
    rw [channel, parseChannel_channel]
  · refine no_field (by simp [airportKeys]) RadioSnapshot.rssiDbm (fun _ _ => rfl) rfl
      (fun rest => (parseSignalNoise (trim rest) .unavailable).rssiDbm) (fun snap rest => ?_) rfl
    obtain ⟨-, -, -, -, signal, -⟩ := step_key snap rest
    rw [signal, parseSignalNoise_rssi]
  · refine no_field (by simp [airportKeys]) RadioSnapshot.txRateMbps (fun _ _ => rfl) rfl
      (fun rest => parseF64 (trim rest)) (fun snap rest => ?_) rfl
    obtain ⟨-, -, -, -, -, rate, -⟩ := step_key snap rest
    rw [rate]
  · refine no_field (by simp [airportKeys]) RadioSnapshot.mcsIndex (fun _ _ => rfl) rfl
      (fun rest => parseU32 (trim rest)) (fun snap rest => ?_) rfl
    obtain ⟨-, -, -, -, -, -, mcs⟩ := step_key snap rest
    rw [mcs]

end Airport

/-- Neither snapshot depends on the names in its text. -/
structure NameIndependent (values names : Str → Prop) : Prop where
  ioreg : IoregIndependent values
  airport : AirportIndependent names

/-- The snapshots are independent of names exactly where no name holds what its line is read for. -/
theorem name_independent_iff (values : NameClass IoregInert) (names : NameClass AirportInert) :
    NameIndependent values.Admits names.Admits ↔
      (∀ value, values.Admits value → IoregInert value) ∧ ∀ name, names.Admits name →
        AirportInert name := by
  constructor
  · intro ⟨ioreg, airport⟩
    exact ⟨(ioreg_independent_iff values).mp ioreg, (airport_independent_iff names).mp airport⟩
  · intro ⟨inertValues, inertNames⟩
    exact ⟨(ioreg_independent_iff values).mpr inertValues,
      (airport_independent_iff names).mpr inertNames⟩

/-- A network of the name `"IO80211Band" = 2GHz` sets the band, and one of the name
`Channel: 6 (2GHz)` the channel. -/
theorem names_steer_snapshots :
    ¬ IoregIndependent (fun _ => True) ∧ ¬ AirportIndependent (fun _ => True) := by
  constructor
  · intro independent
    let content (ssid : Str) : List Str := ["  |   ".toList ++ ssidKey ++ ssid]
    have single (ssid : Str) (unbroken : '\n' ∉ ssid) : ∀ line ∈ content ssid, '\n' ∉ line :=
      List.forall_mem_singleton.mpr
        (List.not_mem_append (List.not_mem_append (not_mem_literal (by decide))
          (not_mem_literal (by decide))) unbroken)
    have home : lines (unlines (content "\"home\"".toList)) = content "\"home\"".toList :=
      lines_unlines (single _ (not_mem_literal (by decide)))
    have band : lines (unlines (content "\"\"IO80211Band\" = 2GHz\"".toList)) =
        content "\"\"IO80211Band\" = 2GHz\"".toList :=
          lines_unlines (single _ (not_mem_literal (by decide)))
    have tree : TreeFront "  |   ".toList := by decide
    have same := independent (unlines (content "\"home\"".toList))
      (unlines (content "\"\"IO80211Band\" = 2GHz\"".toList)) (by
        rw [home, band]
        exact .cons (.named List.mem_cons_self tree trivial trivial) .nil)
    rw [parseIoregWlan, parseIoregWlan, home, band] at same
    exact absurd (congrArg RadioSnapshot.band same) (by decide)
  · intro independent
    let content (name : Str) : List Str := [currentKey, "  ".toList ++ (name ++ [':'])]
    have single (name : Str) (unbroken : '\n' ∉ name) : ∀ line ∈ content name, '\n' ∉ line :=
      List.forall_mem_cons.mpr ⟨newline_not_mem_currentKey, List.forall_mem_singleton.mpr
        (List.not_mem_append (not_mem_literal (by decide))
          (List.not_mem_append unbroken (by decide)))⟩
    have home : lines (unlines (content "home".toList)) = content "home".toList :=
      lines_unlines (single _ (not_mem_literal (by decide)))
    have channel : lines (unlines (content "Channel: 6 (2GHz)".toList)) =
        content "Channel: 6 (2GHz)".toList :=
      lines_unlines (single _ (not_mem_literal (by decide)))
    have blank : Blank "  ".toList := by decide
    have heading : AirportAlike (fun _ => True) false currentKey currentKey true :=
      airportAlike_heading false
    have same := independent (unlines (content "home".toList))
      (unlines (content "Channel: 6 (2GHz)".toList)) (by
      rw [home, channel]
      exact .cons heading (.cons (.network blank trivial trivial) .nil))
    rw [parseAirportText, parseAirportText, home, channel] at same
    exact absurd (congrArg RadioSnapshot.channel same) (by decide)

end FragglePacket.Load
