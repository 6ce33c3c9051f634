import FragglePacket.Load.Radio
import FragglePacket.Text.Integer
import FragglePacket.Text.Pattern
import FragglePacket.Text.Replace

/-! Radio snapshots out of the texts of `ioreg` and of `system_profiler`. -/

namespace FragglePacket.Load

open FragglePacket.Text

section Ioreg

def channelKey : Str := "\"IO80211Channel\" = ".toList
def channelBandwidthKey : Str := "\"IO80211ChannelBandwidth\" = ".toList
def bandKey : Str := "\"IO80211Band\" = ".toList

def extractIoregValue (line keyEq : Str) : Option Str := afterFirst keyEq line

/-- `"6 GHz"`, with its quotes and its space, is the band `6GHz`. -/
def cleanedBand (v : Str) : Str := replace [' '] [] (trimMark '"' (trim v))

def ioregLine (snap : RadioSnapshot) (line : Str) : RadioSnapshot :=
  match extractIoregValue line channelKey with
  | some v => { snap with channel := parseU32 (trim v) }
  | none =>
    match extractIoregValue line channelBandwidthKey with
    | some v => { snap with widthMhz := parseU32 (trim v) }
    | none =>
      match extractIoregValue line bandKey with
      | some v =>
        if (cleanedBand v).isEmpty then snap
        else { snap with band := some (String.ofList (cleanedBand v)) }
      | none => snap

def ioregSnapshot (content : List Str) : RadioSnapshot :=
  let snap := content.foldl ioregLine .unavailable
  { snap with associated := snap.channel.isSome }

def parseIoregWlan (text : Str) : RadioSnapshot := ioregSnapshot (lines text)

end Ioreg

section Airport

/-- `197 (6GHz, 80MHz)` is channel 197 in the band `6GHz`, 80 MHz wide. -/
def channelToken (snap : RadioSnapshot) (token : Str) : RadioSnapshot :=
  let token := trim token
  if "GHz".toList.isSuffixOf token then { snap with band := some (String.ofList token) }
  else if "MHz".toList.isSuffixOf token then
    { snap with widthMhz := parseU32 (trim (trimEndMatches "MHz".toList token)) }
  else snap

def parseChannel (v : Str) (snap : RadioSnapshot) : RadioSnapshot :=
  let (chanStr, rest) := splitOnce '(' v
  let snap := { snap with channel := parseU32 (trim chanStr) }
  match rest with
  | some rest => ((trimEndMark ')' rest).splitOn ',').foldl channelToken snap
  | none => snap

/-- `-59 dBm` is -59. -/
def decibels (part : Str) : Option Int32 :=
  parseI32 (trim (trimEndMatches "dBm".toList (trim part)))

def parseSignalNoise (v : Str) (snap : RadioSnapshot) : RadioSnapshot :=
  match v.splitOn '/' with
  | [] => snap
  | [rssi] => { snap with rssiDbm := decibels rssi }
  | rssi :: noise :: _ => { snap with rssiDbm := decibels rssi, noiseDbm := decibels noise }

def statusKey : Str := "Status:".toList
def currentKey : Str := "Current Network Information:".toList
def otherKey : Str := "Other Local Wi-Fi Networks:".toList
def phyModeKey : Str := "PHY Mode:".toList
def channelFieldKey : Str := "Channel:".toList
def signalKey : Str := "Signal / Noise:".toList
def rateKey : Str := "Transmit Rate:".toList
def mcsKey : Str := "MCS Index:".toList

/-- What a line of the current network sets. -/
def airportField (snap : RadioSnapshot) (line : Str) : RadioSnapshot :=
  match stripPrefix phyModeKey line with
  | some v => { snap with phyMode := some (String.ofList (trim v)) }
  | none =>
    match stripPrefix channelFieldKey line with
    | some v => parseChannel (trim v) snap
    | none =>
      match stripPrefix signalKey line with
      | some v => parseSignalNoise (trim v) snap
      | none =>
        match stripPrefix rateKey line with
        | some v => { snap with txRateMbps := parseF64 (trim v) }
        | none =>
          match stripPrefix mcsKey line with
          | some v => { snap with mcsIndex := parseU32 (trim v) }
          | none => snap

structure AirportState where
  snap : RadioSnapshot
  inCurrent : Bool

def AirportState.step (state : AirportState) (line : Str) : AirportState :=
  let snap :=
    if statusKey.isPrefixOf line then
      { state.snap with associated := contains line "Connected".toList } else state.snap
  if currentKey.isPrefixOf line then ⟨snap, true⟩
  else if otherKey.isPrefixOf line then ⟨snap, false⟩
  else if !state.inCurrent then ⟨snap, state.inCurrent⟩
  else ⟨airportField snap line, state.inCurrent⟩

def airportLine (state : AirportState) (rawLine : Str) : AirportState := state.step (trim rawLine)

def airportSnapshot (content : List Str) : RadioSnapshot :=
  let snap := (content.foldl airportLine ⟨.unavailable, false⟩).snap
  if snap.phyMode.isSome || snap.channel.isSome then { snap with associated := true } else snap

def parseAirportText (text : Str) : RadioSnapshot := airportSnapshot (lines text)

end Airport

end FragglePacket.Load
