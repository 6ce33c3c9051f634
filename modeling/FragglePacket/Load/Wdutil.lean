import FragglePacket.Load.RadioText

/-! The allowlisted Wi-Fi fields of `wdutil info`, and why it could not be read. -/

namespace FragglePacket.Load

open FragglePacket.Text

structure WdutilFields where
  bssid : Option String
  rssiDbm : Option Int32
  noiseDbm : Option Int32
  ccaPercent : Option F64
  txRateMbps : Option F64
  phyMode : Option String
  mcsIndex : Option UInt32
  band : Option String
  channel : Option UInt32
  widthMhz : Option UInt32

inductive WdutilError where
  | toolMissing
  | privilegeRequired (command : String)
  | parseFailed (detail : String)

def WdutilError.text : WdutilError → String
  | .toolMissing => "wdutil not found on this system"
  | .privilegeRequired command => "wdutil info requires elevated privilege; re-run as: " ++ command
  | .parseFailed detail => "failed to parse wdutil info output: " ++ detail

namespace WdutilFields

def empty : WdutilFields := ⟨none, none, none, none, none, none, none, none, none, none⟩

/-- `-53 dBm` is -53. -/
def parseDbm (value : Str) : Option Int32 := parseI32 (trim (trimEndMatches "dBm".toList value))

/-- `6 GHz channel 5` is channel 5 in the band `6GHz`. -/
def channelTokens (fields : WdutilFields) : List Str → WdutilFields
  | figure :: unit :: word :: number :: _ =>
    if eqIgnoreAsciiCase unit "ghz".toList && eqIgnoreAsciiCase word "channel".toList then
      { fields with band := some (String.ofList figure ++ "GHz"), channel := parseU32 number }
    else fields
  | _ => fields

def parseWdutilChannel (value : Str) (fields : WdutilFields) : WdutilFields :=
  let parts := value.splitOn '/'
  let fields := channelTokens fields (splitWhitespace (parts.headD []))
  match parts[1]? with
  | some second =>
    { fields with widthMhz := parseU32 (trim (trimEndMatches "MHz".toList (trim second))) }
  | none => fields

/-- What a line of the Wi-Fi section sets; a key of no other kind is read. -/
def setField (fields : WdutilFields) (key value : Str) : WdutilFields :=
  if key = "BSSID".toList then
    if value = "<redacted>".toList || value.isEmpty then fields
    else { fields with bssid := some (String.ofList value) }
  else if key = "RSSI".toList then { fields with rssiDbm := parseDbm value }
  else if key = "Noise".toList then { fields with noiseDbm := parseDbm value }
  else if key = "CCA".toList then
    { fields with ccaPercent := parseF64 (trim (trimEndMark '%' value)) }
  else if key = "Tx Rate".toList then
    { fields with txRateMbps := parseF64 (trim (trimEndMatches "Mbps".toList value)) }
  else if key = "PHY Mode".toList then { fields with phyMode := some (String.ofList value) }
  else if key = "MCS Index".toList then { fields with mcsIndex := parseU32 value }
  else if key = "Channel".toList then parseWdutilChannel value fields
  else fields

end WdutilFields

structure WdutilState where
  fields : WdutilFields
  inWifiSection : Bool

/-- A section is headed by a line that is not indented and holds no colon. -/
def WdutilState.line (state : WdutilState) (rawLine : Str) : WdutilState :=
  let trimmed := trim rawLine
  if trimmed.isEmpty then state
  else if !rawLine.head? == some ' ' && !trimmed.contains ':' then
    { state with inWifiSection := trimmed = "WIFI".toList }
  else if !state.inWifiSection then state
  else
    match splitOnce ':' trimmed with
    | (_, none) => state
    | (key, some value) => { state with fields := state.fields.setField (trim key) (trim value) }

def parseWdutilInfo (text : Str) : WdutilFields :=
  ((lines text).foldl WdutilState.line ⟨.empty, false⟩).fields

end FragglePacket.Load
