import FragglePacket.Text.Float

/-! Radio snapshots, the fingerprint of an association, and the quality of a signal. -/

namespace FragglePacket.Load

open FragglePacket.Text

structure RadioSnapshot where
  associated : Bool
  phyMode : Option String
  band : Option String
  channel : Option UInt32
  widthMhz : Option UInt32
  rssiDbm : Option Int32
  noiseDbm : Option Int32
  txRateMbps : Option F64
  mcsIndex : Option UInt32

namespace RadioSnapshot

def unavailable : RadioSnapshot := ⟨false, none, none, none, none, none, none, none, none⟩

/-- `map(|n| n.to_string()).unwrap_or_default()`. -/
def shown (number : Option UInt32) : String :=
  match number with
  | some number => toString number.toNat
  | none => ""

def associationFingerprint (snap : RadioSnapshot) : Option String :=
  if !snap.associated then none
  else some (snap.band.getD "?" ++ ":" ++ shown snap.channel ++ ":" ++ shown snap.widthMhz)

def snrDb (snap : RadioSnapshot) : Option Int32 :=
  match snap.rssiDbm, snap.noiseDbm with
  | some rssi, some noise => some (rssi - noise)
  | _, _ => none

end RadioSnapshot

inductive RfQuality where
  | strong
  | weak
  | unstable
  | unknown
deriving DecidableEq

def weakRssiDbm : Int32 := -75
def unstableSnrDb : Int32 := 15

def classifyRf (snap : RadioSnapshot) : RfQuality :=
  if !snap.associated then .unknown
  else
    match snap.rssiDbm, snap.snrDb with
    | some rssi, some snr =>
      if rssi ≤ weakRssiDbm then .weak
      else if snr < unstableSnrDb then .unstable
      else .strong
    | some rssi, none => if rssi ≤ weakRssiDbm then .weak else .strong
    | _, _ => .unknown

end FragglePacket.Load
