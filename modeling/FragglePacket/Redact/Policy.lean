import FragglePacket.Net.IpAddr
import FragglePacket.Text.Replace
import FragglePacket.Text.RunStage

/-! The redaction primitive: three passes over maximal runs of address-shaped
characters, then the caller's literals. -/

namespace FragglePacket.Redact

open FragglePacket.Text FragglePacket.Net

inductive RedactionMode where
  | redacted
  | retained
deriving DecidableEq

structure RedactionPolicy where
  mode : RedactionMode
  extraLiterals : List Str

namespace RedactionPolicy

def defaultRedacted : RedactionPolicy := ⟨.redacted, []⟩

def reveal : RedactionPolicy := ⟨.retained, []⟩

def fromRetainFlag (retainRawIdentifiers : Bool) : RedactionPolicy :=
  if retainRawIdentifiers then reveal else defaultRedacted

def withLiteral (policy : RedactionPolicy) (literal : Str) : RedactionPolicy :=
  { policy with extraLiterals := policy.extraLiterals ++ [literal] }

def isRedacting (policy : RedactionPolicy) : Bool := policy.mode == .redacted

end RedactionPolicy

/-- Scans for maximal runs of candidate characters and writes the label of every
run `tryRedact` recognises in its place. -/
def scanAndReplace (text : Str) (isCandidateChar : Char → Bool)
    (tryRedact : Str → Option Str) : Str :=
  overRuns isCandidateChar (fun c => [c]) (fun run => (tryRedact run).getD run) text

def redactedMac : Str := "<redacted-mac>".toList

def redactedPrivateIp : Str := "<redacted-private-ip>".toList

def redactedPublicIp : Str := "<redacted-public-ip>".toList

def redacted : Str := "<redacted>".toList

/-- Six colon-separated parts of two hex digits each. -/
def isMacShaped (s : Str) : Bool :=
  let parts := s.splitOn ':'
  parts.length == 6 && parts.all fun p => byteLen p == 2 && p.all isAsciiHexdigit

def isPrivateOrLocal : IpAddr → Bool
  | .v4 v4 => v4.isPrivate || v4.isLoopback || v4.isLinkLocal
  | .v6 v6 =>
    v6.isLoopback || (v6.segments.get 0 &&& 0xffc0) == 0xfe80 ||
    (v6.segments.get 0 &&& 0xfe00) == 0xfc00

def redactionLabelFor (addr : IpAddr) : Str :=
  if isPrivateOrLocal addr then redactedPrivateIp else redactedPublicIp

def isMacChar (c : Char) : Bool := isAsciiHexdigit c || c == ':'

def tryRedactMac (run : Str) : Option Str := if isMacShaped run then some redactedMac else none

def redactMacOrBssid (text : Str) : Str := scanAndReplace text isMacChar tryRedactMac

def isIpv4Char (c : Char) : Bool := isAsciiDigit c || c == '.'

def tryRedactIpv4 (run : Str) : Option Str :=
  (parseIpv4 run).map fun addr => redactionLabelFor (.v4 addr)

def redactIpv4 (text : Str) : Str := scanAndReplace text isIpv4Char tryRedactIpv4

def isIpv6Char (c : Char) : Bool := isAsciiHexdigit c || c == ':' || c == '%'

/-- What stands before the first `%` is read as the address. -/
def ipv6Candidate (run : Str) : Str := (run.splitOn '%').head?.getD run

def tryRedactIpv6 (run : Str) : Option Str :=
  if run.count ':' < 2 then none
  else (parseIpv6 (ipv6Candidate run)).map fun addr => redactionLabelFor (.v6 addr)

def redactIpv6 (text : Str) : Str := scanAndReplace text isIpv6Char tryRedactIpv6

def replaceLiteral (out literal : Str) : Str :=
  if literal.isEmpty then out else replace literal redacted out

def RedactionPolicy.apply (policy : RedactionPolicy) (text : Str) : Str :=
  if policy.mode = .retained then text
  else policy.extraLiterals.foldl replaceLiteral (redactIpv6 (redactIpv4 (redactMacOrBssid text)))

example : RedactionPolicy.defaultRedacted.apply "140.82.114.4:443 bssid=aa:bb:cc:dd:ee:ff".toList =
    "<redacted-public-ip>:443 bssid=<redacted-mac>".toList := by decide

end FragglePacket.Redact
