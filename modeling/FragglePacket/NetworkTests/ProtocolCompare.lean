import FragglePacket.Lists.SortByKey
import FragglePacket.NetworkTests.CaptureReport
import FragglePacket.Probe.Preflight
import FragglePacket.Text.Integer
import FragglePacket.Text.Pattern
import Mathlib.Data.String.Basic

/-! One comparison of HTTP protocols: the legs it starts, and what each leg reads from curl. -/

namespace FragglePacket.NetworkTests

open FragglePacket.Lists FragglePacket.Probe FragglePacket.Text

inductive HttpProtocol where
  | http1
  | http2
  | http3
  deriving DecidableEq

namespace HttpProtocol

def asStr : HttpProtocol → String
  | http1 => "http1"
  | http2 => "http2"
  | http3 => "http3"

def curlFlag : HttpProtocol → String
  | http1 => "--http1.1"
  | http2 => "--http2"
  | http3 => "--http3-only"

def requiresH3CapableCurl (protocol : HttpProtocol) : Bool := protocol = http3

end HttpProtocol

section Curl

def curlCandidates : List String :=
  ["curl", "/opt/homebrew/opt/curl/bin/curl", "/usr/local/opt/curl/bin/curl"]

structure CurlBinary where
  path : String
  supportsH3 : Bool

/-- A binary is known by what its `--version` prints, where that runs and succeeds. -/
def probeCurlBinary (version : String → Option Str) (path : String) : Option CurlBinary :=
  (version path).map fun text => ⟨path, (lines text).head?.isSome && contains text "HTTP3".toList⟩

def selectCurlAmong (protocol : HttpProtocol) (version : String → Option Str)
    (firstWorking : Option CurlBinary) :
    List String → Option CurlBinary
  | [] => if protocol.requiresH3CapableCurl then none else firstWorking
  | candidate :: rest =>
    match probeCurlBinary version candidate with
    | some bin =>
      if !protocol.requiresH3CapableCurl then some bin
      else if bin.supportsH3 then some bin
      else selectCurlAmong protocol version (firstWorking.or (some bin)) rest
    | none => selectCurlAmong protocol version firstWorking rest

def selectCurlFor (protocol : HttpProtocol) (version : String → Option Str) : Option CurlBinary :=
  selectCurlAmong protocol version none curlCandidates

structure CurlOutput where
  success : Bool
  code : Option Int
  stdout : Str
  stderr : Str

/-- How a started curl comes to an end. -/
inductive CurlRun where
  | spawnFailed (error : Str)
  | pollFailed (error : Str)
  | collectFailed (error : Str)
  | overran
  | exited (output : CurlOutput)

def killGraceSecs : Nat := 5

def runCurlWatched (timeoutSecs : Nat) : CurlRun → Except Str CurlOutput
  | .spawnFailed e => .error ("failed to spawn curl: ".toList ++ e)
  | .pollFailed e => .error ("failed to poll curl: ".toList ++ e)
  | .collectFailed e => .error ("failed to collect curl output: ".toList ++ e)
  | .overran =>
    .error ("curl exceeded watchdog deadline (".toList ++
      Nat.toDigits 10 (timeoutSecs + killGraceSecs) ++
      "s) and was killed".toList)
  | .exited output => .ok output

end Curl

section WriteOut

def writeOutFields : List String :=
  ["code", "proto", "speed_dl", "speed_up", "size_dl", "size_up", "time_total", "remote_ip",
    "url_effective", "num_redirects"]

def writeOutFormat : Str :=
  "%\x7bhttp_code\x7d\x1f%\x7bhttp_version\x7d\x1f%\x7bspeed_download\x7d\x1f%\x7bspeed_upload\x7d\x1f".toList ++
    "%\x7bsize_download\x7d\x1f%\x7bsize_upload\x7d\x1f%\x7btime_total\x7d\x1f%\x7bremote_ip\x7d\x1f".toList ++
    "%\x7burl_effective\x7d\x1f%\x7bnum_redirects\x7d".toList

/-- Each part of the text under the name of its place. -/
def parseWriteOut (text : Str) : List (String × Str) :=
  writeOutFields.zip ((text.rdropWhile fun c => c == '\n' || c == '\r').splitOn '\x1f')

end WriteOut

structure LegConfig where
  host : String
  port : UInt16
  path : String
  interface : Option String
  forcedIp : Option String
  timeoutSecs : Nat

inductive LossIndicator where
  | clean
  | bodyTooSmall
  | nonSuccessStatus
  | transferFailed
  deriving DecidableEq

inductive LegDirection where
  | downloadOnly
  | uploadOnly
  | simultaneous
  deriving DecidableEq

def LegDirection.asStr : LegDirection → String
  | .downloadOnly => "download-only"
  | .uploadOnly => "upload-only"
  | .simultaneous => "simultaneous"

structure LegResult where
  protocol : String
  direction : String
  host : String
  connectedIp : Option Str
  httpStatus : Option UInt32
  throughputBps : Option F64
  bytesTransferred : Option UInt64
  timeTotalSecs : Option F64
  lossIndicator : LossIndicator
  error : Option Str
  finalUrl : Option Str
  redirectCount : UInt32

def minValidTransferBytes : UInt64 := 16384

def maxRedirects : Nat := 10

def failedLeg (protocol : HttpProtocol) (direction : LegDirection) (host : String)
    (error : Str) : LegResult where
  protocol := protocol.asStr
  direction := direction.asStr
  host := host
  connectedIp := none
  httpStatus := none
  throughputBps := none
  bytesTransferred := none
  timeTotalSecs := none
  lossIndicator := .transferFailed
  error := some error
  finalUrl := none
  redirectCount := 0

def LegConfig.url (cfg : LegConfig) : Str :=
  "https://".toList ++ cfg.host.toList ++ [':'] ++ Nat.toDigits 10 cfg.port.toNat ++ cfg.path.toList

def curlArgs (protocol : HttpProtocol) (cfg : LegConfig) (uploadBody : Option Str) : List Str :=
  [protocol.curlFlag.toList, "-sS".toList, "-L".toList, "--max-redirs".toList,
    Nat.toDigits 10 maxRedirects, "-o".toList, "/dev/null".toList, "-w".toList, writeOutFormat,
    "-m".toList, Nat.toDigits 10 cfg.timeoutSecs] ++
  (match cfg.forcedIp with
    | some ip =>
      ["--resolve".toList, cfg.host.toList ++ [':'] ++ Nat.toDigits 10 cfg.port.toNat ++ [':'] ++
        ip.toList]
    | none => []) ++
  (match cfg.interface with
    | some iface => ["--interface".toList, iface.toList]
    | none => []) ++
  (match uploadBody with
    | some path => ["-X".toList, "POST".toList, "--data-binary".toList, '@' :: path]
    | none => []) ++
  [cfg.url]

/-- The machine one leg runs on: what the curl binaries say of themselves,
and how a started one ends. -/
structure LegWorld where
  version : String → Option Str
  run : String → List Str → CurlRun

def exitCode : Option Int → Str
  | some code => "Some(".toList ++ (toString code).toList ++ [')']
  | none => "None".toList

/-- The write-out text of the leg, or why there is none. -/
def legOutput (world : LegWorld) (protocol : HttpProtocol) (cfg : LegConfig)
    (uploadBody : Option Str) : Except Str Str :=
  match selectCurlFor protocol world.version with
  | none =>
    .error ("no curl binary on this system supports ".toList ++ protocol.asStr.toList ++
      "; measurement unavailable, not substituted".toList)
  | some curl =>
    match runCurlWatched cfg.timeoutSecs
      (world.run curl.path (curlArgs protocol cfg uploadBody)) with
    | .error e => .error e
    | .ok output =>
      if output.success then .ok output.stdout
      else
        let stderr := trim output.stderr
        .error (if stderr.isEmpty then "curl exited with ".toList ++ exitCode output.code
          else stderr)

def isSuccess (status : UInt32) : Bool := decide (200 ≤ status ∧ status < 300)

/-- Bytes in a second, as bits. -/
def bitsOfRate : F64 → F64
  | .finite bytes => .finite (bytes * 8)
  | other => other

def readLeg (protocol : HttpProtocol) (direction : LegDirection) (cfg : LegConfig)
    (text : Str) : LegResult :=
  let fields := parseWriteOut text
  let status := (fields.lookup "code").bind parseU32
  let speedDl := (fields.lookup "speed_dl").bind parseF64
  let speedUp := (fields.lookup "speed_up").bind parseF64
  let sizeDl := (fields.lookup "size_dl").bind parseU64
  let sizeUp := (fields.lookup "size_up").bind parseU64
  let transferredBytes :=
    match direction with
    | .uploadOnly => sizeUp
    | _ => sizeDl
  let isSuccessStatus := status.any isSuccess
  let bodyLargeEnough := transferredBytes.any fun b => decide (minValidTransferBytes ≤ b)
  let isRealTransfer := isSuccessStatus && bodyLargeEnough
  let (throughputBps, bytesTransferred) :=
    if isRealTransfer then
      match direction with
      | .uploadOnly => (speedUp.map bitsOfRate, sizeUp)
      | _ => (speedDl.map bitsOfRate, sizeDl)
    else (none, none)
  { protocol := protocol.asStr
    direction := direction.asStr
    host := cfg.host
    connectedIp := (fields.lookup "remote_ip").filter (!·.isEmpty)
    httpStatus := status
    throughputBps := throughputBps
    bytesTransferred := bytesTransferred
    timeTotalSecs := (fields.lookup "time_total").bind parseF64
    lossIndicator :=
      match status with
      | some s =>
        if isSuccess s && bodyLargeEnough then .clean
        else if isSuccess s then .bodyTooSmall
        else .nonSuccessStatus
      | none => .transferFailed
    error := none
    finalUrl := (fields.lookup "url_effective").filter fun u => !u.isEmpty && u != cfg.url
    redirectCount := ((fields.lookup "num_redirects").bind parseU32).getD 0 }

def runLeg (world : LegWorld) (protocol : HttpProtocol) (direction : LegDirection) (cfg : LegConfig)
    (uploadBody : Option Str) : LegResult :=
  match legOutput world protocol cfg uploadBody with
  | .error e => failedLeg protocol direction cfg.host e
  | .ok text => readLeg protocol direction cfg text

end FragglePacket.NetworkTests
