import FragglePacket.NetworkTests.ProtocolCompare

/-! A comparison of protocols on one host, and when every leg of it reports its own direction. -/

namespace FragglePacket.NetworkTests

open FragglePacket.Lists FragglePacket.Probe FragglePacket.Text

/-- The four legs of one protocol. -/
inductive LegKind where
  | downloadOnly
  | uploadOnly
  | simultaneousDownload
  | simultaneousUpload
  deriving DecidableEq

namespace LegKind

def all : List LegKind := [downloadOnly, uploadOnly, simultaneousDownload, simultaneousUpload]

def label : LegKind → String
  | downloadOnly => "download_only"
  | uploadOnly => "upload_only"
  | simultaneousDownload => "simultaneous_download"
  | simultaneousUpload => "simultaneous_upload"

end LegKind

structure ProtocolComparisonResult where
  protocol : String
  preflightVerdict : Option String
  downloadOnly : Option LegResult
  uploadOnly : Option LegResult
  simultaneousDownload : Option LegResult
  simultaneousUpload : Option LegResult
  confidence : Confidence
  confidenceReasons : List String

def ProtocolComparisonResult.leg (result : ProtocolComparisonResult) : LegKind → Option LegResult
  | .downloadOnly => result.downloadOnly
  | .uploadOnly => result.uploadOnly
  | .simultaneousDownload => result.simultaneousDownload
  | .simultaneousUpload => result.simultaneousUpload

structure ComparisonReport where
  host : String
  interface : Option String
  protocols : List ProtocolComparisonResult
  endpointMismatch : Bool
  endpointMismatchDetail : Option Str
  redirectedToDifferentHost : Bool
  redirectDetail : Option Str

def confidenceFor (legs : List (Option LegResult)) : Confidence × List String :=
  let present := legs.filterMap id
  if present.isEmpty then (.low, ["no legs completed"])
  else
    let cleanCount := present.countP (·.lossIndicator = .clean)
    let total := present.length
    let unclean :=
      if cleanCount < total then
        [toString (total - cleanCount) ++ "/" ++ toString total ++ " legs did not complete cleanly"]
      else []
    (if cleanCount = total then .medium else .low,
      unclean ++ ["single sample per leg; repeat runs for statistical confidence"])

/-- `http` or `https` in front, and what is in front of a port or a path. -/
def urlHost (url : Str) : Option Str :=
  match (stripPrefix "https://".toList url).or (stripPrefix "http://".toList url) with
  | none => none
  | some rest =>
    let host := rest.takeWhile fun c => c != '/' && c != ':'
    if host.isEmpty then none else some host

def detectRedirectHostDrift (requestedHost : String) (finalUrls : List Str) : Bool × Option Str :=
  let drifted :=
    (finalUrls.filterMap urlHost).filter fun h => !eqIgnoreAsciiCase h requestedHost.toList
  if drifted.isEmpty then (false, none)
  else
    let unique := (sortByKey id (drifted.map String.ofList).dedup).map String.toList
    (true, some ("requested host '".toList ++ requestedHost.toList ++ "' redirected to ".toList ++
      ", ".toList.intercalate unique ++
        ("; the measured resource lives at a different hostname, which may itself " ++
      "resolve to a different edge").toList))

def detectEndpointMismatch (ips : List (Str × Str)) : Bool × Option Str :=
  match ips with
  | [] => (false, none)
  | [_] => (false, none)
  | (baselineLabel, baselineIp) :: _ =>
    let mismatched :=
      (ips.filter fun (_, ip) => ip != baselineIp).map fun (label, ip) => label ++ ['='] ++ ip
    if mismatched.isEmpty then (false, none)
    else (true, some ("legs resolved to different endpoint IPs (baseline ".toList ++
      baselineLabel ++ ['='] ++ baselineIp ++ "): ".toList ++ ", ".toList.intercalate mismatched ++
      " -- cross-protocol comparison may be measuring different CDN edges, not the same path".toList))

structure CompareConfig where
  host : String
  port : UInt16
  path : String
  interface : Option String
  forcedIp : Option String
  timeoutSecs : Nat
  protocols : List HttpProtocol
  runSimultaneous : Bool

def CompareConfig.legConfig (cfg : CompareConfig) : LegConfig :=
  ⟨cfg.host, cfg.port, cfg.path, cfg.interface, cfg.forcedIp, cfg.timeoutSecs⟩

/-- What a comparison meets: the file its upload body was written to, and for each protocol of the
configuration the preflight of its endpoint and the machine each leg runs on. -/
structure CompareWorld where
  uploadBody : Option Str
  preflight : Nat → EndpointAnswers
  leg : Nat → LegKind → LegWorld

/-- The preflight of a protocol, which only HTTP/3 has. -/
def preflightOf (cfg : CompareConfig) (world : CompareWorld) (index : Nat)
    (protocol : HttpProtocol) :
    Option EndpointResult :=
  if protocol = .http3 then some (preflightOne cfg.host .http3 (world.preflight index)) else none

def compareProtocol (cfg : CompareConfig) (world : CompareWorld) (index : Nat)
    (protocol : HttpProtocol) :
    ProtocolComparisonResult :=
  let preflightVerdict := preflightOf cfg world index protocol
  match preflightVerdict.filter (·.verdict = .unsupported) with
  | some pf =>
    { protocol := protocol.asStr
      preflightVerdict := some pf.verdict.asStr
      downloadOnly := none
      uploadOnly := none
      simultaneousDownload := none
      simultaneousUpload := none
      confidence := .low
      confidenceReasons := ["endpoint does not support " ++ protocol.asStr ++ ": " ++ pf.detail] }
  | none =>
    let legCfg := cfg.legConfig
    let downloadOnly := runLeg (world.leg index .downloadOnly) protocol .downloadOnly legCfg none
    let uploadOnly := world.uploadBody.map fun path =>
      runLeg (world.leg index .uploadOnly) protocol .uploadOnly legCfg (some path)
    let simultaneousDownload :=
      if cfg.runSimultaneous then
        some (runLeg (world.leg index .simultaneousDownload) protocol .simultaneous legCfg none)
      else none
    let simultaneousUpload :=
      if cfg.runSimultaneous then
        world.uploadBody.map fun path =>
          runLeg (world.leg index .simultaneousUpload) protocol .simultaneous legCfg (some path)
      else none
    let (confidence, confidenceReasons) :=
      confidenceFor [some downloadOnly, uploadOnly, simultaneousDownload, simultaneousUpload]
    { protocol := protocol.asStr
      preflightVerdict := preflightVerdict.map (·.verdict.asStr)
      downloadOnly := some downloadOnly
      uploadOnly := uploadOnly
      simultaneousDownload := simultaneousDownload
      simultaneousUpload := simultaneousUpload
      confidence := confidence
      confidenceReasons := confidenceReasons }

/-- The addresses the legs of a protocol were connected to, under the labels of the legs. -/
def ProtocolComparisonResult.ips (result : ProtocolComparisonResult) : List (Str × Str) :=
  LegKind.all.filterMap fun kind => do
    let ip ← (← result.leg kind).connectedIp
    pure ((result.protocol ++ ":" ++ kind.label).toList, ip)

def ProtocolComparisonResult.finalUrls (result : ProtocolComparisonResult) : List Str :=
  LegKind.all.filterMap fun kind => (result.leg kind).bind (·.finalUrl)

def runComparison (cfg : CompareConfig) (world : CompareWorld) : ComparisonReport :=
  let results := cfg.protocols.mapIdx (compareProtocol cfg world)
  let (endpointMismatch, endpointMismatchDetail) := detectEndpointMismatch (results.flatMap (·.ips))
  let (redirectedToDifferentHost, redirectDetail) :=
    detectRedirectHostDrift cfg.host (results.flatMap (·.finalUrls))
  { host := cfg.host
    interface := cfg.interface
    protocols := results
    endpointMismatch := endpointMismatch
    endpointMismatchDetail := endpointMismatchDetail
    redirectedToDifferentHost := redirectedToDifferentHost
    redirectDetail := redirectDetail }

section Directions

/-- The bytes and the rate of curl's upload for a leg with a body, and of its
download for one without. -/
structure Figures where
  size : Option UInt64
  speed : Option F64

def statusIn (text : Str) : Option UInt32 := ((parseWriteOut text).lookup "code").bind parseU32

def downloadFigures (text : Str) : Figures :=
  ⟨((parseWriteOut text).lookup "size_dl").bind parseU64,
    ((parseWriteOut text).lookup "speed_dl").bind parseF64⟩

def uploadFigures (text : Str) : Figures :=
  ⟨((parseWriteOut text).lookup "size_up").bind parseU64,
    ((parseWriteOut text).lookup "speed_up").bind parseF64⟩

def LegKind.hasBody : LegKind → Bool
  | downloadOnly => false
  | uploadOnly => true
  | simultaneousDownload => false
  | simultaneousUpload => true

def LegKind.direction : LegKind → LegDirection
  | downloadOnly => .downloadOnly
  | uploadOnly => .uploadOnly
  | simultaneousDownload => .simultaneous
  | simultaneousUpload => .simultaneous

def LegKind.ownFigures (kind : LegKind) (text : Str) : Figures :=
  if kind.hasBody then uploadFigures text else downloadFigures text

def Figures.Large (figures : Figures) : Prop :=
  ∃ bytes, figures.size = some bytes ∧ minValidTransferBytes ≤ bytes

def Succeeded (status : Option UInt32) : Prop := ∃ s, status = some s ∧ 200 ≤ s ∧ s < 300

/-- The leg reports these figures: its rate and its bytes are theirs, and
they pass or fail its gate. -/
structure Reports (status : Option UInt32) (figures : Figures) (leg : LegResult) : Prop where
  clean : leg.lossIndicator = .clean ↔ Succeeded status ∧ figures.Large
  small : leg.lossIndicator = .bodyTooSmall ↔ Succeeded status ∧ ¬ figures.Large
  measured : Succeeded status → figures.Large →
    leg.throughputBps = figures.speed.map bitsOfRate ∧ leg.bytesTransferred = figures.size
  withheld : ¬ (Succeeded status ∧ figures.Large) →
    leg.throughputBps = none ∧ leg.bytesTransferred = none

/-- The leg reports the direction it ran, and a rate only of a clean transfer. -/
structure OwnMeasurement (kind : LegKind) (output : Except Str Str) (leg : LegResult) : Prop where
  own : ∀ text, output = .ok text → Reports (statusIn text) (kind.ownFigures text) leg
  clean_of_throughput : leg.throughputBps.isSome = true → leg.lossIndicator = .clean
  of_clean : leg.lossIndicator = .clean →
    ∃ text, output = .ok text ∧ Succeeded (statusIn text) ∧ (kind.ownFigures text).Large

/-- What a leg of that kind gets of curl. -/
def CompareWorld.output (world : CompareWorld) (cfg : CompareConfig) (index : Nat)
    (protocol : HttpProtocol) (kind : LegKind) : Except Str Str :=
  legOutput (world.leg index kind) protocol cfg.legConfig
    (if kind.hasBody then world.uploadBody else none)

/-- Every leg of every protocol reports the direction it ran. -/
def MeasuresOwnDirections (cfg : CompareConfig) (world : CompareWorld) : Prop :=
  ∀ index protocol result, cfg.protocols[index]? = some protocol →
    (runComparison cfg world).protocols[index]? = some result →
    ∀ kind leg, result.leg kind = some leg →
      OwnMeasurement kind (world.output cfg index protocol kind) leg

/-- Both directions pass the gate alike, and where they pass it they are the same figures. -/
def DirectionsAgree (text : Str) : Prop :=
  Succeeded (statusIn text) → ((uploadFigures text).Large ↔ (downloadFigures text).Large) ∧
    ((uploadFigures text).Large → uploadFigures text = downloadFigures text)

/-- The comparison starts the simultaneous upload of that protocol. -/
structure Uploads (cfg : CompareConfig) (world : CompareWorld) (index : Nat)
    (protocol : HttpProtocol) : Prop where
  simultaneous : cfg.runSimultaneous = true
  body : world.uploadBody.isSome = true
  supported : protocol = .http3 →
    (preflightOne cfg.host .http3 (world.preflight index)).verdict ≠ .unsupported

/-- The figures a leg of that direction reads. -/
def LegDirection.figures (direction : LegDirection) (text : Str) : Figures :=
  match direction with
  | .uploadOnly => uploadFigures text
  | _ => downloadFigures text

section Leg
variable {protocol : HttpProtocol} {direction : LegDirection} {cfg : LegConfig} {text : Str}
  {leg : LegResult}
  {status : Option UInt32} {figures other : Figures}

theorem any_isSuccess_iff : status.any isSuccess = true ↔ Succeeded status := by
  simp [Option.any_eq_true, isSuccess, Succeeded]

theorem any_large_iff :
    (figures.size.any fun b => decide (minValidTransferBytes ≤ b)) = true ↔ figures.Large := by
  simp [Option.any_eq_true, Figures.Large]

theorem readLeg_lossIndicator : (readLeg protocol direction cfg text).lossIndicator =
    match statusIn text with
    | some s =>
      if isSuccess s && (direction.figures text).size.any fun b =>
        decide (minValidTransferBytes ≤ b) then .clean
      else if isSuccess s then .bodyTooSmall
      else .nonSuccessStatus
    | none => .transferFailed := by
  cases direction <;> rfl

theorem readLeg_figures :
    ((readLeg protocol direction cfg text).throughputBps,
      (readLeg protocol direction cfg text).bytesTransferred) =
      if (statusIn text).any isSuccess &&
        (direction.figures text).size.any fun b => decide (minValidTransferBytes ≤ b) then
        ((direction.figures text).speed.map bitsOfRate, (direction.figures text).size)
      else (none, none) := by
  cases direction <;> rfl

/-- A leg reports the figures its direction reads. -/
theorem readLeg_reports :
    Reports (statusIn text) (direction.figures text) (readLeg protocol direction cfg text) := by
  have loss := @readLeg_lossIndicator protocol direction cfg text
  have read := @readLeg_figures protocol direction cfg text
  have gate : ((statusIn text).any isSuccess && (direction.figures text).size.any fun b =>
      decide (minValidTransferBytes ≤ b)) = true ↔
        Succeeded (statusIn text) ∧ (direction.figures text).Large := by
    rw [Bool.and_eq_true, any_isSuccess_iff, any_large_iff]
  refine ⟨?_, ?_, fun succeeded large => ?_, fun closed => ?_⟩
  · rw [loss, ← any_isSuccess_iff, ← any_large_iff]
    cases statusIn text with
    | none => simp
    | some s =>
      simp only [Option.any_some]
      split_ifs <;> simp_all
  · rw [loss, ← any_isSuccess_iff, ← any_large_iff]
    cases statusIn text with
    | none => simp
    | some s =>
      simp only [Option.any_some]
      split_ifs <;> simp_all
  · rw [if_pos (gate.mpr ⟨succeeded, large⟩)] at read
    exact Prod.mk.inj read
  · rw [if_neg (gate.not.mpr closed)] at read
    exact Prod.mk.inj read

theorem bitsOfRate_injective : Function.Injective bitsOfRate := by
  intro first second same
  cases first <;> cases second <;> simp_all [bitsOfRate]

theorem Reports.throughput_clean (reports : Reports status figures leg)
    (some : leg.throughputBps.isSome = true) :
    leg.lossIndicator = .clean := by
  by_contra unclean
  have withheld := (reports.withheld (reports.clean.not.mp unclean)).1
  rw [withheld] at some
  exact absurd some (by simp)

/-- A leg that reports these figures reports others exactly where the gate and
what passes it are the same. -/
theorem Reports.other_iff (reports : Reports status figures leg) : Reports status other leg ↔
    (Succeeded status → (other.Large ↔ figures.Large) ∧ (other.Large → other = figures)) := by
  constructor
  · intro others succeeded
    have large : other.Large ↔ figures.Large := by
      have both := others.clean.symm.trans reports.clean
      rwa [and_iff_right succeeded, and_iff_right succeeded] at both
    refine ⟨large, fun isLarge => ?_⟩
    obtain ⟨speed, size⟩ := others.measured succeeded isLarge
    obtain ⟨speed', size'⟩ := reports.measured succeeded (large.mp isLarge)
    have speeds := Option.map_injective bitsOfRate_injective (speed.symm.trans speed')
    obtain ⟨otherSize, otherSpeed⟩ := other
    exact (Figures.mk.injEq ..).mpr ⟨size.symm.trans size', speeds⟩
  · intro agree
    have gate : Succeeded status ∧ other.Large ↔ Succeeded status ∧ figures.Large :=
      and_congr_right fun succeeded => (agree succeeded).1
    have gate' : Succeeded status ∧ ¬ other.Large ↔ Succeeded status ∧ ¬ figures.Large :=
      and_congr_right fun succeeded => (agree succeeded).1.not
    refine ⟨reports.clean.trans gate.symm, reports.small.trans gate'.symm, fun succeeded large =>
      ?_, fun closed => ?_⟩
    · rw [(agree succeeded).2 large]
      exact reports.measured succeeded ((agree succeeded).1.mp large)
    · exact reports.withheld (gate.not.mp closed)

end Leg

section Run
variable {cfg : CompareConfig} {world : CompareWorld} {index : Nat} {protocol : HttpProtocol}
  {kind : LegKind} {leg : LegResult}

/-- Every leg but the simultaneous upload reads the figures of its own direction. -/
theorem ownFigures_eq (other : kind ≠ .simultaneousUpload) (text : Str) :
    kind.ownFigures text = kind.direction.figures text := by
  cases kind with
  | downloadOnly => rfl
  | uploadOnly => rfl
  | simultaneousDownload => rfl
  | simultaneousUpload => exact absurd rfl other

theorem preflightOf_filter :
    (preflightOf cfg world index protocol).filter (·.verdict = .unsupported) = none ↔
    (protocol = .http3 →
      (preflightOne cfg.host .http3 (world.preflight index)).verdict ≠ .unsupported) := by
  unfold preflightOf
  by_cases h3 : protocol = .http3 <;> simp [h3]

/-- A leg that is reported is what its own run came to. -/
theorem compareProtocol_leg
    (started : (compareProtocol cfg world index protocol).leg kind = some leg) :
    leg = match world.output cfg index protocol kind with
      | .error e => failedLeg protocol kind.direction cfg.host e
      | .ok text => readLeg protocol kind.direction cfg.legConfig text := by
  rw [compareProtocol] at started
  split at started
  · cases kind <;> exact absurd started (by simp [ProtocolComparisonResult.leg])
  · cases kind with
    | downloadOnly => exact (Option.some.inj started).symm
    | uploadOnly =>
      obtain ⟨path, body, rfl⟩ := Option.map_eq_some_iff.mp started
      simp only [CompareWorld.output, LegKind.hasBody, if_true, body]
      rfl
    | simultaneousDownload =>
      obtain ⟨-, same⟩ := Option.ite_none_right_eq_some.mp started
      exact (Option.some.inj same).symm
    | simultaneousUpload =>
      obtain ⟨-, mapped⟩ := Option.ite_none_right_eq_some.mp started
      obtain ⟨path, body, rfl⟩ := Option.map_eq_some_iff.mp mapped
      simp only [CompareWorld.output, LegKind.hasBody, if_true, body]
      rfl

theorem simultaneousUpload_started_iff :
    (∃ leg, (compareProtocol cfg world index protocol).leg .simultaneousUpload = some leg) ↔
      Uploads cfg world index protocol := by
  rw [compareProtocol]
  cases refused : (preflightOf cfg world index protocol).filter (·.verdict = .unsupported) with
  | some pf =>
    refine iff_of_false (by simp [ProtocolComparisonResult.leg]) fun uploads => ?_
    rw [preflightOf_filter.mpr uploads.supported] at refused
    exact absurd refused (by simp)
  | none =>
    have supported := preflightOf_filter.mp refused
    constructor
    · rintro ⟨leg, started⟩
      obtain ⟨simultaneous, mapped⟩ := Option.ite_none_right_eq_some.mp started
      obtain ⟨path, body, -⟩ := Option.map_eq_some_iff.mp mapped
      exact ⟨simultaneous, by rw [body, Option.isSome_some], supported⟩
    · rintro ⟨simultaneous, body, -⟩
      obtain ⟨path, written⟩ := Option.isSome_iff_exists.mp body
      exact ⟨_, by
        simp only [ProtocolComparisonResult.leg, simultaneous, if_true, written, Option.map_some]
        rfl⟩

/-- One leg reports its own direction, unless it is a simultaneous upload whose text
tells the directions apart. -/
theorem ownMeasurement_iff
    (started : (compareProtocol cfg world index protocol).leg kind = some leg) :
    OwnMeasurement kind (world.output cfg index protocol kind) leg ↔
      (kind = .simultaneousUpload → ∀ text, world.output cfg index protocol kind = .ok text →
        DirectionsAgree text) := by
  have read := compareProtocol_leg started
  cases output : world.output cfg index protocol kind with
  | error e =>
    rw [output] at read
    refine iff_of_true ⟨fun text ok => ?_, ?_, ?_⟩ fun _ text ok => ?_
    · exact absurd ok (by simp)
    · intro some
      exact absurd some (by simp [read, failedLeg])
    · intro clean
      exact absurd clean (by simp [read, failedLeg])
    · exact absurd ok (by simp)
  | ok text =>
    rw [output] at read
    have reports : Reports (statusIn text) (kind.direction.figures text) leg :=
      read ▸ readLeg_reports
    have measures : OwnMeasurement kind (.ok text) leg ↔
        Reports (statusIn text) (kind.ownFigures text) leg := by
      refine ⟨fun own => own.own text rfl, fun own => ⟨?_, own.throughput_clean, fun clean => ?_⟩⟩
      · rintro _ ⟨⟩
        exact own
      · obtain ⟨succeeded, large⟩ := own.clean.mp clean
        exact ⟨text, rfl, succeeded, large⟩
    rw [measures]
    by_cases other : kind = .simultaneousUpload
    · subst other
      rw [reports.other_iff]
      constructor
      · rintro agree - _ ⟨⟩
        exact agree
      · intro agree
        exact agree rfl text rfl
    · rw [ownFigures_eq other]
      exact iff_of_true reports fun upload => absurd upload other

/-- A comparison reports every leg by the direction it ran exactly where, in each simultaneous
upload it starts, curl's two directions read the same. -/
theorem runComparison_own_directions_iff (cfg : CompareConfig) (world : CompareWorld) :
    MeasuresOwnDirections cfg world ↔
      ∀ index protocol, cfg.protocols[index]? = some protocol → Uploads cfg world index protocol →
        ∀ text, world.output cfg index protocol .simultaneousUpload = .ok text →
          DirectionsAgree text := by
  have results (index : Nat) (protocol : HttpProtocol)
      (listed : cfg.protocols[index]? = some protocol) :
      (runComparison cfg world).protocols[index]? =
        some (compareProtocol cfg world index protocol) := by
    simp only [runComparison, List.getElem?_mapIdx, listed, Option.map_some]
  constructor
  · intro own index protocol listed uploads text output
    obtain ⟨leg, started⟩ := simultaneousUpload_started_iff.mpr uploads
    have measured := own index protocol _ listed (results index protocol listed) _ leg started
    exact (ownMeasurement_iff started).mp measured rfl text output
  · intro agree index protocol result listed reported kind leg started
    obtain rfl := Option.some.inj ((results index protocol listed).symm.trans reported)
    refine (ownMeasurement_iff started).mpr ?_
    rintro rfl text output
    exact agree index protocol listed (simultaneousUpload_started_iff.mp ⟨leg, started⟩) text output

end Run

def exampleCompareConfig : CompareConfig :=
  ⟨"example.com", 443, "/", none, none, 30, [.http1], true⟩

def exampleWriteOut : Str :=
  "200\x1f1.1\x1f12\x1f1000000\x1f5\x1f2000000\x1f2\x1f192.0.2.1\x1f\x1f0".toList

/-- Every curl posts two megabytes and gets a reply of five bytes. -/
def exampleCompareWorld : CompareWorld where
  uploadBody := some "body.bin".toList
  preflight _ := ⟨none, (.timeout, none, ""), .error "", .error "", 0⟩
  leg _ _ := ⟨fun _ => some "curl 8".toList, fun _ _ => .exited ⟨true, some 0, exampleWriteOut, []⟩⟩

/-- An upload of two megabytes under simultaneous load is held too small for
the five bytes of its reply. -/
theorem simultaneous_upload_gated_by_reply :
    ¬ MeasuresOwnDirections exampleCompareConfig exampleCompareWorld := by
  intro own
  have measured := own 0 .http1 _ rfl rfl .simultaneousUpload _ rfl
  have output : exampleCompareWorld.output exampleCompareConfig 0 .http1 .simultaneousUpload =
      .ok exampleWriteOut := by rfl
  have large : (LegKind.ownFigures .simultaneousUpload exampleWriteOut).Large :=
    ⟨2000000, by rfl, by decide⟩
  have succeeded : Succeeded (statusIn exampleWriteOut) := ⟨200, by rfl, by decide, by decide⟩
  have clean := (measured.own _ output).clean.mpr ⟨succeeded, large⟩
  exact absurd clean (by decide)

end Directions

end FragglePacket.NetworkTests
