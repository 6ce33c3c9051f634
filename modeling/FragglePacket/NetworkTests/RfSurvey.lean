import Mathlib.Data.String.Basic
import FragglePacket.Lists.Grouping
import FragglePacket.Lists.Moments
import FragglePacket.Lists.Regroup
import FragglePacket.Lists.Steps
import FragglePacket.Load.Radio

/-! Radio readings over time: what each metric was obtained from, where utilization changes, and
the coverage map by location. -/

namespace FragglePacket.NetworkTests

open FragglePacket.Lists FragglePacket.Load

inductive Obtainability where
  | measured
  | platformLimited
  | operatorSupplied
deriving DecidableEq

structure Metric (α : Type) where
  value : Option α
  obtainability : Obtainability

namespace Metric
variable {α : Type}

def measured (value : α) : Metric α := ⟨some value, .measured⟩

def platformLimited : Metric α := ⟨none, .platformLimited⟩

def operatorSupplied (value : α) : Metric α := ⟨some value, .operatorSupplied⟩

/-- `map(measured).unwrap_or_else(platform_limited)`. -/
def ofReading : Option α → Metric α
  | some value => measured value
  | none => platformLimited

/-- A supplied value fills a metric that has none. -/
def overlay (metric : Metric α) (supplied : Option α) : Metric α :=
  if metric.value.isNone then
    match supplied with
    | some value => operatorSupplied value
    | none => metric
  else metric

end Metric

structure RfSample where
  elapsedSecs : ℚ
  channel : Metric UInt32
  band : Metric String
  rssiDbm : Metric Int32
  noiseDbm : Metric Int32
  channelUtilizationPct : Metric ℚ
  retriesPct : Metric ℚ
  dfsRadarEvent : Metric Bool
  neighboringBssCount : Metric UInt32
  nonWifiUtilizationPct : Metric ℚ
  clientCount : Metric UInt32
  locationLabel : Option String

structure ExternalTelemetry where
  channelUtilizationPct : Option ℚ
  retriesPct : Option ℚ
  dfsRadarEvent : Option Bool
  neighboringBssCount : Option UInt32
  nonWifiUtilizationPct : Option ℚ
  clientCount : Option UInt32

namespace RfSample

/-- A snapshot carries channel, band, signal and noise, and nothing else. -/
def fromRadioSnapshot (elapsedSecs : ℚ) (snap : RadioSnapshot)
    (locationLabel : Option String) : RfSample where
  elapsedSecs := elapsedSecs
  channel := .ofReading snap.channel
  band := .ofReading snap.band
  rssiDbm := .ofReading snap.rssiDbm
  noiseDbm := .ofReading snap.noiseDbm
  channelUtilizationPct := .platformLimited
  retriesPct := .platformLimited
  dfsRadarEvent := .platformLimited
  neighboringBssCount := .platformLimited
  nonWifiUtilizationPct := .platformLimited
  clientCount := .platformLimited
  locationLabel := locationLabel

def mergeOperatorSupplied (sample : RfSample) (ext : ExternalTelemetry) : RfSample :=
  { sample with
    channelUtilizationPct := sample.channelUtilizationPct.overlay ext.channelUtilizationPct
    retriesPct := sample.retriesPct.overlay ext.retriesPct
    dfsRadarEvent := sample.dfsRadarEvent.overlay ext.dfsRadarEvent
    neighboringBssCount := sample.neighboringBssCount.overlay ext.neighboringBssCount
    nonWifiUtilizationPct := sample.nonWifiUtilizationPct.overlay ext.nonWifiUtilizationPct
    clientCount := sample.clientCount.overlay ext.clientCount }

/-- The utilization of a usable sample. -/
def utilization (sample : RfSample) : ℚ := sample.channelUtilizationPct.value.getD 0

def label (sample : RfSample) : String := sample.locationLabel.getD "unlabeled"

end RfSample

structure ChangePoint where
  metric : String
  fromElapsedSecs : ℚ
  toElapsedSecs : ℚ
  fromValue : ℚ
  toValue : ℚ

def changeBetween (before after : RfSample) : ChangePoint :=
  ⟨"channel_utilization_pct", before.elapsedSecs, after.elapsedSecs, before.utilization,
    after.utilization⟩

/-- The changes between neighbours of a list of usable samples. -/
def changesAlong (thresholdPct : ℚ) : List RfSample → List ChangePoint
  | before :: after :: rest =>
    (if thresholdPct ≤ |after.utilization - before.utilization| then [changeBetween before after]
      else []) ++ changesAlong thresholdPct (after :: rest)
  | _ => []

def usableSamples (samples : List RfSample) : List RfSample :=
  samples.filter (·.channelUtilizationPct.value.isSome)

def detectUtilizationChangePoints (samples : List RfSample) (thresholdPct : ℚ) : List ChangePoint :=
  if (usableSamples samples).length < 2 then []
  else changesAlong thresholdPct (usableSamples samples)

structure EventWindow where
  label : String
  startElapsedSecs : ℚ
  endElapsedSecs : ℚ

structure Correlation where
  changePoint : ChangePoint
  overlappingEvents : List String

def correlateChangePoints (changePoints : List ChangePoint) (events : List EventWindow) :
    List Correlation :=
  changePoints.map fun cp =>
    ⟨cp, (events.filter fun e => decide (e.startElapsedSecs ≤ cp.toElapsedSecs) &&
      decide (cp.fromElapsedSecs ≤ e.endElapsedSecs)).map (·.label)⟩

structure CoveragePoint where
  locationLabel : String
  meanRssiDbm : Option ℚ
  meanUtilizationPct : Option ℚ
  sampleCount : Nat

def containsWord (text word : String) : Bool := decide (word.toList <:+: text.toList)

def forbiddenSubstrings : List String := ["SSID", "BSSID", "MAC Address"]

def meanIfAny (values : List ℚ) : Option ℚ :=
  if values.isEmpty then none else some (values.sum / values.length)

def rssiValues (samples : List RfSample) : List ℚ :=
  samples.filterMap fun s => s.rssiDbm.value.map fun v => (v.toInt : ℚ)

def utilizationValues (samples : List RfSample) : List ℚ :=
  samples.filterMap (·.channelUtilizationPct.value)

def rejection (word : String) : String :=
  "location label contains forbidden identifier substring '" ++ word ++ "'"

/-- The first sample with a forbidden label ends the map. -/
def buildCoverageMap (samples : List RfSample) : Except String (List CoveragePoint) :=
  match samples.findSome? fun s => forbiddenSubstrings.find? (containsWord s.label) with
  | some word => .error (rejection word)
  | none =>
    .ok ((grouped RfSample.label samples).map fun group =>
      ⟨group.1, meanIfAny (rssiValues group.2), meanIfAny (utilizationValues group.2),
        group.2.length⟩)

/-- The location of a survey is refused when it looks like an identifier. -/
def refusedLocation (location : Option String) : Bool :=
  match location with
  | some loc => ["SSID", "BSSID", "MAC"].any (containsWord loc)
  | none => false

/-- One tick of the survey: its time, and the snapshot or the error of the radio. -/
structure Tick where
  elapsedSecs : ℚ
  snapshot : Except String RadioSnapshot

def takeSamples (location : Option String) (telemetry : Option (List ExternalTelemetry))
    (ticks : List Tick) :
    List RfSample :=
  ticks.zipIdx.map fun (tick, i) =>
    let sample := RfSample.fromRadioSnapshot tick.elapsedSecs
      (tick.snapshot.toOption.getD .unavailable) location
    match telemetry.bind (·[i]?) with
    | some ext => sample.mergeOperatorSupplied ext
    | none => sample

structure SurveyOutput where
  samples : List RfSample
  changePoints : List ChangePoint
  correlations : List Correlation
  coverage : Except String (List CoveragePoint)

/-- A run of the command, or its exit code. -/
def runSurvey (location : Option String)
    (telemetry : Except String (Option (List ExternalTelemetry))) (ticks : List Tick)
    (changeThresholdPct : ℚ) (events : List EventWindow) : Except Nat SurveyOutput :=
  if refusedLocation location then .error 2
  else
    match telemetry with
    | .error _ => .error 1
    | .ok telemetry =>
      let samples := takeSamples location telemetry ticks
      let changePoints := detectUtilizationChangePoints samples changeThresholdPct
      .ok
        { samples, changePoints
          correlations := correlateChangePoints changePoints events
          coverage := buildCoverageMap samples }

section Changes
variable {thresholdPct : ℚ} {events : List EventWindow} {event : EventWindow}

theorem changeBetween_mem {before after : RfSample} (front back : List RfSample)
    (moved : thresholdPct ≤ |after.utilization - before.utilization|) :
    changeBetween before after ∈ changesAlong thresholdPct (front ++ before :: after :: back) := by
  induction front with
  | nil =>
    rw [List.nil_append, changesAlong, if_pos moved]
    exact List.mem_append_left _ List.mem_cons_self
  | cons first front ih =>
    cases front with
    | nil => exact List.mem_append_right _ ih
    | cons second front => exact List.mem_append_right _ ih

theorem overlapping_of_within {before after : RfSample} {changePoints : List ChangePoint}
    (listed : event ∈ events) (changed : changeBetween before after ∈ changePoints)
    (starts : event.startElapsedSecs ≤ after.elapsedSecs)
    (ends : before.elapsedSecs ≤ event.endElapsedSecs) :
    ∃ found ∈ correlateChangePoints changePoints events,
      found.changePoint = changeBetween before after ∧ event.label ∈ found.overlappingEvents := by
  refine ⟨_, List.mem_map.mpr ⟨_, changed, rfl⟩, rfl, ?_⟩
  refine List.mem_map.mpr ⟨event, List.mem_filter.mpr ⟨listed, ?_⟩, rfl⟩
  exact Bool.and_eq_true_iff.mpr ⟨decide_eq_true starts, decide_eq_true ends⟩

/-- Where utilization moves by the threshold for each gap between the readings of an event, some
change point is attributed to it. -/
theorem shift_is_attributed {samples front readings back : List RfSample} {first last : RfSample}
    (listed : event ∈ events) (along : usableSamples samples = front ++ readings ++ back)
    (more : 1 < readings.length) (within : ∀ s ∈ readings, event.startElapsedSecs ≤ s.elapsedSecs ∧
      s.elapsedSecs ≤ event.endElapsedSecs)
    (begins : readings.head? = some first) (ends : readings.getLast? = some last)
    (moved : (readings.length - 1 : Nat) * thresholdPct ≤ |last.utilization - first.utilization|) :
    ∃ found ∈ correlateChangePoints (detectUtilizationChangePoints samples thresholdPct) events,
      event.label ∈ found.overlappingEvents ∧
        ∃ before ∈ readings, ∃ after ∈ readings, found.changePoint =
          changeBetween before after := by
  have notQuiet : ¬ readings.IsChain fun before after => |after.utilization - before.utilization| <
      thresholdPct := by
    intro quiet
    have below := abs_sub_lt_of_chain RfSample.utilization more begins ends quiet
    rw [nsmul_eq_mul] at below
    exact absurd below (not_lt.mpr moved)
  rw [List.isChain_iff_forall_rel_of_append_cons_cons] at notQuiet
  push Not at notQuiet
  obtain ⟨before, after, early, late, split, jump⟩ := notQuiet
  have whole : usableSamples samples = (front ++ early) ++ before :: after :: (late ++ back) := by
    rw [along, split]
    simp
  have enough : ¬ (usableSamples samples).length < 2 := by
    rw [whole, List.length_append, List.length_cons, List.length_cons]
    omega
  have changed : changeBetween before after ∈
      detectUtilizationChangePoints samples thresholdPct := by
    rw [detectUtilizationChangePoints, if_neg enough, whole]
    exact changeBetween_mem _ _ jump
  have earlier : before ∈ readings := by rw [split]; simp
  have later : after ∈ readings := by rw [split]; simp
  obtain ⟨found, correlated, same, named⟩ :=
    overlapping_of_within listed changed (within after later).1 (within before earlier).2
  exact ⟨found, correlated, named, before, earlier, after, later, same⟩

end Changes

def exampleSnapshot : RadioSnapshot :=
  ⟨true, none, some "6GHz", some 197, some 80, some (-59), some (-94), none, none⟩

def exampleTicks : List Tick :=
  [⟨0, .ok exampleSnapshot⟩, ⟨60, .error "timed out"⟩, ⟨120, .ok exampleSnapshot⟩]

def exampleSupply (utilization : ℚ) : ExternalTelemetry :=
  ⟨some utilization, none, none, none, none, none⟩

def exampleSamples : List RfSample :=
  takeSamples (some "room-a") (some [exampleSupply 5, exampleSupply 8, exampleSupply 55])
    exampleTicks

theorem shift_is_attributed_example :
    ∃ found ∈ correlateChangePoints (detectUtilizationChangePoints exampleSamples 15) [⟨"lesson",
      60, 130⟩], "lesson" ∈ found.overlappingEvents ∧
        ∃ before ∈ exampleSamples.drop 1, ∃ after ∈ exampleSamples.drop 1,
          found.changePoint = changeBetween before after := by
  have along : usableSamples exampleSamples =
      exampleSamples.take 1 ++ exampleSamples.drop 1 ++ [] := rfl
  have listed : (⟨"lesson", 60, 130⟩ : EventWindow) ∈ [(⟨"lesson", 60, 130⟩ : EventWindow)] :=
    List.mem_cons_self
  exact shift_is_attributed listed along (by decide) (by decide +kernel) rfl rfl (by decide +kernel)

/-- A label that a map refuses; one with a BSSID contains an SSID. -/
def Identifying (label : String) : Prop :=
  containsWord label "SSID" = true ∨ containsWord label "MAC Address" = true

/-- The sum of the values over their number, and none of no values. -/
structure Averages (values : List ℚ) (mean : Option ℚ) : Prop where
  missing : mean = none ↔ values = []
  shared : ∀ m, mean = some m → m = values.sum / values.length

def samplesLabelled (samples : List RfSample) (label : String) : List RfSample :=
  samples.filter (·.label = label)

/-- One point for each label that occurs, in the order of the labels, with what was read there. -/
structure CoverageOf (samples : List RfSample) (points : List CoveragePoint) : Prop where
  ascending : (points.map (·.locationLabel)).Pairwise (· < ·)
  complete : ∀ label, label ∈ points.map (·.locationLabel) ↔ ∃ s ∈ samples, s.label = label
  counted : (points.map (·.sampleCount)).sum = samples.length
  count : ∀ p ∈ points, p.sampleCount = (samplesLabelled samples p.locationLabel).length
  rssi : ∀ p ∈ points, Averages (rssiValues (samplesLabelled samples p.locationLabel)) p.meanRssiDbm
  utilization : ∀ p ∈ points, Averages (utilizationValues (samplesLabelled samples p.locationLabel))
    p.meanUtilizationPct

section Coverage
variable {samples : List RfSample} {label word : String}

theorem containsWord_bssid (found : containsWord label "BSSID" = true) :
    containsWord label "SSID" = true := by
  have inside : "SSID".toList <:+: "BSSID".toList := by decide
  exact decide_eq_true (inside.trans (of_decide_eq_true found))

theorem find_forbidden_eq_none_iff :
    forbiddenSubstrings.find? (containsWord label) = none ↔ ¬ Identifying label := by
  rw [List.find?_eq_none]
  constructor
  · rintro clean (ssid | mac)
    · exact clean "SSID" (by simp [forbiddenSubstrings]) ssid
    · exact clean "MAC Address" (by simp [forbiddenSubstrings]) mac
  · intro clean word listed found
    simp only [forbiddenSubstrings, List.mem_cons, List.not_mem_nil, or_false] at listed
    rcases listed with rfl | rfl | rfl
    · exact clean (Or.inl found)
    · exact clean (Or.inl (containsWord_bssid found))
    · exact clean (Or.inr found)

/-- A refusal never names the BSSID. -/
theorem find_forbidden_cases (found : forbiddenSubstrings.find? (containsWord label) = some word) :
    word = "SSID" ∨ word = "MAC Address" := by
  by_cases ssid : containsWord label "SSID" = true
  · rw [forbiddenSubstrings, List.find?_cons_of_pos ssid] at found
    exact Or.inl (Option.some.inj found).symm
  · have noBssid : ¬ containsWord label "BSSID" = true := mt containsWord_bssid ssid
    rw [forbiddenSubstrings, List.find?_cons_of_neg ssid, List.find?_cons_of_neg noBssid] at found
    have listed := List.mem_of_find?_eq_some found
    exact Or.inr (List.mem_singleton.mp listed)

theorem averages_meanIfAny (values : List ℚ) : Averages values (meanIfAny values) := by
  by_cases empty : values = []
  · subst empty
    exact ⟨iff_of_true rfl rfl, fun m found => by cases found⟩
  · have mean : meanIfAny values = some (values.sum / values.length) := by
      rw [meanIfAny, if_neg]
      simpa using empty
    rw [mean]
    refine ⟨iff_of_false (Option.some_ne_none _) empty, ?_⟩
    rintro m ⟨⟩
    rfl

theorem coverageOf_grouped : CoverageOf samples ((grouped RfSample.label samples).map fun group =>
    ⟨group.1, meanIfAny (rssiValues group.2), meanIfAny (utilizationValues group.2),
      group.2.length⟩) := by
  rw [grouped_eq_map, List.map_map]
  have labels : ((groupKeys RfSample.label samples).map ((fun group : String × List RfSample =>
      CoveragePoint.mk group.1 (meanIfAny (rssiValues group.2))
        (meanIfAny (utilizationValues group.2)) group.2.length) ∘
        groupOf RfSample.label samples)).map (·.locationLabel) =
          groupKeys RfSample.label samples := by
    rw [List.map_map]
    exact List.map_id _
  constructor
  case ascending =>
    rw [labels]
    exact groupKeys_ascending
  case complete =>
    intro label
    rw [labels]
    exact mem_groupKeys
  case counted =>
    rw [List.map_map]
    have one : samples.length = (samples.map fun _ => 1).sum := by simp
    have covered : ∀ s ∈ samples, s.label ∈ groupKeys RfSample.label samples :=
      fun s listed => mem_groupKeys.mpr ⟨s, listed, rfl⟩
    rw [one, sum_eq_sum_groups RfSample.label (fun _ => 1)
      (groupKeys_ascending.imp ne_of_lt) covered]
    refine congrArg List.sum (List.map_congr_left fun label _ => ?_)
    simp [groupSum, groupOf]
  case count =>
    intro p listed
    obtain ⟨label, -, rfl⟩ := List.mem_map.mp listed
    rfl
  case rssi =>
    intro p listed
    obtain ⟨label, -, rfl⟩ := List.mem_map.mp listed
    exact averages_meanIfAny _
  case utilization =>
    intro p listed
    obtain ⟨label, -, rfl⟩ := List.mem_map.mp listed
    exact averages_meanIfAny _

theorem buildCoverageMap_clean (clean : ∀ s ∈ samples, ¬ Identifying s.label) :
    ∃ points, buildCoverageMap samples = .ok points ∧ CoverageOf samples points := by
  have none : samples.findSome? (fun s => forbiddenSubstrings.find? (containsWord s.label)) =
      none := by
    rw [List.findSome?_eq_none_iff]
    exact fun s listed => find_forbidden_eq_none_iff.mpr (clean s listed)
  refine ⟨_, ?_, coverageOf_grouped⟩
  rw [buildCoverageMap, none]

/-- A map is refused exactly when a sample has an identifying label; else every sample is
counted once, under its label. -/
theorem buildCoverageMap_spec (samples : List RfSample) :
    ((∃ s ∈ samples, Identifying s.label) ∧
      (buildCoverageMap samples = .error (rejection "SSID") ∨
        buildCoverageMap samples = .error (rejection "MAC Address"))) ∨
    ((∀ s ∈ samples, ¬ Identifying s.label) ∧
      ∃ points, buildCoverageMap samples = .ok points ∧ CoverageOf samples points) := by
  by_cases dirty : ∃ s ∈ samples, Identifying s.label
  · refine Or.inl ⟨dirty, ?_⟩
    cases first : samples.findSome? fun s => forbiddenSubstrings.find? (containsWord s.label) with
    | none =>
      obtain ⟨s, listed, identifying⟩ := dirty
      exact absurd identifying (find_forbidden_eq_none_iff.mp
        (List.findSome?_eq_none_iff.mp first s listed))
    | some word =>
      have refused : buildCoverageMap samples = .error (rejection word) := by
        rw [buildCoverageMap, first]
      obtain ⟨s, -, found⟩ := List.exists_of_findSome?_eq_some first
      rcases find_forbidden_cases found with rfl | rfl
      · exact Or.inl refused
      · exact Or.inr refused
  · push Not at dirty
    exact Or.inr ⟨dirty, buildCoverageMap_clean dirty⟩

end Coverage

section Command
variable {location : Option String} {telemetry : Option (List ExternalTelemetry)}
  {ticks : List Tick}

theorem overlay_value {α : Type} {metric : Metric α} {supplied : Option α} {value : α}
    (unread : metric = .platformLimited) (filled : (metric.overlay supplied).value = some value) :
    (metric.overlay supplied).obtainability = .operatorSupplied ∧ supplied = some value := by
  subst unread
  cases supplied with
  | none => cases filled
  | some other =>
    obtain rfl : other = value := Option.some.inj filled
    exact ⟨rfl, rfl⟩

/-- What is known of the sample of each tick. -/
theorem takeSamples_spec {i : Nat} {s : RfSample}
    (listed : (takeSamples location telemetry ticks)[i]? = some s) :
    s.label = location.getD "unlabeled" ∧
      ∀ value, s.channelUtilizationPct.value = some value →
        s.channelUtilizationPct.obtainability = .operatorSupplied ∧
          ∃ supplied, telemetry = some supplied ∧
            ∃ ext, supplied[i]? = some ext ∧ ext.channelUtilizationPct = some value := by
  rw [takeSamples, List.getElem?_map, List.getElem?_zipIdx, Option.map_map,
    Option.map_eq_some_iff] at listed
  obtain ⟨tick, -, rfl⟩ := listed
  simp only [Function.comp_apply, Nat.zero_add]
  cases entry : telemetry.bind (·[i]?) with
  | none => exact ⟨rfl, fun value read => by cases read⟩
  | some ext =>
    obtain ⟨supplied, given, present⟩ := Option.bind_eq_some_iff.mp entry
    refine ⟨rfl, fun value read => ?_⟩
    obtain ⟨operator, filled⟩ := overlay_value rfl read
    exact ⟨operator, supplied, given, ext, present, filled⟩

theorem takeSamples_label {s : RfSample} (listed : s ∈ takeSamples location telemetry ticks) :
    s.label = location.getD "unlabeled" := by
  obtain ⟨i, at_i⟩ := List.getElem?_of_mem listed
  exact (takeSamples_spec at_i).1

theorem not_identifying_of_accepted (accepted : refusedLocation location = false) :
    ¬ Identifying (location.getD "unlabeled") := by
  cases location with
  | none =>
    have clean : containsWord "unlabeled" "SSID" = false ∧
        containsWord "unlabeled" "MAC Address" = false := by decide +kernel
    rintro (ssid | mac)
    · rw [Option.getD_none, clean.1] at ssid
      cases ssid
    · rw [Option.getD_none, clean.2] at mac
      cases mac
  | some loc =>
    simp only [refusedLocation, List.any_cons, List.any_nil, Bool.or_false, Bool.or_eq_false_iff]
      at accepted
    obtain ⟨noSsid, -, noMac⟩ := accepted
    rintro (ssid | mac)
    · rw [Option.getD_some, noSsid] at ssid
      cases ssid
    · have inside : "MAC".toList <:+: "MAC Address".toList := by decide
      have found : containsWord loc "MAC" = true :=
        decide_eq_true (inside.trans (of_decide_eq_true mac))
      rw [noMac] at found
      cases found

theorem takeSamples_labels {label : String} :
    (∃ s ∈ takeSamples location telemetry ticks, s.label = label) ↔
      ticks ≠ [] ∧ label = location.getD "unlabeled" := by
  constructor
  · rintro ⟨s, listed, rfl⟩
    refine ⟨?_, takeSamples_label listed⟩
    rintro rfl
    cases listed
  · rintro ⟨some, rfl⟩
    cases ticks with
    | nil => exact absurd rfl some
    | cons tick ticks =>
      have sampled : takeSamples location telemetry (tick :: ticks) ≠ [] := by simp [takeSamples]
      obtain ⟨s, listed⟩ := List.exists_mem_of_ne_nil _ sampled
      exact ⟨s, listed, takeSamples_label listed⟩

/-- A survey runs where its label is accepted and the operator's telemetry can be read. -/
theorem runSurvey_cases {given : Except String (Option (List ExternalTelemetry))}
    {changeThresholdPct : ℚ} {events : List EventWindow} {out : SurveyOutput}
    (ran : runSurvey location given ticks changeThresholdPct events = .ok out) :
    refusedLocation location = false ∧ ∃ telemetry, given = .ok telemetry ∧
      out.samples = takeSamples location telemetry ticks ∧
      out.coverage = buildCoverageMap out.samples ∧
      out.changePoints = detectUtilizationChangePoints out.samples changeThresholdPct := by
  unfold runSurvey at ran
  split at ran
  case isTrue => cases ran
  case isFalse started =>
    refine ⟨Bool.eq_false_iff.mpr started, ?_⟩
    cases given with
    | error text => cases ran
    | ok telemetry =>
      obtain rfl := Except.ok.inj ran
      exact ⟨telemetry, rfl, rfl, rfl, rfl⟩

/-- The coverage map of the samples of a survey. -/
theorem takeSamples_coverage (accepted : refusedLocation location = false) :
    ∃ points, buildCoverageMap (takeSamples location telemetry ticks) = .ok points ∧
      CoverageOf (takeSamples location telemetry ticks) points ∧
      (points.map (·.sampleCount)).sum = ticks.length ∧
      points.map (·.locationLabel) = if ticks = [] then [] else [location.getD "unlabeled"] := by
  have clean : ∀ s ∈ takeSamples location telemetry ticks, ¬ Identifying s.label := by
    intro s listed
    rw [takeSamples_label listed]
    exact not_identifying_of_accepted accepted
  obtain ⟨points, built, coverage⟩ := buildCoverageMap_clean clean
  refine ⟨points, built, coverage, ?_, ?_⟩
  · rw [coverage.counted, takeSamples, List.length_map, List.length_zipIdx]
  · refine eq_of_ascending coverage.ascending ?_ fun label => ?_
    · split
      · exact List.Pairwise.nil
      · exact List.pairwise_singleton _ _
    · rw [coverage.complete, takeSamples_labels]
      split
      case isTrue none => simp [none]
      case isFalse some => simp [some]

/-- No sample is usable where the operator supplied no utilization. -/
theorem usableSamples_eq_nil (nothing : ∀ supplied, telemetry = some supplied →
    ∀ ext ∈ supplied, ext.channelUtilizationPct = none) :
    usableSamples (takeSamples location telemetry ticks) = [] := by
  rw [usableSamples, List.filter_eq_nil_iff]
  intro s listed read
  obtain ⟨value, found⟩ := Option.isSome_iff_exists.mp read
  obtain ⟨i, at_i⟩ := List.getElem?_of_mem listed
  obtain ⟨-, list, same, ext, present, filled⟩ := (takeSamples_spec at_i).2 value found
  rw [nothing list same ext (List.mem_of_getElem? present)] at filled
  cases filled

/-- A survey that runs has a coverage map of its one location, all samples counted, and knows of
utilization, and of changes in it, only what the operator supplied. -/
theorem runSurvey_reports {given : Except String (Option (List ExternalTelemetry))}
    {changeThresholdPct : ℚ} {events : List EventWindow} {out : SurveyOutput}
    (ran : runSurvey location given ticks changeThresholdPct events = .ok out) :
    (∃ points, out.coverage = .ok points ∧ CoverageOf out.samples points ∧
      (points.map (·.sampleCount)).sum = ticks.length ∧
      points.map (·.locationLabel) = if ticks = [] then [] else [location.getD "unlabeled"]) ∧
    (∀ (i : Nat) s value, out.samples[i]? = some s → s.channelUtilizationPct.value = some value →
      s.channelUtilizationPct.obtainability = .operatorSupplied ∧
        ∃ supplied, given = .ok (some supplied) ∧
          ∃ ext, supplied[i]? = some ext ∧ ext.channelUtilizationPct = some value) ∧
    ((∀ supplied, given = .ok (some supplied) →
      ∀ ext ∈ supplied, ext.channelUtilizationPct = none) →
      out.changePoints = []) := by
  obtain ⟨accepted, telemetry, rfl, samples, coverage, changes⟩ := runSurvey_cases ran
  rw [samples] at coverage changes ⊢
  refine ⟨?_, ?_, ?_⟩
  · obtain ⟨points, built, whole⟩ := takeSamples_coverage accepted
    exact ⟨points, coverage.trans built, whole⟩
  · intro i s value listed read
    obtain ⟨operator, list, same, filled⟩ := (takeSamples_spec listed).2 value read
    exact ⟨operator, list, congrArg Except.ok same, filled⟩
  · intro nothing
    have unusable : usableSamples (takeSamples location telemetry ticks) = [] :=
      usableSamples_eq_nil fun supplied given => nothing supplied (congrArg Except.ok given)
    rw [changes, detectUtilizationChangePoints, unusable]
    rfl

end Command

theorem runSurvey_reports_example :
    ∃ points, buildCoverageMap exampleSamples = .ok points ∧ CoverageOf exampleSamples points ∧
      (points.map (·.sampleCount)).sum = 3 ∧ points.map (·.locationLabel) = ["room-a"] := by
  have ran : runSurvey (some "room-a")
      (.ok (some [exampleSupply 5, exampleSupply 8, exampleSupply 55])) exampleTicks 15 [] =
      .ok _ := if_neg (by decide +kernel)
  exact (runSurvey_reports ran).1

end FragglePacket.NetworkTests
