import FragglePacket.Lists.Tally
import FragglePacket.NetworkTests.ApCompatMatrix
import Mathlib.Algebra.Order.Ring.Unbundled.Rat

/-! The metrics of a test on one network against those on a second one. -/

namespace FragglePacket.NetworkTests

open FragglePacket.Lists

structure NetworkFingerprint where
  apIdentity : Option ApIdentity

/-- The value is absent where the test of the metric gave none. -/
structure BundleMetric where
  name : String
  value : Option ℚ
  unit : String
  deriving DecidableEq

structure TestBundle where
  fingerprint : NetworkFingerprint
  metrics : List BundleMetric

structure MetricComparison where
  name : String
  before : Option ℚ
  after : Option ℚ
  delta : Option ℚ
  deriving DecidableEq

structure SecondNetworkComparison where
  networkRelationship : String
  metrics : List MetricComparison

def describeRelationship : ApComparison → String
  | .sameApSameRadio => "same physical AP, same radio -- this is not actually a second network"
  | .sameApDifferentRadio => "same physical AP, different radio -- band changed but not the AP"
  | .differentAp => "different AP -- genuine second-network control"
  | .unavailable =>
    "AP identity unavailable on at least one side; network relationship not determined"

def TestBundle.names (bundle : TestBundle) : List String := bundle.metrics.map (·.name)

/-- The names of the first bundle as they stand, then those only the second one has. -/
def comparedNames (before after : TestBundle) : List String := joinKeys before.names after.names

/-- What the first metric of the name recorded; its unit is not looked at. -/
def TestBundle.value (bundle : TestBundle) (name : String) : Option ℚ :=
  (bundle.metrics.find? fun m => m.name == name).bind (·.value)

def compareMetric (before after : TestBundle) (name : String) : MetricComparison :=
  let b := before.value name
  let a := after.value name
  let delta :=
    match b, a with
    | some bv, some av => some (av - bv)
    | _, _ => none
  ⟨name, b, a, delta⟩

def compareBundles (before after : TestBundle) : SecondNetworkComparison where
  networkRelationship :=
    describeRelationship (ApIdentity.compare before.fingerprint.apIdentity
      after.fingerprint.apIdentity)
  metrics := (comparedNames before after).map (compareMetric before after)

variable {before after bundle : TestBundle} {name : String}

theorem mem_names : name ∈ bundle.names ↔ ∃ m ∈ bundle.metrics, m.name = name := List.mem_map

theorem compared_names :
    (compareBundles before after).metrics.map (·.name) = comparedNames before after := by
  rw [compareBundles, List.map_map]
  exact List.map_id' _

theorem reported_iff :
    (∃ m ∈ (compareBundles before after).metrics, m.name = name) ↔
      (∃ m ∈ before.metrics, m.name = name) ∨ ∃ m ∈ after.metrics, m.name = name := by
  have listed : name ∈ comparedNames before after ↔ ∃ m ∈ (compareBundles before after).metrics,
      m.name = name := by
    rw [← compared_names, List.mem_map]
  rw [← listed, comparedNames, mem_joinKeys, mem_names, mem_names]

/-- A name the first bundle has at most once is compared once. -/
theorem compared_once (once : before.names.count name ≤ 1)
    (occurs : name ∈ before.names ∨ name ∈ after.names) :
    ((compareBundles before after).metrics.map (·.name)).count name = 1 := by
  rw [compared_names, comparedNames, count_joinKeys]
  by_cases early : name ∈ before.names
  · have positive := List.count_pos_iff.mpr early
    rw [if_pos early]
    omega
  · rw [if_neg early, if_pos (occurs.resolve_left early)]

theorem mem_compared {m : MetricComparison} :
    m ∈ (compareBundles before after).metrics ↔
      (m.name ∈ before.names ∨ m.name ∈ after.names) ∧ m = compareMetric before after m.name := by
  rw [compareBundles, List.mem_map]
  constructor
  · rintro ⟨name, member, rfl⟩
    exact ⟨mem_joinKeys.mp member, rfl⟩
  · rintro ⟨occurs, same⟩
    exact ⟨m.name, mem_joinKeys.mpr occurs, same.symm⟩

/-- The first metric of the name in the bundle recorded the value. -/
def TestBundle.FirstRecorded (bundle : TestBundle) (name : String) (value : ℚ) : Prop :=
  ∃ earlier m later, bundle.metrics = earlier ++ m :: later ∧ (∀ e ∈ earlier, e.name ≠ name) ∧
    m.name = name ∧ m.value = some value

theorem value_eq_some {value : ℚ} :
    bundle.value name = some value ↔ bundle.FirstRecorded name value := by
  rw [TestBundle.value, Option.bind_eq_some_iff]
  constructor
  · rintro ⟨m, found, recorded⟩
    obtain ⟨named, earlier, later, listed, others⟩ := List.find?_eq_some_iff_append.mp found
    exact ⟨earlier, m, later, listed, by simpa using others, by simpa using named, recorded⟩
  · rintro ⟨earlier, m, later, listed, others, named, recorded⟩
    refine ⟨m, ?_, recorded⟩
    exact List.find?_eq_some_iff_append.mpr
      ⟨by simpa using named, earlier, later, listed, by simpa using others⟩

theorem compareMetric_delta {delta : ℚ} :
    (compareMetric before after name).delta = some delta ↔
      ∃ vb va, before.FirstRecorded name vb ∧ after.FirstRecorded name va ∧ delta = va - vb := by
  simp only [← value_eq_some, compareMetric]
  rcases before.value name with _ | vb <;> rcases after.value name with _ | va
  · simp
  · simp
  · simp
  · simp [eq_comm]

/-- The comparison the other way. -/
def MetricComparison.swapped (m : MetricComparison) : MetricComparison :=
  ⟨m.name, m.after, m.before, m.delta.map (- ·)⟩

theorem compareMetric_swap :
    compareMetric after before name = (compareMetric before after name).swapped := by
  simp only [compareMetric, MetricComparison.swapped]
  rcases before.value name with _ | vb <;> rcases after.value name with _ | va
  · rfl
  · rfl
  · rfl
  · simp

theorem swapped_swapped (m : MetricComparison) : m.swapped.swapped = m := by
  simp [MetricComparison.swapped]

theorem swapped_mem {m : MetricComparison} (reported : m ∈ (compareBundles before after).metrics) :
    m.swapped ∈ (compareBundles after before).metrics := by
  obtain ⟨occurs, same⟩ := mem_compared.mp reported
  refine mem_compared.mpr ⟨occurs.symm, ?_⟩
  rw [same]
  exact compareMetric_swap.symm

/-- Every metric of either bundle is compared by its name, once where the first bundle does not
repeat it; a difference needs the first metric of the name on both sides, whatever the units. -/
theorem compareBundles_by_name (before after : TestBundle) :
    (∀ name, (∃ m ∈ (compareBundles before after).metrics, m.name = name) ↔
      (∃ m ∈ before.metrics, m.name = name) ∨ ∃ m ∈ after.metrics, m.name = name) ∧
    (∀ name, before.names.count name ≤ 1 → (name ∈ before.names ∨ name ∈ after.names) →
      ((compareBundles before after).metrics.map (·.name)).count name = 1) ∧
    (∀ m ∈ (compareBundles before after).metrics, ∀ delta, m.delta = some delta ↔
      ∃ vb va, before.FirstRecorded m.name vb ∧ after.FirstRecorded m.name va ∧ delta = va - vb) ∧
    (∀ m, m ∈ (compareBundles before after).metrics ↔
      m.swapped ∈ (compareBundles after before).metrics) := by
  refine ⟨fun name => reported_iff, fun name => compared_once, fun m reported delta => ?_,
    fun m => ⟨swapped_mem, ?_⟩⟩
  · obtain ⟨_, same⟩ := mem_compared.mp reported
    rw [same]
    exact compareMetric_delta
  · intro reported
    have back := swapped_mem reported
    rwa [swapped_swapped] at back

/-- The rates of a room's network and of a hotspot, each in its own unit. -/
def roomWifi : TestBundle := ⟨⟨none⟩, [⟨"download", some 300, "Mbps"⟩]⟩

def phoneHotspot : TestBundle := ⟨⟨none⟩, [⟨"download", some 300000, "kbps"⟩]⟩

/-- The room's rate, saved twice. -/
def roomWifiTwice : TestBundle :=
  ⟨⟨none⟩, [⟨"download", some 300, "Mbps"⟩, ⟨"download", some 310, "Mbps"⟩]⟩

/-- A difference of two units, and a name that is reported twice. -/
theorem compareBundles_across_units :
    (∃ m ∈ (compareBundles roomWifi phoneHotspot).metrics, m.delta ≠ none ∧
      ¬ ∃ b ∈ roomWifi.metrics, ∃ a ∈ phoneHotspot.metrics, b.name = m.name ∧ a.name = m.name ∧
        b.unit = a.unit) ∧
      ((compareBundles roomWifiTwice phoneHotspot).metrics.map (·.name)).count "download" = 2 := by
  have difference : (compareMetric roomWifi phoneHotspot "download").delta =
      some (300000 - 300) := by rfl
  refine ⟨⟨compareMetric roomWifi phoneHotspot "download", mem_compared.mpr ⟨by decide, rfl⟩, ?_,
    by decide⟩, by decide⟩
  simp [difference]

end FragglePacket.NetworkTests
