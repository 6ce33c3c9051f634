import FragglePacket.Lists.Update
import FragglePacket.Text.Exposition

/-! The registry of gauges, and its text for a scraper. -/

namespace FragglePacket.Framework

open FragglePacket.Lists FragglePacket.Text

/-- The values of gauges as they are written: no value reads as another
one, and none holds a blank. -/
structure ValueFormat (Value : Type*) where
  text : Value → Str
  injective : Function.Injective text
  token : ∀ value, Token (text value)

structure MetricsRegistry (Value : Type*) where
  gauges : AList fun _ : Str => Value
  help : AList fun _ : Str => Str

inductive MetricsCall (Value : Type*) where
  | setGauge (name : Str) (value : Value)
  | setHelp (name help : Str)

namespace MetricsCall
variable {Value : Type*}

def name : MetricsCall Value → Str
  | setGauge name _ => name
  | setHelp name _ => name

def gauge? : MetricsCall Value → Option (Str × Value)
  | setGauge name value => some (name, value)
  | setHelp _ _ => none

def help? : MetricsCall Value → Option (Str × Str)
  | setGauge _ _ => none
  | setHelp name help => some (name, help)

end MetricsCall

namespace MetricsRegistry
variable {Value : Type*}

def new : MetricsRegistry Value := { gauges := ∅, help := ∅ }

def setGauge (registry : MetricsRegistry Value) (name : Str) (value : Value) :
    MetricsRegistry Value :=
  { registry with gauges := registry.gauges.insert name value }

def setHelp (registry : MetricsRegistry Value) (name help : Str) : MetricsRegistry Value :=
  { registry with help := registry.help.insert name help }

/-- What `render` writes of a gauge. -/
def renderGauge (format : ValueFormat Value) (registry : MetricsRegistry Value)
    (gauge : Sigma fun _ : Str => Value) : Str :=
  (match registry.help.lookup gauge.1 with
    | some help => helpLine gauge.1 help ++ ['\n']
    | none =>
      []) ++ (gaugeLine gauge.1 ++ ['\n']) ++ (sampleLine gauge.1 (format.text gauge.2) ++ ['\n'])

/-- The text of the gauges, in the order in which the map goes through them. -/
def render (format : ValueFormat Value) (registry : MetricsRegistry Value)
    (order : List (Sigma fun _ : Str => Value)) : Str :=
  order.flatMap (renderGauge format registry)

def call (registry : MetricsRegistry Value) : MetricsCall Value → MetricsRegistry Value
  | .setGauge name value => registry.setGauge name value
  | .setHelp name help => registry.setHelp name help

def run (calls : List (MetricsCall Value)) : MetricsRegistry Value := calls.foldl call new

end MetricsRegistry

section Calls
variable {Value : Type*} {calls : List (MetricsCall Value)} {name : Str}

/-- The value that the last call for a gauge set. -/
def lastGauge (calls : List (MetricsCall Value)) (name : Str) : Option Value :=
  lastAssigned MetricsCall.gauge? calls name

def lastHelp (calls : List (MetricsCall Value)) (name : Str) : Option Str :=
  lastAssigned MetricsCall.help? calls name

theorem gauges_run (calls : List (MetricsCall Value)) (name : Str) :
    (MetricsRegistry.run calls).gauges.lookup name = lastGauge calls name :=
  lookup_foldl MetricsRegistry.gauges (fun _ call => by cases call <;> rfl) rfl calls name

theorem help_run (calls : List (MetricsCall Value)) (name : Str) :
    (MetricsRegistry.run calls).help.lookup name = lastHelp calls name :=
  lookup_foldl MetricsRegistry.help (fun _ call => by cases call <;> rfl) rfl calls name

/-- A gauge has the name of a call. -/
theorem call_of_lastGauge {value : Value} (last : lastGauge calls name = some value) :
    ∃ call ∈ calls, call.name = name := by
  obtain ⟨call, listed, assigned⟩ := exists_of_lastAssigned last
  refine ⟨call, listed, ?_⟩
  cases call with
  | setHelp gauge help => cases assigned
  | setGauge gauge value => exact congrArg Prod.fst (Option.some.inj assigned)

end Calls

section ReadBack
variable {Value : Type*}

def sampleOf (format : ValueFormat Value) (gauge : Sigma fun _ : Str => Value) : MetricSample :=
  { name := gauge.1, labels := [], value := format.text gauge.2, timestamp := none }

/-- One sample for each gauge with the value set last, and the help text set last for it. -/
structure ReadsBack (format : ValueFormat Value) (calls : List (MetricsCall Value))
    (exposition : Exposition) : Prop where
  single : (exposition.samples.map (·.name)).Nodup
  written : ∀ s ∈ exposition.samples, ∃ gauge, s = sampleOf format gauge
  samples : ∀ name value, sampleOf format ⟨name, value⟩ ∈ exposition.samples ↔
    lastGauge calls name = some value
  helps : ∀ name, lastGauge calls name ≠ none → exposition.helps.lookup name = lastHelp calls name

/-- The lines of a gauge. -/
def gaugeLines (format : ValueFormat Value) (registry : MetricsRegistry Value)
    (gauge : Sigma fun _ : Str => Value) : List Str :=
  (match registry.help.lookup gauge.1 with
    | some help => [helpLine gauge.1 help]
    | none => []) ++ [gaugeLine gauge.1, sampleLine gauge.1 (format.text gauge.2)]

theorem renderGauge_eq (format : ValueFormat Value) (registry : MetricsRegistry Value)
    (gauge : Sigma fun _ : Str => Value) :
    registry.renderGauge format gauge = unlines (gaugeLines format registry gauge) := by
  rw [MetricsRegistry.renderGauge, gaugeLines, unlines_append, unlines_cons, unlines_singleton]
  cases registry.help.lookup gauge.1 with
  | none => simp [unlines]
  | some help => simp [unlines]

theorem render_eq (format : ValueFormat Value) (registry : MetricsRegistry Value)
    (order : List (Sigma fun _ : Str => Value)) :
    registry.render format order = unlines (order.flatMap (gaugeLines format registry)) := by
  rw [MetricsRegistry.render, unlines, List.flatMap_assoc]
  exact List.flatMap_congr fun gauge _ => renderGauge_eq format registry gauge

end ReadBack

section Accepted
variable {Value : Type*} {format : ValueFormat Value} {registry : MetricsRegistry Value}

/-- What is read behind the lines of a gauge. -/
def withGauge (format : ValueFormat Value) (registry : MetricsRegistry Value)
    (exposition : Exposition) (gauge : Sigma fun _ : Str => Value) : Exposition where
  helps :=
    match registry.help.lookup gauge.1 with
    | some help => exposition.helps.insert gauge.1 help
    | none => exposition.helps
  kinds := exposition.kinds.insert gauge.1 gaugeKind
  samples := exposition.samples ++ [sampleOf format gauge]

/-- A metric of which nothing is read yet. -/
structure Fresh (exposition : Exposition) (name : Str) : Prop where
  help : name ∉ exposition.helps
  kind : name ∉ exposition.kinds
  sample : name ∉ exposition.samples.map (·.name)

theorem read_gaugeLines {exposition : Exposition} {gauge : Sigma fun _ : Str => Value}
    (valid : isMetricName gauge.1 = true) (fresh : Fresh exposition gauge.1)
    (plain : ∀ help ∈ registry.help.lookup gauge.1, '\\' ∉ help) :
    exposition.read (gaugeLines format registry gauge) =
      some (withGauge format registry exposition gauge) := by
  have labelled : (gauge.1, ([] : Str)) ∉ exposition.samples.map fun other =>
      (other.name, other.labels) := by
    intro member
    obtain ⟨other, listed, same⟩ := List.mem_map.mp member
    exact fresh.sample (List.mem_map.mpr ⟨other, listed, (Prod.mk.inj same).1⟩)
  have described (helps : AList fun _ : Str => Str) :
      ({ exposition with helps } : Exposition).read
        [gaugeLine gauge.1, sampleLine gauge.1 (format.text gauge.2)] =
        some { helps, kinds := exposition.kinds.insert gauge.1 gaugeKind,
               samples := exposition.samples ++ [sampleOf format gauge] } := by
    simp only [Exposition.read, parseRecord_gaugeLine valid,
      parseRecord_sampleLine valid (format.token gauge.2), Option.bind_some, Exposition.accept,
      fresh.kind, fresh.sample, or_self, if_false, labelled]
    rfl
  unfold gaugeLines withGauge
  cases found : registry.help.lookup gauge.1 with
  | none => exact described exposition.helps
  | some help =>
    rw [List.cons_append, List.nil_append, Exposition.read, parseRecord_helpLine valid,
      unescape_plain (plain help found), Option.map_some, Option.bind_some, Exposition.accept,
      if_neg fresh.help, Option.bind_some]
    exact described (exposition.helps.insert gauge.1 help)

theorem Fresh.withGauge {exposition : Exposition} {gauge : Sigma fun _ : Str => Value} {name : Str}
    (fresh : Fresh exposition name) (other : name ≠ gauge.1) :
    Fresh (withGauge format registry exposition gauge) name where
  help := by
    unfold Framework.withGauge
    split
    · exact fun member => ((AList.mem_insert _).mp member).elim other fresh.help
    · exact fresh.help
  kind := fun member => ((AList.mem_insert _).mp member).elim other fresh.kind
  sample := by
    rw [Framework.withGauge, List.map_append, List.mem_append]
    exact fun member => member.elim fresh.sample fun last => other (List.mem_singleton.mp last)

/-- Gauges of different names are read one behind the other. -/
theorem read_order {exposition : Exposition} {order : List (Sigma fun _ : Str => Value)}
    (valid : ∀ gauge ∈ order, isMetricName gauge.1 = true) (single : (order.map (·.1)).Nodup)
    (fresh : ∀ gauge ∈ order, Fresh exposition gauge.1)
    (plain : ∀ gauge ∈ order, ∀ help ∈ registry.help.lookup gauge.1, '\\' ∉ help) :
    exposition.read (order.flatMap (gaugeLines format registry)) =
      some (order.foldl (withGauge format registry) exposition) := by
  induction order generalizing exposition with
  | nil => rfl
  | cons gauge order ih =>
    rw [List.map_cons, List.nodup_cons] at single
    rw [List.forall_mem_cons] at valid fresh plain
    rw [List.flatMap_cons, Exposition.read_append, read_gaugeLines valid.1 fresh.1 plain.1,
      Option.bind_some, List.foldl_cons]
    refine ih valid.2 single.2 (fun other listed => (fresh.2 other listed).withGauge fun same =>
      single.1 ?_) plain.2
    exact List.mem_map.mpr ⟨other, listed, same⟩

theorem foldl_samples (exposition : Exposition) (order : List (Sigma fun _ : Str => Value)) :
    (order.foldl (withGauge format registry) exposition).samples =
      exposition.samples ++ order.map (sampleOf format) := by
  induction order generalizing exposition with
  | nil => exact (List.append_nil _).symm
  | cons gauge order ih =>
    rw [List.foldl_cons, ih, withGauge, List.append_assoc, List.map_cons, List.singleton_append]

theorem foldl_helps (exposition : Exposition) (order : List (Sigma fun _ : Str => Value))
    (name : Str) :
    (order.foldl (withGauge format registry) exposition).helps.lookup name =
      if name ∈ order.map (·.1) then (registry.help.lookup name).or (exposition.helps.lookup name)
      else exposition.helps.lookup name := by
  induction order generalizing exposition with
  | nil => rfl
  | cons gauge order ih =>
    have step : (withGauge format registry exposition gauge).helps.lookup name =
        if name = gauge.1 then (registry.help.lookup name).or (exposition.helps.lookup name)
        else exposition.helps.lookup name := by
      unfold withGauge
      split
      · next help found =>
        by_cases same : name = gauge.1
        · subst same
          rw [AList.lookup_insert, if_pos rfl, found, Option.some_or]
        · rw [AList.lookup_insert_ne same, if_neg same]
      · next absent =>
        split
        · next same => rw [same, absent, Option.none_or]
        · rfl
    rw [List.foldl_cons, ih, step]
    simp only [List.map_cons, List.mem_cons]
    by_cases same : name = gauge.1
    · cases registry.help.lookup name <;> simp [same]
    · by_cases listed : name ∈ order.map (·.1)
      · rw [if_pos listed, if_neg same, if_pos (Or.inr listed)]
      · rw [if_neg listed, if_neg same, if_neg fun either => either.elim same listed]

end Accepted

section RoundTrip
variable {Value : Type*} {format : ValueFormat Value} {calls : List (MetricsCall Value)}
  {order : List (Sigma fun _ : Str => Value)}

theorem sampleOf_injective : Function.Injective (sampleOf format) := by
  rintro ⟨name, value⟩ ⟨other, also⟩ same
  obtain ⟨named, -, written, -⟩ := MetricSample.mk.inj same
  exact Sigma.ext named (heq_of_eq (format.injective written))

/-- The order goes through the gauges that were set, with their last values. -/
theorem mem_order (iterated : order.Perm (MetricsRegistry.run calls).gauges.entries) {name : Str}
    {value : Value} :
    ⟨name, value⟩ ∈ order ↔ lastGauge calls name = some value := by
  rw [iterated.mem_iff, ← gauges_run]
  exact AList.mem_lookup_iff.symm

theorem order_nodup (iterated : order.Perm (MetricsRegistry.run calls).gauges.entries) :
    (order.map (·.1)).Nodup :=
  (iterated.map _).nodup_iff.mpr (MetricsRegistry.run calls).gauges.nodupKeys

theorem order_valid (valid : ∀ call ∈ calls, isMetricName call.name = true)
    (iterated : order.Perm (MetricsRegistry.run calls).gauges.entries) :
    ∀ gauge ∈ order, isMetricName gauge.1 = true := by
  rintro ⟨name, value⟩ listed
  obtain ⟨call, called, rfl⟩ := call_of_lastGauge ((mem_order iterated).mp listed)
  exact valid call called

theorem newline_not_mem_gaugeLines {registry : MetricsRegistry Value}
    {gauge : Sigma fun _ : Str => Value} (valid : isMetricName gauge.1 = true)
    (plain : ∀ help ∈ registry.help.lookup gauge.1, '\n' ∉ help) :
    ∀ line ∈ gaugeLines format registry gauge, '\n' ∉ line := by
  have name := newline_not_mem_name valid
  have words : '\n' ∉ typeKeyword ∧ '\n' ∉ gaugeKind := by decide
  have value : '\n' ∉ format.text gauge.2 :=
    fun member => absurd ((format.token gauge.2).2 '\n' member) (by decide)
  have described : ∀ line ∈ [gaugeLine gauge.1, sampleLine gauge.1 (format.text gauge.2)],
      '\n' ∉ line := by
    rw [List.forall_mem_cons, List.forall_mem_cons]
    refine ⟨?_, ?_, fun line listed => absurd listed List.not_mem_nil⟩
    · simp only [gaugeLine, List.mem_cons, List.mem_append, name, words.1, words.2, or_false]
      decide
    · simp only [sampleLine, List.mem_cons, List.mem_append, name, value, or_false]
      decide
  unfold gaugeLines
  rw [List.forall_mem_append]
  refine ⟨?_, described⟩
  split
  · next help found =>
    intro line listed
    exact List.mem_singleton.mp listed ▸ newline_not_mem_helpLine valid (plain help found)
  · exact fun line listed => absurd listed List.not_mem_nil

/-- Without a backslash or a newline in a help text the gauges are read back. -/
theorem readsBack_of_plain (valid : ∀ call ∈ calls, isMetricName call.name = true)
    (iterated : order.Perm (MetricsRegistry.run calls).gauges.entries)
    (plain : ∀ name help, lastGauge calls name ≠ none → lastHelp calls name = some help →
      '\\' ∉ help ∧ '\n' ∉ help) :
    ∃ exposition, Exposition.parse ((MetricsRegistry.run calls).render format order) =
      some exposition ∧ ReadsBack format calls exposition := by
  have names := order_valid valid iterated
  have helps : ∀ gauge ∈ order, ∀ help ∈ (MetricsRegistry.run calls).help.lookup gauge.1,
      '\\' ∉ help ∧ '\n' ∉ help := by
    rintro ⟨name, value⟩ listed help found
    rw [help_run] at found
    exact plain name help
      (by rw [(mem_order iterated).mp listed]; exact Option.some_ne_none value) found
  have lines : ∀ line ∈ order.flatMap (gaugeLines format (MetricsRegistry.run calls)),
      '\n' ∉ line := by
    intro line listed
    obtain ⟨gauge, inOrder, own⟩ := List.mem_flatMap.mp listed
    exact newline_not_mem_gaugeLines (names gauge inOrder)
      (fun help found => (helps gauge inOrder help found).2) line own
  have parsed : Exposition.parse ((MetricsRegistry.run calls).render format order) =
      some (order.foldl (withGauge format (MetricsRegistry.run calls)) Exposition.empty) := by
    rw [Exposition.parse, render_eq, splitOn_unlines lines, Exposition.read_append,
      read_order names (order_nodup iterated)
        (fun _ _ => ⟨AList.notMem_empty _, AList.notMem_empty _, List.not_mem_nil⟩)
        fun gauge listed help found => (helps gauge listed help found).1]
    rfl
  refine ⟨_, parsed, ?_⟩
  have samples :
      (order.foldl (withGauge format (MetricsRegistry.run calls)) Exposition.empty).samples =
      Exposition.empty.samples ++ order.map (sampleOf format) :=
        foldl_samples Exposition.empty order
  rw [Exposition.empty, List.nil_append] at samples
  constructor
  · rw [Exposition.empty, samples, List.map_map]
    exact order_nodup iterated
  · intro s listed
    rw [Exposition.empty, samples] at listed
    obtain ⟨gauge, -, rfl⟩ := List.mem_map.mp listed
    exact ⟨gauge, rfl⟩
  · intro name value
    rw [Exposition.empty, samples, List.mem_map_of_injective sampleOf_injective, mem_order iterated]
  · intro name some
    obtain ⟨value, last⟩ := Option.ne_none_iff_exists'.mp some
    have listed : name ∈ order.map (·.1) :=
      List.mem_map.mpr ⟨⟨name, value⟩, (mem_order iterated).mpr last, rfl⟩
    rw [foldl_helps, if_pos listed, help_run]
    exact Option.or_none

/-- What is read back as a help text had nothing to escape. -/
theorem plain_of_readsBack (valid : ∀ call ∈ calls, isMetricName call.name = true)
    (iterated : order.Perm (MetricsRegistry.run calls).gauges.entries) {exposition : Exposition}
    (parsed : Exposition.parse ((MetricsRegistry.run calls).render format order) = some exposition)
    (reads : ReadsBack format calls exposition) {name help : Str}
    (gauge : lastGauge calls name ≠ none) (last : lastHelp calls name = some help) :
    '\\' ∉ help ∧ '\n' ∉ help := by
  obtain ⟨value, set⟩ := Option.ne_none_iff_exists'.mp gauge
  have listed := (mem_order iterated).mpr set
  have named := order_valid valid iterated _ listed
  obtain ⟨before, after, laid⟩ := List.append_of_mem listed
  -- the help text begins a line of the output, which its first newline ends
  have inText : helpLine name (help.takeWhile (· ≠ '\n')) ∈
      ((MetricsRegistry.run calls).render format order).splitOn '\n' := by
    have own : ∃ rest, (MetricsRegistry.run calls).renderGauge format ⟨name, value⟩ =
        helpLine name help ++ '\n' :: rest := by
      simp only [MetricsRegistry.renderGauge, help_run, last, List.append_assoc]
      exact ⟨_, rfl⟩
    obtain ⟨rest, begins⟩ := own
    rw [laid, MetricsRegistry.render, List.flatMap_append, List.flatMap_cons, begins]
    have front : before.flatMap ((MetricsRegistry.run calls).renderGauge format) =
        unlines (before.flatMap (gaugeLines format (MetricsRegistry.run calls))) :=
          render_eq format _ before
    rw [front, List.append_assoc, List.cons_append]
    exact mem_splitOn_unlines_append _ (mem_splitOn_helpLine named help _)
  obtain ⟨record, read, described⟩ := Exposition.help_of_read parsed inText
  rw [parseRecord_helpLine named] at read
  obtain ⟨text, unescaped, rfl⟩ := Option.map_eq_some_iff.mp read
  have found := described name text rfl
  rw [reads.helps name gauge, last] at found
  obtain rfl := Option.some.inj found
  obtain ⟨shorter, strict⟩ := unescape_shorter unescaped
  have whole : help.takeWhile (· ≠ '\n') = help := (List.takeWhile_prefix _).eq_of_length_le shorter
  rw [whole] at strict
  refine ⟨fun member => (strict member).false, fun member => ?_⟩
  rw [← whole] at member
  have other := List.mem_takeWhile_imp member
  simp at other

end RoundTrip

/-- The output is read back exactly where the help text of no gauge has a backslash or a newline. -/
theorem readsBack_iff {Value : Type*} (format : ValueFormat Value)
    (calls : List (MetricsCall Value)) (valid : ∀ call ∈ calls, isMetricName call.name = true)
    (order : List (Sigma fun _ : Str => Value))
    (iterated : order.Perm (MetricsRegistry.run calls).gauges.entries) :
    (∃ exposition, Exposition.parse ((MetricsRegistry.run calls).render format order) =
      some exposition ∧
        ReadsBack format calls exposition) ↔
      ∀ name help, lastGauge calls name ≠ none → lastHelp calls name = some help →
        '\\' ∉ help ∧ '\n' ∉ help := by
  constructor
  · rintro ⟨exposition, parsed, reads⟩ name help gauge last
    exact plain_of_readsBack valid iterated parsed reads gauge last
  · exact readsBack_of_plain valid iterated

section Gauges

/-- Whole numbers, as the display of an `f64` writes them. -/
def wholeFormat : ValueFormat Nat where
  text := Nat.toDigits 10
  injective := toDigits_injective
  token := toDigits_token

/-- One gauge with a help text. -/
def described (help : String) : List (MetricsCall Nat) :=
  [.setHelp "my_gauge".toList help.toList, .setGauge "my_gauge".toList 1]

theorem described_valid (help : String) :
    ∀ call ∈ described help, isMetricName call.name = true := by
  have gauge : isMetricName "my_gauge".toList = true := by decide
  simp only [described, List.forall_mem_cons]
  exact ⟨gauge, gauge, fun call listed => absurd listed List.not_mem_nil⟩

/-- Two gauges, the first of them set again. -/
def describedTwice : List (MetricsCall Nat) :=
  described "example gauge" ++ [.setGauge "rtt_ms".toList 40, .setGauge "my_gauge".toList 2]

theorem describedTwice_valid : ∀ call ∈ describedTwice, isMetricName call.name = true := by
  have gauges : ∀ call ∈ [MetricsCall.setGauge "rtt_ms".toList 40, .setGauge "my_gauge".toList 2],
      isMetricName call.name = true := by decide
  intro call listed
  exact (List.mem_append.mp listed).elim (described_valid _ call) (gauges call)

theorem readsBack_iff_described :
    ∃ exposition, Exposition.parse ((MetricsRegistry.run describedTwice).render wholeFormat
        [⟨"rtt_ms".toList, 40⟩, ⟨"my_gauge".toList, 2⟩]) = some exposition ∧
      ReadsBack wholeFormat describedTwice exposition := by
  refine (readsBack_iff wholeFormat describedTwice describedTwice_valid
    [⟨"rtt_ms".toList, 40⟩, ⟨"my_gauge".toList, 2⟩] (List.Perm.swap _ _ [])).mpr ?_
  intro name help _ last
  have only : help = "example gauge".toList := by
    obtain ⟨call, listed, assigned⟩ := exists_of_lastAssigned last
    simp only [describedTwice, described, List.cons_append, List.nil_append, List.mem_cons,
      List.not_mem_nil, or_false] at listed
    rcases listed with rfl | rfl | rfl | rfl
    · exact (Prod.mk.inj (Option.some.inj assigned)).2.symm
    · cases assigned
    · cases assigned
    · cases assigned
  subst only
  decide

/-- The second line of a help text is read as a sample of a gauge that was never set. -/
theorem newline_in_help_adds_sample :
    ((Exposition.parse ((MetricsRegistry.run (described "first line\nother 7")).render wholeFormat
        [⟨"my_gauge".toList, 1⟩])).map (·.samples)) =
      some [{ name := "other".toList, labels := [], value := ['7'], timestamp := none },
        { name := "my_gauge".toList, labels := [], value := ['1'], timestamp := none }] ∧
    ¬ ∃ exposition, Exposition.parse
      ((MetricsRegistry.run (described "first line\nother 7")).render wholeFormat
        [⟨"my_gauge".toList, 1⟩]) = some exposition ∧
      ReadsBack wholeFormat (described "first line\nother 7") exposition := by
  refine ⟨by decide +kernel, ?_⟩
  rintro ⟨exposition, parsed, reads⟩
  have plain := plain_of_readsBack (described_valid _) (List.Perm.refl _) parsed reads
    (by decide : lastGauge (described "first line\nother 7") "my_gauge".toList ≠ none) (by rfl)
  exact absurd plain.2 (by decide)

end Gauges

end FragglePacket.Framework
