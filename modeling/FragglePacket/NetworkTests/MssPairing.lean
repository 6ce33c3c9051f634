import FragglePacket.Lists.Update
import FragglePacket.NetworkTests.MssEvidence

/-! Which flow a SYN segment is filed under, and when both ends of a
connection come together there. -/

namespace FragglePacket.NetworkTests

open FragglePacket.Lists FragglePacket.Net FragglePacket.Text FragglePacket.Wire

section Filing
variable {localIps : List IpAddr} {segment : SynSegment} {key : SynFlowKey} {flows : FlowMap}

/-- The flow that a segment with a size is filed under, whether it comes from
the local end, and the size. -/
def filed (localIps : List IpAddr) (segment : SynSegment) : Option (SynFlowKey × Bool × UInt16) :=
  segment.mss.bind fun mss =>
    (orient localIps segment).map fun (localEnd, peerEnd, leg) =>
      (flowKey localEnd peerEnd, leg, mss)

/-- The entry of a key after a size is recorded in it. -/
def advertised (flows : FlowMap) (key : SynFlowKey) (leg : Bool) (mss : UInt16) : FlowMssEvidence :=
  let entry := (flows.lookup key).getD (.new key.1 key.2.1 key.2.2.1 key.2.2.2)
  (if leg then { entry with localAdvertised := some mss } else
    { entry with peerAdvertised := some mss }).recompute

theorem recordSyn_eq (flows : FlowMap) (segment : SynSegment) :
    recordSyn localIps flows segment =
      match filed localIps segment with
      | none => flows
      | some (key, leg, mss) => flows.insert key (advertised flows key leg mss) := by
  unfold recordSyn filed
  cases segment.mss with
  | none => rfl
  | some mss => cases orient localIps segment <;> rfl

/-- The flow has the ends of its key, and the mark that both were seen just when they were. -/
structure FiledUnder (key : SynFlowKey) (flow : FlowMssEvidence) : Prop where
  ends : (flow.localIp, flow.localPort, flow.peerIp, flow.peerPort) = key
  both : flow.bothDirectionsObserved = (flow.localAdvertised.isSome && flow.peerAdvertised.isSome)

theorem filedUnder_advertised (known : ∀ flow ∈ flows.lookup key, FiledUnder key flow) (leg : Bool)
    (mss : UInt16) :
    FiledUnder key (advertised flows key leg mss) := by
  have ends : let entry := (flows.lookup key).getD (.new key.1 key.2.1 key.2.2.1 key.2.2.2)
      (entry.localIp, entry.localPort, entry.peerIp, entry.peerPort) = key := by
    cases found : flows.lookup key with
    | none => rfl
    | some flow => exact (known flow found).ends
  cases leg with
  | true => exact ⟨ends, rfl⟩
  | false => exact ⟨ends, rfl⟩

theorem filedUnder_foldl (localIps : List IpAddr) (segments : List SynSegment) (key : SynFlowKey) :
    ∀ flow ∈ (segments.foldl (recordSyn localIps) ∅).lookup key, FiledUnder key flow := by
  induction segments using List.reverseRecOn with
  | nil => exact fun flow found => absurd found (by simp)
  | append_singleton segments segment ih =>
    rw [List.foldl_append, List.foldl_cons, List.foldl_nil, recordSyn_eq]
    cases filed localIps segment with
    | none => exact ih
    | some filing =>
      obtain ⟨other, leg, mss⟩ := filing
      by_cases same : key = other
      · subst same
        intro flow found
        rw [AList.lookup_insert] at found
        exact Option.some.inj found ▸ filedUnder_advertised ih leg mss
      · intro flow found
        rw [AList.lookup_insert_ne same] at found
        exact ih flow found

/-- The size that a segment records in a key for one of its ends. -/
def recorded (localIps : List IpAddr) (key : SynFlowKey) (leg : Bool)
    (segment : SynSegment) : Option (Option UInt16) :=
  (filed localIps segment).bind fun filing => if filing.1 = key ∧
    filing.2.1 = leg then some (some filing.2.2) else none

/-- What an entry has for one of its ends. -/
def FlowMssEvidence.side (flow : FlowMssEvidence) (leg : Bool) : Option UInt16 :=
  if leg then flow.localAdvertised else flow.peerAdvertised

theorem side_recordSyn (key : SynFlowKey) (leg : Bool) (flows : FlowMap) (segment : SynSegment) :
    ((recordSyn localIps flows segment).lookup key).bind (·.side leg) =
      (recorded localIps key leg segment).getD ((flows.lookup key).bind (·.side leg)) := by
  rw [recordSyn_eq, recorded]
  cases filed localIps segment with
  | none => rfl
  | some filing =>
    obtain ⟨other, from_local, mss⟩ := filing
    by_cases same : other = key
    · subst same
      simp only [AList.lookup_insert, Option.bind_some, true_and]
      cases found : flows.lookup other <;> cases from_local <;> cases leg <;>
        simp [advertised, found, FlowMssEvidence.side, FlowMssEvidence.recompute,
          FlowMssEvidence.new]
    · simp only [AList.lookup_insert_ne (Ne.symm same), Option.bind_some, same, false_and, if_false,
        Option.getD_none]

/-- An entry has, for each end, the last size recorded there. -/
theorem side_foldl (segments : List SynSegment) (key : SynFlowKey) (leg : Bool) :
    ((segments.foldl (recordSyn localIps) ∅).lookup key).bind (·.side leg) =
      (segments.filterMap (recorded localIps key leg)).getLast?.getD none := by
  have last := @foldl_lastWrite _ _ _ (recordSyn localIps)
    (fun flows : FlowMap => (flows.lookup key).bind (·.side leg))
    (recorded localIps key leg) (side_recordSyn key leg) segments ∅
  simpa using last

theorem mem_foldl_iff (segments : List SynSegment) (key : SynFlowKey) :
    key ∈ segments.foldl (recordSyn localIps) ∅ ↔
      ∃ segment ∈ segments, ∃ leg mss, filed localIps segment = some (key, leg, mss) := by
  induction segments using List.reverseRecOn with
  | nil => simp
  | append_singleton segments segment ih =>
    rw [List.foldl_append, List.foldl_cons, List.foldl_nil, recordSyn_eq]
    cases found : filed localIps segment with
    | none => simp [ih, found]
    | some filing =>
      obtain ⟨other, leg, mss⟩ := filing
      simp only [AList.mem_insert, ih, List.mem_append, List.mem_singleton, or_and_right, exists_or,
        exists_eq_left, found, Option.some.injEq, Prod.mk.injEq]
      rw [or_comm]
      exact or_congr_right ⟨fun same => ⟨leg, mss, same.symm, rfl, rfl⟩, fun ⟨_, _, same, _⟩ =>
        same.symm⟩

end Filing

def FlowMssEvidence.localEnd (flow : FlowMssEvidence) : Str × UInt16 :=
  (flow.localIp, flow.localPort)

def FlowMssEvidence.peerEnd (flow : FlowMssEvidence) : Str × UInt16 := (flow.peerIp, flow.peerPort)

section Shown
variable {localIps : List IpAddr} {segments : List SynSegment}

/-- An end of a connection as a flow shows it. -/
def shown (endpoint : Endpoint) : Str × UInt16 := (endpoint.1.text, endpoint.2)

theorem shown_injective : Function.Injective shown := fun _ _ same =>
  Prod.ext (IpAddr.text_injective (Prod.mk.inj same).1) (Prod.mk.inj same).2

theorem flowKey_inj {first second third fourth : Endpoint} :
    flowKey first second = flowKey third fourth ↔ first = third ∧ second = fourth := by
  constructor
  · intro same
    obtain ⟨firstIp, firstPort, secondIp, secondPort⟩ : first.1.text = third.1.text ∧
        first.2 = third.2 ∧ second.1.text = fourth.1.text ∧ second.2 = fourth.2 := by
      simpa only [flowKey, Prod.mk.injEq] using same
    exact ⟨shown_injective (Prod.ext firstIp firstPort),
      shown_injective (Prod.ext secondIp secondPort)⟩
  · rintro ⟨rfl, rfl⟩
    rfl

theorem filed_eq_some_iff {segment : SynSegment} {first second : Endpoint} {leg : Bool}
    {mss : UInt16} :
    filed localIps segment = some (flowKey first second, leg, mss) ↔
      segment.mss = some mss ∧ orient localIps segment = some (first, second, leg) := by
  constructor
  · intro found
    obtain ⟨size, hasSize, rest⟩ := Option.bind_eq_some_iff.mp found
    obtain ⟨⟨one, other, side⟩, oriented, same⟩ := Option.map_eq_some_iff.mp rest
    obtain ⟨keys, rfl, rfl⟩ : flowKey one other = flowKey first second ∧ side = leg ∧
        size = mss := by
      simpa only [Prod.mk.injEq] using same
    obtain ⟨rfl, rfl⟩ := flowKey_inj.mp keys
    exact ⟨hasSize, oriented⟩
  · rintro ⟨hasSize, oriented⟩
    rw [filed, hasSize, Option.bind_some, oriented]
    rfl

theorem ends_of_filedUnder {first second : Endpoint} {flow : FlowMssEvidence}
    (filing : FiledUnder (flowKey first second) flow) :
    flow.localEnd = shown first ∧ flow.peerEnd = shown second := by
  have ends := filing.ends
  simp only [flowKey, Prod.mk.injEq] at ends
  obtain ⟨localIp, localPort, peerIp, peerPort⟩ := ends
  exact ⟨Prod.ext localIp localPort, Prod.ext peerIp peerPort⟩

theorem exists_of_filed {segment : SynSegment} {key : SynFlowKey} {leg : Bool} {mss : UInt16}
    (found : filed localIps segment = some (key, leg, mss)) :
    ∃ first second, key = flowKey first second := by
  obtain ⟨size, -, rest⟩ := Option.bind_eq_some_iff.mp found
  obtain ⟨⟨one, other, side⟩, -, same⟩ := Option.map_eq_some_iff.mp rest
  exact ⟨one, other, (congrArg Prod.fst same).symm⟩

end Shown

section Roles
variable {localIps : List IpAddr} {segments : List SynSegment} {first second : SynSegment}

/-- Both segments go from one end of a connection to the other, in the same direction. -/
def SameWay (first second : SynSegment) : Prop := second.src = first.src ∧ second.dst = first.dst

def Opposite (first second : SynSegment) : Prop := second.src = first.dst ∧ second.dst = first.src

/-- One end of each connection sends only SYNs, and the other only SYN-ACKs. -/
structure OneInitiator (segments : List SynSegment) : Prop where
  same : ∀ first ∈ segments, ∀ second ∈ segments, SameWay first second → second.ack = first.ack
  opposite : ∀ first ∈ segments, ∀ second ∈ segments, Opposite first second → second.ack ≠ first.ack

/-- No connection between two local addresses has sizes from both of its ends. -/
def OneSided (localIps : List IpAddr) (segments : List SynSegment) : Prop :=
  ∀ first ∈ segments, ∀ second ∈ segments, Opposite first second → first.mss ≠ none →
    second.mss ≠ none → ¬ (first.src.1 ∈ localIps ∧ first.dst.1 ∈ localIps)

theorem ends_of_orient {localEnd peerEnd : Endpoint} {leg : Bool}
    (oriented : orient localIps first = some (localEnd, peerEnd, leg)) :
    (leg = true ∧ first.src = localEnd ∧ first.dst = peerEnd) ∨
      (leg = false ∧ first.src = peerEnd ∧ first.dst = localEnd) := by
  unfold orient at oriented
  split_ifs at oriented <;> cases oriented
  · exact .inl ⟨rfl, rfl, rfl⟩
  · exact .inr ⟨rfl, rfl, rfl⟩
  · exact .inl ⟨rfl, rfl, rfl⟩
  · exact .inr ⟨rfl, rfl, rfl⟩

theorem local_of_orient {localEnd peerEnd : Endpoint} {leg : Bool} (hinted : localIps ≠ [])
    (oriented : orient localIps first = some (localEnd, peerEnd, leg)) :
    localEnd.1 ∈ localIps ∧ (leg = false → peerEnd.1 ∉ localIps) := by
  unfold orient at oriented
  rw [if_neg hinted] at oriented
  split_ifs at oriented with fromLocal toLocal <;> cases oriented
  · exact ⟨fromLocal, fun other => absurd other (by decide)⟩
  · exact ⟨toLocal, fun _ => fromLocal⟩

theorem orient_local (hint : first.src.1 ∈ localIps) :
    orient localIps first = some (first.src, first.dst, true) := by
  rw [orient, if_neg (List.ne_nil_of_mem hint), if_pos hint]

theorem orient_peer (other : first.src.1 ∉ localIps) (hint : first.dst.1 ∈ localIps) :
    orient localIps first = some (first.dst, first.src, false) := by
  rw [orient, if_neg (List.ne_nil_of_mem hint), if_neg other, if_pos hint]

theorem orient_syn (syn : first.ack = false) :
    orient [] first = some (first.src, first.dst, true) := by
  rw [orient, if_pos rfl, if_pos syn]

theorem orient_synAck (synAck : first.ack ≠ false) :
    orient [] first = some (first.dst, first.src, false) := by
  rw [orient, if_pos rfl, if_neg synAck]

/-- A segment of a connection is filed as the others of it are. -/
theorem orient_aligned (roles : OneInitiator segments) (sided : OneSided localIps segments)
    (hasFirst : first ∈ segments) (hasSecond : second ∈ segments) (firstSize : first.mss ≠ none)
    (secondSize : second.mss ≠ none) {localEnd peerEnd : Endpoint} {leg : Bool}
    (oriented : orient localIps first = some (localEnd, peerEnd, leg)) :
    (second.src = localEnd ∧ second.dst = peerEnd →
      orient localIps second = some (localEnd, peerEnd, true)) ∧
      (second.src = peerEnd ∧ second.dst = localEnd →
        orient localIps second = some (localEnd, peerEnd, false)) := by
  have along := roles.same first hasFirst second hasSecond
  have against := roles.opposite first hasFirst second hasSecond
  by_cases unhinted : localIps = []
  · subst unhinted
    by_cases syn : first.ack = false
    · rw [orient_syn syn] at oriented
      cases oriented
      constructor
      · rintro ⟨src, dst⟩
        rw [orient_syn ((along ⟨src, dst⟩).trans syn), src, dst]
      · rintro ⟨src, dst⟩
        rw [orient_synAck (syn ▸ against ⟨src, dst⟩), src, dst]
    · rw [orient_synAck syn] at oriented
      cases oriented
      constructor
      · rintro ⟨src, dst⟩
        have reply := against ⟨src, dst⟩
        rw [Bool.eq_true_of_not_eq_false syn] at reply
        rw [orient_syn (Bool.eq_false_of_not_eq_true reply), src, dst]
      · rintro ⟨src, dst⟩
        rw [orient_synAck ((along ⟨src, dst⟩).symm ▸ syn), src, dst]
  · obtain ⟨isLocal, foreign⟩ := local_of_orient unhinted oriented
    constructor
    · rintro ⟨rfl, rfl⟩
      exact orient_local isLocal
    · rintro ⟨rfl, rfl⟩
      refine orient_peer (fun hint => ?_) isLocal
      obtain ⟨rfl, src, dst⟩ | ⟨rfl, -, -⟩ := ends_of_orient oriented
      · exact sided first hasFirst second hasSecond ⟨dst.symm, src.symm⟩ firstSize secondSize
          ⟨src ▸ isLocal, dst ▸ hint⟩
      · exact foreign rfl hint

end Roles

section Flows
variable {localIps : List IpAddr} {segments : List SynSegment} {order : HashOrder}
  {flow : FlowMssEvidence}

/-- The last size that one end sends to the other. -/
def lastMss (segments : List SynSegment) (src dst : Str × UInt16) : Option UInt16 :=
  ((segments.filter fun segment => shown segment.src = src ∧ shown segment.dst = dst).filterMap
    (·.mss)).getLast?

def flowValues (localIps : List IpAddr) (segments : List SynSegment) : List FlowMssEvidence :=
  (segments.foldl (recordSyn localIps) ∅).entries.map (·.2)

theorem mem_flowValues_iff :
    flow ∈ flowValues localIps segments ↔
      ∃ key, (segments.foldl (recordSyn localIps) ∅).lookup key = some flow := by
  constructor
  · intro member
    obtain ⟨⟨key, value⟩, listed, rfl⟩ := List.mem_map.mp member
    exact ⟨key, AList.mem_lookup_iff.mpr listed⟩
  · rintro ⟨key, found⟩
    exact List.mem_map.mpr ⟨⟨key, flow⟩, AList.mem_lookup_iff.mp found, rfl⟩

theorem flowList_perm (order : HashOrder) (localIps : List IpAddr) (segments : List SynSegment) :
    (flowList order localIps segments).Perm (flowValues localIps segments) :=
  (sortByKey_perm _).trans (order.perm _)

/-- The flows have ends of their own. -/
theorem flowValues_ends_nodup (localIps : List IpAddr) (segments : List SynSegment) :
    ((flowValues localIps segments).map fun flow => (flow.localEnd, flow.peerEnd)).Nodup := by
  have keys : (flowValues localIps segments).map
      (fun flow => (flow.localIp, flow.localPort, flow.peerIp, flow.peerPort)) =
      (segments.foldl (recordSyn localIps) ∅).keys := by
    rw [flowValues, List.map_map]
    exact List.map_congr_left fun entry listed =>
      (filedUnder_foldl localIps segments entry.1 entry.2 (AList.mem_lookup_iff.mpr listed)).ends
  have distinct := (segments.foldl (recordSyn localIps) ∅).keys_nodup
  rw [← keys] at distinct
  refine List.Nodup.of_map (fun ends : (Str × UInt16) × (Str × UInt16) =>
    (ends.1.1, ends.1.2, ends.2.1, ends.2.2)) ?_
  rw [List.map_map]
  exact distinct

/-- A flow stands for the segments that are filed under its ends. -/
theorem exists_of_mem_flowValues (member : flow ∈ flowValues localIps segments) :
    ∃ segment ∈ segments, ∃ first second leg, segment.mss ≠ none ∧
      orient localIps segment = some (first, second, leg) ∧
      (segments.foldl (recordSyn localIps) ∅).lookup (flowKey first second) = some flow ∧
      flow.localEnd = shown first ∧ flow.peerEnd = shown second := by
  obtain ⟨key, found⟩ := mem_flowValues_iff.mp member
  have listed : key ∈ segments.foldl (recordSyn localIps) ∅ := AList.lookup_isSome.mp (found ▸ rfl)
  obtain ⟨segment, hasSegment, leg, mss, filing⟩ := (mem_foldl_iff segments key).mp listed
  obtain ⟨first, second, rfl⟩ := exists_of_filed filing
  obtain ⟨size, oriented⟩ := filed_eq_some_iff.mp filing
  exact ⟨segment, hasSegment, first, second, leg, size ▸ Option.some_ne_none mss, oriented, found,
    ends_of_filedUnder (filedUnder_foldl localIps segments _ flow found)⟩

theorem exists_flow_of_orient {segment : SynSegment} (hasSegment : segment ∈ segments)
    (size : segment.mss ≠ none) {first second : Endpoint} {leg : Bool}
    (oriented : orient localIps segment = some (first, second, leg)) :
    ∃ flow ∈ flowValues localIps segments,
      (segments.foldl (recordSyn localIps) ∅).lookup (flowKey first second) = some flow ∧
      flow.localEnd = shown first ∧ flow.peerEnd = shown second := by
  obtain ⟨mss, hasMss⟩ := Option.ne_none_iff_exists'.mp size
  have listed := (mem_foldl_iff segments (flowKey first second)).mpr
    ⟨segment, hasSegment, leg, mss, filed_eq_some_iff.mpr ⟨hasMss, oriented⟩⟩
  obtain ⟨flow, found⟩ := Option.isSome_iff_exists.mp (AList.lookup_isSome.mpr listed)
  exact ⟨flow, mem_flowValues_iff.mpr ⟨_, found⟩, found,
    ends_of_filedUnder (filedUnder_foldl localIps segments _ flow found)⟩

theorem recorded_eq {segment : SynSegment} {first second : Endpoint} (leg : Bool)
    (aligned : segment.mss ≠ none → segment.src = (if leg then first else second) ∧
      segment.dst = (if leg then second else first) →
        orient localIps segment = some (first, second, leg)) :
    recorded localIps (flowKey first second) leg segment =
      if shown segment.src = shown (if leg then first else second) ∧
        shown segment.dst = shown (if leg then second else first)
      then segment.mss.map some else none := by
  cases size : segment.mss with
  | none =>
    rw [recorded, filed, size]
    split_ifs <;> rfl
  | some mss =>
    by_cases ends : shown segment.src = shown (if leg then first else second) ∧
        shown segment.dst = shown (if leg then second else first)
    · have oriented :=
        aligned (size ▸ Option.some_ne_none mss) ⟨shown_injective ends.1, shown_injective ends.2⟩
      rw [if_pos ends, recorded, filed_eq_some_iff.mpr ⟨size, oriented⟩, Option.bind_some,
        if_pos ⟨rfl, rfl⟩]
      rfl
    · rw [if_neg ends, recorded]
      cases found : filed localIps segment with
      | none => rfl
      | some filing =>
        obtain ⟨key, other, value⟩ := filing
        refine if_neg ?_
        rintro ⟨rfl, rfl⟩
        obtain ⟨rfl, src, dst⟩ | ⟨rfl, src, dst⟩ := ends_of_orient (filed_eq_some_iff.mp found).2
        · exact ends ⟨congrArg shown src, congrArg shown dst⟩
        · exact ends ⟨congrArg shown src, congrArg shown dst⟩

theorem side_eq_lastMss (roles : OneInitiator segments) (sided : OneSided localIps segments)
    {segment : SynSegment} (hasSegment : segment ∈ segments) (size : segment.mss ≠ none)
    {first second : Endpoint} {side : Bool}
    (oriented : orient localIps segment = some (first, second, side)) (leg : Bool) :
    ((segments.foldl (recordSyn localIps) ∅).lookup (flowKey first second)).bind (·.side leg) =
      lastMss segments (shown (if leg then first else second))
        (shown (if leg then second else first)) := by
  have each : ∀ other ∈ segments, recorded localIps (flowKey first second) leg other =
      if shown other.src = shown (if leg then first else second) ∧
        shown other.dst = shown (if leg then second else first)
      then other.mss.map some else none := by
    intro other hasOther
    refine recorded_eq leg fun otherSize ends => ?_
    obtain ⟨along, against⟩ :=
      orient_aligned roles sided hasSegment hasOther size otherSize oriented
    cases leg with
    | true => exact along ends
    | false => exact against ends
  rw [side_foldl, List.filterMap_congr each]
  exact getLast?_writes ..

end Flows

section Report
variable {localIps : List IpAddr} {segments : List SynSegment}

/-- The segment's size is that of its end in the flow. -/
def Contributes (segment : SynSegment) (flow : FlowMssEvidence) : Prop :=
  (flow.localEnd = shown segment.src ∧ flow.peerEnd = shown segment.dst ∧
    flow.localAdvertised ≠ none) ∨
    (flow.localEnd = shown segment.dst ∧ flow.peerEnd = shown segment.src ∧
      flow.peerAdvertised ≠ none)

def Mirror (first second : FlowMssEvidence) : Prop :=
  first.localEnd = second.peerEnd ∧ first.peerEnd = second.localEnd

/-- A connection is of interest: no local address is known, or one of its ends has one. -/
def Watched (localIps : List IpAddr) (segment : SynSegment) : Prop :=
  localIps = [] ∨ segment.src.1 ∈ localIps ∨ segment.dst.1 ∈ localIps

/-- The evidence is called insufficient exactly where a direction is missing. -/
def VerdictFits (flow : FlowMssEvidence) (attribution : MiddleboxAttribution) : Prop :=
  attribution.verdict = .insufficientEvidence ↔
    flow.localAdvertised = none ∨ flow.peerAdvertised = none

/-- The flows of a report, and the counts and attributions made of them. -/
structure Paired (localIps : List IpAddr) (segments : List SynSegment)
    (report : GapTenReport) : Prop where
  together : ∀ syn ∈ segments, ∀ reply ∈ segments, syn.ack = false → reply.ack = true →
    Opposite syn reply → syn.mss ≠ none → reply.mss ≠ none → Watched localIps syn →
      ∃ flow ∈ report.flows, Contributes syn flow ∧ Contributes reply flow
  apart : ∀ first ∈ report.flows, ∀ second ∈ report.flows, ¬ Mirror first second
  localLast : ∀ flow ∈ report.flows, flow.localAdvertised =
    lastMss segments flow.localEnd flow.peerEnd
  peerLast : ∀ flow ∈ report.flows, flow.peerAdvertised =
    lastMss segments flow.peerEnd flow.localEnd
  both : report.flowsWithBothDirections =
    report.flows.countP fun flow => flow.localAdvertised.isSome && flow.peerAdvertised.isSome
  attributed : List.Forall₂ VerdictFits report.flows report.attributions

/-- The handshakes are paired in every order of the hash map, and the flows come
in the same order in each. -/
structure PairsHandshakes (localIps : List IpAddr) (segments : List SynSegment)
    (report : HashOrder → GapTenReport) :
    Prop where
  paired : ∀ order, Paired localIps segments (report order)
  ordered : ∀ first second, (report first).flows = (report second).flows

/-- Each peer has one local end, among the segments with a size. -/
def OwnPeers (localIps : List IpAddr) (segments : List SynSegment) : Prop :=
  ∀ first ∈ segments, ∀ second ∈ segments, first.mss ≠ none → second.mss ≠ none →
    ∀ one other peer leg side, orient localIps first = some (one, peer, leg) →
      orient localIps second = some (other, peer, side) →
      one = other

theorem attributeMiddlebox_ok {flow : FlowMssEvidence} {key : SynFlowKey}
    (filing : FiledUnder key flow) :
    ∃ attribution, attributeMiddlebox flow = .ok attribution ∧ VerdictFits flow attribution := by
  have both := filing.both
  unfold attributeMiddlebox VerdictFits
  cases one : flow.localAdvertised with
  | none =>
    have missing : flow.bothDirectionsObserved = false := by
      rw [both, one]
      rfl
    rw [if_pos missing]
    exact ⟨_, rfl, iff_of_true rfl (.inl rfl)⟩
  | some localMss =>
    cases other : flow.peerAdvertised with
    | none =>
      have missing : flow.bothDirectionsObserved = false := by
        rw [both, one, other]
        rfl
      rw [if_pos missing]
      exact ⟨_, rfl, iff_of_true rfl (.inr rfl)⟩
    | some peerMss =>
      have seen : flow.bothDirectionsObserved = true := by
        rw [both, one, other]
        rfl
      rw [seen, if_neg (by decide)]
      exact ⟨_, rfl, iff_of_false (fun same => by cases same) (by simp)⟩

theorem filedUnder_of_mem {flow : FlowMssEvidence} (member : flow ∈ flowValues localIps segments) :
    ∃ key, FiledUnder key flow := by
  obtain ⟨key, found⟩ := mem_flowValues_iff.mp member
  exact ⟨key, filedUnder_foldl localIps segments key flow found⟩

/-- What fails for no item gives a result for each. -/
theorem mapM_ok {α β ε : Type} {f : α → Except ε β} {R : α → β → Prop} {items : List α}
    (each : ∀ item ∈ items, ∃ result, f item = .ok result ∧ R item result) :
    ∃ results, items.mapM f = .ok results ∧ List.Forall₂ R items results := by
  induction items with
  | nil => exact ⟨[], rfl, .nil⟩
  | cons item rest ih =>
    obtain ⟨result, made, related⟩ := each item List.mem_cons_self
    obtain ⟨results, rest_made, rest_related⟩ :=
      ih fun other member => each other (List.mem_cons_of_mem item member)
    refine ⟨result :: results, ?_, .cons related rest_related⟩
    rw [List.mapM_cons, made, rest_made]
    rfl

section Parts
variable {report : GapTenReport} {order : HashOrder}

theorem mem_flowList_iff {flow : FlowMssEvidence} :
    flow ∈ flowList order localIps segments ↔ flow ∈ flowValues localIps segments :=
  (flowList_perm order localIps segments).mem_iff

/-- No two flows mirror each other, as the segments of both would be filed alike. -/
theorem not_mirror (roles : OneInitiator segments) (sided : OneSided localIps segments)
    {first second : FlowMssEvidence} (hasFirst : first ∈ flowValues localIps segments)
    (hasSecond : second ∈ flowValues localIps segments) :
    ¬ Mirror first second := by
  rintro ⟨ends, others⟩
  obtain ⟨one, hasOne, l, r, leg, oneSize, oneOriented, -, localEnd, peerEnd⟩ :=
    exists_of_mem_flowValues hasFirst
  obtain ⟨two, hasTwo, l', r', side, twoSize, twoOriented, -, localEnd', peerEnd'⟩ :=
    exists_of_mem_flowValues hasSecond
  obtain rfl : l = r' := shown_injective (localEnd.symm.trans (ends.trans peerEnd'))
  obtain rfl : r = l' := shown_injective (peerEnd.symm.trans (others.trans localEnd'))
  obtain ⟨along, against⟩ := orient_aligned roles sided hasOne hasTwo oneSize twoSize oneOriented
  have same : l = r := by
    obtain ⟨-, src, dst⟩ | ⟨-, src, dst⟩ := ends_of_orient twoOriented
    · exact (Prod.mk.inj (Option.some.inj (twoOriented.symm.trans (against ⟨src, dst⟩)))).1.symm
    · exact (Prod.mk.inj (Option.some.inj (twoOriented.symm.trans (along ⟨src, dst⟩)))).1.symm
  subst same
  have selfConnected : Opposite one one := by
    obtain ⟨-, src, dst⟩ | ⟨-, src, dst⟩ :=
      ends_of_orient oneOriented <;> exact ⟨src.trans dst.symm, dst.trans src.symm⟩
  exact roles.opposite one hasOne one hasOne selfConnected rfl

theorem advertised_last (roles : OneInitiator segments) (sided : OneSided localIps segments)
    {flow : FlowMssEvidence} (member : flow ∈ flowValues localIps segments) :
    flow.localAdvertised = lastMss segments flow.localEnd flow.peerEnd ∧
      flow.peerAdvertised = lastMss segments flow.peerEnd flow.localEnd := by
  obtain ⟨segment, hasSegment, first, second, leg, size, oriented, found, localEnd, peerEnd⟩ :=
    exists_of_mem_flowValues member
  have last := side_eq_lastMss roles sided hasSegment size oriented
  rw [localEnd, peerEnd]
  have fromLocal := last true
  have fromPeer := last false
  rw [found] at fromLocal fromPeer
  exact ⟨fromLocal, fromPeer⟩

theorem lastMss_ne_none {segment : SynSegment} (hasSegment : segment ∈ segments)
    (size : segment.mss ≠ none) :
    lastMss segments (shown segment.src) (shown segment.dst) ≠ none := by
  obtain ⟨mss, hasMss⟩ := Option.ne_none_iff_exists'.mp size
  rw [lastMss, ne_eq, List.getLast?_eq_none_iff]
  exact List.ne_nil_of_mem (List.mem_filterMap.mpr
    ⟨segment, List.mem_filter.mpr ⟨hasSegment, decide_eq_true ⟨rfl, rfl⟩⟩, hasMss⟩)

/-- A segment with a size contributes to the flow of its ends. -/
theorem contributes_of_ends (roles : OneInitiator segments) (sided : OneSided localIps segments)
    {flow : FlowMssEvidence} (member : flow ∈ flowValues localIps segments)
    {first second : Endpoint} (localEnd : flow.localEnd = shown first)
    (peerEnd : flow.peerEnd = shown second) {segment : SynSegment} (hasSegment : segment ∈ segments)
    (size : segment.mss ≠ none) (ends : segment.src = first ∧ segment.dst = second ∨
      segment.src = second ∧ segment.dst = first) :
    Contributes segment flow := by
  obtain ⟨fromLocal, fromPeer⟩ := advertised_last roles sided member
  have sent := lastMss_ne_none hasSegment size
  rw [localEnd, peerEnd] at fromLocal fromPeer
  obtain ⟨rfl, rfl⟩ | ⟨rfl, rfl⟩ := ends
  · exact .inl ⟨localEnd, peerEnd, fromLocal ▸ sent⟩
  · exact .inr ⟨localEnd, peerEnd, fromPeer ▸ sent⟩

theorem exists_orient {segment : SynSegment} (watched : Watched localIps segment) :
    ∃ first second leg, orient localIps segment = some (first, second, leg) := by
  by_cases unhinted : localIps = []
  · subst unhinted
    by_cases syn : segment.ack = false
    · exact ⟨_, _, _, orient_syn syn⟩
    · exact ⟨_, _, _, orient_synAck syn⟩
  · by_cases src : segment.src.1 ∈ localIps
    · exact ⟨_, _, _, orient_local src⟩
    · exact ⟨_, _, _, orient_peer src ((watched.resolve_left unhinted).resolve_left src)⟩

theorem exists_together (roles : OneInitiator segments) (sided : OneSided localIps segments)
    {syn reply : SynSegment} (hasSyn : syn ∈ segments) (hasReply : reply ∈ segments)
    (facing : Opposite syn reply) (synSize : syn.mss ≠ none) (replySize : reply.mss ≠ none)
    (watched : Watched localIps syn) :
    ∃ flow ∈ flowValues localIps segments, Contributes syn flow ∧ Contributes reply flow := by
  obtain ⟨first, second, leg, oriented⟩ := exists_orient watched
  obtain ⟨flow, member, -, localEnd, peerEnd⟩ := exists_flow_of_orient hasSyn synSize oriented
  have contributes {segment : SynSegment} (hasSegment : segment ∈ segments)
      (size : segment.mss ≠ none) :=
    contributes_of_ends roles sided member localEnd peerEnd hasSegment size
  refine ⟨flow, member, contributes hasSyn synSize ?_, contributes hasReply replySize ?_⟩
  · exact (ends_of_orient oriented).imp And.right And.right
  · rw [facing.1, facing.2]
    obtain ⟨-, src, dst⟩ | ⟨-, src, dst⟩ := ends_of_orient oriented
    · exact .inr ⟨dst, src⟩
    · exact .inl ⟨dst, src⟩

theorem peerKey_eq_iff {first second : FlowMssEvidence} :
    peerKey first = peerKey second ↔ first.peerEnd = second.peerEnd := by
  simp only [peerKey, FlowMssEvidence.peerEnd, EmbeddingLike.apply_eq_iff_eq, Prod.mk.injEq,
    UInt16.toNat_inj]

theorem peerKey_nodup_iff (localIps : List IpAddr) (segments : List SynSegment) :
    ((flowValues localIps segments).map peerKey).Nodup ↔ OwnPeers localIps segments := by
  constructor
  · intro distinct first hasFirst second hasSecond firstSize secondSize one other peer leg side
      oneOriented otherOriented
    obtain ⟨flow, member, -, localEnd, peerEnd⟩ :=
      exists_flow_of_orient hasFirst firstSize oneOriented
    obtain ⟨flow', member', -, localEnd', peerEnd'⟩ :=
      exists_flow_of_orient hasSecond secondSize otherOriented
    have same := List.inj_on_of_nodup_map distinct member member'
      (peerKey_eq_iff.mpr (peerEnd.trans peerEnd'.symm))
    exact shown_injective (localEnd.symm.trans (same ▸ localEnd'))
  · intro own
    refine List.Nodup.map_on (fun flow member flow' member' alike => ?_)
      (List.Nodup.of_map _ (flowValues_ends_nodup localIps segments))
    obtain ⟨one, hasOne, l, r, leg, oneSize, oneOriented, found, -, peerEnd⟩ :=
      exists_of_mem_flowValues member
    obtain ⟨two, hasTwo, l', r', side, twoSize, twoOriented, found', -, peerEnd'⟩ :=
      exists_of_mem_flowValues member'
    obtain rfl : r = r' :=
      shown_injective (peerEnd.symm.trans ((peerKey_eq_iff.mp alike).trans peerEnd'))
    obtain rfl := own one hasOne two hasTwo oneSize twoSize _ _ _ _ _ oneOriented twoOriented
    exact Option.some.inj (found.symm.trans found')

/-- The order of the flows is that of the segments alone exactly where
each peer has one local end. -/
theorem flowList_eq_iff (localIps : List IpAddr) (segments : List SynSegment) :
    (∀ first second, flowList first localIps segments = flowList second localIps segments) ↔
      OwnPeers localIps segments := by
  rw [← peerKey_nodup_iff]
  constructor
  · intro ordered
    exact (sortByKey_reverse_eq_iff
      (List.Nodup.of_map _ (flowValues_ends_nodup localIps segments))).mp
      (ordered ⟨List.reverse, List.reverse_perm⟩ ⟨id, List.Perm.refl⟩)
  · intro distinct first second
    exact (sortByKey_eq_of_perm (first.perm _) distinct).trans
      (sortByKey_eq_of_perm (second.perm _) distinct).symm

/-- A connection between local addresses that has sizes from both ends stands in two flows,
one the mirror of the other. -/
theorem exists_mirror {first second : SynSegment} (hasFirst : first ∈ segments)
    (hasSecond : second ∈ segments) (facing : Opposite first second) (firstSize : first.mss ≠ none)
    (secondSize : second.mss ≠ none) (both : first.src.1 ∈ localIps ∧ first.dst.1 ∈ localIps) :
    ∃ flow ∈ flowValues localIps segments, ∃ other ∈ flowValues localIps segments,
      Mirror flow other := by
  obtain ⟨flow, member, -, localEnd, peerEnd⟩ :=
    exists_flow_of_orient hasFirst firstSize (orient_local both.1)
  have secondLocal : second.src.1 ∈ localIps := facing.1 ▸ both.2
  obtain ⟨other, listed, -, localEnd', peerEnd'⟩ :=
    exists_flow_of_orient hasSecond secondSize (orient_local secondLocal)
  rw [facing.1] at localEnd'
  rw [facing.2] at peerEnd'
  exact ⟨flow, member, other, listed, localEnd.trans peerEnd'.symm, peerEnd.trans localEnd'.symm⟩

end Parts

/-- The report of a capture whose frames can be read. -/
theorem ingestSynMss_eq (readers : CaptureReaders) (order : HashOrder) (path : String)
    (localIps : List IpAddr) {bytes : Bytes} {frames : List Bytes}
    (captured : captureFrames readers bytes = .ok frames) :
    ∃ report, ingestSynMss readers order path (.ok bytes) localIps = .ok report ∧
      report.flows = flowList order localIps (frames.filterMap (inspectFrame readers)) ∧
      report.flowsWithBothDirections = report.flows.countP (·.bothDirectionsObserved) ∧
      List.Forall₂ VerdictFits report.flows report.attributions := by
  have each : ∀ flow ∈ flowList order localIps (frames.filterMap (inspectFrame readers)),
      ∃ attribution, attributeMiddlebox flow = .ok attribution ∧ VerdictFits flow attribution := by
    intro flow member
    obtain ⟨key, filing⟩ := filedUnder_of_mem (mem_flowList_iff.mp member)
    exact attributeMiddlebox_ok filing
  obtain ⟨attributions, made, attributed⟩ := mapM_ok each
  let flows := flowList order localIps (frames.filterMap (inspectFrame readers))
  refine ⟨⟨path, flows, attributions, flows.countP (·.bothDirectionsObserved), flows.length⟩, ?_,
    rfl, rfl, attributed⟩
  have each_made : flows.mapM attributeMiddlebox = .ok attributions := made
  change ((captureFrames readers bytes).mapError MssEvidenceHalt.error >>= _) = _
  rw [captured]
  change (flows.mapM attributeMiddlebox >>= _) = _
  rw [each_made]
  rfl

theorem paired_of_flows (roles : OneInitiator segments) (sided : OneSided localIps segments)
    {report : GapTenReport} {order : HashOrder}
    (flows : report.flows = flowList order localIps segments)
    (both : report.flowsWithBothDirections = report.flows.countP (·.bothDirectionsObserved))
    (attributed : List.Forall₂ VerdictFits report.flows report.attributions) :
    Paired localIps segments report := by
  have known {flow : FlowMssEvidence} (member : flow ∈ report.flows) : flow ∈
      flowValues localIps segments :=
    mem_flowList_iff.mp (flows ▸ member)
  constructor
  · intro syn hasSyn reply hasReply _ _ facing synSize replySize watched
    obtain ⟨flow, member, contributes⟩ :=
      exists_together roles sided hasSyn hasReply facing synSize replySize watched
    exact ⟨flow, flows ▸ mem_flowList_iff.mpr member, contributes⟩
  · exact fun first hasFirst second hasSecond => not_mirror roles sided (known hasFirst)
      (known hasSecond)
  · exact fun flow member => (advertised_last roles sided (known member)).1
  · exact fun flow member => (advertised_last roles sided (known member)).2
  · rw [both]
    refine List.countP_congr fun flow member => ?_
    obtain ⟨key, filing⟩ := filedUnder_of_mem (known member)
    rw [filing.both]
  · exact attributed

theorem pairsHandshakes_iff (roles : OneInitiator segments) {report : HashOrder → GapTenReport}
    (flows : ∀ order, (report order).flows = flowList order localIps segments)
    (both : ∀ order, (report order).flowsWithBothDirections =
      (report order).flows.countP (·.bothDirectionsObserved))
    (attributed : ∀ order, List.Forall₂ VerdictFits (report order).flows
      (report order).attributions) :
    PairsHandshakes localIps segments report ↔
      OneSided localIps segments ∧ OwnPeers localIps segments := by
  rw [← flowList_eq_iff]
  constructor
  · intro pairs
    refine ⟨fun first hasFirst second hasSecond facing firstSize secondSize locals => ?_,
      fun first second => ?_⟩
    · obtain ⟨flow, member, other, listed, mirror⟩ :=
        exists_mirror hasFirst hasSecond facing firstSize secondSize locals
      let order : HashOrder := ⟨id, List.Perm.refl⟩
      have reported {flow : FlowMssEvidence} (member : flow ∈ flowValues localIps segments) : flow ∈
          (report order).flows :=
        flows order ▸ mem_flowList_iff.mpr member
      exact (pairs.paired order).apart flow (reported member) other (reported listed) mirror
    · rw [← flows, ← flows]
      exact pairs.ordered first second
  · rintro ⟨sided, ordered⟩
    refine ⟨fun order => paired_of_flows roles sided (flows order) (both order) (attributed order),
      fun first second => ?_⟩
    rw [flows, flows]
    exact ordered first second

/-- The handshakes of a capture are paired, in an order of their own, exactly where no connection
between local addresses has sizes from both ends and each peer has one local end. -/
theorem ingest_pairsHandshakes_iff (readers : CaptureReaders) (path : String)
    (localIps : List IpAddr) {bytes : Bytes} {frames : List Bytes}
    (captured : captureFrames readers bytes = .ok frames)
    (roles : OneInitiator (frames.filterMap (inspectFrame readers))) :
    ∃ report : HashOrder → GapTenReport,
      (∀ order, ingestSynMss readers order path (.ok bytes) localIps = .ok (report order)) ∧
      (PairsHandshakes localIps (frames.filterMap (inspectFrame readers)) report ↔
        OneSided localIps (frames.filterMap (inspectFrame readers)) ∧
          OwnPeers localIps (frames.filterMap (inspectFrame readers))) := by
  choose report made flows both attributed using fun order =>
    ingestSynMss_eq readers order path localIps captured
  exact ⟨report, made, pairsHandshakes_iff roles flows both attributed⟩

/-- The frame of a SYN or SYN-ACK over IPv4 with a size as its only option. -/
def synFrame (src dst : Ipv4Addr) (srcPort dstPort : UInt16) (flags : UInt8)
    (mss : UInt16) : Bytes :=
  [2, 0, 0, 0, 0, 2, 2, 0, 0, 0, 0, 1, 0x08, 0x00] ++
    [0x45, 0, 0, 44, 0, 0, 0x40, 0, 64, 6, 0, 0, src.a, src.b, src.c, src.d, dst.a, dst.b, dst.c,
      dst.d] ++
    (be16 srcPort ++ be16 dstPort ++ [0, 0, 0, 1, 0, 0, 0, 0, 0x60, flags, 0xFF, 0xFF, 0, 0, 0, 0,
      2, 4] ++ be16 mss)

/-- What a capture of some segments holds, each with its frame. -/
abbrev SynCapture := List (Bytes × SlicedFrame)

def syn (src dst : Ipv4Addr) (srcPort dstPort mss : UInt16) : Bytes × SlicedFrame :=
  (synFrame src dst srcPort dstPort 0x02 mss,
    ⟨some (.v4 src, .v4 dst), some
      ⟨srcPort, dstPort, true, false, [some (.maximumSegmentSize mss)]⟩⟩)

def synAck (src dst : Ipv4Addr) (srcPort dstPort mss : UInt16) : Bytes × SlicedFrame :=
  (synFrame src dst srcPort dstPort 0x12 mss,
    ⟨some (.v4 src, .v4 dst), some
      ⟨srcPort, dstPort, true, true, [some (.maximumSegmentSize mss)]⟩⟩)

/-- The capture as a file in the classic format. -/
def pcapFile (capture : SynCapture) : Bytes :=
  [0xD4, 0xC3, 0xB2, 0xA1, 2, 0, 4, 0, 0, 0, 0, 0, 0, 0, 0, 0, 0xFF, 0xFF, 0, 0, 1, 0, 0, 0] ++
    capture.flatMap fun packet => [0, 0, 0, 0, 0, 0, 0, 0, 58, 0, 0, 0, 58, 0, 0, 0] ++ packet.1

def readersOf (capture : SynCapture) : CaptureReaders where
  pcapng := fun _ => .error "not a pcapng file"
  pcap := fun _ => .ok (capture.map fun packet => .ok packet.1)
  slice := fun captured => capture.lookup captured

def client : Ipv4Addr := ⟨10, 0, 0, 1⟩

def server : Ipv4Addr := ⟨10, 0, 0, 2⟩

def oneHandshake : SynCapture :=
  [syn client server 50000 443 1460, synAck server client 443 50000 1400]

def twoConnections : SynCapture :=
  [syn client server 50000 443 1460, syn client server 50001 443 1460]

def synSegments (capture : SynCapture) : List SynSegment :=
  (capture.map (·.1)).filterMap (inspectFrame (readersOf capture))

instance (first second : SynSegment) : Decidable (SameWay first second) :=
  inferInstanceAs (Decidable (_ ∧ _))

instance (first second : SynSegment) : Decidable (Opposite first second) :=
  inferInstanceAs (Decidable (_ ∧ _))

theorem synSegments_oneHandshake : synSegments oneHandshake =
    [⟨(.v4 client, 50000), (.v4 server, 443), false, some 1460⟩,
      ⟨(.v4 server, 443), (.v4 client, 50000), true, some 1400⟩] := by
  rfl

theorem synSegments_twoConnections : synSegments twoConnections =
    [⟨(.v4 client, 50000), (.v4 server, 443), false, some 1460⟩,
      ⟨(.v4 client, 50001), (.v4 server, 443), false, some 1460⟩] := by
  rfl

theorem oneInitiator_oneHandshake : OneInitiator (synSegments oneHandshake) := by
  rw [synSegments_oneHandshake]
  exact ⟨by decide, by decide⟩

theorem oneInitiator_twoConnections : OneInitiator (synSegments twoConnections) := by
  rw [synSegments_twoConnections]
  exact ⟨by decide, by decide⟩

theorem ingest_pairsHandshakes_iff_oneHandshake :
    ∃ report : HashOrder → GapTenReport,
      (∀ order, ingestSynMss (readersOf oneHandshake) order "syn.pcap" (.ok (pcapFile oneHandshake))
        [.v4 client] =
        .ok (report order)) ∧
      (PairsHandshakes [.v4 client] (synSegments oneHandshake) report ↔
        OneSided [.v4 client] (synSegments oneHandshake) ∧
          OwnPeers [.v4 client] (synSegments oneHandshake)) :=
  ingest_pairsHandshakes_iff (readersOf oneHandshake) "syn.pcap"
    [.v4 client] rfl oneInitiator_oneHandshake

/-- A report of a capture that does not pair its handshakes, or orders its flows by chance. -/
theorem exists_unpaired {capture : SynCapture} {localIps : List IpAddr}
    (captured : captureFrames (readersOf capture) (pcapFile capture) = .ok (capture.map (·.1)))
    (roles : OneInitiator (synSegments capture))
    (unpaired : ¬ (OneSided localIps (synSegments capture) ∧
      OwnPeers localIps (synSegments capture))) :
    ∃ report : HashOrder → GapTenReport,
      (∀ order, ingestSynMss (readersOf capture) order "syn.pcap"
        (.ok (pcapFile capture)) localIps = .ok (report order)) ∧
      ¬ PairsHandshakes localIps (synSegments capture) report := by
  choose report made flows both attributed using fun order =>
    ingestSynMss_eq (readersOf capture) order "syn.pcap" localIps captured
  exact ⟨report, made, fun pairs =>
    unpaired ((pairsHandshakes_iff roles flows both attributed).mp pairs)⟩

/-- With both addresses local one handshake stands in two flows, and two connections to one
server come in any order. -/
theorem unpaired_handshakes :
    (OneInitiator (synSegments oneHandshake) ∧ ∃ report : HashOrder → GapTenReport,
      (∀ order, ingestSynMss (readersOf oneHandshake) order "syn.pcap" (.ok (pcapFile oneHandshake))
        [.v4 client, .v4 server] = .ok (report order)) ∧
      ¬ PairsHandshakes [.v4 client, .v4 server] (synSegments oneHandshake) report) ∧
    (OneInitiator (synSegments twoConnections) ∧ ∃ report : HashOrder → GapTenReport,
      (∀ order, ingestSynMss (readersOf twoConnections) order "syn.pcap"
        (.ok (pcapFile twoConnections)) [] =
        .ok (report order)) ∧
      ¬ PairsHandshakes [] (synSegments twoConnections) report) := by
  refine ⟨⟨oneInitiator_oneHandshake, exists_unpaired rfl oneInitiator_oneHandshake ?_⟩,
    oneInitiator_twoConnections, exists_unpaired rfl oneInitiator_twoConnections ?_⟩
  · rw [synSegments_oneHandshake]
    rintro ⟨sided, -⟩
    exact sided _ List.mem_cons_self _ (List.mem_cons_of_mem _ List.mem_cons_self) ⟨rfl, rfl⟩
      (Option.some_ne_none _)
      (Option.some_ne_none _) ⟨by decide, by decide⟩
  · rw [synSegments_twoConnections]
    rintro ⟨-, own⟩
    have same := own _ List.mem_cons_self _ (List.mem_cons_of_mem _ List.mem_cons_self)
      (Option.some_ne_none _)
      (Option.some_ne_none _) _ _ _ _ _ rfl rfl
    exact absurd (congrArg Prod.snd same) (by decide)

end Report

end FragglePacket.NetworkTests
