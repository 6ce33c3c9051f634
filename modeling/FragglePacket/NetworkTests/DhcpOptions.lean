import FragglePacket.NetworkTests.DhcpDump

/-! When the lease that is read from a dump is the one that its options describe. -/

namespace FragglePacket.NetworkTests

open FragglePacket.Lists FragglePacket.Text

section Fields
variable {lease : DhcpLease} {given : DhcpOption} {dump : Dump}

/-- A name begins with one of two texts at most, where neither begins the other. -/
theorem not_begins {name pattern other : Str} (begins : pattern <+: name)
    (shorter : ¬ pattern <+: other) (longer : ¬ other <+: pattern) : ¬ other <+: name :=
  fun too => (List.prefix_or_prefix_of_prefix begins too).elim shorter longer

/-- A case that never meets the one behind it, and says what is said
without either, can be left out. -/
theorem ite_skip {α : Type*} {p q : Prop} [Decidable p] [Decidable q] {x y : α} (apart : q → ¬ p) :
    (if p then y else if q then x else y) = if q then x else y := by
  by_cases own : q
  · rw [if_neg (apart own)]
  · rw [if_neg own, ite_self]

theorem apply_messageType : (given.apply lease).messageType =
    if "dhcp_message_type".toList <+: given.name then some (messageTypeOf given.cut)
    else lease.messageType := by
  rw [DhcpOption.apply]
  simp only [apply_ite DhcpLease.messageType, ite_self]

theorem apply_leaseSeconds : (given.apply lease).leaseSeconds =
    if "lease_time".toList <+: given.name then leaseSecondsOf given.cut
    else lease.leaseSeconds := by
  rw [DhcpOption.apply]
  simp only [apply_ite DhcpLease.leaseSeconds, ite_self]
  exact ite_skip fun begins => not_begins begins (by decide) (by decide)

theorem apply_serverIdentifier : (given.apply lease).serverIdentifier =
    if "server_identifier".toList <+: given.name then some given.cut
    else lease.serverIdentifier := by
  rw [DhcpOption.apply]
  simp only [apply_ite DhcpLease.serverIdentifier, ite_self]
  rw [ite_skip fun begins => not_begins begins (by decide) (by decide)]
  exact ite_skip fun begins => not_begins begins (by decide) (by decide)

theorem apply_router : (given.apply lease).router =
    if "router".toList <+: given.name then (parseIpList given.cut).head? else lease.router := by
  rw [DhcpOption.apply]
  simp only [apply_ite DhcpLease.router, ite_self]
  rw [ite_skip fun begins => not_begins begins (by decide) (by decide),
    ite_skip fun begins => not_begins begins (by decide) (by decide)]
  exact ite_skip fun begins => not_begins begins (by decide) (by decide)

theorem apply_domainNameServers : (given.apply lease).domainNameServers =
    if "domain_name_server".toList <+: given.name then parseIpList given.cut
    else lease.domainNameServers := by
  rw [DhcpOption.apply]
  simp only [apply_ite DhcpLease.domainNameServers, ite_self]
  rw [ite_skip fun begins => not_begins begins (by decide) (by decide),
    ite_skip fun begins => not_begins begins (by decide) (by decide),
    ite_skip fun begins => not_begins begins (by decide) (by decide)]
  exact ite_skip fun begins => not_begins begins (by decide) (by decide)

theorem apply_domainName : (given.apply lease).domainName =
    if given.name = "domain_name".toList then if given.cut.isEmpty then lease.domainName
    else some given.cut
    else lease.domainName := by
  have apart (pattern : Str) (other : ¬ pattern <+: "domain_name".toList)
      (named : given.name = "domain_name".toList) :
      ¬ pattern <+: given.name := named ▸ other
  rw [DhcpOption.apply]
  simp only [apply_ite DhcpLease.domainName]
  rw [ite_skip (apart _ (by decide)), ite_skip (apart _ (by decide)),
    ite_skip (apart _ (by decide)), ite_skip (apart _ (by decide))]
  exact ite_skip (apart _ (by decide))

/-- A field that every option of a name sets anew is what the last of them sets. -/
theorem read_lastBegun {β : Type*} (read : DhcpLease → β) {name : Str} (f : Str → β)
    (sets : ∀ lease (given : DhcpOption),
      read (given.apply lease) = if name <+: given.name then f given.cut else read lease) :
    read (parseGetpacket dump.text) = ((dump.lastBegun name).map f).getD (read .default) := by
  have steps (lease : DhcpLease) (given : DhcpOption) : read (given.apply lease) =
      (if name <+: given.name then some (f given.cut) else none).getD (read lease) := by
    rw [sets]
    split_ifs <;> rfl
  have writes (options : List DhcpOption) : (options.filterMap fun given =>
      if name <+: given.name then some (f given.cut) else none) =
      (options.filter fun given => name <+: given.name).map fun given => f given.cut := by
    induction options with
    | nil => rfl
    | cons given options ih => by_cases begins : name <+: given.name <;> simp [begins, ih]
  rw [parseGetpacket_text, foldl_lastWrite steps, writes, List.getLast?_map, Dump.lastBegun,
    Option.map_map]
  rfl

/-- The options of a name are the one that is found by it. -/
theorem filter_named {options : List DhcpOption} (distinct : (options.map (·.name)).Nodup)
    (name : Str) :
    (options.filter fun given => given.name = name) = (options.find? (·.name = name)).toList := by
  induction options with
  | nil => rfl
  | cons given options ih =>
    obtain ⟨fresh, rest⟩ := List.nodup_cons.mp distinct
    by_cases named : given.name = name
    · have noneMore : (options.filter fun other => other.name = name) = [] := by
        apply List.filter_eq_nil_iff.mpr
        intro other member same
        exact fresh (List.mem_map.mpr ⟨other, member, (of_decide_eq_true same).trans named.symm⟩)
      simp [named, noneMore]
    · simp [named, ih rest]

/-- What the options of a name write last is what the one of them writes. -/
theorem getLast?_named {β : Type*} {options : List DhcpOption}
    (distinct : (options.map (·.name)).Nodup) (name : Str) (f : DhcpOption → Option β) :
    (options.filterMap fun given => if given.name = name then f given else none).getLast? =
      (options.find? (·.name = name)).bind f := by
  have writes (options : List DhcpOption) :
      (options.filterMap fun given => if given.name = name then f given else none) =
      (options.filter fun given => given.name = name).filterMap f := by
    induction options with
    | nil => rfl
    | cons given options ih =>
      by_cases named : given.name = name
      · rw [List.filter_cons_of_pos (by simp [named]), List.filterMap_cons, List.filterMap_cons,
          if_pos named, ih]
      · rw [List.filter_cons_of_neg (by simp [named]), List.filterMap_cons, if_neg named, ih]
  rw [writes, filter_named distinct]
  cases options.find? (·.name = name) with
  | none => rfl
  | some given => cases written : f given <;> simp [written]

theorem read_domainName : (parseGetpacket dump.text).domainName =
    ((dump.options.find? (·.name = "domain_name".toList)).map (·.cut)).filter fun v =>
      !v.isEmpty := by
  have steps (lease : DhcpLease) (given : DhcpOption) : (given.apply lease).domainName =
      (if given.name = "domain_name".toList then
        if given.cut.isEmpty then none else some (some given.cut) else none).getD
          lease.domainName := by
    rw [apply_domainName]
    split_ifs <;> rfl
  have distinct : (dump.options.map (·.name)).Nodup := dump.distinct
  rw [parseGetpacket_text, foldl_lastWrite steps, getLast?_named distinct]
  cases dump.options.find? (·.name = "domain_name".toList) with
  | none => rfl
  | some given =>
    rw [Option.bind_some, Option.map_some, Option.filter_some]
    cases given.cut.isEmpty <;> rfl

end Fields

section Reading
variable {dump : Dump}

/-- What is read up to a first colon is the whole value where there is no colon. -/
theorem cut_eq_whole_iff (given : DhcpOption) : given.cut = given.whole ↔ ':' ∉ given.whole := by
  have absent : ':' ∉ given.cut :=
    fun member => absurd (List.mem_takeWhile_imp (mem_of_mem_trim member)) (by decide)
  constructor
  · intro same
    rwa [← same]
  · intro plain
    have inside : ':' ∉ given.value := fun member => plain (mem_trim member (by decide))
    rw [DhcpOption.cut, takeWhile_ne_eq_self inside, DhcpOption.whole]

/-- The last option whose name begins with that of a field says what the option of that very name
says, and the domain name holds no colon. -/
structure Unshadowed (dump : Dump) : Prop where
  messageType : (dump.lastBegun "dhcp_message_type".toList).map messageTypeOf =
    (dump.value "dhcp_message_type".toList).map messageTypeOf
  leaseSeconds : (dump.lastBegun "lease_time".toList).bind leaseSecondsOf =
    (dump.value "lease_time".toList).bind leaseSecondsOf
  serverIdentifier : dump.lastBegun "server_identifier".toList =
    dump.value "server_identifier".toList
  router : (dump.lastBegun "router".toList).bind (fun v => (parseIpList v).head?) =
    (dump.value "router".toList).bind fun v => (parseIpList v).head?
  domainNameServers : (dump.lastBegun "domain_name_server".toList).elim [] parseIpList =
    (dump.value "domain_name_server".toList).elim [] parseIpList
  domainName : ∀ v ∈ dump.value "domain_name".toList, ':' ∉ v

theorem map_getD_none {α β : Type*} (read : Option α) (f : α → Option β) :
    (read.map f).getD none = read.bind f := by
  cases read <;> rfl

theorem read_messageType : (parseGetpacket dump.text).messageType =
    (dump.lastBegun "dhcp_message_type".toList).map messageTypeOf := by
  rw [read_lastBegun (·.messageType) (fun v => some (messageTypeOf v)) fun _ _ => apply_messageType]
  cases dump.lastBegun "dhcp_message_type".toList <;> rfl

theorem read_leaseSeconds : (parseGetpacket dump.text).leaseSeconds =
    (dump.lastBegun "lease_time".toList).bind leaseSecondsOf := by
  rw [read_lastBegun (·.leaseSeconds) leaseSecondsOf fun _ _ => apply_leaseSeconds]
  exact map_getD_none _ _

theorem read_serverIdentifier :
    (parseGetpacket dump.text).serverIdentifier = dump.lastBegun "server_identifier".toList := by
  rw [read_lastBegun (·.serverIdentifier) some fun _ _ => apply_serverIdentifier]
  cases dump.lastBegun "server_identifier".toList <;> rfl

theorem read_router : (parseGetpacket dump.text).router =
    (dump.lastBegun "router".toList).bind fun v => (parseIpList v).head? := by
  rw [read_lastBegun (·.router) (fun v => (parseIpList v).head?) fun _ _ => apply_router]
  exact map_getD_none _ _

theorem read_domainNameServers : (parseGetpacket dump.text).domainNameServers =
    (dump.lastBegun "domain_name_server".toList).elim [] parseIpList := by
  rw [read_lastBegun (·.domainNameServers) parseIpList fun _ _ => apply_domainNameServers]
  cases dump.lastBegun "domain_name_server".toList <;> rfl

/-- The domain name is read whole exactly where it holds no colon. -/
theorem read_domainName_iff : (parseGetpacket dump.text).domainName = dump.lease.domainName ↔
    ∀ v ∈ dump.value "domain_name".toList, ':' ∉ v := by
  rw [read_domainName, Dump.lease]
  simp only [Dump.value]
  cases dump.options.find? (·.name = "domain_name".toList) with
  | none => simp
  | some given =>
    simp only [Option.map_some, Option.mem_def, Option.some_inj, forall_eq']
    rw [← cut_eq_whole_iff]
    constructor
    · intro same
      by_contra other
      have mark : ':' ∈ given.whole := not_not.mp (mt (cut_eq_whole_iff given).mpr other)
      have filled : (!given.whole.isEmpty) = true := by simpa using List.ne_nil_of_mem mark
      rw [Option.filter_some (a := given.whole), if_pos filled] at same
      exact other (Option.some.inj (Option.filter_eq_some_iff.mp same).1)
    · intro same
      rw [same]

/-- The lease of a dump is what its options describe exactly where no other
option shadows one of them. -/
theorem parseGetpacket_lease_iff : parseGetpacket dump.text = dump.lease ↔ Unshadowed dump := by
  have fields : parseGetpacket dump.text = dump.lease ↔
      (parseGetpacket dump.text).messageType = dump.lease.messageType ∧
      (parseGetpacket dump.text).leaseSeconds = dump.lease.leaseSeconds ∧
      (parseGetpacket dump.text).serverIdentifier = dump.lease.serverIdentifier ∧
      (parseGetpacket dump.text).router = dump.lease.router ∧
      (parseGetpacket dump.text).domainNameServers = dump.lease.domainNameServers ∧
      (parseGetpacket dump.text).domainName = dump.lease.domainName := by
    cases parseGetpacket dump.text
    cases dump.lease
    exact DhcpLease.mk.injEq .. ▸ Iff.rfl
  rw [fields, read_domainName_iff, read_messageType, read_leaseSeconds, read_serverIdentifier,
    read_router, read_domainNameServers]
  constructor
  · rintro ⟨messageType, leaseSeconds, serverIdentifier, router, domainNameServers, domainName⟩
    exact ⟨messageType, leaseSeconds, serverIdentifier, router, domainNameServers, domainName⟩
  · rintro ⟨messageType, leaseSeconds, serverIdentifier, router, domainNameServers, domainName⟩
    exact ⟨messageType, leaseSeconds, serverIdentifier, router, domainNameServers, domainName⟩

/-- Two lines that differ in a hardware address, a server name or a boot file at most. -/
def SameButPrivate (line other : DumpLine) : Prop :=
  line = other ∨ ∃ key ∈ [HeaderKey.chaddr, .sname, .file], ∃ value value',
    line = .header key value ∧ other = .header key value'

theorem given_private {lines others : List DumpLine}
    (alike : List.Forall₂ SameButPrivate lines others) :
    lines.filterMap DumpLine.given? = others.filterMap DumpLine.given? := by
  induction alike with
  | nil => rfl
  | cons same _ ih =>
    rcases same with rfl | ⟨key, -, value, value', rfl, rfl⟩
    · rw [List.filterMap_cons, List.filterMap_cons, ih]
    · rw [List.filterMap_cons, List.filterMap_cons, ih]
      rfl

/-- What identifies the client, and what a vendor names, is not in the lease. -/
theorem parseGetpacket_private {other : Dump}
    (alike : List.Forall₂ SameButPrivate other.lines dump.lines) :
    parseGetpacket other.text = parseGetpacket dump.text := by
  rw [parseGetpacket_text, parseGetpacket_text, Dump.options, given_private alike, Dump.options]

/-- A dump is read option by option, and its private fields not at all, exactly where
no option shadows another. -/
theorem parseGetpacket_options_iff (dump : Dump) :
    (parseGetpacket dump.text = dump.lease ∧
      ∀ other : Dump, List.Forall₂ SameButPrivate other.lines dump.lines →
        parseGetpacket other.text = parseGetpacket dump.text) ↔ Unshadowed dump :=
  (and_iff_left fun _ alike => parseGetpacket_private alike).trans parseGetpacket_lease_iff

theorem solid_of_all {name : Str} (all : name.all (fun c => !isWhitespace c) = true) :
    ∀ c ∈ name, isWhitespace c = false :=
  fun c member => by simpa using List.all_eq_true.mp all c member

/-- A router that is solicited is read as the router, and a domain name
ends in front of its port. -/
theorem shadowed_options : ∃ dump : Dump,
    dump.text = ("chaddr = 20:7b:d2:72:35:80\nrouter (ip_mult): \x7b10.0.0.1\x7d\n" ++
      "router_solicitation_address (ip): 10.0.0.9\ndomain_name (string): corp:8443\n").toList ∧
    (parseGetpacket dump.text).router ≠ dump.lease.router ∧
    (parseGetpacket dump.text).domainName ≠ dump.lease.domainName := by
  let router : DhcpOption :=
    ⟨"router".toList, "ip_mult".toList, "\x7b10.0.0.1\x7d".toList, by decide,
      solid_of_all (by decide), by decide, by decide⟩
  let solicitation : DhcpOption :=
    ⟨"router_solicitation_address".toList, "ip".toList, "10.0.0.9".toList, by decide,
      solid_of_all (by decide), by decide, by decide⟩
  let domain : DhcpOption :=
    ⟨"domain_name".toList, "string".toList, "corp:8443".toList, by decide, solid_of_all (by decide),
      by decide, by decide⟩
  let dump : Dump :=
    ⟨[.header .chaddr ⟨"20:7b:d2:72:35:80".toList, by decide⟩, .option router, .option solicitation,
      .option domain], by decide⟩
  refine ⟨dump, by decide +kernel, ?_, ?_⟩
  · rw [read_router]
    decide
  · rw [read_domainName]
    decide

end Reading

end FragglePacket.NetworkTests
