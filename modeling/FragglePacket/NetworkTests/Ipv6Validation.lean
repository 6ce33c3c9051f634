import FragglePacket.Net.AddressDisplay
import FragglePacket.Text.Pattern
import FragglePacket.Text.Tokens
import FragglePacket.Text.Unicode

/-! The layers of IPv6 one by one, and what the verdict makes of those that failed. -/

namespace FragglePacket.Net

def IpAddr.isIpv6 : IpAddr → Bool
  | v4 _ => false
  | v6 _ => true

end FragglePacket.Net

namespace FragglePacket.NetworkTests

open FragglePacket.Net FragglePacket.Text FragglePacket.Wire

/-- What the check of one layer found; a check that could not be made is not a failure. -/
inductive LayerState where
  | ok (detail : String)
  | failed (detail : String)
  | unavailable (reason : String) (requiredPrivilege : Option String)
  deriving DecidableEq

def LayerState.isNetworkFailure : LayerState → Bool
  | failed _ => true
  | _ => false

structure Ipv6Validation where
  interface : String
  interfaceIsTunnel : Bool
  globalAddress : LayerState
  linkLocalAddress : LayerState
  routerAdvertisement : LayerState
  dhcpv6 : LayerState
  defaultRoute : LayerState
  neighborDiscovery : LayerState
  dnsAaaa : LayerState
  nativeReachability : LayerState
  ipv6Pmtu : LayerState
  nat64Prefix : LayerState
  dns64 : LayerState
  ipv4Verdict : String
  ipv6Verdict : String
  notes : List String

namespace Ipv6Validation

def layers (v : Ipv6Validation) : List (String × LayerState) :=
  [("global_address", v.globalAddress), ("link_local_address", v.linkLocalAddress),
    ("router_advertisement", v.routerAdvertisement), ("dhcpv6", v.dhcpv6),
      ("default_route", v.defaultRoute),
    ("neighbor_discovery", v.neighborDiscovery), ("dns_aaaa", v.dnsAaaa),
      ("native_reachability", v.nativeReachability),
    ("ipv6_pmtu", v.ipv6Pmtu), ("nat64_prefix", v.nat64Prefix), ("dns64", v.dns64)]

def failedLayers (v : Ipv6Validation) : List String :=
  (v.layers.filter (·.2.isNetworkFailure)).map (·.1)

end Ipv6Validation

/-- The first addresses of each kind that an interface shows. -/
structure Inet6 where
  globalAddr : Option Str
  linkLocal : Option Str

def readInet6 (tables : CaseTables) (found : Inet6) (line : Str) : Inet6 :=
  let line := trim line
  let addr := (((splitWhitespace line)[1]?.getD []).splitOn '%').headD []
  if !"inet6 ".toList.isPrefixOf line then found
  else if addr.isEmpty then found
  else if "fe80".toList.isPrefixOf (tables.toLowercase addr) then
    { found with linkLocal := found.linkLocal.or (some addr) }
  else { found with globalAddr := found.globalAddr.or (some addr) }

def parseInet6 (tables : CaseTables) (text : Str) : Inet6 :=
  (lines text).foldl (readInet6 tables) ⟨none, none⟩

/-- The prefix in front of one of the two addresses of `ipv4only.arpa`. -/
def nat64PrefixFromAnswer (addr : Str) : Option Str :=
  (parseIpv6 addr).bind fun parsed =>
    let embedded := parsed.octets.toList.drop 12
    if embedded = [192, 0, 0, 170] ∨ embedded = [192, 0, 0, 171] then
      some (groupsText (parsed.segments.toList.take 6) ++ "::/96".toList)
    else none

structure CommandOutput where
  success : Bool
  stdout : Bytes

/-- What surrounds a run: the commands for the interface, the route and the neighbors, each with its
output or the error it did not start with; the answers to a lookup by its place in the run; and the
hosts that take a connection at a port in a time. -/
structure Ipv6Environment where
  tables : CaseTables
  ifconfig : Except String CommandOutput
  route : Except String CommandOutput
  ndp : Except String CommandOutput
  toSocketAddrs : Nat → String → Option (List IpAddr)
  tcpReachable : IpAddr → Nat → Nat → Bool

namespace Ipv6Environment
variable (env : Ipv6Environment)

/-- The text of the interface, where the command succeeds. -/
def ifconfigText : Option Str :=
  match env.ifconfig with
  | .ok out => if out.success then some (fromUtf8Lossy out.stdout) else none
  | .error _ => none

def inet6 : Inet6 := (env.ifconfigText.map (parseInet6 env.tables)).getD ⟨none, none⟩

def resolveFamily (lookup : Nat) (host : String) (wantV6 : Bool) : List IpAddr :=
  ((env.toSocketAddrs lookup host).getD []).filter fun ip => ip.isIpv6 == wantV6

def isTunnel (interface : String) : Bool :=
  let i := env.tables.toLowercase interface.toList
  "utun".toList.isPrefixOf i || "tun".toList.isPrefixOf i || "ppp".toList.isPrefixOf i ||
    "ipsec".toList.isPrefixOf i

end Ipv6Environment

section Layers

def globalAddressLayer : Option Str → LayerState
  | some a => .ok ("global address configured: " ++ String.ofList a)
  | none =>
    .failed "no global IPv6 address on this interface (SLAAC produced none and none is static)"

def linkLocalAddressLayer : Option Str → LayerState
  | some _ => .ok "link-local address present"
  | none => .failed "no link-local IPv6 address, so the stack is not up"

def routerAdvertisementLayer (globalAddr : Option Str) (interface : String) : LayerState :=
  if globalAddr.isSome then
    .ok ("a global address exists, which implies an RA with the autonomous flag was received; " ++
      "RA contents and lifetimes were not read directly")
  else
    .unavailable "router advertisement contents and lifetimes require listening for raw ICMPv6"
      (some ("sudo tcpdump -i " ++ interface ++ " -n 'icmp6 && ip6[40] == 134'"))

def dhcpv6Layer : LayerState :=
  .unavailable
    ("macOS exposes no unprivileged DHCPv6 client state; stateful DHCPv6 versus SLAAC " ++
    "cannot be distinguished from here") none

def defaultRouteLayer : Except String CommandOutput → LayerState
  | .ok o =>
    if o.success && !(trim (fromUtf8Lossy o.stdout)).isEmpty then
      .ok "an IPv6 default route is installed"
    else
      .failed ("no IPv6 default route installed, so no off-link IPv6 destination is reachable " ++
        "regardless of address configuration")
  | .error e => .unavailable ("could not query the routing table: " ++ e) none

/-- The lines of the neighbor cache behind its header that are not blank. -/
def neighborEntries (stdout : Bytes) : Nat :=
  (((lines (fromUtf8Lossy stdout)).drop 1).filter fun l => !(trim l).isEmpty).length

def neighborDiscoveryLayer : Except String CommandOutput → LayerState
  | .ok o =>
    if o.success then
      if 0 < neighborEntries o.stdout then
        .ok (toString (neighborEntries o.stdout) ++ " neighbor cache entries present")
      else .failed "neighbor cache is empty, so no IPv6 neighbor was resolved"
    else .unavailable "ndp is unavailable on this platform" none
  | .error _ => .unavailable "ndp is unavailable on this platform" none

def dnsAaaaLayer (v6Answers : List IpAddr) (probeHost : String) : LayerState :=
  if v6Answers.isEmpty then .failed ("no AAAA record returned for " ++ probeHost)
  else .ok (toString v6Answers.length ++ " AAAA answer(s) returned for " ++ probeHost)

def nativeReachabilityLayer (globalAddr : Option Str) (reachable : IpAddr → Bool) :
    List IpAddr → LayerState
  | [] => .unavailable "no AAAA answer to test reachability against" none
  | first :: _ =>
    if globalAddr.isNone then
      .unavailable
        ("no source address available, so an IPv6 connection cannot be attempted; this " ++
        "is a local stack limitation, not proof the destination is unreachable") none
    else if reachable first then .ok "TCP/443 completed over IPv6"
    else .failed "TCP/443 over IPv6 did not complete"

def ipv6PmtuLayer : LayerState → LayerState
  | .ok _ =>
    .unavailable ("IPv6 PMTU/PLPMTUD probing is not implemented in this command; use `quic` for " ++
      "response-validated path MTU") none
  | _ => .unavailable "no working IPv6 path to probe PMTU over" none

/-- The layers of the prefix and of the resolver, out of the answers for `ipv4only.arpa`. -/
def nat64Layers (answers : List IpAddr) : LayerState × LayerState :=
  if answers.isEmpty then
    (.failed "ipv4only.arpa returned no AAAA, so no NAT64 prefix is advertised by this resolver",
      .failed "resolver does not synthesize DNS64 answers")
  else
    match answers.findSome? fun a => nat64PrefixFromAnswer a.text with
    | some p => (.ok ("NAT64 prefix " ++ String.ofList p), .ok "resolver synthesizes DNS64 answers")
    | none =>
      (.unavailable ("ipv4only.arpa returned AAAA answers that do not embed the " ++
        "well-known IPv4 addresses, so no prefix could be derived") none,
          .ok "resolver returned a synthesized answer")

end Layers

def ipv4VerdictOf (reachable : IpAddr → Bool) : List IpAddr → String
  | [] => "IPv4: no A record returned; not evaluated further"
  | first :: _ =>
    if reachable first then "IPv4: usable (TCP/443 completed)"
    else "IPv4: A record resolved but TCP/443 did not complete"

def unusable : String := "IPv6: unusable; failing layer(s): "

def ipv6VerdictOf (failed : List String) : String :=
  if failed.isEmpty then "IPv6: no layer failed" else unusable ++ ", ".intercalate failed

def tunnelNote (interface : String) : String :=
  "interface '" ++ interface ++
    "' is a tunnel; tunnels frequently carry no IPv6 at all, so an absent " ++
    "address here may describe the tunnel rather than the physical network. Re-run against " ++
    "the physical interface before concluding the network lacks IPv6."

/-- The three lookups are for the probe host in both families and for `ipv4only.arpa`. -/
def validate (env : Ipv6Environment) (interface probeHost : String)
    (timeout : Nat) : Ipv6Validation :=
  let tunnel := env.isTunnel interface
  let inet6 := env.inet6
  let reachable := fun ip => env.tcpReachable ip 443 timeout
  let v6Answers := env.resolveFamily 0 probeHost true
  let v4Answers := env.resolveFamily 1 probeHost false
  let nativeReachability := nativeReachabilityLayer inet6.globalAddr reachable v6Answers
  let nat64 := nat64Layers (env.resolveFamily 2 "ipv4only.arpa" true)
  let v : Ipv6Validation := {
    interface := interface
    interfaceIsTunnel := tunnel
    globalAddress := globalAddressLayer inet6.globalAddr
    linkLocalAddress := linkLocalAddressLayer inet6.linkLocal
    routerAdvertisement := routerAdvertisementLayer inet6.globalAddr interface
    dhcpv6 := dhcpv6Layer
    defaultRoute := defaultRouteLayer env.route
    neighborDiscovery := neighborDiscoveryLayer env.ndp
    dnsAaaa := dnsAaaaLayer v6Answers probeHost
    nativeReachability := nativeReachability
    ipv6Pmtu := ipv6PmtuLayer nativeReachability
    nat64Prefix := nat64.1
    dns64 := nat64.2
    ipv4Verdict := ipv4VerdictOf reachable v4Answers
    ipv6Verdict := ""
    notes := if tunnel then [tunnelNote interface] else [] }
  { v with ipv6Verdict := ipv6VerdictOf v.failedLayers }

/-- What a reader of the verdict takes for the layers that fail. -/
def failingLayers (verdict : String) : List String :=
  match stripPrefix unusable.toList verdict.toList with
  | some listed => (listed.splitOn ',').map fun piece => String.ofList (piece.dropWhile (· == ' '))
  | none => []

def SaysUnusable (verdict : String) : Prop := contains verdict.toList "unusable".toList = true

section Verdict
variable {failed : List String}

theorem saysUnusable_iff : SaysUnusable (ipv6VerdictOf failed) ↔ failed ≠ [] := by
  cases failed with
  | nil => exact iff_of_false (by simp only [SaysUnusable]; decide) (by simp)
  | cons name names =>
    have named : unusable.toList =
        "IPv6: ".toList ++ ("unusable".toList ++ "; failing layer(s): ".toList) := by decide
    refine iff_of_true ?_ (List.cons_ne_nil name names)
    refine contains_iff_infix.mpr ⟨"IPv6: ".toList, "; failing layer(s): ".toList ++
      (", ".intercalate (name :: names)).toList, ?_⟩
    rw [ipv6VerdictOf, if_neg (by simp), String.toList_append, named, List.append_assoc,
      List.append_assoc]

/-- A name that stands as it is in a list. -/
def Listable (name : String) : Prop := ',' ∉ name.toList ∧ name.toList.head? ≠ some ' '

theorem Listable.dropWhile {name : String} (plain : Listable name) :
    name.toList.dropWhile (· == ' ') = name.toList := by
  cases letters : name.toList with
  | nil => rfl
  | cons c rest =>
    have other : (c == ' ') = false :=
      beq_false_of_ne fun blank => plain.2 (by rw [letters, blank]; rfl)
    rw [List.dropWhile_cons_of_neg (by simp [other])]

/-- The reader finds the layers the verdict was made of. -/
theorem failingLayers_ipv6VerdictOf (plain : ∀ name ∈ failed, Listable name) :
    failingLayers (ipv6VerdictOf failed) = failed := by
  cases failed with
  | nil => rfl
  | cons name names =>
    obtain ⟨first, others⟩ := List.forall_mem_cons.mp plain
    have listed : (", ".intercalate (name :: names)).toList.splitOn ',' =
        name.toList :: (names.map String.toList).map ([' '] ++ ·) := by
      rw [String.toList_intercalate, show ", ".toList = [',', ' '] by decide]
      refine splitOn_joined first.1 (by decide) ?_
      simpa using fun other member => (others other member).1
    have bare (other : String) (member : other ∈ names) :
        String.ofList (([' '] ++ other.toList).dropWhile (· == ' ')) = other := by
      rw [List.singleton_append, List.dropWhile_cons_of_pos (by decide),
        (others other member).dropWhile, String.ofList_toList]
    rw [failingLayers, ipv6VerdictOf, if_neg (by simp), String.toList_append, stripPrefix_append]
    simp only [listed, List.map_cons, List.map_map, first.dropWhile, String.ofList_toList]
    congr 1
    exact (List.map_congr_left bare).trans (List.map_id names)

end Verdict

namespace Ipv6Validation
variable {v : Ipv6Validation}

theorem mem_failedLayers {name : String} :
    name ∈ v.failedLayers ↔ ∃ detail, (name, LayerState.failed detail) ∈ v.layers := by
  simp only [failedLayers, List.mem_map, List.mem_filter, Prod.exists]
  constructor
  · rintro ⟨_, state, ⟨member, failing⟩, rfl⟩
    cases state with
    | ok _ => cases failing
    | failed detail => exact ⟨detail, member⟩
    | unavailable _ _ => cases failing
  · rintro ⟨detail, member⟩
    exact ⟨name, _, ⟨member, rfl⟩, rfl⟩

theorem failedLayers_listable : ∀ name ∈ v.failedLayers, Listable name := by
  intro name failed
  obtain ⟨detail, member⟩ := mem_failedLayers.mp failed
  have named : name ∈ v.layers.map (·.1) := List.mem_map_of_mem member
  simp only [layers, List.map_cons, List.map_nil, List.mem_cons, List.not_mem_nil,
    or_false] at named
  rcases named with rfl | rfl | rfl | rfl | rfl | rfl | rfl | rfl | rfl | rfl | rfl <;>
    exact ⟨by decide, by decide⟩

theorem failedLayers_eq_nil_iff :
    v.failedLayers = [] ↔ ∀ entry ∈ v.layers, entry.2.isNetworkFailure = false := by
  simp only [failedLayers, List.map_eq_nil_iff, List.filter_eq_nil_iff, Bool.not_eq_true]

end Ipv6Validation

section States

theorem linkLocalAddressLayer_unfailing (addr : Option Str) :
    (linkLocalAddressLayer addr).isNetworkFailure = false ↔ addr.isSome = true := by
  cases addr <;> simp [linkLocalAddressLayer, LayerState.isNetworkFailure]

theorem routerAdvertisementLayer_unfailing (addr : Option Str) (interface : String) :
    (routerAdvertisementLayer addr interface).isNetworkFailure = false := by
  cases addr <;> rfl

theorem defaultRouteLayer_unfailing (route : Except String CommandOutput) :
    (defaultRouteLayer route).isNetworkFailure = false ↔
      ∀ o, route = .ok o → o.success = true ∧ trim (fromUtf8Lossy o.stdout) ≠ [] := by
  cases route with
  | error e => exact iff_of_true rfl (by simp)
  | ok o =>
    have routed : (o.success && !(trim (fromUtf8Lossy o.stdout)).isEmpty) = true ↔
        o.success = true ∧ trim (fromUtf8Lossy o.stdout) ≠ [] := by simp
    simp only [Except.ok.injEq, forall_eq', defaultRouteLayer, ← routed]
    split <;> simp_all [LayerState.isNetworkFailure]

theorem neighborDiscoveryLayer_unfailing (ndp : Except String CommandOutput) :
    (neighborDiscoveryLayer ndp).isNetworkFailure = false ↔
      ∀ o, ndp = .ok o → o.success = true → 0 < neighborEntries o.stdout := by
  cases ndp with
  | error e => exact iff_of_true rfl (by simp)
  | ok o =>
    simp only [Except.ok.injEq, forall_eq', neighborDiscoveryLayer]
    cases o.success with
    | false => exact iff_of_true rfl (by simp)
    | true =>
      by_cases entries : 0 < neighborEntries o.stdout
      · simp [entries, LayerState.isNetworkFailure]
      · simp [entries, LayerState.isNetworkFailure]

theorem nat64Layers_unfailing (answers : List IpAddr) :
    ((nat64Layers answers).1.isNetworkFailure = false ↔ answers ≠ []) ∧
      ((nat64Layers answers).2.isNetworkFailure = false ↔ answers ≠ []) := by
  cases answers with
  | nil =>
    exact ⟨by simp [nat64Layers, LayerState.isNetworkFailure],
      by simp [nat64Layers, LayerState.isNetworkFailure]⟩
  | cons first rest =>
    rw [nat64Layers, if_neg (by simp)]
    cases (first :: rest).findSome? fun a => nat64PrefixFromAnswer a.text with
    | none => exact ⟨iff_of_true rfl (by simp), iff_of_true rfl (by simp)⟩
    | some p => exact ⟨iff_of_true rfl (by simp), iff_of_true rfl (by simp)⟩

theorem ipv6PmtuLayer_unfailing (native : LayerState) :
    (ipv6PmtuLayer native).isNetworkFailure = false := by
  cases native <;> rfl

/-- The layer is fine exactly where there is an address, and the first
answer takes the connection. -/
theorem nativeReachabilityLayer_ok_iff (addr : Option Str) (reachable : IpAddr → Bool)
    (answers : List IpAddr) :
    (∃ detail, nativeReachabilityLayer addr reachable answers = .ok detail) ↔
      addr.isSome = true ∧ ∃ first ∈ answers.head?, reachable first = true := by
  cases answers with
  | nil => simp [nativeReachabilityLayer]
  | cons first rest =>
    cases addr with
    | none => simp [nativeReachabilityLayer]
    | some addr => cases through : reachable first <;> simp [nativeReachabilityLayer, through]

end States

namespace Ipv6Environment

/-- A connection over IPv6 comes about. -/
def Native (env : Ipv6Environment) (probeHost : String) (timeout : Nat) : Prop :=
  env.inet6.globalAddr.isSome = true ∧
    ∃ first ∈ (env.resolveFamily 0 probeHost true).head?, env.tcpReachable first 443 timeout = true

/-- What the layers that say nothing of the connection ask for. -/
structure Supported (env : Ipv6Environment) : Prop where
  linkLocal : env.inet6.linkLocal.isSome = true
  route : ∀ o, env.route = .ok o → o.success = true ∧ trim (fromUtf8Lossy o.stdout) ≠ []
  neighbors : ∀ o, env.ndp = .ok o → o.success = true → 0 < neighborEntries o.stdout
  nat64 : env.resolveFamily 2 "ipv4only.arpa" true ≠ []

end Ipv6Environment

/-- Over a connection that comes about, only layers beside it can fail. -/
theorem validate_unfailing_iff {env : Ipv6Environment} {probeHost : String} {timeout : Nat}
    (native : env.Native probeHost timeout) (interface : String) :
    (validate env interface probeHost timeout).failedLayers = [] ↔ env.Supported := by
  obtain ⟨detail, reached⟩ := (nativeReachabilityLayer_ok_iff _ _ _).mpr native
  obtain ⟨addressed, first, answer, _⟩ := native
  have own : (globalAddressLayer env.inet6.globalAddr).isNetworkFailure = false := by
    obtain ⟨addr, found⟩ := Option.isSome_iff_exists.mp addressed
    rw [found]
    rfl
  have resolved : (dnsAaaaLayer (env.resolveFamily 0 probeHost true) probeHost).isNetworkFailure =
      false := by
    cases answers : env.resolveFamily 0 probeHost true with
    | nil => simp [answers] at answer
    | cons _ _ => rfl
  have fine : (LayerState.ok detail).isNetworkFailure = false := rfl
  have dhcp : dhcpv6Layer.isNetworkFailure = false := rfl
  rw [Ipv6Validation.failedLayers_eq_nil_iff]
  simp only [Ipv6Validation.layers, validate, List.forall_mem_cons, List.not_mem_nil,
    IsEmpty.forall_iff, implies_true, reached, own, resolved, fine, dhcp,
    routerAdvertisementLayer_unfailing, ipv6PmtuLayer_unfailing, linkLocalAddressLayer_unfailing,
    defaultRouteLayer_unfailing, neighborDiscoveryLayer_unfailing, (nat64Layers_unfailing _).1,
    (nat64Layers_unfailing _).2, true_and, and_true, and_self]
  exact ⟨fun ⟨linkLocal, route, neighbors, nat64⟩ => ⟨linkLocal, route, neighbors, nat64⟩,
    fun supported => ⟨supported.linkLocal, supported.route, supported.neighbors, supported.nat64⟩⟩

/-- A connection over IPv6 keeps the verdict from saying unusable, and the verdict lists the layers
that failed, exactly where a connection that comes about has the layers beside it too. -/
theorem validate_usable_iff (env : Ipv6Environment) (interface probeHost : String) (timeout : Nat) :
    (((∃ detail, (validate env interface probeHost timeout).nativeReachability = .ok detail) →
        ¬ SaysUnusable (validate env interface probeHost timeout).ipv6Verdict) ∧
      ∀ name, name ∈ failingLayers (validate env interface probeHost timeout).ipv6Verdict ↔
        ∃ detail, (name, LayerState.failed detail) ∈
          (validate env interface probeHost timeout).layers) ↔
      (env.Native probeHost timeout → env.Supported) := by
  have reached : (∃ detail, (validate env interface probeHost timeout).nativeReachability =
      .ok detail) ↔
      env.Native probeHost timeout := nativeReachabilityLayer_ok_iff _ _ _
  have verdict : (validate env interface probeHost timeout).ipv6Verdict =
      ipv6VerdictOf (validate env interface probeHost timeout).failedLayers := rfl
  have listed :
      ∀ name, name ∈ failingLayers (validate env interface probeHost timeout).ipv6Verdict ↔
      ∃ detail, (name, LayerState.failed detail) ∈
        (validate env interface probeHost timeout).layers := by
    intro name
    rw [verdict, failingLayers_ipv6VerdictOf Ipv6Validation.failedLayers_listable]
    exact Ipv6Validation.mem_failedLayers
  rw [and_iff_left listed, reached, verdict, saysUnusable_iff, not_not]
  exact imp_congr_right fun native => validate_unfailing_iff native interface

/-- A network with addresses, a route, a neighbor and a host that answers, but without NAT64. -/
def plainNetwork : Ipv6Environment where
  tables := .ascii
  ifconfig := .ok ⟨true, encodeUtf8 "inet6 fe80::1%en0\ninet6 2001:db8::5".toList⟩
  route := .ok ⟨true, encodeUtf8 "route to: default".toList⟩
  ndp := .ok ⟨true, encodeUtf8 "Neighbor\nfe80::2".toList⟩
  toSocketAddrs lookup _ :=
    if lookup = 2 then some [] else some [.v6 (.ofSegments (.replicate 8 1))]
  tcpReachable _ _ _ := true

theorem plainNetwork_unusable :
    (∃ detail, (validate plainNetwork "en0" "example.com" 3000).nativeReachability = .ok detail) ∧
      SaysUnusable (validate plainNetwork "en0" "example.com" 3000).ipv6Verdict := by
  have addressed : plainNetwork.inet6.globalAddr = some "2001:db8::5".toList := by
    rw [Ipv6Environment.inet6, show plainNetwork.ifconfigText =
      some "inet6 fe80::1%en0\ninet6 2001:db8::5".toList from
      congrArg some (fromUtf8Lossy_encodeUtf8 _)]
    rfl
  have answers : plainNetwork.resolveFamily 0 "example.com" true =
      [.v6 (.ofSegments (.replicate 8 1))] := rfl
  have native : plainNetwork.Native "example.com" 3000 := by
    rw [Ipv6Environment.Native, addressed, answers]
    exact ⟨rfl, _, rfl, rfl⟩
  refine ⟨(nativeReachabilityLayer_ok_iff _ _ _).mpr native, saysUnusable_iff.mpr fun none => ?_⟩
  exact ((validate_unfailing_iff native "en0").mp none).nat64 rfl

end FragglePacket.NetworkTests
