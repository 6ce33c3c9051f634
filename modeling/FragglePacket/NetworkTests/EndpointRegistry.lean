import FragglePacket.NetworkTests.ListenerLease
import FragglePacket.Text.Fields

/-! The registry of iperf3 endpoints, and which of its listeners it hands out. The lower case of
a text is a parameter. -/

namespace FragglePacket.NetworkTests

open FragglePacket.Text

structure RegistryListener where
  host : String
  port : UInt16
  /-- What was observed when the listener was exercised. -/
  verified : Option String
  purpose : Option String
deriving DecidableEq

/-- A port that was exercised and did not work. -/
structure KnownBadPort where
  host : String
  port : Option UInt16
  ports : List UInt16
  outcome : String
deriving DecidableEq

def KnownBadPort.covers (bad : KnownBadPort) (host : String) (port : UInt16) : Bool :=
  if bad.host ≠ host then false else bad.port = some port || bad.ports.contains port

structure Provider where
  provider : String
  listeners : List RegistryListener
  knownBadPorts : List KnownBadPort
deriving DecidableEq

structure EndpointRegistry where
  providers : List Provider

inductive SelectionError where
  | unknownProvider (requested : String) (available : List String)
  | knownBad (host : String) (port : UInt16) (outcome : String)
  | noListenerForPurpose (provider purpose : String)
deriving DecidableEq

def SelectionError.message : SelectionError → String
  | unknownProvider requested available =>
    "no provider named '" ++ requested ++ "' in the registry; available: " ++
      if available.isEmpty then "none" else ", ".intercalate available
  | knownBad host port outcome =>
    host ++ ":" ++ toString port ++ " is recorded as a known-bad endpoint (" ++ outcome ++
      "); refusing to use it, since a repeat failure could be recorded as a network measurement rather than an endpoint one"
  | noListenerForPurpose provider purpose =>
    "provider '" ++ provider ++ "' has no verified listener for '" ++ purpose ++ "'"

def RegistryListener.matchesPurpose (toLowercase : Str → Str) (purpose : String)
    (listener : RegistryListener) : Bool :=
  listener.purpose.any fun served => contains (toLowercase served.toList)
    (toLowercase purpose.toList)

namespace EndpointRegistry

variable (toLowercase : Str → Str) (registry : EndpointRegistry)

def provider (name : String) : Option Provider := registry.providers.find? (·.provider = name)

def providerNames : List String := registry.providers.map (·.provider)

def isKnownBad (host : String) (port : UInt16) : Option KnownBadPort :=
  (registry.providers.flatMap (·.knownBadPorts)).find? (·.covers host port)

/-- The loop of `select`: the first listener that serves the purpose decides. -/
def pick (provider purpose : String) :
    List RegistryListener → Except SelectionError RegistryListener
  | [] => .error (.noListenerForPurpose provider purpose)
  | listener :: rest =>
    if !listener.matchesPurpose toLowercase purpose then pick provider purpose rest
    else
      match registry.isKnownBad listener.host listener.port with
      | some bad => .error (.knownBad listener.host listener.port bad.outcome)
      | none => .ok listener

/-- Picks a listener for a stated purpose, refusing a known-bad one. -/
def select (provider purpose : String) : Except SelectionError RegistryListener :=
  match registry.provider provider with
  | none => .error (.unknownProvider provider registry.providerNames)
  | some found => registry.pick toLowercase provider purpose found.listeners

/-- The listeners a pool may lease. -/
def allowlistFor (provider : String) : Except SelectionError (List AuthorizedListener) :=
  match registry.provider provider with
  | none => .error (.unknownProvider provider registry.providerNames)
  | some found =>
    .ok ((found.listeners.filter fun listener =>
      (registry.isKnownBad listener.host listener.port).isNone).map
      fun listener => ⟨listener.host, listener.port⟩)

/-- The listeners of the provider that goes by the name. -/
def listenersOf (provider : String) : List RegistryListener :=
  ((registry.provider provider).map (·.listeners)).getD []

/-- Nothing is recorded against the listener. -/
def good (listener : RegistryListener) : Bool :=
  (registry.isKnownBad listener.host listener.port).isNone

/-- A listener is handed out for the purpose when there is a good one, and then one of those,
and the allowlist has the good listeners that were verified. -/
structure HandsOutGood (provider purpose : String) : Prop where
  selects : (∃ listener, registry.select toLowercase provider purpose = .ok listener) ↔
    ∃ listener ∈ registry.listenersOf provider,
      listener.matchesPurpose toLowercase purpose = true ∧ registry.good listener = true
  selected : ∀ listener, registry.select toLowercase provider purpose = .ok listener →
    listener ∈ registry.listenersOf provider ∧ listener.matchesPurpose toLowercase purpose = true ∧
      registry.good listener = true
  allowed : ∀ allowlist, registry.allowlistFor provider = .ok allowlist →
    allowlist = ((registry.listenersOf provider).filter fun listener => listener.verified.isSome &&
      registry.good listener).map
      fun listener => ⟨listener.host, listener.port⟩

section Select
variable {toLowercase registry} {provider purpose : String}

theorem pick_eq (listeners : List RegistryListener) :
    registry.pick toLowercase provider purpose listeners =
      match listeners.find? (·.matchesPurpose toLowercase purpose) with
      | none => .error (.noListenerForPurpose provider purpose)
      | some listener =>
        match registry.isKnownBad listener.host listener.port with
        | some bad => .error (.knownBad listener.host listener.port bad.outcome)
        | none => .ok listener := by
  induction listeners with
  | nil => rfl
  | cons listener rest ih =>
    cases serves : listener.matchesPurpose toLowercase purpose with
    | true => simp [pick, serves]
    | false => simpa [pick, serves] using ih

/-- The listener that is selected is the first that serves the purpose, when nothing is
recorded against it. -/
theorem select_eq_ok_iff (listener : RegistryListener) :
    registry.select toLowercase provider purpose = .ok listener ↔
      (registry.listenersOf provider).find? (·.matchesPurpose toLowercase purpose) = some listener ∧
        registry.good listener = true := by
  rw [select, listenersOf]
  cases registry.provider provider with
  | none => simp
  | some found =>
    simp only [pick_eq, Option.map_some, Option.getD_some]
    cases found.listeners.find? (·.matchesPurpose toLowercase purpose) with
    | none => simp
    | some first =>
      cases recorded : registry.isKnownBad first.host first.port with
      | none =>
        simp only [recorded, Except.ok.injEq, Option.some.injEq]
        refine ⟨?_, And.left⟩
        rintro rfl
        simp [good, recorded]
      | some bad =>
        simp only [recorded, reduceCtorEq, Option.some.injEq, false_iff, not_and]
        rintro rfl
        simp [good, recorded]

theorem selects_iff : (∃ listener, registry.select toLowercase provider purpose = .ok listener) ↔
    ∃ listener, (registry.listenersOf provider).find? (·.matchesPurpose toLowercase purpose) =
      some listener ∧ registry.good listener = true :=
  exists_congr select_eq_ok_iff

theorem selected_good {listener : RegistryListener}
    (selected : registry.select toLowercase provider purpose = .ok listener) :
    listener ∈ registry.listenersOf provider ∧ listener.matchesPurpose toLowercase purpose = true ∧
      registry.good listener = true := by
  obtain ⟨first, good⟩ := (select_eq_ok_iff listener).mp selected
  exact ⟨List.mem_of_find?_eq_some first, List.find?_some first, good⟩

end Select

section Allowlist
variable {registry} {provider : String}

theorem allowlistFor_eq {allowlist : List AuthorizedListener}
    (allowed : registry.allowlistFor provider = .ok allowlist) :
    allowlist = ((registry.listenersOf provider).filter registry.good).map fun listener =>
      ⟨listener.host, listener.port⟩ := by
  rw [allowlistFor] at allowed
  rw [listenersOf]
  cases known : registry.provider provider with
  | none => simp [known] at allowed
  | some found =>
    simp only [known] at allowed
    exact (Except.ok.inj allowed).symm

/-- No listener against which something is recorded is ever on the allowlist. -/
theorem allowlistFor_good {allowlist : List AuthorizedListener}
    (allowed : registry.allowlistFor provider = .ok allowlist) {authorized : AuthorizedListener}
    (listed : authorized ∈ allowlist) :
    registry.isKnownBad authorized.host authorized.port = none := by
  rw [allowlistFor_eq allowed] at listed
  obtain ⟨listener, kept, rfl⟩ := List.mem_map.mp listed
  exact Option.isNone_iff_eq_none.mp (List.mem_filter.mp kept).2

theorem exists_allowlist {listener : RegistryListener}
    (listed : listener ∈ registry.listenersOf provider) :
    ∃ allowlist, registry.allowlistFor provider = .ok allowlist := by
  rw [listenersOf] at listed
  rw [allowlistFor]
  cases known : registry.provider provider with
  | none => simp [known] at listed
  | some found => exact ⟨_, rfl⟩

end Allowlist

/-- Good listeners, and only those, are handed out just when no first listener for the purpose
that is known bad hides a good one behind it, and every good listener was verified. -/
theorem handsOutGood_iff (toLowercase : Str → Str) (registry : EndpointRegistry)
    (provider purpose : String) :
    registry.HandsOutGood toLowercase provider purpose ↔
      (∀ first, (registry.listenersOf provider).find? (·.matchesPurpose toLowercase purpose) =
        some first → registry.good first = false → ∀ listener ∈ registry.listenersOf provider,
          listener.matchesPurpose toLowercase purpose = true → registry.good listener = false) ∧
      ∀ listener ∈ registry.listenersOf provider, registry.good listener = true →
        listener.verified.isSome = true := by
  constructor
  · rintro ⟨selects, -, allowed⟩
    constructor
    · intro first isFirst recorded listener listed serves
      by_contra good
      obtain ⟨other, isOther, otherGood⟩ :=
        selects_iff.mp (selects.mpr ⟨listener, listed, serves, by simpa using good⟩)
      obtain rfl := Option.some.inj (isFirst.symm.trans isOther)
      rw [recorded] at otherGood
      cases otherGood
    · intro listener listed good
      obtain ⟨allowlist, isAllowed⟩ := exists_allowlist listed
      have lengths :=
        congrArg List.length ((allowlistFor_eq isAllowed).symm.trans (allowed allowlist isAllowed))
      rw [List.length_map, List.length_map, ← List.filter_filter] at lengths
      exact List.length_filter_eq_length_iff.mp lengths.symm listener
        (List.mem_filter.mpr ⟨listed, good⟩)
  · rintro ⟨unhidden, verified⟩
    refine ⟨selects_iff.trans ⟨?_, ?_⟩, fun listener => selected_good, ?_⟩
    · rintro ⟨listener, isFirst, good⟩
      exact ⟨listener, List.mem_of_find?_eq_some isFirst, List.find?_some isFirst, good⟩
    · rintro ⟨listener, listed, serves, good⟩
      obtain ⟨first, isFirst⟩ :=
        Option.isSome_iff_exists.mp (List.find?_isSome.mpr ⟨listener, listed, serves⟩)
      refine ⟨first, isFirst, ?_⟩
      by_contra recorded
      rw [unhidden first isFirst (by simpa using recorded) listener listed serves] at good
      cases good
    · intro allowlist allowed
      rw [allowlistFor_eq allowed]
      refine congrArg _ (List.filter_congr fun listener listed => ?_)
      cases good : registry.good listener with
      | false => rw [Bool.and_false]
      | true => rw [verified listener listed good, Bool.and_true]

/-- The first upload listener is known bad, and the third was never verified. -/
def exampleRegistry : EndpointRegistry where
  providers := [{
    provider := "xmission"
    listeners := [⟨"speedtest.xmission.com", 5200, some "2026-08-01", some "upload"⟩,
      ⟨"speedtest.xmission.com", 5201, some "2026-08-01", some "upload"⟩,
      ⟨"speedtest.xmission.com", 5207, none, some "download"⟩]
    knownBadPorts := [⟨"speedtest.xmission.com", some 5200, [], "connection refused"⟩] }]

theorem good_listener_refused :
    exampleRegistry.select (List.map Char.toLower) "xmission" "upload" =
        .error (.knownBad "speedtest.xmission.com" 5200 "connection refused") ∧
      exampleRegistry.allowlistFor "xmission" =
        .ok [⟨"speedtest.xmission.com", 5201⟩, ⟨"speedtest.xmission.com", 5207⟩] ∧
      ¬ exampleRegistry.HandsOutGood (List.map Char.toLower) "xmission" "upload" := by
  have refused : exampleRegistry.select (List.map Char.toLower) "xmission" "upload" =
      .error (.knownBad "speedtest.xmission.com" 5200 "connection refused") := by decide +kernel
  refine ⟨refused, by decide +kernel, fun hands => ?_⟩
  have serves := hands.selects.mpr
    ⟨⟨"speedtest.xmission.com", 5201, some "2026-08-01", some "upload"⟩, by decide +kernel,
      by decide +kernel, by decide +kernel⟩
  obtain ⟨listener, selected⟩ := serves
  rw [refused] at selected
  cases selected

end EndpointRegistry

end FragglePacket.NetworkTests
