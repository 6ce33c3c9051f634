import Mathlib.Data.Finset.Card
import Mathlib.Data.List.Nodup
import FragglePacket.Systems.Runs

/-! Leases of authorized listeners from a pool with a concurrency cap. -/

namespace FragglePacket.NetworkTests

open FragglePacket.Systems

structure AuthorizedListener where
  host : String
  port : UInt16
deriving DecidableEq

inductive LeaseError where
  | portNotAuthorized (port : UInt16)
  | allListenersInUse
  | concurrencyCapReached (cap : Nat)
deriving DecidableEq

/-- The pool. `inUse` is the set behind its mutex. -/
structure ListenerPool where
  allowlist : List AuthorizedListener
  inUse : Finset UInt16
  maxConcurrency : Nat
deriving DecidableEq

structure ListenerLease where
  listener : AuthorizedListener
deriving DecidableEq

namespace ListenerPool

def new (allowlist : List AuthorizedListener) (maxConcurrency : Nat) : ListenerPool :=
  ⟨allowlist, ∅, maxConcurrency⟩

/-- Leases the first authorized listener whose port is free. -/
def lease (pool : ListenerPool) : Except LeaseError ListenerLease × ListenerPool :=
  match pool.allowlist.find? fun listener => listener.port ∉ pool.inUse with
  | none => (.error .allListenersInUse, pool)
  | some listener =>
    if pool.maxConcurrency ≤ pool.inUse.card then
      (.error (.concurrencyCapReached pool.maxConcurrency), pool)
    else (.ok ⟨listener⟩, { pool with inUse := insert listener.port pool.inUse })

def leaseSpecific (pool : ListenerPool) (port : UInt16) :
    Except LeaseError ListenerLease × ListenerPool :=
  match pool.allowlist.find? fun listener => listener.port = port with
  | none => (.error (.portNotAuthorized port), pool)
  | some listener =>
    if pool.maxConcurrency ≤ pool.inUse.card then
      (.error (.concurrencyCapReached pool.maxConcurrency), pool)
    else if port ∈ pool.inUse then (.error .allListenersInUse, pool)
    else (.ok ⟨listener⟩, { pool with inUse := insert port pool.inUse })

/-- What dropping a lease does to the pool. -/
def drop (pool : ListenerPool) (lease : ListenerLease) : ListenerPool :=
  { pool with inUse := pool.inUse.erase lease.listener.port }

variable {pool : ListenerPool} {attempt : Except LeaseError ListenerLease × ListenerPool}

/-- An attempt that fails and leaves the pool alone, or takes a free port below the cap. -/
inductive Acquires (pool : ListenerPool) : Except LeaseError ListenerLease × ListenerPool → Prop
  | refused (error : LeaseError) : Acquires pool (.error error, pool)
  | granted (listener : AuthorizedListener) (authorized : listener ∈ pool.allowlist)
      (free : listener.port ∉ pool.inUse) (below : pool.inUse.card < pool.maxConcurrency) :
      Acquires pool (.ok ⟨listener⟩, { pool with inUse := insert listener.port pool.inUse })

theorem lease_acquires (pool : ListenerPool) : pool.Acquires pool.lease := by
  rw [lease]
  split
  · exact .refused .allListenersInUse
  · rename_i listener found
    split
    · exact .refused (.concurrencyCapReached pool.maxConcurrency)
    · rename_i below
      have free := List.find?_some found
      exact .granted listener (List.mem_of_find?_eq_some found) (of_decide_eq_true free)
        (Nat.lt_of_not_le below)

theorem leaseSpecific_acquires (pool : ListenerPool) (port : UInt16) :
    pool.Acquires (pool.leaseSpecific port) := by
  rw [leaseSpecific]
  split
  · exact .refused (.portNotAuthorized port)
  · rename_i listener found
    obtain rfl : listener.port = port := by simpa using List.find?_some found
    split
    · exact .refused (.concurrencyCapReached pool.maxConcurrency)
    · rename_i below
      split
      · exact .refused .allListenersInUse
      · rename_i free
        exact .granted listener (List.mem_of_find?_eq_some found) free (Nat.lt_of_not_le below)

end ListenerPool

/-- The pool and the live leases. Who holds a lease makes no difference to the pool. -/
structure Leasing where
  pool : ListenerPool
  live : List ListenerLease
deriving DecidableEq

inductive LeaseOperation where
  | lease
  | leaseSpecific (port : UInt16)
  | drop (index : Nat)

namespace Leasing

def new (allowlist : List AuthorizedListener) (maxConcurrency : Nat) : Leasing :=
  ⟨ListenerPool.new allowlist maxConcurrency, []⟩

def acquire (leasing : Leasing) : Except LeaseError ListenerLease × ListenerPool → Leasing
  | (.ok lease, pool) => ⟨pool, leasing.live ++ [lease]⟩
  | (.error _, pool) => ⟨pool, leasing.live⟩

/-- One operation under the pool's mutex. Only a live lease can be dropped. -/
def step (leasing : Leasing) : LeaseOperation → Option Leasing
  | .lease => some (leasing.acquire leasing.pool.lease)
  | .leaseSpecific port => some (leasing.acquire (leasing.pool.leaseSpecific port))
  | .drop index =>
    leasing.live[index]?.map fun lease => ⟨leasing.pool.drop lease, leasing.live.eraseIdx index⟩

def ports (leasing : Leasing) : List UInt16 := leasing.live.map (·.listener.port)

/-- The set of ports in use is the set of ports of the live leases. -/
structure Accounted (allowlist : List AuthorizedListener) (maxConcurrency : Nat)
    (leasing : Leasing) : Prop where
  sameAllowlist : leasing.pool.allowlist = allowlist
  sameCap : leasing.pool.maxConcurrency = maxConcurrency
  inUse : leasing.pool.inUse = leasing.ports.toFinset
  distinct : leasing.ports.Nodup
  capped : leasing.live.length ≤ maxConcurrency
  authorized : ∀ lease ∈ leasing.live, lease.listener ∈ allowlist

variable {allowlist : List AuthorizedListener} {maxConcurrency : Nat} {leasing next : Leasing}

theorem new_accounted : (new allowlist maxConcurrency).Accounted allowlist maxConcurrency where
  sameAllowlist := rfl
  sameCap := rfl
  inUse := rfl
  distinct := List.nodup_nil
  capped := Nat.zero_le maxConcurrency
  authorized := by simp [new]

theorem Accounted.card (accounted : leasing.Accounted allowlist maxConcurrency) :
    leasing.pool.inUse.card = leasing.live.length := by
  rw [accounted.inUse, List.toFinset_card_of_nodup accounted.distinct, ports, List.length_map]

theorem pool_granted (lease : ListenerLease) (pool : ListenerPool) :
    (leasing.acquire (.ok lease, pool)).pool = pool := rfl

theorem ports_granted (lease : ListenerLease) (pool : ListenerPool) :
    (leasing.acquire (.ok lease, pool)).ports = leasing.ports ++ [lease.listener.port] := by
  simp [Leasing.acquire, ports]

theorem Accounted.acquire (accounted : leasing.Accounted allowlist maxConcurrency)
    {attempt : Except LeaseError ListenerLease × ListenerPool}
    (acquires : leasing.pool.Acquires attempt) :
    (leasing.acquire attempt).Accounted allowlist maxConcurrency := by
  cases acquires with
  | refused error => exact accounted
  | granted listener authorized free below =>
    have fresh : listener.port ∉ leasing.ports := by simpa [accounted.inUse] using free
    rw [accounted.card, accounted.sameCap] at below
    refine ⟨accounted.sameAllowlist, accounted.sameCap, ?_, ?_, ?_, ?_⟩
    · ext port
      simp only [ports_granted, pool_granted, accounted.inUse]
      simp
    · rw [ports_granted, ← List.concat_eq_append]
      exact accounted.distinct.concat fresh
    · simp only [Leasing.acquire, List.length_append, List.length_singleton]
      exact below
    · intro lease live
      rcases List.mem_append.mp live with earlier | last
      · exact accounted.authorized lease earlier
      · rw [List.mem_singleton.mp last, ← accounted.sameAllowlist]
        exact authorized

theorem Accounted.drop (accounted : leasing.Accounted allowlist maxConcurrency) {index : Nat}
    {lease : ListenerLease} (live : leasing.live[index]? = some lease) :
    Accounted allowlist maxConcurrency ⟨leasing.pool.drop lease, leasing.live.eraseIdx index⟩ := by
  obtain ⟨inside, rfl⟩ := List.getElem?_eq_some_iff.mp live
  have remaining : (leasing.live.eraseIdx index).map (·.listener.port) =
      leasing.ports.erase leasing.live[index].listener.port := by
    have erased := accounted.distinct.erase_getElem index (by simpa [ports] using inside)
    simp only [ports, List.getElem_map] at erased
    rw [ports, erased, List.eraseIdx_map]
  refine ⟨accounted.sameAllowlist, accounted.sameCap, ?_, ?_, ?_, ?_⟩
  · ext port
    simp only [ListenerPool.drop, ports, remaining, accounted.inUse, Finset.mem_erase,
      List.mem_toFinset]
    exact accounted.distinct.mem_erase_iff.symm
  · simp only [ports, remaining]
    exact accounted.distinct.erase _
  · exact (List.length_eraseIdx_le leasing.live index).trans accounted.capped
  · intro other remains
    exact accounted.authorized other (List.mem_of_mem_eraseIdx remains)

theorem step_accounted {operation : LeaseOperation} (stepped : leasing.step operation = some next)
    (accounted : leasing.Accounted allowlist maxConcurrency) :
    next.Accounted allowlist maxConcurrency := by
  cases operation with
  | lease =>
    obtain rfl := Option.some.inj stepped
    exact accounted.acquire leasing.pool.lease_acquires
  | leaseSpecific port =>
    obtain rfl := Option.some.inj stepped
    exact accounted.acquire (leasing.pool.leaseSpecific_acquires port)
  | drop index =>
    obtain ⟨lease, live, rfl⟩ := Option.map_eq_some_iff.mp stepped
    exact accounted.drop live

/-- The states that any interleaving of the operations reaches. -/
def Reachable (allowlist : List AuthorizedListener) (maxConcurrency : Nat)
    (leasing : Leasing) : Prop :=
  ∃ operations, runFrom step (new allowlist maxConcurrency) operations = some leasing

theorem Reachable.accounted (reachable : Reachable allowlist maxConcurrency leasing) :
    leasing.Accounted allowlist maxConcurrency := by
  obtain ⟨operations, reached⟩ := reachable
  exact state_invariant new_accounted (fun _ _ _ => step_accounted) reached

theorem acquire_refused {attempt : Except LeaseError ListenerLease × ListenerPool}
    (acquires : leasing.pool.Acquires attempt) {error : LeaseError} {pool : ListenerPool}
    (refused : attempt = (.error error, pool)) :
    leasing.acquire attempt = leasing := by
  cases acquires with
  | refused other => rfl
  | granted listener authorized free below => cases refused

/-- Whatever order the holders' operations come in, the pool accounts for the live leases, a
refused acquisition changes nothing, and dropping a lease frees its port and no other. -/
theorem leases_accounted (reachable : Reachable allowlist maxConcurrency leasing) :
    leasing.Accounted allowlist maxConcurrency ∧
    (∀ error pool, leasing.pool.lease = (.error error, pool) → leasing.step .lease = some leasing) ∧
    (∀ port error pool, leasing.pool.leaseSpecific port = (.error error, pool) →
      leasing.step (.leaseSpecific port) = some leasing) ∧
    (∀ index lease, leasing.live[index]? = some lease →
      lease.listener.port ∈ leasing.pool.inUse ∧
        leasing.step (.drop index) = some
          ⟨{ leasing.pool with inUse := leasing.pool.inUse.erase lease.listener.port },
            leasing.live.eraseIdx index⟩) := by
  have accounted := reachable.accounted
  refine ⟨accounted, ?_, ?_, ?_⟩
  · intro error pool refused
    rw [step, acquire_refused leasing.pool.lease_acquires refused]
  · intro port error pool refused
    rw [step, acquire_refused (leasing.pool.leaseSpecific_acquires port) refused]
  · intro index lease live
    constructor
    · rw [accounted.inUse, List.mem_toFinset]
      exact List.mem_map_of_mem (List.mem_of_getElem? live)
    · rw [step, live]
      rfl

end Leasing

def xmissionAllowlist : List AuthorizedListener :=
  [⟨"speedtest.xmission.com", 5201⟩, ⟨"iperf.soute.xmission.com", 5201⟩]

namespace Leasing

theorem leases_accounted_xmission :
    (⟨⟨xmissionAllowlist, {5201}, 2⟩, [⟨⟨"speedtest.xmission.com", 5201⟩⟩]⟩ : Leasing).Accounted
      xmissionAllowlist 2 :=
  (leases_accounted ⟨[.lease, .drop 0, .leaseSpecific 5201, .lease], by decide⟩).1

/-- Some live lease is for this listener. -/
def Leased (leasing : Leasing) (listener : AuthorizedListener) : Prop := ⟨listener⟩ ∈ leasing.live

/-- An acquisition is refused only when the listeners asked for are leased themselves. -/
def RefusesOnlyLeased (leasing : Leasing) : Prop :=
  (∀ error pool, leasing.pool.lease = (.error error, pool) → ∀ listener ∈ leasing.pool.allowlist,
    leasing.Leased listener) ∧
  ∀ listener ∈ leasing.pool.allowlist, ∀ pool,
    leasing.pool.leaseSpecific listener.port = (.error .allListenersInUse, pool) →
      leasing.Leased listener

section Sharing
variable {allowlist : List AuthorizedListener} {maxConcurrency : Nat} {leasing : Leasing}

theorem Accounted.room (accounted : leasing.Accounted allowlist maxConcurrency)
    (below : leasing.live.length < maxConcurrency) :
    ¬ leasing.pool.maxConcurrency ≤ leasing.pool.inUse.card := by
  rw [accounted.card, accounted.sameCap]
  exact Nat.not_le_of_lt below

/-- Below the cap, refusals mean that a port is in use. -/
theorem refusesOnlyLeased_of_ports (accounted : leasing.Accounted allowlist maxConcurrency)
    (below : leasing.live.length < maxConcurrency)
    (leased : ∀ listener ∈ allowlist, listener.port ∈ leasing.pool.inUse →
      leasing.Leased listener) :
    leasing.RefusesOnlyLeased := by
  have room := accounted.room below
  constructor
  · intro error pool refused listener authorized
    rw [ListenerPool.lease] at refused
    split at refused
    · rename_i none_free
      have used := List.find?_eq_none.mp none_free listener authorized
      exact leased listener (accounted.sameAllowlist ▸ authorized) (by simpa using used)
    · rw [if_neg room] at refused
      cases refused
  · intro listener authorized pool refused
    rw [ListenerPool.leaseSpecific] at refused
    split at refused
    · cases refused
    · rw [if_neg room] at refused
      by_cases used : listener.port ∈ leasing.pool.inUse
      · exact leased listener (accounted.sameAllowlist ▸ authorized) used
      · rw [if_neg used] at refused
        cases refused

theorem Accounted.exists_live (accounted : leasing.Accounted allowlist maxConcurrency)
    {port : UInt16} (used : port ∈ leasing.pool.inUse) :
    ∃ lease ∈ leasing.live, lease.listener.port = port := by
  rw [accounted.inUse, List.mem_toFinset] at used
  exact List.mem_map.mp used

theorem exists_listener_on_port {listener : AuthorizedListener}
    (authorized : listener ∈ allowlist) :
    ∃ found, allowlist.find? (fun other => other.port = listener.port) = some found ∧
      found.port = listener.port := by
  have present : (allowlist.find? fun other => other.port = listener.port).isSome := by
    rw [List.find?_isSome]
    exact ⟨listener, authorized, by simp⟩
  obtain ⟨found, isFound⟩ := Option.isSome_iff_exists.mp present
  exact ⟨found, isFound, by simpa using List.find?_some isFound⟩

theorem leaseSpecific_busy (accounted : leasing.Accounted allowlist maxConcurrency)
    (below : leasing.live.length < maxConcurrency) {listener : AuthorizedListener}
    (authorized : listener ∈ allowlist) (used : listener.port ∈ leasing.pool.inUse) :
    leasing.pool.leaseSpecific listener.port = (.error .allListenersInUse, leasing.pool) := by
  obtain ⟨found, isFound, -⟩ := exists_listener_on_port authorized
  simp only [ListenerPool.leaseSpecific, accounted.sameAllowlist, isFound,
    if_neg (accounted.room below), if_pos used]

theorem exists_single_lease {listener : AuthorizedListener} (authorized : listener ∈ allowlist)
    (positive : 0 < maxConcurrency) :
    ∃ leasing, Reachable allowlist maxConcurrency leasing ∧
      ∃ granted, leasing.live = [⟨granted⟩] ∧ granted.port = listener.port := by
  obtain ⟨found, isFound, ofPort⟩ := exists_listener_on_port authorized
  have granted : (ListenerPool.new allowlist maxConcurrency).leaseSpecific listener.port =
      (.ok ⟨found⟩, ⟨allowlist, {listener.port}, maxConcurrency⟩) := by
    simp [ListenerPool.leaseSpecific, ListenerPool.new, isFound, positive.ne']
  refine ⟨(new allowlist maxConcurrency).acquire
    ((new allowlist maxConcurrency).pool.leaseSpecific listener.port),
    ⟨[.leaseSpecific listener.port], rfl⟩, found, ?_, ofPort⟩
  rw [new, granted]
  rfl

/-- Every authorized listener can be leased exactly when no two share a port, or there is never
more than one lease at a time. -/
theorem every_listener_leasable_iff (distinct : allowlist.Nodup) :
    (∀ leasing, Reachable allowlist maxConcurrency leasing → leasing.live.length < maxConcurrency →
      leasing.RefusesOnlyLeased) ↔
    maxConcurrency ≤ 1 ∨ (allowlist.map (·.port)).Nodup := by
  constructor
  · intro leasable
    by_contra shared
    obtain ⟨several, repeated⟩ := not_or.mp shared
    rw [List.nodup_map_iff_inj_on distinct] at repeated
    push Not at repeated
    obtain ⟨first, isFirst, second, isSecond, samePort, different⟩ := repeated
    have several : 1 < maxConcurrency := Nat.lt_of_not_le several
    -- one lease of the shared port hides every other listener on it
    obtain ⟨leasing, reachable, granted, live, ofPort⟩ :=
      exists_single_lease isFirst (Nat.zero_lt_of_lt several)
    have below : leasing.live.length < maxConcurrency := by
      rw [live]
      exact several
    have accounted := reachable.accounted
    have used : first.port ∈ leasing.pool.inUse := by simp [accounted.inUse, ports, live, ofPort]
    have leased : ∀ listener ∈ allowlist, listener.port = first.port → leasing.Leased listener := by
      intro listener authorized onPort
      have busy := leaseSpecific_busy accounted below authorized (onPort ▸ used)
      exact (leasable leasing reachable below).2 listener
        (accounted.sameAllowlist ▸ authorized) leasing.pool busy
    have firstGranted := leased first isFirst rfl
    have secondGranted := leased second isSecond samePort.symm
    rw [Leased, live, List.mem_singleton] at firstGranted secondGranted
    exact different (ListenerLease.mk.inj (firstGranted.trans secondGranted.symm))
  · rintro condition leasing reachable below
    have accounted := reachable.accounted
    refine refusesOnlyLeased_of_ports accounted below ?_
    intro listener authorized used
    obtain ⟨lease, live, samePort⟩ := accounted.exists_live used
    rcases condition with single | apart
    · have positive := List.length_pos_of_mem live
      omega
    · have same :=
        List.inj_on_of_nodup_map apart (accounted.authorized lease live) authorized samePort
      rw [Leased, ← same]
      exact live

end Sharing

theorem every_listener_leasable_iff_xmission :
    ¬ ∀ leasing, Reachable xmissionAllowlist 2 leasing → leasing.live.length < 2 →
      leasing.RefusesOnlyLeased := by
  rw [every_listener_leasable_iff (by decide)]
  decide

/-- The two hosts of the bundled registry answer on one port: leasing the first hides the second. -/
theorem leased_port_hides_listener :
    ∃ leasing, Reachable xmissionAllowlist 2 leasing ∧ leasing.live.length < 2 ∧
      leasing.pool.lease = (.error .allListenersInUse, leasing.pool) ∧
      leasing.pool.leaseSpecific 5201 = (.error .allListenersInUse, leasing.pool) ∧
      ⟨"iperf.soute.xmission.com", 5201⟩ ∈ xmissionAllowlist ∧
      ¬ leasing.Leased ⟨"iperf.soute.xmission.com", 5201⟩ := by
  refine ⟨⟨⟨xmissionAllowlist, {5201}, 2⟩, [⟨⟨"speedtest.xmission.com", 5201⟩⟩]⟩,
    ⟨[.lease], by decide⟩, by decide, rfl, rfl, by decide, by simp [Leased]⟩

end Leasing

end FragglePacket.NetworkTests
