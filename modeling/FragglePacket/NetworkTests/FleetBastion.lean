import FragglePacket.NetworkTests.FleetAccounting

/-! Whether the management bastion is kept out of the fan-out. -/

namespace FragglePacket.NetworkTests

open FragglePacket.Systems

namespace FleetPlan

/-- Some interleaving of the fan-out calls the runner with the label. -/
def CallsRunner (plan : FleetPlan) (label : String) : Prop :=
  ∃ events fanout index thread next, runFrom Fanout.step (.start plan) events = some fanout ∧
    fanout.threads[index]? = some thread ∧ thread.node.label = label ∧
      fanout.step (index, .call) = some next

/-- Some label stands for a bastion and for a test node. -/
def MixesLabel (plan : FleetPlan) : Prop :=
  ∃ bastion ∈ plan.nodes, ∃ node ∈ plan.nodes, bastion.role = .managementBastion ∧
    node.role = .testNode ∧ bastion.label = node.label

def RefusesMixedLabel (plan : FleetPlan) : Prop :=
  plan.MixesLabel → plan.validate = .error .bastionAssignedAsTestNode

/-- The validator never looks for a bastion. -/
theorem validate_ne_bastionAssignedAsTestNode (plan : FleetPlan) :
    plan.validate ≠ .error .bastionAssignedAsTestNode := by
  fun_cases FleetPlan.validate plan <;> exact nofun

theorem refusesMixedLabel_iff (plan : FleetPlan) : plan.RefusesMixedLabel ↔ ¬ plan.MixesLabel := by
  constructor
  · intro refuses mixes
    exact plan.validate_ne_bastionAssignedAsTestNode (refuses mixes)
  · intro unmixed mixes
    exact absurd mixes unmixed

theorem validate_ok_iff (plan : FleetPlan) :
    plan.validate = .ok () ↔ plan.maxConcurrency ≠ 0 ∧ plan.perNodeTimeoutSecs ≠ 0 ∧
      plan.testNodes ≠ [] := by
  fun_cases FleetPlan.validate plan <;> simp [*]

theorem mem_testNodes_iff {plan : FleetPlan} {node : FleetNode} :
    node ∈ plan.testNodes ↔ node ∈ plan.nodes ∧ node.role = .testNode := by
  rw [testNodes, List.mem_filter, decide_eq_true_iff]

end FleetPlan

namespace Fanout
variable {plan : FleetPlan}

theorem mem_testNodes_of_listed {events : List (Nat × NodeEvent)} {fanout : Fanout} {index : Nat}
    {thread : NodeThread} (reached : runFrom step (start plan) events = some fanout)
    (listed : fanout.threads[index]? = some thread) :
    thread.node ∈ plan.testNodes := by
  rw [← (run_sound reached).nodes]
  exact List.mem_map_of_mem (List.mem_of_getElem? listed)

/-- The first thread to take a permit reaches its runner call. -/
theorem exists_run_to_call (positive : 0 < plan.maxConcurrency.toNat) {node : FleetNode}
    (planned : node ∈ plan.testNodes) :
    plan.CallsRunner node.label := by
  obtain ⟨index, place⟩ := List.mem_iff_getElem?.mp planned
  have listed : (start plan).threads[index]? = some (.new node) := by
    rw [start, List.getElem?_map, place, Option.map_some]
  have left : (start plan).permits ≠ 0 := by
    change (plan.maxConcurrency.toNat : Int) ≠ 0
    omega
  have load : (NodeThread.new node).advance (start plan).permits .load =
      some ((start plan).permits, ⟨node, .loaded (start plan).permits, .unspawned⟩, []) := by
    simp [NodeThread.advance, NodeThread.new, left]
  obtain ⟨read, loads, kept, reads, -⟩ := exists_next listed load
  have take : (⟨node, .loaded (start plan).permits, .unspawned⟩ : NodeThread).advance read.permits
      .compareExchange =
      some ((start plan).permits - 1, ⟨node, .admitted, .unspawned⟩, []) := by
    simp [NodeThread.advance, kept]
  obtain ⟨admitted, takes, -, holds, -⟩ := exists_next reads take
  have spawn : (⟨node, .admitted, .unspawned⟩ : NodeThread).advance admitted.permits .spawn =
      some (admitted.permits, ⟨node, .receiving, .spawned⟩, []) := rfl
  obtain ⟨waiting, spawns, -, waits, -⟩ := exists_next holds spawn
  have call : (⟨node, .receiving, .spawned⟩ : NodeThread).advance waiting.permits .call =
      some (waiting.permits, ⟨node, .receiving, .running⟩, []) := rfl
  obtain ⟨calling, calls, -⟩ := exists_next waits call
  refine ⟨_, waiting, index, _, calling, runFrom_append (runFrom_append loads takes) spawns,
    waits, rfl, ?_⟩
  simpa [runFrom] using calls

/-- The runner is called with the labels of the test nodes, and with no others. -/
theorem callsRunner_iff (positive : 0 < plan.maxConcurrency.toNat) {label : String} :
    plan.CallsRunner label ↔ ∃ node ∈ plan.testNodes, node.label = label := by
  constructor
  · rintro ⟨events, fanout, index, thread, next, reached, listed, rfl, -⟩
    exact ⟨thread.node, mem_testNodes_of_listed reached listed, rfl⟩
  · rintro ⟨node, planned, rfl⟩
    exact exists_run_to_call positive planned

end Fanout

section Inventory
-- what the hasher finishes at after the salt, the address and the salt again
variable (hash : String → String → UInt64) (entries : List InventoryEntry) (salt : String)

/-- The plan of an inventory, with its addresses replaced by labels. -/
def inventoryPlan (maxConcurrency : UInt32) (perNodeTimeoutSecs : UInt64) : FleetPlan where
  nodes := buildFleetLabels hash entries salt
  maxConcurrency := maxConcurrency
  perNodeTimeoutSecs := perNodeTimeoutSecs

/-- Different addresses of the inventory have different labels. -/
def DistinctLabels : Prop :=
  ∀ first ∈ entries, ∀ second ∈ entries,
    labelForNode hash first.address salt = labelForNode hash second.address salt →
      first.address = second.address

/-- An accepted plan never calls the runner with the label of a bastion's address. -/
def BastionExcluded (maxConcurrency : UInt32) (perNodeTimeoutSecs : UInt64) : Prop :=
  let plan := inventoryPlan hash entries salt maxConcurrency perNodeTimeoutSecs
  plan.validate = .ok () → ∀ entry ∈ entries, entry.role = .managementBastion →
    ¬ plan.CallsRunner (labelForNode hash entry.address salt)

/-- No address is listed both as a bastion and as a test node. -/
def Separated (entries : List InventoryEntry) : Prop :=
  ∀ bastion ∈ entries, ∀ node ∈ entries, bastion.role = .managementBastion → node.role = .testNode →
    bastion.address ≠ node.address

variable {hash entries salt} {maxConcurrency : UInt32} {perNodeTimeoutSecs : UInt64}

theorem mem_testNodes_inventoryPlan_iff {node : FleetNode} :
    node ∈ (inventoryPlan hash entries salt maxConcurrency perNodeTimeoutSecs).testNodes ↔
      ∃ entry ∈ entries, entry.role = .testNode ∧
        node = ⟨labelForNode hash entry.address salt, .testNode⟩ := by
  rw [FleetPlan.mem_testNodes_iff, inventoryPlan, buildFleetLabels, List.mem_map]
  constructor
  · rintro ⟨⟨entry, member, rfl⟩, role⟩
    exact ⟨entry, member, role, by rw [← role]⟩
  · rintro ⟨entry, member, role, rfl⟩
    exact ⟨⟨entry, member, by rw [role]⟩, rfl⟩

theorem inventoryPlan_callsRunner_iff {label : String}
    (accepted : (inventoryPlan hash entries salt maxConcurrency perNodeTimeoutSecs).validate =
      .ok ()) :
    (inventoryPlan hash entries salt maxConcurrency perNodeTimeoutSecs).CallsRunner label ↔
      ∃ entry ∈ entries, entry.role = .testNode ∧ labelForNode hash entry.address salt = label := by
  rw [Fanout.callsRunner_iff (Fanout.positive_of_validate accepted)]
  constructor
  · rintro ⟨node, planned, rfl⟩
    obtain ⟨entry, member, role, rfl⟩ := mem_testNodes_inventoryPlan_iff.mp planned
    exact ⟨entry, member, role, rfl⟩
  · rintro ⟨entry, member, role, rfl⟩
    exact ⟨_, mem_testNodes_inventoryPlan_iff.mpr ⟨entry, member, role, rfl⟩, rfl⟩

theorem inventoryPlan_accepted_iff :
    (inventoryPlan hash entries salt maxConcurrency perNodeTimeoutSecs).validate = .ok () ↔
      maxConcurrency ≠ 0 ∧ perNodeTimeoutSecs ≠ 0 ∧ ∃ entry ∈ entries, entry.role = .testNode := by
  rw [FleetPlan.validate_ok_iff]
  refine and_congr_right fun _ => and_congr_right fun _ => ?_
  constructor
  · intro some
    obtain ⟨node, planned⟩ := List.exists_mem_of_ne_nil _ some
    obtain ⟨entry, member, role, -⟩ := mem_testNodes_inventoryPlan_iff.mp planned
    exact ⟨entry, member, role⟩
  · rintro ⟨entry, member, role⟩
    exact List.ne_nil_of_mem (mem_testNodes_inventoryPlan_iff.mpr ⟨entry, member, role, rfl⟩)

/-- The bastion is kept out exactly where the inventory already separates the roles, and a plan
that mixes them is never refused for it. -/
theorem bastionExcluded_iff (distinct : DistinctLabels hash entries salt) :
    (BastionExcluded hash entries salt maxConcurrency perNodeTimeoutSecs ↔
      maxConcurrency = 0 ∨ perNodeTimeoutSecs = 0 ∨ Separated entries) ∧
    ∀ plan : FleetPlan, plan.RefusesMixedLabel ↔ ¬ plan.MixesLabel := by
  refine ⟨?_, FleetPlan.refusesMixedLabel_iff⟩
  constructor
  · intro excluded
    by_contra mixed
    push Not at mixed
    obtain ⟨concurrent, timed, together⟩ := mixed
    apply together
    intro bastion bastionListed node nodeListed isBastion isNode same
    have accepted : (inventoryPlan hash entries salt maxConcurrency perNodeTimeoutSecs).validate =
        .ok () :=
      inventoryPlan_accepted_iff.mpr ⟨concurrent, timed, node, nodeListed, isNode⟩
    apply excluded accepted bastion bastionListed isBastion
    rw [inventoryPlan_callsRunner_iff accepted, same]
    exact ⟨node, nodeListed, isNode, rfl⟩
  · intro safe accepted bastion bastionListed isBastion called
    obtain ⟨concurrent, timed, -⟩ := inventoryPlan_accepted_iff.mp accepted
    have separated : Separated entries := (safe.resolve_left concurrent).resolve_left timed
    obtain ⟨node, nodeListed, isNode, same⟩ := (inventoryPlan_callsRunner_iff accepted).mp called
    exact separated bastion bastionListed node nodeListed isBastion isNode
      (distinct node nodeListed bastion bastionListed same).symm

end Inventory

/-- What the hasher finishes at for the salt "s", either of two management addresses and the
salt again. -/
def knownHash (_ address : String) : UInt64 :=
  if address = "10.10.250.53" then 0xa7aacaf9712270ce else 0x6fa79a5c42a1e82a

def separateInventory : List InventoryEntry :=
  [⟨"10.10.250.53", .managementBastion⟩, ⟨"10.10.0.99", .testNode⟩]

theorem bastionExcluded_iff_separate : BastionExcluded knownHash separateInventory "s" 4 50 := by
  have distinct : DistinctLabels knownHash separateInventory "s" := by
    unfold DistinctLabels
    decide +kernel
  have separated : Separated separateInventory := by
    unfold Separated
    decide
  exact (bastionExcluded_iff distinct).1.mpr (.inr (.inr separated))

/-- One address that is listed in both roles. -/
def mixedInventory : List InventoryEntry :=
  [⟨"10.10.250.53", .managementBastion⟩, ⟨"10.10.250.53", .testNode⟩]

/-- The runner is called with the bastion's label, and the plan is accepted. -/
theorem mixed_inventory_accepted :
    DistinctLabels knownHash mixedInventory "s" ∧
      ¬ BastionExcluded knownHash mixedInventory "s" 4 50 ∧
      (inventoryPlan knownHash mixedInventory "s" 4 50).MixesLabel ∧
      (inventoryPlan knownHash mixedInventory "s" 4 50).validate = .ok () := by
  have accepted : (inventoryPlan knownHash mixedInventory "s" 4 50).validate = .ok () := rfl
  have distinct : DistinctLabels knownHash mixedInventory "s" := by
    unfold DistinctLabels
    decide +kernel
  refine ⟨distinct, ?_, ?_, accepted⟩
  · intro excluded
    apply excluded accepted ⟨"10.10.250.53", .managementBastion⟩ (by decide) rfl
    rw [inventoryPlan_callsRunner_iff accepted]
    exact ⟨⟨"10.10.250.53", .testNode⟩, by decide, rfl, rfl⟩
  · exact ⟨_, List.mem_cons_self, _, List.mem_cons_of_mem _ List.mem_cons_self, rfl, rfl, rfl⟩

end FragglePacket.NetworkTests
