import FragglePacket.Fuzzing.Build

/-! VLAN stacks as a standard receiver reads them. The Ethernet header and the tag
layer both write the tag protocol identifier, so a tag takes six bytes where the
receiver reads four. -/

namespace FragglePacket.Fuzzing

open FragglePacket.Wire

/-- Reads a frame from its EtherType on: while the type is 0x8100, a tag and the
next type follow. Returns the tags, the type behind them and what follows it. -/
def vlanWalk : Bytes → Option (List UInt16 × UInt16 × Bytes)
  | typeHigh :: typeLow :: rest =>
    if readBe16 typeHigh typeLow = 0x8100 then
      match rest with
      | tciHigh :: tciLow :: more =>
        (vlanWalk more).map fun (tcis, type, after) =>
          (readBe16 tciHigh tciLow :: tcis, type, after)
      | _ => none
    else some ([], readBe16 typeHigh typeLow, rest)
  | _ => none

/-- The EtherType of a network layer. -/
def Layer.networkType : Layer → Option UInt16
  | .ip _ => some 0x0800
  | .ipv6 _ => some 0x86DD
  | _ => none

theorem vlanWalk_words {bytes after : Bytes} {tcis : List UInt16} {type : UInt16}
    (walked : vlanWalk bytes = some (tcis, type, after)) :
    (∀ j tci, tcis[j]? = some tci → wordAt bytes (4 * j + 2) = some tci) ∧
      wordAt bytes (4 * tcis.length) = some type := by
  induction bytes using vlanWalk.induct generalizing tcis with
  | case1 typeHigh typeLow tagged tciHigh tciLow more ih =>
    simp only [vlanWalk, tagged, ↓reduceIte, Option.map_eq_some_iff, Prod.mk.injEq, Prod.exists]
      at walked
    obtain ⟨inner, type', after', walkedMore, rfl, rfl, rfl⟩ := walked
    obtain ⟨tags, last⟩ := ih walkedMore
    have skip (offset : Nat) : wordAt (typeHigh :: typeLow :: tciHigh :: tciLow :: more)
        (4 + offset) =
        wordAt more offset := by
      rw [← wordAt_drop]
      rfl
    constructor
    · intro j tci found
      cases j with
      | zero =>
        obtain rfl : readBe16 tciHigh tciLow = tci := by simpa using found
        rfl
      | succ j =>
        have index : 4 * (j + 1) + 2 = 4 + (4 * j + 2) := by omega
        rw [index, skip]
        exact tags j tci (by simpa using found)
    · have index : 4 * (readBe16 tciHigh tciLow :: inner).length = 4 + 4 * inner.length := by
        rw [List.length_cons]
        omega
      rw [index, skip]
      exact last
  | case2 typeHigh typeLow rest tagged short =>
    simp only [vlanWalk, tagged, ↓reduceIte] at walked
    cases walked
  | case3 typeHigh typeLow rest untagged =>
    unfold vlanWalk at walked
    simp only [untagged, ↓reduceIte, Option.some.injEq, Prod.mk.injEq] at walked
    obtain ⟨rfl, rfl, rfl⟩ := walked
    exact ⟨by simp, rfl⟩
  | case4 bytes short =>
    rw [vlanWalk] at walked
    · cases walked
    · exact short

/-- The words a stack of tags writes: identifier, tag, next type, six bytes a tag. -/
structure TagWords (vlans : List Vlan) (bytes : Bytes) : Prop where
  identifier : ∀ i, i < vlans.length → wordAt bytes (6 * i) = some 0x8100
  tag : ∀ i v, vlans[i]? = some v → wordAt bytes (6 * i + 2) = some v.tci
  next : ∀ i, i + 1 < vlans.length → wordAt bytes (6 * i + 4) = some 0x8100

theorem tagWords_build {crate : Etherparse} (documented : crate.Documented) {overflowChecks : Bool}
    {draw : Nat → UInt16} {vlans : List Vlan} {above : List Layer} {bytes : Bytes}
    (built : buildLayers crate overflowChecks draw (vlans.map .vlan ++ above) = .ok bytes) :
    TagWords vlans bytes := by
  induction vlans generalizing bytes with
  | nil => exact ⟨by simp, by simp, by simp⟩
  | cons v rest ih =>
    rw [List.map_cons, List.cons_append] at built
    obtain ⟨tail, builtTail, _, rfl⟩ := (buildLayers_cons documented rfl bytes).mp built
    obtain ⟨identifier, tag, next⟩ := ih builtTail
    have skip := wordAt_behind_header (.vlan v) (draw (rest.map Layer.vlan ++ above).length)
      (rest.map .vlan ++ above) tail.length tail
    constructor
    · intro i bound
      cases i with
      | zero => rfl
      | succ i =>
        have index : 6 * (i + 1) = (Layer.vlan v).headerSize + 6 * i := by
          simp only [Layer.headerSize]
          omega
        rw [index, skip]
        exact identifier i (by simpa using bound)
    · intro i w found
      cases i with
      | zero =>
        obtain rfl : v = w := by simpa using found
        simp [Layer.headerBytes, wordAt, be16]
      | succ i =>
        have index : 6 * (i + 1) + 2 = (Layer.vlan v).headerSize + (6 * i + 2) := by
          simp only [Layer.headerSize]
          omega
        rw [index, skip]
        exact tag i w (by simpa using found)
    · intro i bound
      cases i with
      | zero =>
        cases rest with
        | nil => simp at bound
        | cons w rest => simp [Layer.headerBytes, wordAt, be16, inferEtherType]
      | succ i =>
        have index : 6 * (i + 1) + 4 = (Layer.vlan v).headerSize + (6 * i + 4) := by
          simp only [Layer.headerSize]
          omega
        rw [index, skip]
        exact next i (by simpa using bound)

/-- Three words a tag written against two words a tag read: reading the right tags
means that all of them, and the final type, are tag identifiers. -/
theorem all_identifiers {vlans : List Vlan} {bytes : Bytes} (words : TagWords vlans bytes)
    (read : ∀ (j : Nat) (v : Vlan), vlans[j]? = some v → wordAt bytes (4 * j) = some v.tci) :
    ∀ (j : Nat) (v : Vlan), vlans[j]? = some v → v.tci = 0x8100 := by
  intro j
  induction j using Nat.strong_induction_on with
  | _ j ih =>
    intro v found
    have bound : j < vlans.length := (List.getElem?_eq_some_iff.mp found).1
    have here := read j v found
    have phase : 2 * j % 3 = 0 ∨ 2 * j % 3 = 1 ∨ 2 * j % 3 = 2 := by omega
    rcases phase with zero | one | two
    · have index : 4 * j = 6 * (2 * j / 3) := by omega
      rw [index, words.identifier _ (by omega)] at here
      exact (Option.some.inj here).symm
    · have index : 4 * j = 6 * (2 * j / 3) + 2 := by omega
      obtain ⟨w, earlier⟩ : ∃ w, vlans[2 * j / 3]? = some w :=
        ⟨_, List.getElem?_eq_getElem (by omega)⟩
      rw [index, words.tag _ _ earlier] at here
      rw [← Option.some.inj here]
      exact ih (2 * j / 3) (by omega) _ earlier
    · have index : 4 * j = 6 * (2 * j / 3) + 4 := by omega
      rw [index, words.next _ (by omega)] at here
      exact (Option.some.inj here).symm

/-- The last type a receiver reads behind as many tags as were written is still an
identifier when all tags are. -/
theorem last_identifier {vlans : List Vlan} {bytes : Bytes} (words : TagWords vlans bytes)
    (nonempty : vlans ≠ [])
    (identifiers : ∀ (j : Nat) (v : Vlan), vlans[j]? = some v → v.tci = 0x8100) :
    wordAt bytes (4 * vlans.length - 2) = some 0x8100 := by
  have positive := List.length_pos_iff.mpr nonempty
  have phase : (2 * vlans.length - 1) % 3 = 0 ∨ (2 * vlans.length - 1) % 3 = 1 ∨
      (2 * vlans.length - 1) % 3 = 2 := by omega
  rcases phase with zero | one | two
  · have index : 4 * vlans.length - 2 = 6 * ((2 * vlans.length - 1) / 3) := by omega
    rw [index, words.identifier _ (by omega)]
  · have index : 4 * vlans.length - 2 = 6 * ((2 * vlans.length - 1) / 3) + 2 := by omega
    obtain ⟨v, found⟩ : ∃ v, vlans[(2 * vlans.length - 1) / 3]? = some v :=
      ⟨_, List.getElem?_eq_getElem (by omega)⟩
    rw [index, words.tag _ _ found, identifiers _ _ found]
  · have index : 4 * vlans.length - 2 = 6 * ((2 * vlans.length - 1) / 3) + 4 := by omega
    rw [index, words.next _ (by omega)]

/-- No frame with a VLAN tag reads as its tags followed by the network layer. -/
theorem vlan_stack_misread {crate : Etherparse} (documented : crate.Documented)
    (overflowChecks : Bool) (draw : Nat → UInt16) (e : Ether) (vlans : List Vlan)
    (nonempty : vlans ≠ []) (net : Layer) (type : UInt16) (network : net.networkType = some type)
    (above : List Layer) (bytes : Bytes)
    (built : Packet.build crate overflowChecks draw
      ⟨.ether e :: (vlans.map .vlan ++ net :: above)⟩ = .ok bytes) :
    ¬ ∃ after, vlanWalk (bytes.drop 12) = some (vlans.map Vlan.tci, type, after) := by
  intro ⟨after, walked⟩
  obtain ⟨tagged, builtTagged, _, rfl⟩ := (buildLayers_cons documented rfl bytes).mp built
  have words := tagWords_build documented builtTagged
  have skip (offset : Nat) :
      wordAt (((Layer.ether e).headerBytes (draw (vlans.map Layer.vlan ++ net :: above).length)
      (vlans.map .vlan ++ net :: above) tagged.length ++ tagged).drop 12) (2 + offset) =
        wordAt tagged offset := by
    rw [wordAt_drop, ← Nat.add_assoc]
    exact wordAt_behind_header (.ether e) _ _ _ tagged offset
  obtain ⟨tags, last⟩ := vlanWalk_words walked
  have read (j : Nat) (v : Vlan) (found : vlans[j]? = some v) : wordAt tagged (4 * j) =
      some v.tci := by
    rw [← skip, Nat.add_comm]
    exact tags j v.tci (by simp [found])
  have identifiers := all_identifiers words read
  have positive := List.length_pos_iff.mpr nonempty
  have index : 4 * (vlans.map Vlan.tci).length = 2 + (4 * vlans.length - 2) := by
    rw [List.length_map]
    omega
  rw [index, skip, last_identifier words nonempty identifiers] at last
  obtain rfl := Option.some.inj last
  cases net with
  | ip i => simp [Layer.networkType] at network
  | ipv6 i => simp [Layer.networkType] at network
  | _ => cases network

theorem vlan_stack_misread_tagged : ∃ bytes, Packet.build .reference true (fun _ => 0)
      ⟨[.ether ⟨#v[2, 0, 0, 0, 0, 1], #v[2, 0, 0, 0, 0, 2], none⟩, .vlan ⟨100, 0⟩, .ip (.new 1),
        .raw ⟨[7]⟩]⟩ =
        .ok bytes ∧ ¬ ∃ after, vlanWalk (bytes.drop 12) =
          some ([Vlan.tci ⟨100, 0⟩], 0x0800, after) :=
  ⟨_, rfl, vlan_stack_misread Etherparse.reference_documented true (fun _ => 0)
    ⟨#v[2, 0, 0, 0, 0, 1], #v[2, 0, 0, 0, 0, 2], none⟩ [⟨100, 0⟩] (by simp)
      (.ip (.new 1)) 0x0800 rfl
    [.raw ⟨[7]⟩] _ rfl⟩

/-- One tag is already read as the identifier of another. -/
theorem vlan_frame_misread : ¬ ∀ (crate : Etherparse), crate.Documented →
    ∀ (overflowChecks : Bool) (draw : Nat → UInt16) (e : Ether), e.etherType = none →
      ∀ (vlans : List Vlan), vlans ≠ [] →
        ∀ (net : Layer) (type : UInt16), net.networkType = some type →
        ∀ (above : List Layer) (bytes : Bytes),
          Packet.build crate overflowChecks draw ⟨.ether e :: (vlans.map .vlan ++ net :: above)⟩ =
            .ok bytes →
            ∃ after, vlanWalk (bytes.drop 12) = some (vlans.map Vlan.tci, type, after) := by
  intro claim
  obtain ⟨after, walked⟩ := claim _ Etherparse.reference_documented true (fun _ => 0)
    ⟨#v[2, 0, 0, 0, 0, 1], #v[2, 0, 0, 0, 0, 2], none⟩ rfl [⟨100, 0⟩] (by simp)
      (.ip (.new 1)) 0x0800 rfl
    [.raw ⟨[7]⟩] _ rfl
  have tag := (vlanWalk_words walked).1 0 _ rfl
  revert tag
  decide

end FragglePacket.Fuzzing
