import FragglePacket.Wire.Bytes

/-! Fields written over a byte string in place. A write outside the string fails, and
what a write leaves alone is stated as a region that confines it. -/

namespace FragglePacket.Wire

/-- The bytes of a slice, cut at the end of the string. -/
def slice (bytes : Bytes) (offset size : Nat) : Bytes := (bytes.drop offset).take size

/-- The string with a field copied over its bytes at an offset. -/
def patched (bytes : Bytes) (offset : Nat) (field : Bytes) : Bytes :=
  bytes.take offset ++ field ++ bytes.drop (offset + field.length)

/-- `bytes[offset..][..field.len()].copy_from_slice(&field)`, none where it panics. -/
def copyFromSlice (bytes : Bytes) (offset : Nat) (field : Bytes) : Option Bytes :=
  if offset + field.length ≤ bytes.length then some (patched bytes offset field) else none

/-- Strings of one length that agree outside a region. -/
structure Confined (region : Nat → Prop) (before after : Bytes) : Prop where
  length : after.length = before.length
  outside : ∀ i, ¬ region i → after[i]? = before[i]?

variable {before middle after bytes field : Bytes} {region wider : Nat → Prop} {offset size : Nat}

theorem copyFromSlice_fits (fits : offset + field.length ≤ bytes.length) :
    copyFromSlice bytes offset field = some (patched bytes offset field) := if_pos fits

theorem slice_length (fits : offset + size ≤ bytes.length) :
    (slice bytes offset size).length = size := by
  rw [slice, List.length_take, List.length_drop]
  omega

theorem slice_getElem? (i : Nat) :
    (slice bytes offset size)[i]? = if i < size then bytes[offset + i]? else none := by
  rw [slice, List.getElem?_take, List.getElem?_drop]

theorem getElem?_eq_some_getD {i : Nat} (inside : i < bytes.length) :
    bytes[i]? = some (bytes.getD i 0) := by
  rw [List.getD_eq_getElem?_getD, List.getElem?_eq_getElem inside, Option.getD_some]

theorem Confined.refl (region : Nat → Prop) (bytes : Bytes) : Confined region bytes bytes :=
  ⟨rfl, fun _ _ => rfl⟩

theorem Confined.trans (first : Confined region before middle)
    (second : Confined region middle after) :
    Confined region before after :=
  ⟨second.length.trans first.length, fun i out => (second.outside i out).trans
    (first.outside i out)⟩

theorem Confined.mono (confined : Confined region before after) (inside : ∀ i, region i → wider i) :
    Confined wider before after :=
  ⟨confined.length, fun i out => confined.outside i fun within => out (inside i within)⟩

/-- A slice that no offset of the region touches is unchanged. -/
theorem Confined.slice_eq (confined : Confined region before after)
    (apart : ∀ i, offset ≤ i → i < offset + size → ¬ region i) :
    slice after offset size = slice before offset size := by
  apply List.ext_getElem?
  intro i
  rw [slice_getElem?, slice_getElem?]
  by_cases inside : i < size
  · rw [if_pos inside, if_pos inside]
    exact confined.outside _ (apart _ (Nat.le_add_right _ _) (by omega))
  · rw [if_neg inside, if_neg inside]

theorem Confined.getD_eq (confined : Confined region before after) {i : Nat} (out : ¬ region i) :
    after.getD i 0 = before.getD i 0 := by
  rw [List.getD_eq_getElem?_getD, List.getD_eq_getElem?_getD, confined.outside i out]

theorem patched_length (fits : offset + field.length ≤ bytes.length) :
    (patched bytes offset field).length = bytes.length := by
  rw [patched, List.length_append, List.length_append, List.length_take, List.length_drop]
  omega

theorem patched_confined (fits : offset + field.length ≤ bytes.length) :
    Confined (fun i => offset ≤ i ∧ i < offset + field.length) bytes
      (patched bytes offset field) := by
  have front : (bytes.take offset).length = offset := by
    rw [List.length_take]
    omega
  refine ⟨patched_length fits, ?_⟩
  intro i out
  rw [patched, List.append_assoc]
  by_cases before : i < offset
  · rw [List.getElem?_append_left (by omega), List.getElem?_take, if_pos before]
  · have behind : offset + field.length ≤ i := by omega
    rw [List.getElem?_append_right (by omega), List.getElem?_append_right (by omega),
      List.getElem?_drop]
    congr 1
    omega

theorem slice_patched (fits : offset + field.length ≤ bytes.length) :
    slice (patched bytes offset field) offset field.length = field := by
  have front : (bytes.take offset).length = offset := by
    rw [List.length_take]
    omega
  rw [slice, patched, List.append_assoc, List.drop_left' front, List.take_left' rfl]

/-- Two fields written side by side are one field. -/
theorem patched_patched (fits : offset + field.length ≤ bytes.length) (next : Bytes) :
    patched (patched bytes offset field) (offset + field.length) next =
      patched bytes offset (field ++ next) := by
  have front : (bytes.take offset ++ field).length = offset + field.length := by
    rw [List.length_append, List.length_take]
    omega
  have kept : (patched bytes offset field).take (offset + field.length) =
      bytes.take offset ++ field :=
    List.take_left' front
  have behind : (patched bytes offset field).drop (offset + field.length + next.length) =
      bytes.drop (offset + field.length + next.length) := by
    rw [← List.drop_drop, patched, List.drop_left' front, List.drop_drop]
  rw [patched, kept, behind, patched, List.length_append, List.append_assoc, List.append_assoc,
    List.append_assoc, Nat.add_assoc, List.append_assoc]

/-- A field written over another of its size hides it. -/
theorem patched_over (fits : offset + field.length ≤ bytes.length) {next : Bytes}
    (same : next.length = field.length) :
    patched (patched bytes offset field) offset next = patched bytes offset next := by
  have front : (bytes.take offset).length = offset := by
    rw [List.length_take]
    omega
  have kept : (patched bytes offset field).take offset = bytes.take offset := by
    rw [patched, List.append_assoc, List.take_left' front]
  have behind : (patched bytes offset field).drop (offset + field.length) =
      bytes.drop (offset + field.length) := by
    rw [patched, List.drop_left' (by rw [List.length_append, front])]
  rw [patched, kept, same, behind, patched, same]

/-- A field written behind a prefix is written into the whole string. -/
theorem take_append_patched_drop (bytes : Bytes) (front offset : Nat) (field : Bytes) :
    bytes.take front ++ patched (bytes.drop front) offset field =
      patched bytes (front + offset) field := by
  rw [patched, patched, List.take_add, List.drop_drop, Nat.add_assoc, List.append_assoc,
    List.append_assoc, List.append_assoc]

end FragglePacket.Wire
