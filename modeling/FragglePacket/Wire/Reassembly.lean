import FragglePacket.Wire.Bytes

/-! Reassembly: pieces written at offsets into a buffer that grows with zeros. -/

namespace FragglePacket.Wire

/-- Writes a piece over what the buffer holds at the offset. -/
def place (buffer : Bytes) (offset : Nat) (piece : Bytes) : Bytes :=
  buffer.take offset ++ List.replicate (offset - buffer.length) 0 ++ piece ++
    buffer.drop (offset + piece.length)

/-- The buffer after all pieces, each with its offset, have been placed in order. -/
def reassemble (pieces : List (Nat × Bytes)) : Bytes :=
  pieces.foldl (fun buffer piece => place buffer piece.1 piece.2) []

theorem place_length (buffer : Bytes) (offset : Nat) (piece : Bytes) :
    (place buffer offset piece).length = max buffer.length (offset + piece.length) := by
  simp only [place, List.length_append, List.length_take, List.length_replicate, List.length_drop]
  omega

/-- A piece placed at the end of the buffer extends it. -/
theorem place_at_end (buffer piece : Bytes) :
    place buffer buffer.length piece = buffer ++ piece := by
  simp [place]

private theorem foldl_place_length_le {pieces : List (Nat × Bytes)} {bound : Nat}
    (within : ∀ piece ∈ pieces, piece.1 + piece.2.length ≤ bound) {buffer : Bytes}
    (start : buffer.length ≤ bound) :
    (pieces.foldl (fun buffer piece => place buffer piece.1 piece.2) buffer).length ≤ bound := by
  induction pieces generalizing buffer with
  | nil => exact start
  | cons piece rest ih =>
    refine ih (fun other member => within other (List.mem_cons_of_mem _ member)) ?_
    rw [place_length]
    exact Nat.max_le.mpr ⟨start, within piece List.mem_cons_self⟩

/-- The buffer reaches no further than the piece that ends last. -/
theorem reassemble_length_le {pieces : List (Nat × Bytes)} {bound : Nat}
    (within : ∀ piece ∈ pieces, piece.1 + piece.2.length ≤ bound) :
    (reassemble pieces).length ≤ bound :=
  foldl_place_length_le within (Nat.zero_le _)

/-- Consecutive windows of a byte string reassemble to its front. -/
theorem reassemble_windows (bytes : Bytes) (size count : Nat)
    (starts : ∀ k, k < count → k * size ≤ bytes.length) :
    reassemble ((List.range count).map fun k => (k * size, (bytes.drop (k * size)).take size)) =
      bytes.take (count * size) := by
  induction count with
  | zero => simp [reassemble]
  | succ count ih =>
    have earlier := ih fun k bound => starts k (Nat.lt_succ_of_lt bound)
    have filled : (bytes.take (count * size)).length = count * size := by
      rw [List.length_take, Nat.min_eq_left (starts count (Nat.lt_succ_self count))]
    rw [reassemble] at earlier ⊢
    rw [List.range_succ, List.map_append, List.foldl_append, earlier, List.map_singleton,
      List.foldl_cons, List.foldl_nil]
    have extended :=
      place_at_end (bytes.take (count * size)) ((bytes.drop (count * size)).take size)
    rw [filled] at extended
    rw [extended, ← List.take_add, Nat.succ_mul]

end FragglePacket.Wire
