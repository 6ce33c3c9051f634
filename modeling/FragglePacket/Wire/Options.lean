import FragglePacket.Wire.Bytes
import Mathlib.Data.List.ReduceOption

/-! Option areas: one-byte fillers between records of a kind, a length that counts the
whole record, and a value. Kind 0 ends the area and kind 1 fills it. -/

namespace FragglePacket.Wire

/-- A kind and a value; `none` is a filler. -/
abbrev Opt := Option (UInt8 × Bytes)

def Opt.bytes : Opt → Bytes
  | none => [1]
  | some (kind, value) => kind :: .ofNat (2 + value.length) :: value

/-- The record can be told from a filler and from the end, and its length fits a byte. -/
def Opt.WellFormed : Opt → Prop
  | none => True
  | some (kind, value) => 2 ≤ kind.toNat ∧ value.length ≤ 253

/-- Walks an option area by kind and length and lists its records. -/
def optionWalk : Bytes → Option (List (UInt8 × Bytes))
  | [] => some []
  | kind :: rest =>
    if kind = 0 then some []
    else if kind = 1 then optionWalk rest
    else
      match rest with
      | [] => none
      | length :: body =>
        if 2 ≤ length.toNat ∧ length.toNat - 2 ≤ body.length then
          (optionWalk (body.drop (length.toNat - 2))).map
            ((kind, body.take (length.toNat - 2)) :: ·)
        else none
termination_by bytes => bytes.length
decreasing_by
  · exact Nat.lt_succ_self _
  · simp only [List.length_cons, List.length_drop]
    omega

@[simp] theorem optionWalk_nil : optionWalk [] = some [] := by rw [optionWalk]

@[simp] theorem optionWalk_filler (rest : Bytes) : optionWalk (1 :: rest) = optionWalk rest := by
  rw [optionWalk.eq_def]
  simp

theorem optionWalk_record {kind : UInt8} {value : Bytes}
    (wellFormed : Opt.WellFormed (some (kind, value))) (rest : Bytes) :
    optionWalk (Opt.bytes (some (kind, value)) ++ rest) =
      (optionWalk rest).map ((kind, value) :: ·) := by
  obtain ⟨large, short⟩ := wellFormed
  have notEnd : kind ≠ 0 := by rintro rfl; simp at large
  have notFiller : kind ≠ 1 := by rintro rfl; simp at large
  have length : (UInt8.ofNat (2 + value.length)).toNat = 2 + value.length := by
    rw [UInt8.toNat_ofNat']
    omega
  rw [Opt.bytes, List.cons_append, List.cons_append, optionWalk, if_neg notEnd, if_neg notFiller]
  simp only [length, Nat.add_sub_cancel_left, List.length_append, List.drop_left, List.take_left]
  rw [if_pos (by omega)]

/-- A written option area is walked back to its records. -/
theorem optionWalk_flatMap {opts : List Opt} (wellFormed : ∀ opt ∈ opts, opt.WellFormed) :
    optionWalk (opts.flatMap Opt.bytes) = some opts.reduceOption := by
  induction opts with
  | nil => exact optionWalk_nil
  | cons opt rest ih =>
    have tail := ih fun other member => wellFormed other (List.mem_cons_of_mem _ member)
    cases opt with
    | none => simpa [Opt.bytes, List.reduceOption_cons_of_none] using tail
    | some record =>
      rw [List.flatMap_cons, optionWalk_record (wellFormed _ List.mem_cons_self), tail]
      rfl

end FragglePacket.Wire
