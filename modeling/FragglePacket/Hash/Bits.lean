import FragglePacket.Wire.Bytes
import Mathlib.Data.Nat.Digits.Defs

/-! Bit strings as hash functions take them: the padding to whole blocks, and the
32-bit words of a string in both byte orders. -/

namespace FragglePacket.Hash

open FragglePacket.Wire

/-- The bits of a byte, the highest first. -/
def byteBits (byte : UInt8) : List Bool := [7, 6, 5, 4, 3, 2, 1, 0].map byte.toNat.testBit

def bitsOf (bytes : Bytes) : List Bool := bytes.flatMap byteBits

/-- The number that a bit string writes, its highest bit first. -/
def value (bits : List Bool) : Nat := bits.foldl (fun high bit => 2 * high + bit.toNat) 0

/-- Consecutive groups of a size; what is left over is dropped. -/
def groups {α : Type} (size : Nat) (list : List α) : List (List α) :=
  (List.range (list.length / size)).map fun i => (list.drop (size * i)).take size

/-- The message with a one bit and the zeros that leave room for 64 bits in its last block. -/
def pad (message : List Bool) : List Bool :=
  message ++ true :: List.replicate ((959 - message.length % 512) % 512) false

/-- The 32-bit words of a string, high-order bytes first. -/
def beWords (bits : List Bool) : List UInt32 := (groups 32 bits).map fun word => .ofNat (value word)

/-- The 32-bit words of a string, low-order bytes first. -/
def leWords (bits : List Bool) : List UInt32 :=
  (groups 32 bits).map fun word => .ofNat (Nat.ofDigits 256 ((groups 8 word).map value))

/-- Circular left shift. -/
def rotate (word : UInt32) (distance : Nat) : UInt32 :=
  .ofBitVec (word.toBitVec.rotateLeft distance)

/-- Four bytes at a time; what is left over is dropped. -/
def wordsWith (read : UInt8 → UInt8 → UInt8 → UInt8 → UInt32) : Bytes → List UInt32
  | a :: b :: c :: d :: rest => read a b c d :: wordsWith read rest
  | _ => []

section Groups
variable {α : Type} {size : Nat}

theorem groups_short {list : List α} (short : list.length < size) : groups size list = [] := by
  rw [groups, Nat.div_eq_of_lt short, List.range_zero, List.map_nil]

theorem groups_cons (pos : 0 < size) {front : List α} (whole : front.length = size)
    (back : List α) :
    groups size (front ++ back) = front :: groups size back := by
  have count : (front ++ back).length / size = back.length / size + 1 := by
    rw [List.length_append, whole, Nat.add_comm, Nat.add_div_right _ pos]
  rw [groups, count, List.range_succ_eq_map, List.map_cons, List.map_map, groups]
  congr 1
  · rw [Nat.mul_zero, List.drop_zero, List.take_left' whole]
  · apply List.map_congr_left
    intro i _
    have behind : size * (i + 1) = front.length + size * i := by
      rw [whole, Nat.mul_succ, Nat.add_comm]
    rw [Function.comp_apply, Nat.succ_eq_add_one, behind, List.drop_length_add_append]

end Groups

section Bytes

theorem byteBits_length (byte : UInt8) : (byteBits byte).length = 8 := rfl

theorem bitsOf_cons (byte : UInt8) (rest : Bytes) :
    bitsOf (byte :: rest) = byteBits byte ++ bitsOf rest := rfl

theorem bitsOf_append (front back : Bytes) : bitsOf (front ++ back) = bitsOf front ++ bitsOf back :=
  List.flatMap_append

theorem bitsOf_length (bytes : Bytes) : (bitsOf bytes).length = 8 * bytes.length := by
  induction bytes with
  | nil => rfl
  | cons byte rest ih =>
    rw [bitsOf_cons, List.length_append, byteBits_length, ih, List.length_cons]
    omega

theorem bitsOf_zeros (count : Nat) :
    bitsOf (List.replicate count 0) = List.replicate (8 * count) false := by
  induction count with
  | zero => rfl
  | succ count ih =>
    have first : byteBits 0 = List.replicate 8 false := by decide
    rw [List.replicate_succ, bitsOf_cons, ih, first, List.replicate_append_replicate, Nat.mul_succ,
      Nat.add_comm]

theorem value_append (front back : List Bool) :
    value (front ++ back) = value front * 2 ^ back.length + value back := by
  induction back using List.reverseRecOn with
  | nil => simp [value]
  | append_singleton back bit ih =>
    have last (bits : List Bool) : value (bits ++ [bit]) = 2 * value bits + bit.toNat := by
      rw [value, List.foldl_concat, ← value]
    rw [← List.append_assoc, last, ih, last, List.length_append, List.length_singleton,
      Nat.pow_succ]
    ring

/-- The low bits of a number write its rest by a power of two. -/
theorem value_lowBits (number count : Nat) :
    value ((List.range count).reverse.map number.testBit) = number % 2 ^ count := by
  induction count with
  | zero => simp [value, Nat.mod_one]
  | succ count ih =>
    have first : value [number.testBit count] = (number.testBit count).toNat := by simp [value]
    rw [List.range_succ, List.reverse_append, List.reverse_singleton, List.map_append, value_append,
      List.map_singleton, first, ih, List.length_map, List.length_reverse, List.length_range,
      Nat.toNat_testBit, Nat.mod_pow_succ, Nat.mul_comm, Nat.add_comm]

theorem value_byteBits (byte : UInt8) : value (byteBits byte) = byte.toNat := by
  have low : byteBits byte = (List.range 8).reverse.map byte.toNat.testBit := rfl
  rw [low, value_lowBits, Nat.mod_eq_of_lt byte.toNat_lt]

/-- The padding of a byte string is a byte string. -/
theorem pad_bitsOf (bytes : Bytes) : pad (bitsOf bytes) =
    bitsOf (bytes ++ [0x80] ++ List.replicate ((120 - (bytes.length + 1) % 64) % 64) 0) := by
  have marker : bitsOf [0x80] = true :: List.replicate 7 false := by decide
  have zeros : (959 - (bitsOf bytes).length % 512) % 512 =
      7 + 8 * ((120 - (bytes.length + 1) % 64) % 64) := by
    rw [bitsOf_length]
    omega
  rw [pad, zeros, bitsOf_append, bitsOf_append, bitsOf_zeros, marker, List.append_assoc,
    List.cons_append, List.replicate_append_replicate]

end Bytes

section Words
variable {read : UInt8 → UInt8 → UInt8 → UInt8 → UInt32}

/-- Bytes are taken four at a time, down to fewer than four. -/
@[elab_as_elim] theorem four_induction {motive : Bytes → Prop}
    (short : ∀ bytes, bytes.length < 4 → motive bytes) (word : ∀ a b c d rest, motive rest →
      motive (a :: b :: c :: d :: rest)) : (bytes : Bytes) → motive bytes
  | [] => short _ (by decide)
  | [_] => short _ (by simp)
  | [_, _] => short _ (by simp)
  | [_, _, _] => short _ (by simp)
  | a :: b :: c :: d :: rest => word a b c d rest (four_induction short word rest)

theorem wordsWith_short {bytes : Bytes} (few : bytes.length < 4) : wordsWith read bytes = [] := by
  match bytes with
  | [] | [_] | [_, _] | [_, _, _] => rfl
  | a :: b :: c :: d :: rest =>
    simp only [List.length_cons] at few
    omega

theorem wordsWith_append {front : Bytes} (whole : front.length % 4 = 0) (back : Bytes) :
    wordsWith read (front ++ back) = wordsWith read front ++ wordsWith read back := by
  induction front using four_induction with
  | short front few =>
    obtain rfl : front = [] := List.length_eq_zero_iff.mp (by omega)
    rfl
  | word a b c d rest ih =>
    simp only [List.length_cons] at whole
    simp only [List.cons_append, wordsWith, ih (by omega)]

theorem wordsWith_length (bytes : Bytes) : (wordsWith read bytes).length = bytes.length / 4 := by
  induction bytes using four_induction with
  | short bytes few => rw [wordsWith_short few, List.length_nil, Nat.div_eq_of_lt few]
  | word a b c d rest ih =>
    rw [wordsWith, List.length_cons, ih]
    simp only [List.length_cons]
    omega

/-- The words one by one, at the offsets of their first bytes. -/
theorem wordsWith_getD (bytes : Bytes) :
    wordsWith read bytes = (List.range (bytes.length / 4)).map fun i =>
    read (bytes.getD (i * 4) 0) (bytes.getD (i * 4 + 1) 0) (bytes.getD (i * 4 + 2) 0)
      (bytes.getD (i * 4 + 3) 0) := by
  induction bytes using four_induction with
  | short bytes few => rw [wordsWith_short few, Nat.div_eq_of_lt few, List.range_zero, List.map_nil]
  | word a b c d rest ih =>
    have count : (a :: b :: c :: d :: rest).length / 4 = rest.length / 4 + 1 := by
      simp only [List.length_cons]
      omega
    rw [wordsWith, ih, count, List.range_succ_eq_map, List.map_cons, List.map_map]
    congr 1
    apply List.map_congr_left
    intro i _
    have behind (k : Nat) : (a :: b :: c :: d :: rest).getD (i * 4 + 4 + k) 0 =
        rest.getD (i * 4 + k) 0 := by
      rw [Nat.add_right_comm]
      rfl
    have start : (i + 1) * 4 = i * 4 + 4 := Nat.succ_mul i 4
    simp only [Function.comp_apply, Nat.succ_eq_add_one, start, behind]
    rw [← Nat.add_zero (i * 4 + 4), behind]
    rfl

/-- The blocks of sixteen words are the words of blocks of 64 bytes. -/
theorem groups_wordsWith (count : Nat) {bytes : Bytes} (whole : bytes.length = 64 * count) :
    groups 16 (wordsWith read bytes) = (groups 64 bytes).map (wordsWith read) := by
  induction count generalizing bytes with
  | zero =>
    have empty : bytes = [] := List.length_eq_zero_iff.mp whole
    have none : wordsWith read [] = [] := rfl
    rw [empty, none, groups_short (by decide), groups_short (by decide), List.map_nil]
  | succ count ih =>
    have front : (bytes.take 64).length = 64 := by
      rw [List.length_take]
      omega
    have rest : (bytes.drop 64).length = 64 * count := by
      rw [List.length_drop]
      omega
    have words : (wordsWith read (bytes.take 64)).length = 16 := by rw [wordsWith_length, front]
    rw [← List.take_append_drop 64 bytes, wordsWith_append (by rw [front]),
      groups_cons (by decide) words, groups_cons (by decide) front, List.map_cons, ih rest]

end Words

section WordValues

theorem four_bytes (a b c d : UInt8) (rest : Bytes) :
    bitsOf (a :: b :: c :: d :: rest) = bitsOf [a, b, c, d] ++ bitsOf rest :=
      bitsOf_append [a, b, c, d] rest

theorem value_four (a b c d : UInt8) :
    UInt32.ofNat (value (bitsOf [a, b, c, d])) = readBe32 a b c d := by
  have parts : bitsOf [a, b, c, d] = byteBits a ++ (byteBits b ++ (byteBits c ++ byteBits d)) := by
    simp only [bitsOf, List.flatMap_cons, List.flatMap_nil, List.append_nil]
  have number : value (bitsOf [a, b, c, d]) =
      (a.toNat * 256 + b.toNat) * 65536 + (c.toNat * 256 + d.toNat) := by
    rw [parts, value_append, value_append, value_append]
    simp only [value_byteBits, List.length_append, byteBits_length, Nat.reduceAdd, Nat.reducePow]
    omega
  rw [number, readBe32, readBe16_toNat, readBe16_toNat]

theorem octets_four (a b c d : UInt8) :
    UInt32.ofNat (Nat.ofDigits 256 ((groups 8 (bitsOf [a, b, c, d])).map value)) =
      readBe32 d c b a := by
  have parts : bitsOf [a, b, c, d] =
      byteBits a ++ (byteBits b ++ (byteBits c ++ (byteBits d ++ []))) := by
    simp only [bitsOf, List.flatMap_cons, List.flatMap_nil]
  have pos : 0 < 8 := by decide
  have digits : Nat.ofDigits 256 ((groups 8 (bitsOf [a, b, c, d])).map value) =
      (d.toNat * 256 + c.toNat) * 65536 + (b.toNat * 256 + a.toNat) := by
    rw [parts, groups_cons pos (byteBits_length a), groups_cons pos (byteBits_length b),
      groups_cons pos (byteBits_length c), groups_cons pos (byteBits_length d), groups_short
        (by decide)]
    simp only [List.map_cons, List.map_nil, value_byteBits, Nat.ofDigits_cons, Nat.ofDigits_nil]
    omega
  rw [digits, readBe32, readBe16_toNat, readBe16_toNat]

/-- Words made of groups of 32 bits are words made of four bytes. -/
theorem groups_bitsOf {word : List Bool → UInt32} {read : UInt8 → UInt8 → UInt8 → UInt8 → UInt32}
    (same : ∀ a b c d, word (bitsOf [a, b, c, d]) = read a b c d) (bytes : Bytes) :
    (groups 32 (bitsOf bytes)).map word = wordsWith read bytes := by
  induction bytes using four_induction with
  | short bytes few =>
    have bits : (bitsOf bytes).length < 32 := by
      rw [bitsOf_length]
      omega
    rw [groups_short bits, wordsWith_short few, List.map_nil]
  | word a b c d rest ih =>
    have whole : (bitsOf [a, b, c, d]).length = 32 := bitsOf_length [a, b, c, d]
    rw [four_bytes, groups_cons (by decide) whole, List.map_cons, ih, same, wordsWith]

theorem beWords_bitsOf (bytes : Bytes) : beWords (bitsOf bytes) = wordsWith readBe32 bytes :=
  groups_bitsOf value_four bytes

theorem leWords_bitsOf (bytes : Bytes) :
    leWords (bitsOf bytes) = wordsWith (fun a b c d => readBe32 d c b a) bytes :=
  groups_bitsOf octets_four bytes

end WordValues

end FragglePacket.Hash
