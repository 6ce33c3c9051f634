import FragglePacket.Wire.Bytes

/-! The Internet checksum: the one's-complement sum of the big-endian words of a
byte string, an odd last byte padded with zero. -/

namespace FragglePacket.Wire

def words : Bytes → List UInt16
  | [] => []
  | [last] => [readBe16 last 0]
  | high :: low :: rest => readBe16 high low :: words rest

/-- Addition with end-around carry. -/
def onesAdd (first second : UInt16) : UInt16 :=
  let sum := first.toNat + second.toNat
  .ofNat (if sum < 65536 then sum else sum - 65535)

def onesSum (bytes : Bytes) : UInt16 := (words bytes).foldl onesAdd 0

def internetChecksum (bytes : Bytes) : UInt16 := ~~~ onesSum bytes

/-- The sum of the words as an ordinary number. -/
def wordSum (bytes : Bytes) : Nat := ((words bytes).map UInt16.toNat).sum

@[simp] theorem wordSum_nil : wordSum [] = 0 := rfl

@[simp] theorem wordSum_cons (high low : UInt8) (rest : Bytes) :
    wordSum (high :: low :: rest) = (high.toNat * 256 + low.toNat) + wordSum rest := by
  simp [wordSum, words, readBe16_toNat]

/-- Words do not straddle a cut at an even offset. -/
theorem wordSum_append {front : Bytes} (even : front.length % 2 = 0) (back : Bytes) :
    wordSum (front ++ back) = wordSum front + wordSum back := by
  induction front using words.induct with
  | case1 => simp
  | case2 last => simp at even
  | case3 high low rest ih =>
    have restEven : rest.length % 2 = 0 := by
      rw [List.length_cons, List.length_cons] at even
      omega
    simp only [List.cons_append, wordSum_cons, ih restEven]
    omega

@[simp] theorem wordSum_be16 (word : UInt16) : wordSum (be16 word) = word.toNat := by
  simp only [be16, wordSum_cons, wordSum_nil, highByte_toNat, lowByte_toNat]
  omega

@[simp] theorem wordSum_be16_append (word : UInt16) (rest : Bytes) :
    wordSum (be16 word ++ rest) = word.toNat + wordSum rest := by
  rw [wordSum_append (by simp), wordSum_be16]

@[simp] theorem wordSum_be32 (word : UInt32) :
    wordSum (be32 word) = word.toNat / 65536 + word.toNat % 65536 := by
  rw [be32, wordSum_be16_append, wordSum_be16, highWord_toNat, lowWord_toNat]

@[simp] theorem wordSum_be32_append (word : UInt32) (rest : Bytes) :
    wordSum (be32 word ++ rest) = word.toNat / 65536 + word.toNat % 65536 + wordSum rest := by
  rw [wordSum_append (by simp), wordSum_be32]

theorem onesAdd_toNat (first second : UInt16) :
    (onesAdd first second).toNat =
      if first.toNat + second.toNat < 65536 then first.toNat + second.toNat
      else first.toNat + second.toNat - 65535 := by
  have firstBound := first.toNat_lt
  have secondBound := second.toNat_lt
  simp only [onesAdd, UInt16.toNat_ofNat']
  split <;> omega

/-- The folded sum represents the ordinary one: equal modulo 65535, and zero
only for zero. -/
structure Represents (folded : UInt16) (total : Nat) : Prop where
  residue : folded.toNat % 65535 = total % 65535
  zero : folded.toNat = 0 ↔ total = 0

theorem Represents.add {folded : UInt16} {total : Nat} (represents : Represents folded total)
    (word : UInt16) : Represents (onesAdd folded word) (total + word.toNat) := by
  have bound := folded.toNat_lt
  have wordBound := word.toNat_lt
  have residue := represents.residue
  have zero := represents.zero
  constructor
  · rw [onesAdd_toNat]
    split <;> omega
  · rw [onesAdd_toNat]
    split <;> omega

theorem represents_foldl (list : List UInt16) {folded : UInt16} {total : Nat}
    (represents : Represents folded total) :
    Represents (list.foldl onesAdd folded) (total + (list.map UInt16.toNat).sum) := by
  induction list generalizing folded total with
  | nil => simpa using represents
  | cons word rest ih =>
    have next := ih (represents.add word)
    rwa [List.foldl_cons, List.map_cons, List.sum_cons, ← Nat.add_assoc]

theorem onesSum_represents (bytes : Bytes) : Represents (onesSum bytes) (wordSum bytes) := by
  have start : Represents 0 0 := ⟨rfl, by simp⟩
  simpa only [onesSum, wordSum, Nat.zero_add] using represents_foldl (words bytes) start

/-- A byte string verifies exactly when its words sum to a nonzero multiple of 65535. -/
theorem onesSum_eq_max_iff (bytes : Bytes) :
    onesSum bytes = 0xFFFF ↔ wordSum bytes ≠ 0 ∧ wordSum bytes % 65535 = 0 := by
  have bound := (onesSum bytes).toNat_lt
  have residue := (onesSum_represents bytes).residue
  have zero := (onesSum_represents bytes).zero
  have value : onesSum bytes = 0xFFFF ↔ (onesSum bytes).toNat = 65535 := by
    rw [← UInt16.toNat_inj]
    rfl
  rw [value]
  omega

/-- The checksum of a string whose checksum field is cleared, written into
the field, makes it verify. -/
theorem internetChecksum_completes {front : Bytes} (even : front.length % 2 = 0) (back : Bytes) :
    onesSum (front ++ (be16 (internetChecksum (front ++ (be16 0 ++ back))) ++ back)) = 0xFFFF := by
  have represents := onesSum_represents (front ++ (be16 0 ++ back))
  have residue := represents.residue
  have zero := represents.zero
  have bound := (onesSum (front ++ (be16 0 ++ back))).toNat_lt
  have complement : (internetChecksum (front ++ (be16 0 ++ back))).toNat =
      65535 - (onesSum (front ++ (be16 0 ++ back))).toNat := by
    rw [internetChecksum, UInt16.toNat_not]
    rfl
  have cleared : wordSum (front ++ (be16 0 ++ back)) = wordSum (front ++ back) := by
    rw [wordSum_append even, wordSum_be16_append, wordSum_append even, UInt16.toNat_zero,
      Nat.zero_add]
  rw [onesSum_eq_max_iff, wordSum_append even, wordSum_be16_append, complement]
  rw [cleared] at residue zero
  rw [wordSum_append even] at residue zero
  omega

theorem internetChecksum_ne_max {bytes : Bytes} (nonzero : wordSum bytes ≠ 0) :
    internetChecksum bytes ≠ 0xFFFF := by
  have represents := (onesSum_represents bytes).zero
  intro isMax
  have complement : (internetChecksum bytes).toNat = 65535 - (onesSum bytes).toNat := by
    rw [internetChecksum, UInt16.toNat_not]
    rfl
  rw [isMax] at complement
  have max : (0xFFFF : UInt16).toNat = 65535 := rfl
  have bound := (onesSum bytes).toNat_lt
  omega

/-- In a string that verifies no word can be replaced by another, but for the two zeros of the
one's-complement numbers. -/
theorem verifies_replaced_iff {front : Bytes} (even : front.length % 2 = 0) {back : Bytes}
    (nonzero : wordSum (front ++ back) ≠ 0) {word : UInt16}
    (verifies : onesSum (front ++ (be16 word ++ back)) = 0xFFFF) (other : UInt16) :
    onesSum (front ++ (be16 other ++ back)) = 0xFFFF ↔
      other = word ∨ (word = 0 ∧ other = 0xFFFF) ∨ (word = 0xFFFF ∧ other = 0) := by
  have wordBound := word.toNat_lt
  have otherBound := other.toNat_lt
  have max : (0xFFFF : UInt16).toNat = 65535 := rfl
  have zero : (0 : UInt16).toNat = 0 := rfl
  rw [onesSum_eq_max_iff, wordSum_append even, wordSum_be16_append] at verifies
  rw [wordSum_append even] at nonzero
  rw [onesSum_eq_max_iff, wordSum_append even, wordSum_be16_append]
  simp only [← UInt16.toNat_inj, max, zero]
  omega

end FragglePacket.Wire
