import Mathlib.Algebra.GroupWithZero.Nat
import Mathlib.Data.List.GetD
import Mathlib.Data.List.Infix

/-! Big-endian words in byte strings. -/

namespace FragglePacket.Wire

abbrev Bytes := List UInt8

def highByte (word : UInt16) : UInt8 := .ofNat (word.toNat / 256)

def lowByte (word : UInt16) : UInt8 := .ofNat word.toNat

/-- `u16::to_be_bytes`. -/
def be16 (word : UInt16) : Bytes := [highByte word, lowByte word]

/-- `u16::from_be_bytes`. -/
def readBe16 (high low : UInt8) : UInt16 := .ofNat (high.toNat * 256 + low.toNat)

def highWord (word : UInt32) : UInt16 := .ofNat (word.toNat / 65536)

def lowWord (word : UInt32) : UInt16 := .ofNat word.toNat

/-- `u32::to_be_bytes`. -/
def be32 (word : UInt32) : Bytes := be16 (highWord word) ++ be16 (lowWord word)

/-- `u32::from_be_bytes`. -/
def readBe32 (a b c d : UInt8) : UInt32 :=
  .ofNat ((readBe16 a b).toNat * 65536 + (readBe16 c d).toNat)

@[simp] theorem be16_length (word : UInt16) : (be16 word).length = 2 := rfl

@[simp] theorem be32_length (word : UInt32) : (be32 word).length = 4 := rfl

theorem highByte_toNat (word : UInt16) : (highByte word).toNat = word.toNat / 256 := by
  have bound := word.toNat_lt
  simp only [highByte, UInt8.toNat_ofNat']
  omega

theorem lowByte_toNat (word : UInt16) : (lowByte word).toNat = word.toNat % 256 := by
  simp [lowByte]

theorem readBe16_toNat (high low : UInt8) :
    (readBe16 high low).toNat = high.toNat * 256 + low.toNat := by
  have highBound := high.toNat_lt
  have lowBound := low.toNat_lt
  simp only [readBe16, UInt16.toNat_ofNat']
  omega

theorem highWord_toNat (word : UInt32) : (highWord word).toNat = word.toNat / 65536 := by
  have bound := word.toNat_lt
  simp only [highWord, UInt16.toNat_ofNat']
  omega

theorem lowWord_toNat (word : UInt32) : (lowWord word).toNat = word.toNat % 65536 := by
  simp [lowWord]

@[simp] theorem readBe16_bytes (word : UInt16) :
    readBe16 (highByte word) (lowByte word) = word := by
  apply UInt16.toNat_inj.mp
  rw [readBe16_toNat, highByte_toNat, lowByte_toNat]
  omega

@[simp] theorem highByte_readBe16 (high low : UInt8) : highByte (readBe16 high low) = high := by
  have lowBound := low.toNat_lt
  apply UInt8.toNat_inj.mp
  rw [highByte_toNat, readBe16_toNat]
  omega

@[simp] theorem lowByte_readBe16 (high low : UInt8) : lowByte (readBe16 high low) = low := by
  have lowBound := low.toNat_lt
  apply UInt8.toNat_inj.mp
  rw [lowByte_toNat, readBe16_toNat]
  omega

@[simp] theorem be16_readBe16 (high low : UInt8) : be16 (readBe16 high low) = [high, low] := by
  simp [be16]

theorem be16_injective {first second : UInt16} (same : be16 first = be16 second) :
    first = second := by
  have bytes : highByte first = highByte second ∧ lowByte first = lowByte second := by
    simpa [be16] using same
  rw [← readBe16_bytes first, bytes.1, bytes.2, readBe16_bytes]

@[simp] theorem be16_inj (first second : UInt16) : be16 first = be16 second ↔ first = second :=
  ⟨be16_injective, fun same => by rw [same]⟩

@[simp] theorem readBe32_bytes (word : UInt32) :
    readBe32 (highByte (highWord word)) (lowByte (highWord word))
      (highByte (lowWord word)) (lowByte (lowWord word)) = word := by
  have bound := word.toNat_lt
  apply UInt32.toNat_inj.mp
  simp only [readBe32, readBe16_bytes, UInt32.toNat_ofNat', highWord_toNat, lowWord_toNat]
  omega

@[simp] theorem highWord_readBe32 (a b c d : UInt8) :
    highWord (readBe32 a b c d) = readBe16 a b := by
  have high := (readBe16 a b).toNat_lt
  have low := (readBe16 c d).toNat_lt
  apply UInt16.toNat_inj.mp
  simp only [highWord_toNat, readBe32, UInt32.toNat_ofNat']
  omega

@[simp] theorem lowWord_readBe32 (a b c d : UInt8) : lowWord (readBe32 a b c d) = readBe16 c d := by
  have high := (readBe16 a b).toNat_lt
  have low := (readBe16 c d).toNat_lt
  apply UInt16.toNat_inj.mp
  simp only [lowWord_toNat, readBe32, UInt32.toNat_ofNat']
  omega

@[simp] theorem be32_readBe32 (a b c d : UInt8) : be32 (readBe32 a b c d) = [a, b, c, d] := by
  simp [be32]

/-- The big-endian word at an offset, when both of its bytes are there. -/
def wordAt (bytes : Bytes) (offset : Nat) : Option UInt16 :=
  match bytes.drop offset with
  | high :: low :: _ => some (readBe16 high low)
  | _ => none

@[simp] theorem wordAt_be16 (word : UInt16) (rest : Bytes) :
    wordAt (be16 word ++ rest) 0 = some word := by
  simp [wordAt, be16]

theorem wordAt_append {front : Bytes} {offset : Nat} (length : front.length = offset)
    (rest : Bytes) :
    wordAt (front ++ rest) offset = wordAt rest 0 := by
  subst length
  simp [wordAt]

theorem wordAt_drop (bytes : Bytes) (first second : Nat) :
    wordAt (bytes.drop first) second = wordAt bytes (first + second) := by
  simp [wordAt, List.drop_drop]

theorem wordAt_of_lt {bytes : Bytes} {offset : Nat} (inside : offset + 1 < bytes.length) :
    wordAt bytes offset = some (readBe16 (bytes.getD offset 0) (bytes.getD (offset + 1) 0)) := by
  have first : offset < bytes.length := Nat.lt_of_succ_lt inside
  have tail : bytes.drop offset =
      bytes[offset] :: bytes[offset + 1] :: bytes.drop (offset + 2) := by
    rw [List.drop_eq_getElem_cons first, List.drop_eq_getElem_cons inside]
  simp only [wordAt, tail, List.getD_eq_getElem _ _ first, List.getD_eq_getElem _ _ inside]

theorem drop_take_four {bytes : Bytes} {offset : Nat} (inside : offset + 3 < bytes.length) :
    (bytes.drop offset).take 4 =
      [bytes.getD offset 0, bytes.getD (offset + 1) 0, bytes.getD (offset + 2) 0,
        bytes.getD (offset + 3) 0] := by
  simp only [List.getD_eq_getElem _ _ (Nat.lt_of_le_of_lt (Nat.le_add_right offset 3) inside),
    List.getD_eq_getElem _ _ (show offset + 1 < bytes.length by omega),
    List.getD_eq_getElem _ _ (show offset + 2 < bytes.length by omega),
      List.getD_eq_getElem _ _ inside]
  rw [List.drop_eq_getElem_cons (by omega), List.drop_eq_getElem_cons (by omega),
    List.drop_eq_getElem_cons (by omega), List.drop_eq_getElem_cons inside]
  rfl

end FragglePacket.Wire
