import FragglePacket.Text.Str
import FragglePacket.Wire.Bytes

/-! Texts out of bytes that need not be UTF-8, and texts in lower case. -/

namespace FragglePacket.Text

open FragglePacket.Wire

section Lossy

def encodeUtf8 (text : Str) : Bytes := text.flatMap String.utf8EncodeChar

def isContinuation (b : UInt8) : Bool := decide (0x80 ≤ b ∧ b ≤ 0xBF)

/-- Two bytes that begin a character of three. -/
def beginsThree (b0 b1 : UInt8) : Bool :=
  decide ((b0 = 0xE0 ∧ 0xA0 ≤ b1 ∧ b1 ≤ 0xBF) ∨ (0xE1 ≤ b0 ∧ b0 ≤ 0xEC ∧ 0x80 ≤ b1 ∧ b1 ≤ 0xBF) ∨
    (b0 = 0xED ∧ 0x80 ≤ b1 ∧ b1 ≤ 0x9F) ∨ (0xEE ≤ b0 ∧ b0 ≤ 0xEF ∧ 0x80 ≤ b1 ∧ b1 ≤ 0xBF))

/-- Two bytes that begin a character of four. -/
def beginsFour (b0 b1 : UInt8) : Bool :=
  decide ((b0 = 0xF0 ∧ 0x90 ≤ b1 ∧ b1 ≤ 0xBF) ∨ (0xF1 ≤ b0 ∧ b0 ≤ 0xF3 ∧ 0x80 ≤ b1 ∧ b1 ≤ 0xBF) ∨
    (b0 = 0xF4 ∧ 0x80 ≤ b1 ∧ b1 ≤ 0x8F))

/-- How many bytes in front, of which no character is made, are replaced by one character. -/
def invalidLength : Bytes → Nat
  | b0 :: b1 :: rest =>
    if beginsThree b0 b1 then 2
    else if beginsFour b0 b1 then if rest.head?.any isContinuation then 3 else 2
    else 1
  | _ => 1

def decodeLossy : Nat → Bytes → Str
  | 0, _ => []
  | _, [] => []
  | fuel + 1, bytes =>
    match bytes.toByteArray.utf8DecodeChar? 0 with
    | some c => c :: decodeLossy fuel (bytes.drop c.utf8Size)
    | none => '\uFFFD' :: decodeLossy fuel (bytes.drop (invalidLength bytes))

/-- `String::from_utf8_lossy`. Each byte makes at most one character. -/
def fromUtf8Lossy (bytes : Bytes) : Str := decodeLossy bytes.length bytes

private theorem decodeLossy_encode (text : Str) {fuel : Nat}
    (enough : (encodeUtf8 text).length ≤ fuel) :
    decodeLossy fuel (encodeUtf8 text) = text := by
  induction text generalizing fuel with
  | nil => cases fuel <;> rfl
  | cons c rest ih =>
    have size : (String.utf8EncodeChar c).length = c.utf8Size := String.length_utf8EncodeChar c
    have positive : 0 < c.utf8Size := Char.utf8Size_pos c
    have split : encodeUtf8 (c :: rest) = String.utf8EncodeChar c ++ encodeUtf8 rest :=
      List.flatMap_cons
    rw [split] at enough ⊢
    obtain ⟨first, others, bytes⟩ : ∃ first others, String.utf8EncodeChar c ++ encodeUtf8 rest =
        first :: others := by
      apply List.exists_cons_of_ne_nil
      intro empty
      rw [(List.append_eq_nil_iff.mp empty).1] at size
      exact absurd size positive.ne
    obtain ⟨fuel, rfl⟩ : ∃ left, fuel = left + 1 :=
      ⟨fuel - 1, by rw [List.length_append] at enough; omega⟩
    have decoded : (String.utf8EncodeChar c ++ encodeUtf8 rest).toByteArray.utf8DecodeChar? 0 =
        some c := by
      rw [List.toByteArray_append]
      exact ByteArray.utf8DecodeChar?_utf8EncodeChar_append
    have step : decodeLossy (fuel + 1) (String.utf8EncodeChar c ++ encodeUtf8 rest) =
        c :: decodeLossy fuel ((String.utf8EncodeChar c ++ encodeUtf8 rest).drop c.utf8Size) := by
      rw [bytes, decodeLossy, ← bytes, decoded]
      simp
    rw [step, ← size, List.drop_left, ih (by rw [List.length_append] at enough; omega)]

/-- A text is read back out of its own bytes. -/
theorem fromUtf8Lossy_encodeUtf8 (text : Str) : fromUtf8Lossy (encodeUtf8 text) = text :=
  decodeLossy_encode text le_rfl

end Lossy

section Lowercase

/-- What the Unicode tables say of the characters beyond ASCII. -/
structure CaseTables where
  lower : Char → Str
  cased : Char → Bool
  caseIgnorable : Char → Bool

namespace CaseTables
variable (tables : CaseTables)

/-- Tables that know no letter beyond ASCII. -/
def ascii : CaseTables := ⟨fun c => [c], fun _ => false, fun _ => false⟩

def ignorableThenCased (chars : Str) : Bool :=
  (chars.dropWhile tables.caseIgnorable).head?.any tables.cased

/-- A character in lower case, by what is in front of it, nearest first, and behind it. A sigma
that ends a word has a form of its own. -/
def lowered (before : Str) (c : Char) (after : Str) : Str :=
  if c.toNat < 128 then [c.toLower]
  else if c = 'Σ' then
    if tables.ignorableThenCased before && !tables.ignorableThenCased after then ['ς'] else ['σ']
  else tables.lower c

def lowercaseFrom (before : Str) : Str → Str
  | [] => []
  | c :: after => tables.lowered before c after ++ lowercaseFrom (c :: before) after

/-- `str::to_lowercase`. -/
def toLowercase (text : Str) : Str := tables.lowercaseFrom [] text

variable {tables}

theorem lowercaseFrom_append (before front rest : Str) :
    ∃ lowerFront, tables.lowercaseFrom before (front ++ rest) =
      lowerFront ++ tables.lowercaseFrom (front.reverse ++ before) rest := by
  induction front generalizing before with
  | nil => exact ⟨[], rfl⟩
  | cons c front ih =>
    obtain ⟨lowerFront, same⟩ := ih (c :: before)
    refine ⟨tables.lowered before c (front ++ rest) ++ lowerFront, ?_⟩
    rw [List.cons_append, lowercaseFrom, same, List.append_assoc, List.reverse_cons,
      List.append_assoc]
    rfl

/-- ASCII is in lower case whatever is around it. -/
theorem lowercaseFrom_ascii {front : Str} (ascii : ∀ c ∈ front, c.toNat < 128) (before rest : Str) :
    tables.lowercaseFrom before (front ++ rest) =
      front.map Char.toLower ++ tables.lowercaseFrom (front.reverse ++ before) rest := by
  induction front generalizing before with
  | nil => rfl
  | cons c front ih =>
    obtain ⟨first, others⟩ := List.forall_mem_cons.mp ascii
    rw [List.cons_append, lowercaseFrom, ih others, lowered, if_pos first, List.map_cons,
      List.reverse_cons, List.append_assoc]
    rfl

theorem toLowercase_ascii {text : Str} (ascii : ∀ c ∈ text, c.toNat < 128) :
    tables.toLowercase text = text.map Char.toLower := by
  have lower := @lowercaseFrom_ascii tables _ ascii [] []
  rwa [List.append_nil, lowercaseFrom, List.append_nil] at lower

end CaseTables

end Lowercase

end FragglePacket.Text
