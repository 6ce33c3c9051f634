import FragglePacket.Net.IpAddr

/-! The dotted-quad spelling of IPv4 addresses and the parser that reads it. -/

namespace FragglePacket.Net

open FragglePacket.Text

theorem octetText_digits (octet : UInt8) : ∀ c ∈ octetText octet, isAsciiDigit c = true :=
  toDigits_isAsciiDigit octet.toNat

theorem octetText_ne_nil (octet : UInt8) : octetText octet ≠ [] := by
  simp [octetText, Nat.toDigits_ne_nil]

theorem not_mem_octetText {c : Char} (other : isAsciiDigit c = false) (octet : UInt8) :
    c ∉ octetText octet := by
  intro member
  simp [octetText_digits octet c member] at other

theorem ipv4_text_ne_nil (addr : Ipv4Addr) : addr.text ≠ [] := by
  simp [Ipv4Addr.text]

theorem ipv4_text_chars (addr : Ipv4Addr) : ∀ c ∈ addr.text, isAsciiDigit c = true ∨ c = '.' := by
  intro c member
  simp only [Ipv4Addr.text, List.mem_append, List.mem_cons] at member
  rcases member with inA | dot | inB | dot | inC | dot | inD
  · exact .inl (octetText_digits _ c inA)
  · exact .inr dot
  · exact .inl (octetText_digits _ c inB)
  · exact .inr dot
  · exact .inl (octetText_digits _ c inC)
  · exact .inr dot
  · exact .inl (octetText_digits _ c inD)

theorem ipv4_text_dots (addr : Ipv4Addr) : addr.text.count '.' = 3 := by
  have none (octet : UInt8) : (octetText octet).count '.' = 0 :=
    List.count_eq_zero.mpr (not_mem_octetText (by decide) octet)
  simp [Ipv4Addr.text, none]

section Parser

theorem toDigit_dot (radix : Nat) : toDigit radix '.' = none := by
  simp [toDigit, isAsciiDigit]

/-- What a number read consumes: digits of its radix. -/
theorem readNumber_consumes {radix maxDigits limit : Nat} {zero : Bool} {text rest : Str}
    {value : Nat} (found : readNumber radix maxDigits limit zero text = some (value, rest)) :
    ∃ digits, text = digits ++ rest ∧ digits ≠ [] ∧ ∀ c ∈ digits, (toDigit radix c).isSome := by
  have split := List.takeWhile_append_dropWhile (p := fun c => (toDigit radix c).isSome) (l := text)
  have dropped : text.drop (text.takeWhile fun c => (toDigit radix c).isSome).length =
      text.dropWhile fun c => (toDigit radix c).isSome := by
    have cut (front back : Str) : (front ++ back).drop front.length = back := List.drop_left
    have parts := cut (text.takeWhile fun c => (toDigit radix c).isSome)
      (text.dropWhile fun c => (toDigit radix c).isSome)
    rwa [split] at parts
  simp only [readNumber] at found
  split at found
  · cases found
  · split at found
    · cases found
    · rename_i nonempty
      split at found
      · cases found
      · split at found
        · refine ⟨text.takeWhile fun c => (toDigit radix c).isSome, ?_, ?_, ?_⟩
          · have restSame := (Prod.mk.inj (Option.some.inj found)).2
            rw [dropped] at restSame
            rw [← restSame, split]
          · simpa using nonempty
          · exact fun c member => by simpa using List.all_eq_true.mp List.all_takeWhile c member
        · cases found

private theorem digits_no_dot {radix : Nat} {digits : Str}
    (numeric : ∀ c ∈ digits, (toDigit radix c).isSome = true) : digits.count '.' = 0 := by
  refine List.count_eq_zero.mpr fun member => ?_
  have some := numeric '.' member
  simp [toDigit_dot] at some

/-- Every octet but the first comes behind one dot. -/
private theorem readOctet_dots {index : Nat} {text rest : Str} {octet : UInt8}
    (found : readOctet index text = some (octet, rest)) :
    text.count '.' = (if index > 0 then 1 else 0) + rest.count '.' := by
  obtain ⟨⟨value, after⟩, number, same⟩ := Option.map_eq_some_iff.mp found
  obtain ⟨_, rfl⟩ := Prod.mk.inj same
  simp only [readSeparator] at number
  by_cases later : index > 0
  · simp only [later, ↓reduceIte] at number ⊢
    obtain ⟨inner, separator, read⟩ := Option.bind_eq_some_iff.mp number
    obtain ⟨digits, rfl, _, numeric⟩ := readNumber_consumes read
    cases text with
    | nil => simp [readGivenChar] at separator
    | cons c text =>
      simp only [readGivenChar] at separator
      split at separator
      · rename_i dot
        rw [Option.some.inj separator, dot]
        simp [digits_no_dot numeric]
        omega
      · cases separator
  · simp only [later, ↓reduceIte] at number ⊢
    obtain ⟨digits, rfl, _, numeric⟩ := readNumber_consumes number
    simp [digits_no_dot numeric]

/-- An IPv4 address has exactly three dots. -/
theorem parseIpv4_dots {text : Str} {addr : Ipv4Addr} (found : parseIpv4 text = some addr) :
    text.count '.' = 3 := by
  unfold parseIpv4 parseWith at found
  split at found
  · cases found
  · split at found
    · rename_i value read
      simp only [readIpv4Addr, Option.bind_eq_bind, Option.bind_eq_some_iff] at read
      obtain ⟨⟨a, afterA⟩, readA, ⟨b, afterB⟩, readB, ⟨c, afterC⟩, readC, ⟨d, afterD⟩, readD,
          same⟩ := read
      have ended : afterD = [] := (Prod.mk.inj (Option.some.inj same)).2
      rw [readOctet_dots readA, readOctet_dots readB, readOctet_dots readC,
        readOctet_dots readD, ended]
      rfl
    · cases found

private theorem octet_facts : ∀ n : Fin 256, (Nat.toDigits 10 n).length ≤ 3 ∧
    ((Nat.toDigits 10 n).head? = some '0' → (Nat.toDigits 10 n).length ≤ 1) := by
  decide +kernel

private theorem octetText_numeric (octet : UInt8) :
    ∀ c ∈ octetText octet, (toDigit 10 c).isSome = true := by
  intro c member
  rw [toDigit_of_digit (octetText_digits octet c member), Option.isSome_some]

/-- The parser reads a decimal octet back up to the next separator. -/
theorem readNumber_octet (octet : UInt8) {rest : Str}
    (stops : ∀ c ∈ rest.head?, (toDigit 10 c).isSome = false) :
    readNumber 10 3 255 false (octetText octet ++ rest) = some (octet.toNat, rest) := by
  obtain ⟨short, noZero⟩ := octet_facts ⟨octet.toNat, octet.toNat_lt⟩
  simp only at short noZero
  have taken : (octetText octet ++ rest).takeWhile (fun c => (toDigit 10 c).isSome) =
      octetText octet := by
    rw [List.takeWhile_append_of_pos (octetText_numeric octet)]
    cases rest with
    | nil => simp
    | cons c rest => simp [stops c (by simp)]
  have bound : octet.toNat ≤ 255 := by have below := octet.toNat_lt; omega
  have allowed : ¬ (octetText octet).length > 3 := by rw [octetText]; omega
  have zeroFree : (!false && (octetText octet).head? == some '0' &&
      decide ((octetText octet).length > 1)) = false := by
    by_cases leading : (octetText octet).head? = some '0'
    · have single : ¬ (octetText octet).length > 1 := by
        have one := noZero leading
        rw [octetText]
        omega
      simp [single]
    · simp [leading]
  simp only [readNumber, taken, allowed, ↓reduceIte, List.isEmpty_iff, octetText_ne_nil, zeroFree,
    Bool.false_eq_true, List.drop_left]
  rw [octetText, digitsValue_toDigits]
  simp [bound]

private theorem readOctet_text (index : Nat) (octet : UInt8) {rest : Str}
    (stops : ∀ c ∈ rest.head?, (toDigit 10 c).isSome = false) :
    readOctet (index + 1) ('.' :: (octetText octet ++ rest)) = some (octet, rest) := by
  simp [readOctet, readSeparator, readGivenChar, readNumber_octet octet stops]

private theorem byteLen_octetText (octet : UInt8) : byteLen (octetText octet) ≤ 3 := by
  obtain ⟨short, _⟩ := octet_facts ⟨octet.toNat, octet.toNat_lt⟩
  have hex : ∀ c ∈ octetText octet, isAsciiHexdigit c = true :=
    fun c member => isAsciiHexdigit_of_digit (octetText_digits octet c member)
  rw [byteLen_hexdigits hex]
  exact short

/-- The parser reads every canonical dotted quad back. -/
theorem parseIpv4_text (addr : Ipv4Addr) : parseIpv4 addr.text = some addr := by
  have short : ¬ byteLen addr.text > 15 := by
    have a := byteLen_octetText addr.a
    have b := byteLen_octetText addr.b
    have c := byteLen_octetText addr.c
    have d := byteLen_octetText addr.d
    have dot : Char.utf8Size '.' = 1 := rfl
    simp only [Ipv4Addr.text, byteLen_append, byteLen_cons, dot]
    omega
  have dotStops (rest : Str) : ∀ c ∈ ('.' :: rest).head?, (toDigit 10 c).isSome = false := by
    simp [toDigit_dot]
  have first : readOctet 0 addr.text = some (addr.a, '.' :: (octetText addr.b ++ '.' ::
      (octetText addr.c ++ '.' :: (octetText addr.d ++ [])))) := by
    simp [readOctet, readSeparator, Ipv4Addr.text, readNumber_octet addr.a (dotStops _)]
  simp only [parseIpv4, short, ↓reduceIte, parseWith, readIpv4Addr, first, Option.bind_eq_bind,
    Option.bind_some, readOctet_text _ _ (dotStops _), readOctet_text _ _ (show
      ∀ c ∈ ([] : Str).head?, (toDigit 10 c).isSome = false by simp)]
  rfl

end Parser

end FragglePacket.Net
