import FragglePacket.Net.DottedQuad

/-! The characters an address is written in, out of what its parser reads. -/

namespace FragglePacket.Net

open FragglePacket.Text

/-- A hexadecimal digit, a colon or a dot. -/
def isAddressChar (c : Char) : Bool := (toDigit 16 c).isSome || c == ':' || c == '.'

/-- What is left of a text once characters of an address are read off its front. -/
def ReadsTo (text rest : Str) : Prop :=
  ∃ front, text = front ++ rest ∧ ∀ c ∈ front, isAddressChar c = true

section Reading
variable {text middle rest : Str}

theorem ReadsTo.refl (text : Str) : ReadsTo text text :=
  ⟨[], rfl, fun _ member => absurd member List.not_mem_nil⟩

theorem ReadsTo.trans (first : ReadsTo text middle) (second : ReadsTo middle rest) :
    ReadsTo text rest := by
  obtain ⟨front, rfl, written⟩ := first
  obtain ⟨more, rfl, behind⟩ := second
  refine ⟨front ++ more, (List.append_assoc front more rest).symm, fun c member => ?_⟩
  rcases List.mem_append.mp member with early | late
  · exact written c early
  · exact behind c late

/-- A text read to its end is made of these characters. -/
theorem ReadsTo.chars (whole : ReadsTo text []) : ∀ c ∈ text, isAddressChar c = true := by
  obtain ⟨front, rfl, written⟩ := whole
  rwa [List.append_nil]

theorem readGivenChar_readsTo {expected : Char} (allowed : isAddressChar expected = true)
    (found : readGivenChar expected text = some rest) : ReadsTo text rest := by
  cases text with
  | nil => cases found
  | cons c text =>
    simp only [readGivenChar] at found
    split at found
    case isTrue same =>
      rw [← Option.some.inj found]
      exact ⟨[c], rfl, List.forall_mem_singleton.mpr (same ▸ allowed)⟩
    case isFalse => cases found

/-- A digit of a small radix is a hexadecimal one. -/
theorem toDigit_isAddressChar {radix : Nat} (small : radix ≤ 16) {c : Char}
    (digit : (toDigit radix c).isSome = true) :
    isAddressChar c = true := by
  have hexadecimal : (toDigit 16 c).isSome = true := by
    obtain ⟨value, found⟩ := Option.isSome_iff_exists.mp digit
    obtain ⟨valued, below⟩ := Option.filter_eq_some_iff.mp found
    have fits : decide (value < 16) = true :=
      decide_eq_true (Nat.lt_of_lt_of_le (of_decide_eq_true below) small)
    exact Option.isSome_iff_exists.mpr ⟨value, Option.filter_eq_some_iff.mpr ⟨valued, fits⟩⟩
  rw [isAddressChar, hexadecimal]
  rfl

theorem readNumber_readsTo {radix maxDigits limit value : Nat} {zero : Bool} (small : radix ≤ 16)
    (found : readNumber radix maxDigits limit zero text = some (value, rest)) :
    ReadsTo text rest := by
  obtain ⟨digits, laid, _, numeric⟩ := readNumber_consumes found
  exact ⟨digits, laid, fun c member => toDigit_isAddressChar small (numeric c member)⟩

theorem readSeparator_readsTo {β : Type} {separator : Char}
    (allowed : isAddressChar separator = true) {index : Nat} {inner : Str → Option (β × Str)}
    {value : β} (reads : ∀ {text rest value}, inner text = some (value, rest) → ReadsTo text rest)
    (found : readSeparator separator index inner text = some (value, rest)) :
    ReadsTo text rest := by
  rw [readSeparator] at found
  split at found
  · obtain ⟨behind, separated, read⟩ := Option.bind_eq_some_iff.mp found
    exact (readGivenChar_readsTo allowed separated).trans (reads read)
  · exact reads found

theorem readOctet_readsTo {index : Nat} {octet : UInt8}
    (found : readOctet index text = some (octet, rest)) :
    ReadsTo text rest := by
  obtain ⟨⟨value, after⟩, number, same⟩ := Option.map_eq_some_iff.mp found
  obtain ⟨_, rfl⟩ := Prod.mk.inj same
  exact readSeparator_readsTo (by decide) (readNumber_readsTo (by decide)) number

theorem readIpv4Addr_readsTo {addr : Ipv4Addr} (found : readIpv4Addr text = some (addr, rest)) :
    ReadsTo text rest := by
  simp only [readIpv4Addr, Option.bind_eq_bind, Option.bind_eq_some_iff] at found
  obtain ⟨⟨a, afterA⟩, readA, ⟨b, afterB⟩, readB, ⟨c, afterC⟩, readC, ⟨d, afterD⟩, readD, same⟩ :=
    found
  have ended : afterD = rest := (Prod.mk.inj (Option.some.inj same)).2
  subst ended
  exact (((readOctet_readsTo readA).trans (readOctet_readsTo readB)).trans
    (readOctet_readsTo readC)).trans
    (readOctet_readsTo readD)

theorem readGroups_readsTo (slots index : Nat) (text : Str) :
    ReadsTo text (readGroups slots index text).2.2 := by
  induction slots generalizing index text with
  | zero => exact ReadsTo.refl text
  | succ slots ih =>
    rw [readGroups]
    split
    case h_1 v4 rest found =>
      split at found
      · exact readSeparator_readsTo (by decide) readIpv4Addr_readsTo found
      · cases found
    case h_2 =>
      split
      case h_1 group behind found =>
        exact (readSeparator_readsTo (by decide) (readNumber_readsTo le_rfl) found).trans
          (ih (index + 1) behind)
      case h_2 => exact ReadsTo.refl text

theorem readIpv6Addr_readsTo {addr : Ipv6Addr} (found : readIpv6Addr text = some (addr, rest)) :
    ReadsTo text rest := by
  have head := readGroups_readsTo 8 0 text
  simp only [readIpv6Addr] at found
  split at found
  · rw [← (Prod.mk.inj (Option.some.inj found)).2]
    exact head
  · split at found
    · cases found
    · simp only [Option.bind_eq_bind, Option.bind_eq_some_iff] at found
      obtain ⟨first, one, second, two, same⟩ := found
      have colon : isAddressChar ':' = true := by decide
      rw [← (Prod.mk.inj (Option.some.inj same)).2]
      exact ((head.trans (readGivenChar_readsTo colon one)).trans
        (readGivenChar_readsTo colon two)).trans
        (readGroups_readsTo _ 0 second)

end Reading

theorem parseWith_chars {β : Type} {inner : Str → Option (β × Str)} {text : Str} {value : β}
    (reads : ∀ {rest value}, inner text = some (value, rest) → ReadsTo text rest)
    (found : parseWith inner text = some value) : ∀ c ∈ text, isAddressChar c = true := by
  rw [parseWith] at found
  split at found
  case h_1 value read => exact (reads read).chars
  case h_2 => cases found

/-- The text of an address of either family. -/
structure IpText where
  text : Str
  reads : (parseIpv4 text).isSome = true ∨ (parseIpv6 text).isSome = true

namespace IpText
variable (ip : IpText)

theorem chars : ∀ c ∈ ip.text, isAddressChar c = true := by
  rcases ip.reads with v4 | v6
  · obtain ⟨addr, found⟩ := Option.isSome_iff_exists.mp v4
    rw [parseIpv4] at found
    split at found
    · cases found
    · exact parseWith_chars readIpv4Addr_readsTo found
  · obtain ⟨addr, found⟩ := Option.isSome_iff_exists.mp v6
    exact parseWith_chars readIpv6Addr_readsTo found

theorem not_mem {c : Char} (other : isAddressChar c = false) : c ∉ ip.text := by
  intro member
  rw [ip.chars c member] at other
  cases other

end IpText

end FragglePacket.Net
