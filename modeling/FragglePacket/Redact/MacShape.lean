import FragglePacket.Redact.Policy

/-! What the MAC shape test accepts: six two-digit hex octets joined by colons. -/

namespace FragglePacket.Redact

open FragglePacket.Text

/-- Two hex digits. -/
structure HexOctet where
  high : Char
  low : Char
  highHex : isAsciiHexdigit high = true
  lowHex : isAsciiHexdigit low = true

def HexOctet.text (octet : HexOctet) : Str := [octet.high, octet.low]

/-- A MAC address as it is spelled: six hex octets. -/
structure MacSpelling where
  a : HexOctet
  b : HexOctet
  c : HexOctet
  d : HexOctet
  e : HexOctet
  f : HexOctet

/-- The octets joined by colons. -/
def MacSpelling.text (mac : MacSpelling) : Str :=
  mac.a.text ++ ':' :: (mac.b.text ++ ':' :: (mac.c.text ++ ':' :: (mac.d.text ++ ':' ::
    (mac.e.text ++ ':' :: mac.f.text))))

theorem HexOctet.text_hex (octet : HexOctet) : ∀ c ∈ octet.text, isAsciiHexdigit c = true := by
  intro c member
  simp only [HexOctet.text, List.mem_cons, List.not_mem_nil, or_false] at member
  rcases member with rfl | rfl
  · exact octet.highHex
  · exact octet.lowHex

private theorem HexOctet.of_part {part : Str} (two : byteLen part = 2)
    (hex : ∀ c ∈ part, isAsciiHexdigit c = true) : ∃ octet : HexOctet, part = octet.text := by
  rw [byteLen_hexdigits hex] at two
  obtain ⟨high, low, rfl⟩ := List.length_eq_two.mp two
  exact ⟨⟨high, low, hex high (by simp), hex low (by simp)⟩, rfl⟩

private theorem HexOctet.part (octet : HexOctet) :
    byteLen octet.text = 2 ∧ ∀ c ∈ octet.text, isAsciiHexdigit c = true :=
  ⟨by rw [byteLen_hexdigits octet.text_hex]; rfl, octet.text_hex⟩

private theorem MacSpelling.text_eq_intercalate (mac : MacSpelling) :
    mac.text = [':'].intercalate [mac.a.text, mac.b.text, mac.c.text, mac.d.text, mac.e.text,
      mac.f.text] := by
  simp [MacSpelling.text, List.intercalate_cons_cons]

/-- The shape test accepts exactly the spelled addresses. -/
theorem isMacShaped_iff (s : Str) : isMacShaped s = true ↔ ∃ mac : MacSpelling, s = mac.text := by
  constructor
  · intro shaped
    simp only [isMacShaped, Bool.and_eq_true, beq_iff_eq, List.all_eq_true] at shaped
    obtain ⟨six, parts⟩ := shaped
    have joined : [':'].intercalate (s.splitOn ':') = s := List.intercalate_splitOn ':'
    match split : s.splitOn ':', six with
    | [a, b, c, d, e, f], _ =>
      rw [split] at parts joined
      obtain ⟨a, rfl⟩ := HexOctet.of_part (parts a (by simp)).1 (parts a (by simp)).2
      obtain ⟨b, rfl⟩ := HexOctet.of_part (parts b (by simp)).1 (parts b (by simp)).2
      obtain ⟨c, rfl⟩ := HexOctet.of_part (parts c (by simp)).1 (parts c (by simp)).2
      obtain ⟨d, rfl⟩ := HexOctet.of_part (parts d (by simp)).1 (parts d (by simp)).2
      obtain ⟨e, rfl⟩ := HexOctet.of_part (parts e (by simp)).1 (parts e (by simp)).2
      obtain ⟨f, rfl⟩ := HexOctet.of_part (parts f (by simp)).1 (parts f (by simp)).2
      exact ⟨⟨a, b, c, d, e, f⟩, by rw [MacSpelling.text_eq_intercalate, joined]⟩
  · rintro ⟨mac, rfl⟩
    have colonFree : ∀ part ∈ [mac.a.text, mac.b.text, mac.c.text, mac.d.text, mac.e.text,
        mac.f.text], ':' ∉ part := by
      intro part member colon
      simp only [List.mem_cons, List.not_mem_nil, or_false] at member
      have hex : isAsciiHexdigit ':' = true := by
        rcases member with rfl | rfl | rfl | rfl | rfl | rfl <;> exact HexOctet.text_hex _ _ colon
      revert hex
      decide
    rw [isMacShaped, MacSpelling.text_eq_intercalate, List.splitOn_intercalate ':' colonFree
      (by simp)]
    simp only [List.length_cons, List.length_nil, Nat.reduceAdd, beq_self_eq_true, Bool.true_and,
      List.all_eq_true]
    intro part member
    have shape : ∃ octet : HexOctet, part = octet.text := by
      simp only [List.mem_cons, List.not_mem_nil, or_false] at member
      rcases member with rfl | rfl | rfl | rfl | rfl | rfl <;> exact ⟨_, rfl⟩
    obtain ⟨octet, rfl⟩ := shape
    simpa using octet.part

theorem MacSpelling.text_length (mac : MacSpelling) : mac.text.length = 17 := rfl

theorem MacSpelling.text_chars (mac : MacSpelling) :
    ∀ c ∈ mac.text, isAsciiHexdigit c = true ∨ c = ':' := by
  intro c member
  simp only [MacSpelling.text, List.mem_append, List.mem_cons] at member
  rcases member with a | colon | b | colon | c' | colon | d | colon | e | colon | f
  · exact .inl (HexOctet.text_hex _ _ a)
  · exact .inr colon
  · exact .inl (HexOctet.text_hex _ _ b)
  · exact .inr colon
  · exact .inl (HexOctet.text_hex _ _ c')
  · exact .inr colon
  · exact .inl (HexOctet.text_hex _ _ d)
  · exact .inr colon
  · exact .inl (HexOctet.text_hex _ _ e)
  · exact .inr colon
  · exact .inl (HexOctet.text_hex _ _ f)

theorem MacSpelling.text_ne_nil (mac : MacSpelling) : mac.text ≠ [] := by
  simp [MacSpelling.text]

end FragglePacket.Redact
