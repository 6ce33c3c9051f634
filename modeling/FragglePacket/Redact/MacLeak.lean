import FragglePacket.Net.DottedQuad
import FragglePacket.Redact.Exposure
import FragglePacket.Redact.MacShape

/-! Leaks of MAC addresses and BSSIDs through the default policy, characterised by
the neighbourhood of each occurrence of the address in the text. -/

namespace FragglePacket.Redact

open FragglePacket.Text FragglePacket.Net

private theorem hex_of_mem {mac : MacSpelling} {p : Char → Bool}
    (hex : ∀ c, isAsciiHexdigit c = true → p c = true) (colon : p ':' = true) :
    ∀ c ∈ mac.text, p c = true := by
  intro c member
  rcases mac.text_chars c member with digit | rfl
  · exact hex c digit
  · exact colon

/-- The MAC pass takes an address only when nothing else is in its run. -/
theorem mac_spared_mac (x : Str) (mac : MacSpelling) (y : Str) :
    Spared isMacChar tryRedactMac (reach isMacChar x mac.text y) ↔
      ¬ (tailRun isMacChar x = [] ∧ headRun isMacChar y = []) := by
  have marked : ∀ c ∈ mac.text, isMacChar c = true :=
    hex_of_mem (fun c hex => by simp [isMacChar, hex]) (by decide)
  rw [spared_reach mac.text_ne_nil marked]
  constructor
  · rintro none ⟨leftEmpty, rightEmpty⟩
    have shaped : isMacShaped mac.text = true := (isMacShaped_iff _).mpr ⟨mac, rfl⟩
    simp [leftEmpty, rightEmpty, tryRedactMac, shaped] at none
  · intro more
    have unshaped : isMacShaped (tailRun isMacChar x ++ mac.text ++ headRun isMacChar y) =
        false := by
      rw [Bool.eq_false_iff]
      intro shaped
      obtain ⟨other, same⟩ := (isMacShaped_iff _).mp shaped
      have lengths := congrArg List.length same
      simp only [List.length_append, MacSpelling.text_length] at lengths
      exact more ⟨List.length_eq_zero_iff.mp (by omega), List.length_eq_zero_iff.mp (by omega)⟩
    simp only [tryRedactMac, unshaped, Bool.false_eq_true, ↓reduceIte]

/-- A text without dots has no IPv4 address. -/
theorem ipv4_spared_of_no_dot {text : Str} (absent : '.' ∉ text) :
    Spared isIpv4Char tryRedactIpv4 text := by
  refine (spared_iff text).mpr fun X run Y split _ _ _ _ => ?_
  by_contra found
  have parsed : parseIpv4 run ≠ none := by simpa [tryRedactIpv4] using found
  obtain ⟨addr, same⟩ := Option.ne_none_iff_exists'.mp parsed
  have inside : '.' ∈ run := List.count_pos_iff.mp (by rw [parseIpv4_dots same]; omega)
  exact absent (by simp [split, inside])

private theorem dot_not_mem_hex (octet : HexOctet) : '.' ∉ octet.text := by
  intro member
  have hex := octet.text_hex '.' member
  revert hex
  decide

/-- The IPv4 pass can reach an address only through the digits at its two ends. -/
theorem ipv4_spared_mac (x : Str) (mac : MacSpelling) (y : Str) :
    Spared isIpv4Char tryRedactIpv4 (reach isIpv4Char x mac.text y) ↔
      (headRun isIpv4Char mac.a.text = [] ∨
        parseIpv4 (tailRun isIpv4Char x ++ headRun isIpv4Char mac.a.text) = none) ∧
      (tailRun isIpv4Char mac.f.text = [] ∨
        parseIpv4 (tailRun isIpv4Char mac.f.text ++ headRun isIpv4Char y) = none) := by
  have left : reachLeft isIpv4Char x mac.text = reachLeft isIpv4Char x mac.a.text := rfl
  have right : reachRight isIpv4Char mac.text y = reachRight isIpv4Char mac.f.text y := rfl
  have inner : Spared isIpv4Char tryRedactIpv4
      (mac.b.text ++ ':' :: (mac.c.text ++ ':' :: (mac.d.text ++ ':' :: mac.e.text))) := by
    apply ipv4_spared_of_no_dot
    simp [dot_not_mem_hex]
  have front : Spared isIpv4Char tryRedactIpv4 (cutHead isIpv4Char mac.a.text) :=
    ipv4_spared_of_no_dot fun member =>
      dot_not_mem_hex mac.a ((List.dropWhile_sublist isIpv4Char).subset member)
  have back : Spared isIpv4Char tryRedactIpv4 (cutTail isIpv4Char mac.f.text) :=
    ipv4_spared_of_no_dot fun member =>
      dot_not_mem_hex mac.f ((List.rdropWhile_prefix isIpv4Char _).subset member)
  have colon : isIpv4Char ':' = false := by decide
  have cut (front rest : Str) : Spared isIpv4Char tryRedactIpv4 (front ++ ':' :: rest) ↔
      Spared isIpv4Char tryRedactIpv4 front ∧ Spared isIpv4Char tryRedactIpv4 rest := by
    rw [spared_append (.of_right (by simp [colon])), spared_cons colon]
  have regroup : reach isIpv4Char x mac.text y =
      (reachLeft isIpv4Char x mac.a.text ++ mac.a.text) ++ ':' ::
        ((mac.b.text ++ ':' :: (mac.c.text ++ ':' :: (mac.d.text ++ ':' :: mac.e.text))) ++ ':' ::
          (mac.f.text ++ reachRight isIpv4Char mac.f.text y)) := by
    rw [reach, left, right]
    simp [MacSpelling.text]
  rw [regroup, cut, cut, spared_reachLeft, spared_reachRight]
  simp [inner, front, back, tryRedactIpv4]

theorem ipv6_spared_mac (x : Str) (mac : MacSpelling) (y : Str) :
    Spared isIpv6Char tryRedactIpv6 (reach isIpv6Char x mac.text y) ↔
      tryRedactIpv6 (tailRun isIpv6Char x ++ mac.text ++ headRun isIpv6Char y) = none :=
  spared_reach mac.text_ne_nil (hex_of_mem (fun c hex => by simp [isIpv6Char, hex]) (by decide))

/-- The ways the passes can mask the occurrence of a MAC address between `x` and
`y`: no further hex digit or colon touches it, or an IPv4 address takes the digits
at one of its ends, or an IPv6-shaped run takes all of it. The later passes see
the neighbourhood with earlier labels in it. -/
def MacCovered (x : Str) (mac : MacSpelling) (y : Str) : Prop :=
  (tailRun isMacChar x = [] ∧ headRun isMacChar y = []) ∨
  (headRun isIpv4Char mac.a.text ≠ [] ∧
    (parseIpv4 (tailRun isIpv4Char (afterMacLeft x mac.text) ++
      headRun isIpv4Char mac.a.text)).isSome = true) ∨
  (tailRun isIpv4Char mac.f.text ≠ [] ∧
    (parseIpv4 (tailRun isIpv4Char mac.f.text ++
      headRun isIpv4Char (afterMacRight mac.text y))).isSome = true) ∨
  (tryRedactIpv6 (tailRun isIpv6Char (afterIpv4Left x mac.text) ++ mac.text ++
    headRun isIpv6Char (afterIpv4Right mac.text y))).isSome = true

theorem exposed_mac_iff (x : Str) (mac : MacSpelling) (y : Str) :
    Exposed x mac.text y ↔ ¬ MacCovered x mac y := by
  have parts : Exposed x mac.text y ↔
      Spared isMacChar tryRedactMac (reach isMacChar x mac.text y) ∧
      Spared isIpv4Char tryRedactIpv4
        (reach isIpv4Char (afterMacLeft x mac.text) mac.text (afterMacRight mac.text y)) ∧
      Spared isIpv6Char tryRedactIpv6
        (reach isIpv6Char (afterIpv4Left x mac.text) mac.text (afterIpv4Right mac.text y)) :=
    ⟨fun exposed => ⟨exposed.mac, exposed.ipv4, exposed.ipv6⟩,
      fun ⟨mac, ipv4, ipv6⟩ => ⟨mac, ipv4, ipv6⟩⟩
  rw [parts, mac_spared_mac, ipv4_spared_mac, ipv6_spared_mac]
  simp only [MacCovered, not_or, not_and, Bool.not_eq_true, Option.isSome_eq_false_iff,
    Option.isNone_iff_eq_none, ne_eq, and_assoc]
  rw [or_iff_not_imp_left, or_iff_not_imp_left]

theorem leaks_mac_iff (mac : MacSpelling) (text : Str) :
    mac.text <:+: RedactionPolicy.defaultRedacted.apply text ↔
      ∃ x y, text = x ++ mac.text ++ y ∧ ¬ MacCovered x mac y := by
  have bracketless (bracket : Char) (noHex : isAsciiHexdigit bracket = false)
      (noColon : bracket ≠ ':') :
      bracket ∉ mac.text := by
    intro member
    rcases mac.text_chars bracket member with digit | colon
    · simp [digit] at noHex
    · exact noColon colon
  have joined : ':' ∈ mac.text := by simp [MacSpelling.text]
  rw [leaks_iff (bracketless '<' (by decide) (by decide)) (bracketless '>' (by decide) (by decide))
    (.inl joined)]
  simp only [exposed_mac_iff]

/-- An address that nowhere touches a further hex digit or colon does not leak. -/
theorem apply_hides_isolated_mac (mac : MacSpelling) (text : Str)
    (isolated : ∀ x y, text = x ++ mac.text ++ y →
      (∀ c ∈ x.getLast?, isMacChar c = false) ∧ ∀ c ∈ y.head?, isMacChar c = false) :
    ¬ mac.text <:+: RedactionPolicy.defaultRedacted.apply text := by
  intro leaked
  obtain ⟨x, y, split, uncovered⟩ := (leaks_mac_iff mac text).mp leaked
  obtain ⟨before, after⟩ := isolated x y split
  exact uncovered (.inl ⟨tailRun_eq_nil before, headRun_eq_nil after⟩)

/-- The default policy hides a MAC address exactly when every occurrence of it in
the text is covered. -/
theorem apply_hides_mac_iff (mac : MacSpelling) (pre post : Str) :
    ¬ mac.text <:+: RedactionPolicy.defaultRedacted.apply (pre ++ mac.text ++ post) ↔
      ∀ x y, pre ++ mac.text ++ post = x ++ mac.text ++ y → MacCovered x mac y := by
  rw [leaks_mac_iff]
  simp only [not_exists, not_and, not_not]

/-- An address behind a label leaks: the colon of the label joins its run. -/
theorem apply_leaks_mac : ¬ ∀ (mac : MacSpelling) (pre post : Str),
    (∀ c ∈ pre.getLast?, isAsciiHexdigit c = false) →
      (∀ c ∈ post.head?, isAsciiHexdigit c = false) →
      ¬ mac.text <:+: RedactionPolicy.defaultRedacted.apply (pre ++ mac.text ++ post) := by
  intro claim
  have colon : ∀ c ∈ some ':', isAsciiHexdigit c = false := by
    intro c member
    cases member
    rfl
  let octet (c : Char) (hex : isAsciiHexdigit c = true) : HexOctet := ⟨c, c, hex, hex⟩
  exact claim ⟨octet 'a' rfl, octet 'b' rfl, octet 'c' rfl, octet 'd' rfl, octet 'e' rfl,
    octet 'f' rfl⟩
    "BSSID:".toList [] colon (fun _ member => nomatch member) (by decide)

end FragglePacket.Redact
