import FragglePacket.Net.DottedQuad
import FragglePacket.Redact.Exposure

/-! Leaks of IPv4 addresses through the default policy, characterised by the
neighbourhood of each occurrence of the address in the text. -/

namespace FragglePacket.Redact

open FragglePacket.Text FragglePacket.Net

theorem isMacChar_of_digit {c : Char} (digit : isAsciiDigit c = true) : isMacChar c = true := by
  simp [isMacChar, isAsciiHexdigit_of_digit digit]

theorem isIpv6Char_of_digit {c : Char} (digit : isAsciiDigit c = true) : isIpv6Char c = true := by
  simp [isIpv6Char, isAsciiHexdigit_of_digit digit]

/-- A run without a colon has no MAC shape. -/
theorem isMacShaped_colon {run : Str} (shaped : isMacShaped run = true) : ':' ∈ run := by
  by_contra absent
  simp [isMacShaped, List.splitOn_eq_singleton absent] at shaped

theorem tryRedactMac_none {run : Str} (absent : ':' ∉ run) : tryRedactMac run = none := by
  unfold tryRedactMac
  split
  · rename_i shaped
    exact absurd (isMacShaped_colon shaped) absent
  · rfl

theorem tryRedactIpv6_none {run : Str} (absent : ':' ∉ run) : tryRedactIpv6 run = none := by
  simp [tryRedactIpv6, List.count_eq_zero.mpr absent]

/-- A dotted quad in a pass over runs without dots touches two runs: the one that
ends in its first octet and the one that begins with its last. -/
theorem spared_quad {inRun : Char → Bool} {rewrite : Str → Option Str}
    (digits : ∀ c, isAsciiDigit c = true → inRun c = true) (dot : inRun '.' = false)
    (plain : ∀ octet : UInt8, rewrite (octetText octet) = none) (addr : Ipv4Addr) {left right : Str}
    (leftMarked : ∀ c ∈ left, inRun c = true) (rightMarked : ∀ c ∈ right, inRun c = true) :
    Spared inRun rewrite (left ++ addr.text ++ right) ↔
      rewrite (left ++ octetText addr.a) = none ∧ rewrite (octetText addr.d ++ right) = none := by
  have octetMarked (octet : UInt8) : ∀ c ∈ octetText octet, inRun c = true :=
    fun c member => digits c (octetText_digits octet c member)
  have cut (front rest : Str) : Spared inRun rewrite (front ++ '.' :: rest) ↔
      Spared inRun rewrite front ∧ Spared inRun rewrite rest := by
    rw [spared_append (.of_right (by simp [dot])), spared_cons dot]
  have middle (octet : UInt8) : Spared inRun rewrite (octetText octet) :=
    (spared_run (octetText_ne_nil octet) (octetMarked octet)).mpr (plain octet)
  have first : Spared inRun rewrite (left ++ octetText addr.a) ↔
      rewrite (left ++ octetText addr.a) = none := by
    refine spared_run (by simp [octetText_ne_nil]) ?_
    intro c member
    rcases List.mem_append.mp member with inLeft | inOctet
    · exact leftMarked c inLeft
    · exact octetMarked _ c inOctet
  have last : Spared inRun rewrite (octetText addr.d ++ right) ↔
      rewrite (octetText addr.d ++ right) = none := by
    refine spared_run (by simp [octetText_ne_nil]) ?_
    intro c member
    rcases List.mem_append.mp member with inOctet | inRight
    · exact octetMarked _ c inOctet
    · exact rightMarked c inRight
  have regroup : left ++ addr.text ++ right = (left ++ octetText addr.a) ++ '.' ::
      (octetText addr.b ++ '.' :: (octetText addr.c ++ '.' :: (octetText addr.d ++ right))) := by
    simp [Ipv4Addr.text]
  rw [regroup, cut, cut, cut, first, last]
  simp [middle]

theorem octet_head_any (addr : Ipv4Addr) {p : Char → Bool}
    (digits : ∀ c, isAsciiDigit c = true → p c = true) : addr.text.head?.any p = true := by
  obtain ⟨c, rest, same⟩ := List.exists_cons_of_ne_nil (octetText_ne_nil addr.a)
  have digit := octetText_digits addr.a c (by simp [same])
  simp [Ipv4Addr.text, same, digits c digit]

theorem octet_last_any (addr : Ipv4Addr) {p : Char → Bool}
    (digits : ∀ c, isAsciiDigit c = true → p c = true) : addr.text.getLast?.any p = true := by
  obtain ⟨init, c, same⟩ := (List.eq_nil_or_concat (octetText addr.d)).resolve_left
    (octetText_ne_nil addr.d)
  have digit := octetText_digits addr.d c (by simp [same])
  simp [Ipv4Addr.text, same, digits c digit, List.getLast?_append, List.getLast?_cons]

/-- The ways the passes can mask the occurrence of an IPv4 address between `x` and
`y`: the digit-and-dot run around it is itself an address, or a MAC-shaped or an
IPv6-shaped run takes its first or its last octet. The IPv6 pass sees the
neighbourhood with earlier labels in it. -/
def Ipv4Covered (x : Str) (addr : Ipv4Addr) (y : Str) : Prop :=
  (parseIpv4 (tailRun isIpv4Char x ++ addr.text ++ headRun isIpv4Char y)).isSome = true ∨
  isMacShaped (tailRun isMacChar x ++ octetText addr.a) = true ∨
  isMacShaped (octetText addr.d ++ headRun isMacChar y) = true ∨
  (tryRedactIpv6 (tailRun isIpv6Char (afterIpv4Left x addr.text) ++ octetText addr.a)).isSome =
    true ∨
  (tryRedactIpv6 (octetText addr.d ++ headRun isIpv6Char (afterIpv4Right addr.text y))).isSome =
    true

private theorem isIpv4Char_of_digit {c : Char} (digit : isAsciiDigit c = true) :
    isIpv4Char c = true := by
  simp [isIpv4Char, digit]

/-- Where a run takes digits but no dot, only the first and the last octet can join it. -/
private theorem reach_spared_quad {inRun : Char → Bool} {rewrite : Str → Option Str}
    (digits : ∀ c, isAsciiDigit c = true → inRun c = true) (noDot : inRun '.' = false)
    (plain : ∀ octet : UInt8, rewrite (octetText octet) = none) (x : Str) (addr : Ipv4Addr)
    (y : Str) :
    Spared inRun rewrite (reach inRun x addr.text y) ↔
      rewrite (tailRun inRun x ++ octetText addr.a) = none ∧
        rewrite (octetText addr.d ++ headRun inRun y) = none := by
  rw [reach_of_ends (octet_head_any addr digits) (octet_last_any addr digits),
    spared_quad digits noDot plain addr tailRun_marked headRun_marked]

private theorem mac_spared_quad (x : Str) (addr : Ipv4Addr) (y : Str) :
    Spared isMacChar tryRedactMac (reach isMacChar x addr.text y) ↔
      isMacShaped (tailRun isMacChar x ++ octetText addr.a) = false ∧
        isMacShaped (octetText addr.d ++ headRun isMacChar y) = false := by
  have plain (octet : UInt8) : tryRedactMac (octetText octet) = none :=
    tryRedactMac_none (not_mem_octetText (by decide) octet)
  rw [reach_spared_quad (fun _ => isMacChar_of_digit) (by decide) plain]
  simp [tryRedactMac]

private theorem ipv6_spared_quad (x : Str) (addr : Ipv4Addr) (y : Str) :
    Spared isIpv6Char tryRedactIpv6 (reach isIpv6Char x addr.text y) ↔
      tryRedactIpv6 (tailRun isIpv6Char x ++ octetText addr.a) = none ∧
        tryRedactIpv6 (octetText addr.d ++ headRun isIpv6Char y) = none :=
  reach_spared_quad (fun _ => isIpv6Char_of_digit) (by decide)
    (fun octet => tryRedactIpv6_none (not_mem_octetText (by decide) octet)) x addr y

private theorem ipv4_spared_quad (x : Str) (addr : Ipv4Addr) (y : Str) :
    Spared isIpv4Char tryRedactIpv4 (reach isIpv4Char x addr.text y) ↔
      parseIpv4 (tailRun isIpv4Char x ++ addr.text ++ headRun isIpv4Char y) = none := by
  have marked : ∀ c ∈ addr.text, isIpv4Char c = true := by
    intro c member
    rcases ipv4_text_chars addr c member with digit | dot
    · exact isIpv4Char_of_digit digit
    · simp [isIpv4Char, dot]
  rw [spared_reach (ipv4_text_ne_nil addr) marked]
  simp [tryRedactIpv4]

/-- A character of an IPv4 run that ends a MAC run is a dot. -/
private theorem dot_of_ipv4Char {c : Char} (ipv4 : isIpv4Char c = true)
    (mac : isMacChar c = false) :
    c = '.' := by
  by_cases digit : isAsciiDigit c = true
  · simp [isMacChar_of_digit digit] at mac
  · simpa [isIpv4Char, digit] using ipv4

/-- A fourth dot keeps a run from being an address. -/
private theorem parse_none_of_dot {left right : Str} (addr : Ipv4Addr)
    (dot : '.' ∈ left ∨ '.' ∈ right) : parseIpv4 (left ++ addr.text ++ right) = none := by
  by_contra found
  obtain ⟨other, parsed⟩ := Option.ne_none_iff_exists'.mp found
  have dots := parseIpv4_dots parsed
  simp only [List.count_append, ipv4_text_dots] at dots
  rcases dot with member | member <;> have positive := List.count_pos_iff.mpr member <;> omega

/-- The MAC pass does not change whether the run around the address is one. -/
private theorem parse_afterMac (x : Str) (addr : Ipv4Addr) (y : Str) :
    parseIpv4 (tailRun isIpv4Char (afterMacLeft x addr.text) ++ addr.text ++
        headRun isIpv4Char (afterMacRight addr.text y)) = none ↔
      parseIpv4 (tailRun isIpv4Char x ++ addr.text ++ headRun isIpv4Char y) = none := by
  have left : tailRun isIpv4Char (afterMacLeft x addr.text) = tailRun isIpv4Char x ∨
      ('.' ∈ tailRun isIpv4Char (afterMacLeft x addr.text) ∧ '.' ∈ tailRun isIpv4Char x) := by
    rcases tailRun_leftAfter isIpv4Char (octet_head_any addr fun _ => isMacChar_of_digit)
      with same | ⟨c, outside, after, before⟩
    · exact .inl same
    · have dot := dot_of_ipv4Char (tailRun_marked c before) outside
      exact .inr ⟨dot ▸ after, dot ▸ before⟩
  have right : headRun isIpv4Char (afterMacRight addr.text y) = headRun isIpv4Char y ∨
      ('.' ∈ headRun isIpv4Char (afterMacRight addr.text y) ∧ '.' ∈ headRun isIpv4Char y) := by
    rcases headRun_rightAfter isIpv4Char (octet_last_any addr fun _ => isMacChar_of_digit)
      with same | ⟨c, outside, after, before⟩
    · exact .inl same
    · have dot := dot_of_ipv4Char (headRun_marked c before) outside
      exact .inr ⟨dot ▸ after, dot ▸ before⟩
  rcases left with leftSame | ⟨leftAfter, leftBefore⟩
  · rcases right with rightSame | ⟨rightAfter, rightBefore⟩
    · rw [leftSame, rightSame]
    · exact iff_of_true (parse_none_of_dot addr (.inr rightAfter))
        (parse_none_of_dot addr (.inr rightBefore))
  · exact iff_of_true (parse_none_of_dot addr (.inl leftAfter))
      (parse_none_of_dot addr (.inl leftBefore))

theorem exposed_ipv4_iff (x : Str) (addr : Ipv4Addr) (y : Str) :
    Exposed x addr.text y ↔ ¬ Ipv4Covered x addr y := by
  constructor
  · intro exposed covered
    have mac := (mac_spared_quad x addr y).mp exposed.mac
    have ipv4 := (parse_afterMac x addr y).mp ((ipv4_spared_quad _ addr _).mp exposed.ipv4)
    have ipv6 := (ipv6_spared_quad _ addr _).mp exposed.ipv6
    simp only [Ipv4Covered, mac, ipv4, ipv6, Option.isSome_none, Bool.false_eq_true, or_self]
      at covered
  · intro uncovered
    simp only [Ipv4Covered, not_or, Bool.not_eq_true, Option.isSome_eq_false_iff,
      Option.isNone_iff_eq_none] at uncovered
    obtain ⟨ipv4, macLeft, macRight, ipv6Left, ipv6Right⟩ := uncovered
    exact ⟨(mac_spared_quad x addr y).mpr ⟨macLeft, macRight⟩,
      (ipv4_spared_quad _ addr _).mpr ((parse_afterMac x addr y).mpr ipv4),
      (ipv6_spared_quad _ addr _).mpr ⟨ipv6Left, ipv6Right⟩⟩

theorem leaks_ipv4_iff (addr : Ipv4Addr) (text : Str) :
    addr.text <:+: RedactionPolicy.defaultRedacted.apply text ↔
      ∃ x y, text = x ++ addr.text ++ y ∧ ¬ Ipv4Covered x addr y := by
  have bracketless (bracket : Char) (noDigit : isAsciiDigit bracket = false)
      (noDot : bracket ≠ '.') :
      bracket ∉ addr.text := by
    intro member
    rcases ipv4_text_chars addr bracket member with digit | dot
    · simp [digit] at noDigit
    · exact noDot dot
  have dotted : '.' ∈ addr.text := by simp [Ipv4Addr.text]
  rw [leaks_iff (bracketless '<' (by decide) (by decide)) (bracketless '>' (by decide) (by decide))
    (.inr dotted)]
  simp only [exposed_ipv4_iff]

/-- An address that nowhere touches a further digit or dot does not leak. -/
theorem apply_hides_isolated_ipv4 (addr : Ipv4Addr) (text : Str)
    (isolated : ∀ x y, text = x ++ addr.text ++ y →
      (∀ c ∈ x.getLast?, isIpv4Char c = false) ∧ ∀ c ∈ y.head?, isIpv4Char c = false) :
    ¬ addr.text <:+: RedactionPolicy.defaultRedacted.apply text := by
  intro leaked
  obtain ⟨x, y, split, uncovered⟩ := (leaks_ipv4_iff addr text).mp leaked
  obtain ⟨before, after⟩ := isolated x y split
  apply uncovered
  left
  simp [tailRun_eq_nil before, headRun_eq_nil after, parseIpv4_text]

/-- The default policy hides an IPv4 address exactly when every occurrence of it
in the text is covered. -/
theorem apply_hides_ipv4_iff (addr : Ipv4Addr) (pre post : Str) :
    ¬ addr.text <:+: RedactionPolicy.defaultRedacted.apply (pre ++ addr.text ++ post) ↔
      ∀ x y, pre ++ addr.text ++ post = x ++ addr.text ++ y → Ipv4Covered x addr y := by
  rw [leaks_ipv4_iff]
  simp only [not_exists, not_and, not_not]

/-- An address that ends a sentence leaks: the full stop joins its run. -/
theorem apply_leaks_ipv4 : ¬ ∀ (addr : Ipv4Addr) (pre post : Str),
    (∀ c ∈ pre.getLast?, isAsciiDigit c = false) → (∀ c ∈ post.head?, isAsciiDigit c = false) →
      ¬ addr.text <:+: RedactionPolicy.defaultRedacted.apply (pre ++ addr.text ++ post) := by
  intro claim
  have blank : ∀ c ∈ some ' ', isAsciiDigit c = false := by
    intro c member
    cases member
    rfl
  have stop : ∀ c ∈ some '.', isAsciiDigit c = false := by
    intro c member
    cases member
    rfl
  exact claim ⟨8, 8, 8, 8⟩ "dns ".toList ".".toList blank stop (by decide)

end FragglePacket.Redact
