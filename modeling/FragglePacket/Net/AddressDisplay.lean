import FragglePacket.Net.DottedQuad
import FragglePacket.Text.Tokens

/-! The text of an address tells the address. -/

namespace FragglePacket.Net

open FragglePacket.Text FragglePacket.Wire

section Hex

theorem toDigit_digitChar {digit : Nat} (small : digit < 16) :
    toDigit 16 digit.digitChar = some digit := by
  have each : ∀ digit : Fin 16, toDigit 16 (Nat.digitChar digit.val) = some digit.val := by decide
  exact each ⟨digit, small⟩

theorem toDigits_hex_of_le {number : Nat} (large : 16 ≤ number) :
    Nat.toDigits 16 number = Nat.toDigits 16 (number / 16) ++ [(number % 16).digitChar] := by
  have last : number % 16 < 16 := Nat.mod_lt _ (by decide)
  have joined :=
    Nat.toDigits_append_toDigits (b := 16) (by decide) (Nat.div_pos large (by decide)) last
  rw [Nat.toDigits_of_lt_base last, Nat.div_add_mod] at joined
  exact joined.symm

theorem digitsValue_concat (digits : Str) (c : Char) :
    digitsValue 16 (digits ++ [c]) = digitsValue 16 digits * 16 + (toDigit 16 c).getD 0 := by
  rw [digitsValue, List.foldl_append]
  rfl

/-- The hexadecimal digits of a number are digits, and are read back as the number. -/
theorem hex_facts (number : Nat) : (∀ c ∈ Nat.toDigits 16 number, (toDigit 16 c).isSome = true) ∧
    digitsValue 16 (Nat.toDigits 16 number) = number := by
  induction number using Nat.strongRecOn with
  | ind number ih =>
    by_cases large : 16 ≤ number
    · obtain ⟨digits, value⟩ := ih (number / 16) (Nat.div_lt_self (by omega) (by decide))
      have last := toDigit_digitChar (Nat.mod_lt number (show 16 > 0 by decide))
      rw [toDigits_hex_of_le large, digitsValue_concat, value, last]
      refine ⟨List.forall_mem_append.mpr ⟨digits, List.forall_mem_singleton.mpr ?_⟩, ?_⟩
      · rw [last]
        rfl
      · rw [Option.getD_some]
        omega
    · have small : number < 16 := Nat.lt_of_not_le large
      rw [Nat.toDigits_of_lt_base small]
      refine ⟨List.forall_mem_singleton.mpr ?_, ?_⟩
      · rw [toDigit_digitChar small]
        rfl
      · change 0 * 16 + (toDigit 16 number.digitChar).getD 0 = number
        rw [toDigit_digitChar small, Option.getD_some]
        omega

theorem not_mem_groupText {c : Char} (other : toDigit 16 c = none)
    (group : UInt16) : c ∉ groupText group := fun member => by
  have digit := (hex_facts group.toNat).1 c member
  rw [other] at digit
  cases digit

theorem groupText_ne_nil (group : UInt16) : groupText group ≠ [] := Nat.toDigits_ne_nil

def groupValue (piece : Str) : UInt16 := .ofNat (digitsValue 16 piece)

theorem groupValue_groupText (group : UInt16) : groupValue (groupText group) = group := by
  rw [groupValue, groupText, (hex_facts group.toNat).2, UInt16.ofNat_toNat]

end Hex

section Pieces
variable {groups front back : List UInt16}

theorem not_mem_groupsText {c : Char} (other : toDigit 16 c = none) (apart : c ≠ ':')
    (groups : List UInt16) :
    c ∉ groupsText groups := by
  refine not_mem_intercalate (by simp [apart]) fun piece listed => ?_
  obtain ⟨group, -, rfl⟩ := List.mem_map.mp listed
  exact not_mem_groupText other group

/-- The pieces between the colons: those of no groups are one empty piece. -/
theorem splitOn_groupsText (some_groups : groups ≠ []) :
    (groupsText groups).splitOn ':' = groups.map groupText := by
  cases groups with
  | nil => exact absurd rfl some_groups
  | cons group rest =>
    have whole (other : UInt16) : ':' ∉ groupText other := not_mem_groupText (by decide) other
    have pieces : ∀ piece ∈ rest.map groupText, ':' ∉ piece := by
      intro piece listed
      obtain ⟨other, -, rfl⟩ := List.mem_map.mp listed
      exact whole other
    have joined := @splitOn_joined ':' [] _ _ (whole group) List.not_mem_nil pieces
    simp only [List.nil_append, List.map_id'] at joined
    exact joined

theorem takeWhile_pieces (front : List UInt16) (others : List Str) :
    ((groupsText front).splitOn ':' ++ [] :: others).takeWhile (· ≠ []) = front.map groupText := by
  by_cases empty : front = []
  · subst empty
    rfl
  · have nonempty : ∀ piece ∈ front.map groupText, decide (piece ≠ []) = true := by
      intro piece listed
      obtain ⟨group, -, rfl⟩ := List.mem_map.mp listed
      exact decide_eq_true (groupText_ne_nil group)
    rw [splitOn_groupsText empty, List.takeWhile_append_of_pos nonempty,
      List.takeWhile_cons_of_neg (by decide), List.append_nil]

theorem takeWhile_reverse_pieces (back : List UInt16) (others : List Str) :
    ((others ++ [] :: (groupsText back).splitOn ':').reverse.takeWhile (· ≠ [])).reverse =
      back.map groupText := by
  by_cases empty : back = []
  · subst empty
    rw [List.reverse_append]
    rfl
  · have nonempty : ∀ piece ∈ (back.map groupText).reverse, decide (piece ≠ []) = true := by
      intro piece listed
      obtain ⟨group, -, rfl⟩ := List.mem_map.mp (List.mem_reverse.mp listed)
      exact decide_eq_true (groupText_ne_nil group)
    rw [splitOn_groupsText empty, List.reverse_append, List.reverse_cons, List.append_assoc,
      List.takeWhile_append_of_pos nonempty, List.singleton_append, List.takeWhile_cons_of_neg
        (by decide), List.append_nil,
      List.reverse_reverse]

/-- The groups of a text, with zeros in the place of the ones left out. -/
def readText (text : Str) : List UInt16 :=
  let pieces := text.splitOn ':'
  if pieces.any (·.isEmpty) then
    let front := (pieces.takeWhile (· ≠ [])).map groupValue
    let back := (pieces.reverse.takeWhile (· ≠ [])).reverse.map groupValue
    front ++ List.replicate (8 - (front.length + back.length)) 0 ++ back
  else pieces.map groupValue

theorem map_groupValue (groups : List UInt16) : (groups.map groupText).map groupValue = groups := by
  rw [List.map_map]
  exact List.map_id'' groupValue_groupText groups

theorem readText_groupsText (some_groups : groups ≠ []) :
    readText (groupsText groups) = groups := by
  have whole : (groups.map groupText).any (·.isEmpty) = false := by
    apply List.any_eq_false.mpr
    intro piece listed
    obtain ⟨group, -, rfl⟩ := List.mem_map.mp listed
    exact fun empty => groupText_ne_nil group (List.isEmpty_iff.mp empty)
  rw [readText, splitOn_groupsText some_groups]
  simp only [whole, Bool.false_eq_true, if_false, map_groupValue]

theorem readText_shortened (front back : List UInt16) :
    readText (groupsText front ++ ':' :: ':' :: groupsText back) =
      front ++ List.replicate (8 - (front.length + back.length)) 0 ++ back := by
  have pieces : (groupsText front ++ ':' :: ':' :: groupsText back).splitOn ':' =
      (groupsText front).splitOn ':' ++ [] :: (groupsText back).splitOn ':' := by
    rw [List.splitOn_append_cons_self]
    exact congrArg ((groupsText front).splitOn ':' ++ ·)
      (List.splitOn_append_cons_self [] (groupsText back))
  have gap : ((groupsText front).splitOn ':' ++ [] :: (groupsText back).splitOn ':').any
      (·.isEmpty) = true :=
    List.any_eq_true.mpr ⟨[], List.mem_append_right _ List.mem_cons_self, rfl⟩
  rw [readText, pieces]
  simp only [gap, if_true, takeWhile_pieces, takeWhile_reverse_pieces, map_groupValue]

end Pieces

section Zeroes
variable {groups : List UInt16} {span : ZeroSpan}

/-- The span lies in the groups and has only zero groups. -/
structure IsZeroSpan (groups : List UInt16) (span : ZeroSpan) : Prop where
  within : span.start + span.len ≤ groups.length
  zero : ∀ place, span.start ≤ place → place < span.start + span.len → groups[place]? = some 0

theorem IsZeroSpan.concat (span_of : IsZeroSpan groups span) (group : UInt16) :
    IsZeroSpan (groups ++ [group]) span where
  within := by
    have within := span_of.within
    rw [List.length_append]
    omega
  zero := fun place starts ends => by
    have within := span_of.within
    rw [List.getElem?_append_left (by omega)]
    exact span_of.zero place starts ends

/-- The longest span, and the one that ends with the groups. -/
structure Spanned (groups : List UInt16) (spans : ZeroSpan × ZeroSpan) : Prop where
  longest : IsZeroSpan groups spans.1
  current : IsZeroSpan groups spans.2
  reaches : spans.2.len ≠ 0 → spans.2.start + spans.2.len = groups.length

theorem IsZeroSpan.empty (groups : List UInt16) : IsZeroSpan groups ⟨0, 0⟩ where
  within := Nat.zero_le _
  zero := fun place _ ends => absurd ends (Nat.not_lt_zero place)

/-- A zero group begins a span or goes on with the one that ends before it. -/
theorem IsZeroSpan.grow (span_of : IsZeroSpan groups span)
    (reaches : span.len ≠ 0 → span.start + span.len = groups.length) :
    IsZeroSpan (groups ++ [0]) ⟨if span.len = 0 then groups.length else span.start, span.len + 1⟩ ∧
      (if span.len = 0 then groups.length else span.start) + (span.len + 1) =
        groups.length + 1 := by
  have last : (groups ++ [0])[groups.length]? = some 0 := List.getElem?_concat_length
  have count : (groups ++ [0]).length = groups.length + 1 := List.length_append
  by_cases fresh : span.len = 0
  · rw [if_pos fresh, fresh]
    refine ⟨⟨count.ge, fun place starts ends => ?_⟩, rfl⟩
    obtain rfl : place = groups.length := Nat.le_antisymm (Nat.le_of_lt_succ ends) starts
    exact last
  · have reached := reaches fresh
    rw [if_neg fresh]
    refine ⟨⟨by dsimp only; omega, fun place starts ends => ?_⟩, by omega⟩
    by_cases final : place = groups.length
    · rw [final]
      exact last
    · dsimp only at starts ends
      exact (span_of.concat 0).zero place starts (by omega)

theorem Spanned.step {spans : ZeroSpan × ZeroSpan} (spanned : Spanned groups spans)
    (group : UInt16) :
    Spanned (groups ++ [group]) (zeroStep spans (group, groups.length)) := by
  by_cases zero : group = 0
  · subst zero
    obtain ⟨grown, reached⟩ := spanned.current.grow spanned.reaches
    rw [zeroStep, if_pos rfl]
    have count : (groups ++ [0]).length = groups.length + 1 := List.length_append
    refine ⟨?_, grown, fun _ => reached.trans count.symm⟩
    change IsZeroSpan (groups ++ [0]) (if spans.1.len < spans.2.len + 1 then _ else spans.1)
    by_cases longer : spans.1.len < spans.2.len + 1
    · rw [if_pos longer]
      exact grown
    · rw [if_neg longer]
      exact spanned.longest.concat 0
  · rw [zeroStep, if_neg zero]
    exact ⟨spanned.longest.concat group, .empty _, fun some_len => absurd rfl some_len⟩

theorem spanned_foldl (groups : List UInt16) :
    Spanned groups (groups.zipIdx.foldl zeroStep (⟨0, 0⟩, ⟨0, 0⟩)) := by
  induction groups using List.reverseRecOn with
  | nil => exact ⟨.empty _, .empty _, fun some_len => absurd rfl some_len⟩
  | append_singleton groups group ih =>
    rw [List.zipIdx_append, List.foldl_append, Nat.zero_add]
    exact ih.step group

theorem IsZeroSpan.eq_append (span_of : IsZeroSpan groups span) :
    groups = groups.take span.start ++ List.replicate span.len 0 ++
      groups.drop (span.start + span.len) := by
  have within := span_of.within
  have middle : (groups.drop span.start).take span.len = List.replicate span.len 0 := by
    refine List.eq_replicate_iff.mpr ⟨by simp; omega, fun group member => ?_⟩
    obtain ⟨place, inside, rfl⟩ := List.mem_iff_getElem.mp member
    rw [List.length_take] at inside
    have zero := span_of.zero (span.start + place) (by omega) (by omega)
    rw [List.getElem_take, List.getElem_drop]
    exact (List.getElem?_eq_some_iff.mp zero).2
  calc groups = groups.take span.start ++ groups.drop span.start := (List.take_append_drop ..).symm
    _ = groups.take span.start ++ ((groups.drop span.start).take span.len ++
      (groups.drop span.start).drop span.len) :=
      congrArg (groups.take span.start ++ ·) (List.take_append_drop ..).symm
    _ = groups.take span.start ++ List.replicate span.len 0 ++
      groups.drop (span.start + span.len) := by
      rw [middle, List.drop_drop, List.append_assoc]

end Zeroes

theorem Ipv4Addr.text_injective : Function.Injective Ipv4Addr.text := fun first second same =>
  Option.some.inj (by rw [← parseIpv4_text first, ← parseIpv4_text second, same])

namespace Ipv6Addr

theorem ofSegments_segments (addr : Ipv6Addr) : ofSegments addr.segments = addr := by
  cases addr with
  | mk octets =>
    refine congrArg mk (Vector.ext fun place inside => ?_)
    simp only [segments, Vector.getElem_ofFn]
    by_cases even : place % 2 = 0
    · have back : 2 * (place / 2) = place := by omega
      rw [if_pos even, highByte_readBe16]
      simp only [back]
    · have back : 2 * (place / 2) + 1 = place := by omega
      rw [if_neg even, lowByte_readBe16]
      simp only [back]

theorem segments_injective : Function.Injective segments :=
  Function.LeftInverse.injective ofSegments_segments

/-- The span of zero groups that the text leaves out. -/
def zeroes (addr : Ipv6Addr) : ZeroSpan :=
  (addr.segments.toList.zipIdx.foldl zeroStep (⟨0, 0⟩, ⟨0, 0⟩)).1

theorem text_eq_of_plain {addr : Ipv6Addr} (plain : addr.toIpv4Mapped = none) :
    addr.text =
      if 1 < addr.zeroes.len then
        groupsText (addr.segments.toList.take addr.zeroes.start) ++
          ':' :: ':' :: groupsText (addr.segments.toList.drop (addr.zeroes.start + addr.zeroes.len))
      else groupsText addr.segments.toList := by
  rw [text, plain]
  rfl

/-- Without an embedded IPv4 address, the text is that of the groups. -/
theorem text_of_groups {addr : Ipv6Addr} (plain : addr.toIpv4Mapped = none) :
    '.' ∉ addr.text ∧ readText addr.text = addr.segments.toList := by
  have spanned : IsZeroSpan addr.segments.toList addr.zeroes :=
    (spanned_foldl addr.segments.toList).longest
  have count : addr.segments.toList.length = 8 := Vector.length_toList
  have dotless (groups : List UInt16) : '.' ∉ groupsText groups :=
    not_mem_groupsText (by decide) (by decide) groups
  rw [text_eq_of_plain plain]
  split_ifs
  · constructor
    · simp only [List.mem_append, List.mem_cons, not_or]
      exact ⟨dotless _, by decide, by decide, dotless _⟩
    · have within := spanned.within
      have left_out : 8 - ((addr.segments.toList.take addr.zeroes.start).length +
          (addr.segments.toList.drop (addr.zeroes.start + addr.zeroes.len)).length) =
            addr.zeroes.len := by
        rw [List.length_take, List.length_drop, count]
        rw [count] at within
        omega
      rw [readText_shortened, left_out]
      exact spanned.eq_append.symm
  · exact ⟨dotless _, readText_groupsText (List.ne_nil_of_length_pos (by omega))⟩

theorem text_of_mapped {addr : Ipv6Addr} {v4 : Ipv4Addr} (mapped : addr.toIpv4Mapped = some v4) :
    '.' ∈ addr.text ∧ addr.text = [':', ':', 'f', 'f', 'f', 'f', ':'] ++ v4.text := by
  rw [text, mapped]
  refine ⟨?_, rfl⟩
  simp [Ipv4Addr.text]

theorem toIpv4Mapped_injective {first second : Ipv6Addr} {v4 : Ipv4Addr}
    (mapped : first.toIpv4Mapped = some v4) (same : second.toIpv4Mapped = some v4) :
    first = second := by
  have octets {addr : Ipv6Addr} (found : addr.toIpv4Mapped = some v4) :
      addr.octets.toList = List.replicate 10 0 ++ [0xff, 0xff] ++ [v4.a, v4.b, v4.c, v4.d] := by
    rw [toIpv4Mapped] at found
    split_ifs at found with leading
    obtain rfl := Option.some.inj found
    have count : addr.octets.toList.length = 16 := Vector.length_toList
    have last : addr.octets.toList.drop 12 =
        [addr.octets[12], addr.octets[13], addr.octets[14], addr.octets[15]] := by
      refine List.ext_getElem (by simp [count]) fun place _ inside => ?_
      rw [List.getElem_drop, Vector.getElem_toList]
      match place, inside with
      | 0, _ => rfl
      | 1, _ => rfl
      | 2, _ => rfl
      | 3, _ => rfl
    rw [← leading, ← last, List.take_append_drop]
  cases first with
  | mk one =>
    cases second with
    | mk other =>
      exact congrArg mk (Vector.toList_inj.mp ((octets mapped).trans (octets same).symm))

theorem text_injective : Function.Injective text := by
  intro first second same
  cases mapped : first.toIpv4Mapped with
  | some v4 =>
    cases other : second.toIpv4Mapped with
    | some w4 =>
      rw [(text_of_mapped mapped).2, (text_of_mapped other).2, List.append_cancel_left_eq] at same
      obtain rfl : v4 = w4 := Ipv4Addr.text_injective same
      exact toIpv4Mapped_injective mapped other
    | none => exact absurd (same ▸ (text_of_mapped mapped).1) (text_of_groups other).1
  | none =>
    cases other : second.toIpv4Mapped with
    | some w4 => exact absurd (same ▸ (text_of_mapped other).1) (text_of_groups mapped).1
    | none =>
      apply segments_injective
      apply Vector.toList_inj.mp
      rw [← (text_of_groups mapped).2, ← (text_of_groups other).2, same]

end Ipv6Addr

theorem Ipv6Addr.colon_mem_text (addr : Ipv6Addr) : ':' ∈ addr.text := by
  cases mapped : addr.toIpv4Mapped with
  | some v4 =>
    rw [(Ipv6Addr.text_of_mapped mapped).2]
    exact List.mem_cons_self
  | none =>
    rw [Ipv6Addr.text_eq_of_plain mapped]
    split_ifs
    · exact List.mem_append_right _ List.mem_cons_self
    · have count : addr.segments.toList.length = 8 := Vector.length_toList
      match groups : addr.segments.toList, count with
      | first :: second :: rest, _ =>
        rw [groupsText, List.map_cons, List.map_cons, List.intercalate_cons_cons]
        simp

theorem Ipv4Addr.colon_not_mem_text (addr : Ipv4Addr) : ':' ∉ addr.text := by
  have digits (octet : UInt8) : ':' ∉ octetText octet := not_mem_toDigits (by decide) octet.toNat
  simp [Ipv4Addr.text, digits]

theorem Ipv4Addr.text_ne_text (first : Ipv4Addr) (second : Ipv6Addr) : first.text ≠ second.text :=
  fun same =>
    first.colon_not_mem_text (same ▸ second.colon_mem_text)

theorem IpAddr.text_injective : Function.Injective IpAddr.text := by
  intro first second same
  cases first with
  | v4 one =>
    cases second with
    | v4 other => exact congrArg v4 (Ipv4Addr.text_injective same)
    | v6 other => exact absurd same (one.text_ne_text other)
  | v6 one =>
    cases second with
    | v4 other => exact absurd same.symm (other.text_ne_text one)
    | v6 other => exact congrArg v6 (Ipv6Addr.text_injective same)

end FragglePacket.Net
