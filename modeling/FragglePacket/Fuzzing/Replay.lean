import FragglePacket.Wire.Checksum
import FragglePacket.Wire.Patch

/-! The rewrites of the replay engine: the selected addresses are written over a captured
frame and the IPv4 header checksum is computed again. -/

namespace FragglePacket.Fuzzing

open FragglePacket.Wire

/-- The options that `apply_rewrites` reads. -/
structure ReplayOptions where
  rewriteSrcMac : Option (Vector UInt8 6)
  rewriteDstMac : Option (Vector UInt8 6)
  rewriteSrcIp : Option (Vector UInt8 4)
  rewriteDstIp : Option (Vector UInt8 4)

def ReplayOptions.rewritesIp (opts : ReplayOptions) : Bool :=
  opts.rewriteSrcIp.isSome || opts.rewriteDstIp.isSome

/-- `bytes[index] = value`, none where the index is out of range. -/
def setByte (bytes : Bytes) (index : Nat) (value : UInt8) : Option Bytes :=
  copyFromSlice bytes index [value]

def headerWord (high low : UInt8) : UInt32 := high.toUInt32 <<< 8 ||| low.toUInt32

/-- The summing loop over the word offsets, none where an index is out of range. -/
def sumWords (bytes : Bytes) : List Nat → UInt32 → Option UInt32
  | [], sum => some sum
  | i :: rest, sum => do
    let high ← bytes[i]?
    let low ← bytes[i + 1]?
    sumWords bytes rest (sum + headerWord high low)

def addCarry (sum : UInt32) : UInt32 := (sum &&& (0xFFFF : UInt32)) + (sum >>> 16)

theorem low_half_toNat (sum : UInt32) : (sum &&& (0xFFFF : UInt32)).toNat = sum.toNat % 65536 := by
  rw [UInt32.toNat_and]
  exact Nat.and_two_pow_sub_one_eq_mod sum.toNat 16

theorem high_half_toNat (sum : UInt32) : (sum >>> 16).toNat = sum.toNat / 65536 := by
  rw [UInt32.toNat_shiftRight]
  exact Nat.shiftRight_eq_div_pow sum.toNat 16

theorem high_half_eq_zero_iff (sum : UInt32) : sum >>> 16 = 0 ↔ sum.toNat < 65536 := by
  rw [← UInt32.toNat_inj, high_half_toNat]
  exact Nat.div_eq_zero_iff_lt (by decide)

theorem addCarry_toNat (sum : UInt32) :
    (addCarry sum).toNat = sum.toNat % 65536 + sum.toNat / 65536 := by
  have bound := sum.toNat_lt
  rw [addCarry, UInt32.toNat_add, low_half_toNat, high_half_toNat]
  omega

def foldCarries (sum : UInt32) : UInt32 :=
  if sum >>> 16 ≠ 0 then foldCarries (addCarry sum) else sum
termination_by sum.toNat
decreasing_by
  have carried : ¬ sum.toNat < 65536 :=
    fun small => ‹sum >>> 16 ≠ 0› ((high_half_eq_zero_iff sum).mpr small)
  rw [addCarry_toNat]
  omega

def recomputeIpv4Checksum (ip : Bytes) : Option Bytes :=
  if ip.length < 20 then some ip
  else do
    let first ← ip[0]?
    let ihl := (first &&& 0x0F).toNat * 4
    if ip.length < ihl then some ip
    else do
      let zeroed ← setByte (← setByte ip 10 0) 11 0
      let sum ← sumWords zeroed (List.range' 0 ((ihl + 1) / 2) 2) 0
      let cs := ~~~ (foldCarries sum).toUInt16
      setByte (← setByte zeroed 10 (cs >>> 8).toUInt8) 11 (cs &&& 0xFF).toUInt8

def rewriteField {size : Nat} (bytes : Bytes) (offset : Nat) :
    Option (Vector UInt8 size) → Option Bytes
  | none => some bytes
  | some field => copyFromSlice bytes offset field.toList

/-- The addresses of an IPv4 header behind an Ethernet header. -/
def rewriteIpv4 (bytes : Bytes) (opts : ReplayOptions) : Option Bytes := do
  let bytes ← rewriteField bytes (14 + 12) opts.rewriteSrcIp
  let bytes ← rewriteField bytes (14 + 16) opts.rewriteDstIp
  if opts.rewritesIp then (recomputeIpv4Checksum (bytes.drop 14)).map (bytes.take 14 ++ ·)
  else some bytes

/-- The frame after `apply_rewrites`, none where it panics. -/
def applyRewrites (bytes : Bytes) (opts : ReplayOptions) : Option Bytes :=
  if bytes.length < 14 then some bytes
  else do
    let bytes ← rewriteField bytes 0 opts.rewriteDstMac
    let bytes ← rewriteField bytes 6 opts.rewriteSrcMac
    let etherType := readBe16 (← bytes[12]?) (← bytes[13]?)
    if etherType ≠ 0x0800 then some bytes
    else if bytes.length < 14 + 20 then some bytes
    else rewriteIpv4 bytes opts

theorem headerWord_toNat (high low : UInt8) :
    (headerWord high low).toNat = high.toNat * 256 + low.toNat := by
  have highBound := high.toNat_lt
  have shifted : (high.toUInt32 <<< 8).toNat = high.toNat <<< 8 := by
    rw [UInt32.toNat_shiftLeft, UInt8.toNat_toUInt32, Nat.mod_eq_of_lt]
    · rfl
    · change high.toNat <<< 8 < _
      rw [Nat.shiftLeft_eq]
      omega
  rw [headerWord, UInt32.toNat_or, shifted, UInt8.toNat_toUInt32,
    ← Nat.shiftLeft_add_eq_or_of_lt low.toNat_lt, Nat.shiftLeft_eq]

/-- The loop adds the words of the bytes it walks over. -/
theorem sumWords_range (bytes : Bytes) (count start : Nat) (sum : UInt32)
    (fits : start + 2 * count ≤ bytes.length) :
    sumWords bytes (List.range' start count 2) sum =
      some (sum + .ofNat (wordSum (slice bytes start (2 * count)))) := by
  induction count generalizing start sum with
  | zero => simp [sumWords, slice]
  | succ count ih =>
    have walked : slice bytes start (2 * (count + 1)) =
        bytes[start] :: bytes[start + 1] :: slice bytes (start + 2) (2 * count) := by
      rw [slice, List.drop_eq_getElem_cons (by omega), List.drop_eq_getElem_cons (by omega)]
      rfl
    have word : UInt32.ofNat (bytes[start].toNat * 256 + bytes[start + 1].toNat) =
        headerWord bytes[start] bytes[start + 1] := by
      rw [← headerWord_toNat, UInt32.ofNat_toNat]
    rw [List.range'_succ, sumWords, List.getElem?_eq_getElem (by omega),
      List.getElem?_eq_getElem (by omega)]
    change sumWords bytes (List.range' (start + 2) count 2) _ = _
    rw [ih _ _ (by omega), walked, wordSum_cons, UInt32.ofNat_add, word, UInt32.add_assoc]

/-- The carry loop ends in a word that stands for the whole sum. -/
theorem foldCarries_represents (sum : UInt32) :
    (foldCarries sum).toNat < 65536 ∧ Represents (foldCarries sum).toUInt16 sum.toNat := by
  induction sum using foldCarries.induct with
  | case1 sum carried ih =>
    have large : ¬ sum.toNat < 65536 := fun small => carried ((high_half_eq_zero_iff sum).mpr small)
    have residue := ih.2.residue
    have zero := ih.2.zero
    rw [addCarry_toNat] at residue zero
    rw [foldCarries, if_pos carried]
    refine ⟨ih.1, ?_, ?_⟩
    · omega
    · omega
  | case2 sum settled =>
    have small := (high_half_eq_zero_iff sum).mp (not_not.mp settled)
    have half : sum.toUInt16.toNat = sum.toNat := by
      rw [UInt32.toNat_toUInt16]
      exact Nat.mod_eq_of_lt small
    rw [foldCarries, if_neg settled]
    exact ⟨small, by rw [half], by rw [half]⟩

theorem wordSum_le (bytes : Bytes) : wordSum bytes ≤ 65535 * ((bytes.length + 1) / 2) := by
  induction bytes using words.induct with
  | case1 => exact Nat.zero_le _
  | case2 last =>
    have bound := (readBe16 last 0).toNat_lt
    simp only [wordSum, words, List.map_cons, List.map_nil, List.sum_cons, List.sum_nil,
      List.length_cons, List.length_nil]
    omega
  | case3 high low rest ih =>
    have highBound := high.toNat_lt
    have lowBound := low.toNat_lt
    rw [wordSum_cons, List.length_cons, List.length_cons]
    omega

/-- Writing the complement of a sum into the cleared field makes the words verify. -/
theorem complement_verifies {total : Nat} {folded : UInt16} (represents : Represents folded total) :
    total + (~~~ folded).toNat ≠ 0 ∧ (total + (~~~ folded).toNat) % 65535 = 0 := by
  have residue := represents.residue
  have zero := represents.zero
  have bound := folded.toNat_lt
  have complement : (~~~ folded).toNat = 65535 - folded.toNat := by
    rw [UInt16.toNat_not]
    rfl
  rw [complement]
  omega

/-- The header length that the first byte of an IPv4 header announces. -/
def headerBytes (ip : Bytes) : Nat := (ip.getD 0 0 &&& 0x0F).toNat * 4

/-- The checksum of a header whose checksum field is cleared. -/
def headerChecksum (ip : Bytes) : UInt16 :=
  ~~~ (foldCarries (.ofNat (wordSum (slice (patched ip 10 [0, 0]) 0 (headerBytes ip))))).toUInt16

theorem headerBytes_le (ip : Bytes) : headerBytes ip ≤ 60 := by
  have nibble : (ip.getD 0 0 &&& 0x0F).toNat ≤ 15 := by
    rw [UInt8.toNat_and]
    exact Nat.and_le_right
  rw [headerBytes]
  omega

theorem setByte_high {ip : Bytes} (long : 12 ≤ ip.length) (high : UInt8) :
    setByte ip 10 high = some (patched ip 10 [high]) :=
  copyFromSlice_fits (by
    rw [List.length_singleton]
    omega)

theorem setByte_low {ip : Bytes} (long : 12 ≤ ip.length) (high low : UInt8) :
    setByte (patched ip 10 [high]) 11 low = some (patched ip 10 [high, low]) := by
  have first : 10 + [high].length ≤ ip.length := by
    rw [List.length_singleton]
    omega
  have second : 11 + [low].length ≤ (patched ip 10 [high]).length := by
    rw [patched_length first, List.length_singleton]
    omega
  rw [setByte, copyFromSlice_fits second]
  exact congrArg some (patched_patched first [low])

theorem checksum_bytes (cs : UInt16) : [(cs >>> 8).toUInt8, (cs &&& 0xFF).toUInt8] = be16 cs := by
  have bound := cs.toNat_lt
  have high : (cs >>> 8).toUInt8 = highByte cs := by
    apply UInt8.toNat_inj.mp
    rw [highByte_toNat, UInt16.toNat_toUInt8, UInt16.toNat_shiftRight]
    change cs.toNat >>> 8 % 256 = _
    rw [Nat.shiftRight_eq_div_pow]
    omega
  have low : (cs &&& 0xFF).toUInt8 = lowByte cs := by
    apply UInt8.toNat_inj.mp
    rw [lowByte_toNat, UInt16.toNat_toUInt8, UInt16.toNat_and]
    have masked : cs.toNat &&& 255 = cs.toNat % 256 := Nat.and_two_pow_sub_one_eq_mod cs.toNat 8
    change (cs.toNat &&& 255) % 256 = _
    rw [masked, Nat.mod_mod]
  rw [high, low, be16]

/-- A header that lies in the frame gets its own checksum, a longer one is left alone. -/
theorem recomputeIpv4Checksum_eq {ip : Bytes} (long : 20 ≤ ip.length) :
    recomputeIpv4Checksum ip =
      some (if ip.length < headerBytes ip then ip
        else patched ip 10 (be16 (headerChecksum ip))) := by
  have first : ip[0]? = some (ip.getD 0 0) := getElem?_eq_some_getD (by omega)
  rw [recomputeIpv4Checksum, if_neg (by omega), first]
  change (if ip.length < headerBytes ip then some ip else _) = _
  by_cases cut : ip.length < headerBytes ip
  · rw [if_pos cut, if_pos cut]
  · have fits : 10 + [(0 : UInt8), 0].length ≤ ip.length := by
      simp only [List.length_cons, List.length_nil]
      omega
    have even : 2 * ((headerBytes ip + 1) / 2) = headerBytes ip := by
      rw [headerBytes]
      omega
    have size := patched_length fits
    have walked := sumWords_range (patched ip 10 [0, 0]) ((headerBytes ip + 1) / 2) 0 0 (by omega)
    rw [even, UInt32.zero_add] at walked
    change sumWords _ (List.range' 0 (((ip.getD 0 0 &&& 0x0F).toNat * 4 + 1) / 2) 2) 0 = _ at walked
    have zeroedLong : 12 ≤ (patched ip 10 [0, 0]).length := by omega
    rw [if_neg cut, if_neg cut]
    simp only [Option.bind_eq_bind, Option.bind_some, setByte_high (by omega : 12 ≤ ip.length),
      setByte_low (by omega : 12 ≤ ip.length), walked, setByte_high zeroedLong,
        setByte_low zeroedLong,
      checksum_bytes]
    rw [patched_over fits (be16_length _), headerChecksum]

/-- The words of a header after its checksum field is written. -/
theorem wordSum_checksum_field {ip : Bytes} (long : 12 ≤ ip.length) (cs : UInt16) {size : Nat}
    (covers : 12 ≤ size) :
    wordSum (slice (patched ip 10 (be16 cs)) 0 size) =
      wordSum (slice (patched ip 10 [0, 0]) 0 size) + cs.toNat := by
  have front : (ip.take 10).length = 10 := by
    rw [List.length_take]
    omega
  have cut (field : Bytes) (two : field.length = 2) :
      slice (patched ip 10 field) 0 size =
        ip.take 10 ++ (field ++ (ip.drop 12).take (size - 12)) := by
    have head : (ip.take 10).take size = ip.take 10 := List.take_of_length_le (by omega)
    have middle : field.take (size - 10) = field := List.take_of_length_le (by omega)
    rw [slice, List.drop_zero, patched, two, List.append_assoc, List.take_append, front,
      List.take_append, two, head, middle, Nat.sub_sub]
  have even : (ip.take 10).length % 2 = 0 := by rw [front]
  rw [cut _ (be16_length cs), cut _ rfl, wordSum_append even, wordSum_append even,
    wordSum_be16_append, List.cons_append, List.cons_append, wordSum_cons, List.nil_append]
  simp only [UInt8.toNat_zero]
  omega

/-- The recomputed checksum makes a whole header verify. -/
theorem headerChecksum_verifies {ip : Bytes} (long : 20 ≤ ip.length)
    (covers : 20 ≤ headerBytes ip) :
    onesSum (slice (patched ip 10 (be16 (headerChecksum ip))) 0 (headerBytes ip)) = 0xFFFF := by
  have bound := wordSum_le (slice (patched ip 10 [0, 0]) 0 (headerBytes ip))
  have short := headerBytes_le ip
  have size : (slice (patched ip 10 [0, 0]) 0 (headerBytes ip)).length ≤ 60 := by
    rw [slice, List.length_take]
    omega
  have exact : (UInt32.ofNat (wordSum (slice (patched ip 10 [0, 0]) 0 (headerBytes ip)))).toNat =
      wordSum (slice (patched ip 10 [0, 0]) 0 (headerBytes ip)) := by
    rw [UInt32.toNat_ofNat']
    apply Nat.mod_eq_of_lt
    omega
  have represents := (foldCarries_represents
    (.ofNat (wordSum (slice (patched ip 10 [0, 0]) 0 (headerBytes ip))))).2
  rw [exact] at represents
  rw [onesSum_eq_max_iff, wordSum_checksum_field (by omega) _ (by omega)]
  exact complement_verifies represents

/-- The offsets of the fields that the options select, with the header checksum when an
address is among them. -/
def ReplayOptions.Selects (opts : ReplayOptions) (i : Nat) : Prop :=
  (opts.rewriteDstMac.isSome ∧ i < 6) ∨ (opts.rewriteSrcMac.isSome ∧ 6 ≤ i ∧ i < 12) ∨
    (opts.rewriteSrcIp.isSome ∧ 26 ≤ i ∧ i < 30) ∨ (opts.rewriteDstIp.isSome ∧ 30 ≤ i ∧ i < 34) ∨
    (opts.rewritesIp ∧ 24 ≤ i ∧ i < 26)

def frameEtherType (frame : Bytes) : UInt16 := readBe16 (frame.getD 12 0) (frame.getD 13 0)

/-- A frame that carries IPv4 with a whole header of at least five words. -/
structure CarriesIpv4 (frame : Bytes) : Prop where
  etherType : frameEtherType frame = 0x0800
  words : 20 ≤ headerBytes (frame.drop 14)
  present : 14 + headerBytes (frame.drop 14) ≤ frame.length

/-- What a field holds after an optional rewrite. -/
def fieldAfter {size : Nat} (field : Option (Vector UInt8 size)) (current : Bytes) : Bytes :=
  (field.map Vector.toList).getD current

/-- What the options promise of a frame and the frame sent in its place. -/
structure Rewritten (opts : ReplayOptions) (before after : Bytes) : Prop where
  confined : Confined opts.Selects before after
  src : CarriesIpv4 before → slice after 26 4 = fieldAfter opts.rewriteSrcIp (slice before 26 4)
  dst : CarriesIpv4 before → slice after 30 4 = fieldAfter opts.rewriteDstIp (slice before 30 4)
  header : CarriesIpv4 before → opts.rewritesIp →
    onesSum (slice after 14 (headerBytes (before.drop 14))) = 0xFFFF

theorem rewriteField_spec {size offset : Nat} {bytes : Bytes} (field : Option (Vector UInt8 size))
    (fits : offset + size ≤ bytes.length) : ∃ after, rewriteField bytes offset field = some after ∧
      Confined (fun i => field.isSome ∧ offset ≤ i ∧ i < offset + size) bytes after ∧
      slice after offset size = fieldAfter field (slice bytes offset size) := by
  cases field with
  | none => exact ⟨bytes, rfl, .refl _ _, rfl⟩
  | some field =>
    have width : field.toList.length = size := field.length_toList
    have inside : offset + field.toList.length ≤ bytes.length := by rwa [width]
    have written := slice_patched inside
    have confined := patched_confined inside
    rw [width] at written confined
    exact ⟨_, copyFromSlice_fits inside, confined.mono fun i within => ⟨rfl, within⟩, written⟩

theorem headerBytes_drop (frame : Bytes) :
    headerBytes (frame.drop 14) = (frame.getD 14 0 &&& 0x0F).toNat * 4 := by
  rw [headerBytes, List.getD_eq_getElem?_getD, List.getElem?_drop, ← List.getD_eq_getElem?_getD]

theorem headerBytes_kept {region : Nat → Prop} {before after : Bytes}
    (confined : Confined region before after) (out : ¬ region 14) :
    headerBytes (after.drop 14) = headerBytes (before.drop 14) := by
  rw [headerBytes_drop, headerBytes_drop, confined.getD_eq out]

/-- The checksum step writes the checksum field and nothing else. -/
theorem recompute_spec {frame : Bytes} (long : 34 ≤ frame.length) : ∃ after,
    (recomputeIpv4Checksum (frame.drop 14)).map (frame.take 14 ++ ·) = some after ∧
      Confined (fun i => 24 ≤ i ∧ i < 26) frame after ∧
      (20 ≤ headerBytes (frame.drop 14) → 14 + headerBytes (frame.drop 14) ≤ frame.length →
        onesSum (slice after 14 (headerBytes (frame.drop 14))) = 0xFFFF) := by
  have behind : (frame.drop 14).length = frame.length - 14 := List.length_drop
  have front : (frame.take 14).length = 14 := by
    rw [List.length_take]
    omega
  rw [recomputeIpv4Checksum_eq (by omega), Option.map_some]
  refine ⟨_, rfl, ?_⟩
  by_cases cut : (frame.drop 14).length < headerBytes (frame.drop 14)
  · rw [if_pos cut, List.take_append_drop]
    exact ⟨.refl _ _, fun _ present => absurd cut (by omega)⟩
  · rw [if_neg cut]
    constructor
    · have written := patched_confined
        (by
          rw [be16_length]; omega : 24 + (be16 (headerChecksum (frame.drop 14))).length ≤
            frame.length)
      rwa [take_append_patched_drop]
    · intro words _
      rw [slice, List.drop_left' front]
      exact headerChecksum_verifies (by omega) words

theorem rewriteIpv4_spec (opts : ReplayOptions) {frame : Bytes} (long : 34 ≤ frame.length) :
    ∃ after, rewriteIpv4 frame opts = some after ∧ Confined opts.Selects frame after ∧
      slice after 26 4 = fieldAfter opts.rewriteSrcIp (slice frame 26 4) ∧
      slice after 30 4 = fieldAfter opts.rewriteDstIp (slice frame 30 4) ∧
      (CarriesIpv4 frame → opts.rewritesIp →
        onesSum (slice after 14 (headerBytes (frame.drop 14))) = 0xFFFF) := by
  obtain ⟨sent, sourced, srcConfined, src⟩ :=
    rewriteField_spec opts.rewriteSrcIp (by omega : 26 + 4 ≤ frame.length)
  have sentLong : 34 ≤ sent.length := by rwa [srcConfined.length]
  obtain ⟨addressed, targeted, dstConfined, dst⟩ :=
    rewriteField_spec opts.rewriteDstIp (by omega : 30 + 4 ≤ sent.length)
  have addressedLong : 34 ≤ addressed.length := by rwa [dstConfined.length]
  have srcKept : slice addressed 26 4 = slice sent 26 4 := dstConfined.slice_eq (by omega)
  have dstKept : slice sent 30 4 = slice frame 30 4 := srcConfined.slice_eq (by omega)
  rw [src] at srcKept
  rw [dstKept] at dst
  have srcSelected : Confined opts.Selects frame sent :=
    srcConfined.mono fun i within => .inr (.inr (.inl within))
  have dstSelected : Confined opts.Selects sent addressed :=
    dstConfined.mono fun i within => .inr (.inr (.inr (.inl within)))
  have reached := srcSelected.trans dstSelected
  have run : rewriteIpv4 frame opts =
      if opts.rewritesIp then (recomputeIpv4Checksum (addressed.drop 14)).map
        (addressed.take 14 ++ ·)
      else some addressed := by
    simp only [rewriteIpv4, sourced, targeted, Option.bind_eq_bind, Option.bind_some]
  by_cases asked : opts.rewritesIp = true
  · obtain ⟨after, recomputed, confined, verifies⟩ := recompute_spec addressedLong
    have header : headerBytes (addressed.drop 14) = headerBytes (frame.drop 14) :=
      (headerBytes_kept dstConfined (by omega)).trans (headerBytes_kept srcConfined (by omega))
    rw [header, dstConfined.length, srcConfined.length] at verifies
    rw [if_pos asked, recomputed] at run
    have selected : Confined opts.Selects addressed after :=
      confined.mono fun i within => .inr (.inr (.inr (.inr ⟨asked, within⟩)))
    have srcStays : slice after 26 4 = slice addressed 26 4 := confined.slice_eq (by omega)
    have dstStays : slice after 30 4 = slice addressed 30 4 := confined.slice_eq (by omega)
    exact ⟨after, run, reached.trans selected, srcStays.trans srcKept, dstStays.trans dst,
      fun carries _ => verifies carries.words carries.present⟩
  · rw [if_neg asked] at run
    exact ⟨addressed, run, reached, srcKept, dst, fun _ wanted => absurd wanted asked⟩

theorem CarriesIpv4.long {frame : Bytes} (carries : CarriesIpv4 frame) : 34 ≤ frame.length := by
  have words := carries.words
  have present := carries.present
  omega

/-- A frame without an IPv4 header is only promised what lies outside the selected fields. -/
theorem Rewritten.of_confined {opts : ReplayOptions} {before after : Bytes}
    (confined : Confined opts.Selects before after) (other : ¬ CarriesIpv4 before) :
    Rewritten opts before after :=
  ⟨confined, fun carries => absurd carries other, fun carries => absurd carries other,
    fun carries => absurd carries other⟩

/-- The rewrites of the link addresses change nothing behind them. -/
theorem rewriteMacs_spec (opts : ReplayOptions) {frame : Bytes} (long : 14 ≤ frame.length) :
    ∃ targeted linked, rewriteField frame 0 opts.rewriteDstMac = some targeted ∧
      rewriteField targeted 6 opts.rewriteSrcMac = some linked ∧
        Confined opts.Selects frame linked ∧
      Confined (· < 12) frame linked := by
  obtain ⟨targeted, dstRun, dstConfined, _⟩ :=
    rewriteField_spec opts.rewriteDstMac (by omega : 0 + 6 ≤ frame.length)
  have targetedLong : 14 ≤ targeted.length := by rwa [dstConfined.length]
  obtain ⟨linked, srcRun, srcConfined, _⟩ :=
    rewriteField_spec opts.rewriteSrcMac (by omega : 6 + 6 ≤ targeted.length)
  have dstSelected : Confined opts.Selects frame targeted :=
    dstConfined.mono fun i within => .inl ⟨within.1, by omega⟩
  have srcSelected : Confined opts.Selects targeted linked :=
    srcConfined.mono fun i within => .inr (.inl within)
  have dstLink : Confined (· < 12) frame targeted := dstConfined.mono fun i within => by omega
  have srcLink : Confined (· < 12) targeted linked := srcConfined.mono fun i within => by omega
  exact ⟨targeted, linked, dstRun, srcRun, dstSelected.trans srcSelected, dstLink.trans srcLink⟩

/-- `apply_rewrites` returns on every frame and keeps what it promises. -/
theorem applyRewrites_rewritten (opts : ReplayOptions) (frame : Bytes) :
    ∃ after, applyRewrites frame opts = some after ∧ Rewritten opts frame after := by
  by_cases short : frame.length < 14
  · have other : ¬ CarriesIpv4 frame := fun carries => absurd carries.long (by omega)
    exact ⟨frame, if_pos short, .of_confined (.refl _ _) other⟩
  obtain ⟨targeted, linked, dstRun, srcRun, reached, link⟩ :=
    rewriteMacs_spec opts (by omega : 14 ≤ frame.length)
  have size : linked.length = frame.length := link.length
  have type : frameEtherType linked = frameEtherType frame := by
    rw [frameEtherType, link.getD_eq (by omega), link.getD_eq (by omega), frameEtherType]
  have header : headerBytes (linked.drop 14) = headerBytes (frame.drop 14) :=
    headerBytes_kept link (by omega)
  have run : applyRewrites frame opts =
      if frameEtherType linked ≠ 0x0800 then some linked
      else if linked.length < 34 then some linked
      else rewriteIpv4 linked opts := by
    rw [applyRewrites, if_neg short]
    simp only [dstRun, srcRun, Option.bind_eq_bind, Option.bind_some,
      getElem?_eq_some_getD (by omega : 12 < linked.length), getElem?_eq_some_getD
        (by omega : 13 < linked.length)]
    rfl
  by_cases foreign : frameEtherType linked ≠ 0x0800
  · have other : ¬ CarriesIpv4 frame := fun carries => foreign (type.trans carries.etherType)
    exact ⟨linked, run.trans (if_pos foreign), .of_confined reached other⟩
  rw [if_neg foreign] at run
  by_cases cut : linked.length < 34
  · have other : ¬ CarriesIpv4 frame := fun carries => absurd carries.long (by omega)
    exact ⟨linked, run.trans (if_pos cut), .of_confined reached other⟩
  obtain ⟨after, rewritten, confined, src, dst, verifies⟩ :=
    rewriteIpv4_spec opts (by omega : 34 ≤ linked.length)
  rw [link.slice_eq (by omega)] at src dst
  rw [header] at verifies
  refine ⟨after, run.trans ((if_neg cut).trans rewritten), reached.trans confined, fun _ => src,
    fun _ => dst, ?_⟩
  intro carries
  apply verifies
  exact ⟨type.trans carries.etherType, by rw [header]; exact carries.words,
    by rw [header, size]; exact carries.present⟩

/-- Every frame is rewritten without a panic, nothing but the selected fields changes, and
an IPv4 header whose addresses are rewritten verifies as a whole. -/
theorem applyRewrites_frame (opts : ReplayOptions) (frame : Bytes) :
    ∃ after, applyRewrites frame opts = some after ∧
    after.length = frame.length ∧ (∀ i, ¬ opts.Selects i → after[i]? = frame[i]?) ∧
    (CarriesIpv4 frame → opts.rewritesIp →
      onesSum (slice after 14 (headerBytes (frame.drop 14))) = 0xFFFF) := by
  obtain ⟨after, run, rewritten⟩ := applyRewrites_rewritten opts frame
  exact ⟨after, run, rewritten.confined.length, rewritten.confined.outside, rewritten.header⟩

end FragglePacket.Fuzzing
