import FragglePacket.Hash.Md5
import FragglePacket.Hash.Sha1
import FragglePacket.NetworkTests.CryptoMin

/-! The hash functions of the credential exchange against their RFCs. -/

namespace FragglePacket.NetworkTests

open FragglePacket.Hash (bitsOf pad groups wordsWith rotate Registers Order Operation Digest)
open FragglePacket.Wire

/-- The two shifts of a rotation make up the rotation. -/
theorem rotateLeft_eq (word distance : UInt32) (positive : 0 < distance.toNat)
    (bounded : distance.toNat < 32) :
    rotateLeft word distance = rotate word distance.toNat := by
  have back : (32 - distance).toNat = 32 - distance.toNat := by
    rw [UInt32.toNat_sub_of_le]
    · rfl
    · exact Nat.le_of_lt bounded
  have left : (word <<< distance).toBitVec = word.toBitVec <<< distance.toNat := by
    rw [UInt32.toBitVec_shiftLeft, BitVec.shiftLeft_eq', BitVec.toNat_umod]
    exact congrArg (word.toBitVec <<< ·) (Nat.mod_eq_of_lt bounded)
  have right : (word >>> (32 - distance)).toBitVec = word.toBitVec >>> (32 - distance.toNat) := by
    have short : (32 - distance).toNat < 32 := by
      rw [back]
      exact Nat.sub_lt (by decide) positive
    rw [UInt32.toBitVec_shiftRight, BitVec.ushiftRight_eq', BitVec.toNat_umod, ← back]
    exact congrArg (word.toBitVec >>> ·) (Nat.mod_eq_of_lt short)
  apply UInt32.toBitVec_inj.mp
  rw [rotateLeft, rotate, BitVec.rotateLeft_def, Nat.mod_eq_of_lt bounded, UInt32.toBitVec_or,
    left, right]

section Padding
variable (input : Bytes)

theorem padZeros_length : (padZeros input).length % 64 = 56 := by
  simp only [padZeros, List.length_append, List.length_singleton, List.length_replicate]
  omega

theorem bitLen_low : (bitLen input).toUInt32 = .ofNat (bitsOf input).length := by
  apply UInt32.toNat_inj.mp
  rw [Hash.bitsOf_length, bitLen]
  simp only [UInt64.toNat_toUInt32, UInt64.toNat_mul, UInt64.toNat_ofNat', UInt32.toNat_ofNat',
    UInt64.reduceToNat]
  omega

theorem bitLen_high : (bitLen input >>> 32).toUInt32 = .ofNat ((bitsOf input).length / 2 ^ 32) := by
  apply UInt32.toNat_inj.mp
  rw [Hash.bitsOf_length, bitLen]
  simp only [UInt64.toNat_toUInt32, UInt64.toNat_shiftRight, UInt64.toNat_mul, UInt64.toNat_ofNat',
    UInt32.toNat_ofNat', UInt64.reduceToNat, Nat.reduceMod, Nat.shiftRight_eq_div_pow]
  omega

/-- Both paddings, with the length behind them, fill whole blocks. -/
theorem padded_length (length : Bytes) (eight : length.length = 8) :
    (padZeros input ++ length).length = 64 * (((padZeros input).length + 8) / 64) := by
  have padded := padZeros_length input
  rw [List.length_append, eight]
  omega

theorem md5Words_bitsOf : Hash.md5Words (bitsOf input) =
    wordsWith readLe32 (padZeros input ++ le64 (bitLen input)) := by
  have padded := padZeros_length input
  have words : Hash.leWords (pad (bitsOf input)) = wordsWith readLe32 (padZeros input) := by
    rw [Hash.pad_bitsOf]
    exact Hash.leWords_bitsOf (padZeros input)
  have length : wordsWith readLe32 (le64 (bitLen input)) =
      [(bitLen input).toUInt32, (bitLen input >>> 32).toUInt32] := by
    have low := readBe32_bytes (bitLen input).toUInt32
    have high := readBe32_bytes (bitLen input >>> 32).toUInt32
    exact congrArg₂ (fun first second => [first, second]) low high
  rw [Hash.md5Words, words, Hash.wordsWith_append (by omega), length, bitLen_low,
    bitLen_high]

theorem sha1Words_bitsOf : Hash.sha1Words (bitsOf input) =
    wordsWith readBe32 (padZeros input ++ be64 (bitLen input)) := by
  have padded := padZeros_length input
  have words : Hash.beWords (pad (bitsOf input)) = wordsWith readBe32 (padZeros input) := by
    rw [Hash.pad_bitsOf]
    exact Hash.beWords_bitsOf (padZeros input)
  have length : wordsWith readBe32 (be64 (bitLen input)) =
      [(bitLen input >>> 32).toUInt32, (bitLen input).toUInt32] := by
    have low := readBe32_bytes (bitLen input).toUInt32
    have high := readBe32_bytes (bitLen input >>> 32).toUInt32
    exact congrArg₂ (fun first second => [first, second]) high low
  rw [Hash.sha1Words, words, Hash.wordsWith_append (by omega), length, bitLen_low,
    bitLen_high]

end Padding

section Blocks

/-- `chunks(64)` of whole blocks. -/
theorem chunks_groups {msg : Bytes} (count : Nat) (whole : msg.length = 64 * count) :
    chunks msg = groups 64 msg := by
  have same : (msg.length + 63) / 64 = msg.length / 64 := by omega
  rw [chunks, groups, same]

theorem groups_whole {size : Nat} {bytes group : Bytes} (member : group ∈ groups size bytes) :
    group.length = size := by
  obtain ⟨i, inside, rfl⟩ := List.mem_map.mp member
  have room : i * size + size ≤ bytes.length := by
    have next := Nat.mul_le_of_le_div size (i + 1) bytes.length (List.mem_range.mp inside)
    rwa [Nat.succ_mul] at next
  rw [List.length_take, List.length_drop, Nat.mul_comm]
  omega

theorem blockWords (read : UInt8 → UInt8 → UInt8 → UInt8 → UInt32) {chunk : Bytes}
    (whole : chunk.length = 64) :
    ((List.range 16).map fun i => read (chunk.getD (i * 4) 0) (chunk.getD (i * 4 + 1) 0)
      (chunk.getD (i * 4 + 2) 0)
      (chunk.getD (i * 4 + 3) 0)) = wordsWith read chunk := by
  rw [Hash.wordsWith_getD, whole]

/-- Two chains over the same blocks stay in step. -/
theorem foldl_related {σ τ : Type} (view : τ → σ) {step : σ → Bytes → σ}
    {next : τ → List UInt32 → τ} {read : UInt8 → UInt8 → UInt8 → UInt8 → UInt32}
    (agrees : ∀ t (block : Bytes), block.length = 64 →
      step (view t) block = view (next t (wordsWith read block)))
    (blocks : List Bytes) (whole : ∀ block ∈ blocks, block.length = 64) (start : τ) :
    blocks.foldl step (view start) = view ((blocks.map (wordsWith read)).foldl next start) := by
  induction blocks generalizing start with
  | nil => rfl
  | cons block rest ih =>
    rw [List.foldl_cons, agrees start block (whole block List.mem_cons_self), List.map_cons,
      List.foldl_cons]
    exact ih (fun other member => whole other (List.mem_cons_of_mem _ member)) _

end Blocks

section Md5

/-- The registers as the rotating variables of the code hold them before an operation. -/
def rotated (order : Order) (r : Registers) : Md5State :=
  match order with
  | .abcd => ⟨r.a, r.b, r.c, r.d⟩
  | .dabc => ⟨r.d, r.a, r.b, r.c⟩
  | .cdab => ⟨r.c, r.d, r.a, r.b⟩
  | .bcda => ⟨r.b, r.c, r.d, r.a⟩

def orderAt (i : Nat) : Order :=
  match i % 4 with
  | 0 => .abcd
  | 1 => .dabc
  | 2 => .cdab
  | _ => .bcda

def nextOrder : Order → Order
  | .abcd => .dabc
  | .dabc => .cdab
  | .cdab => .bcda
  | .bcda => .abcd

theorem orderAt_succ (i : Nat) : orderAt (i + 1) = nextOrder (orderAt i) := by
  have phase : i % 4 = 0 ∨ i % 4 = 1 ∨ i % 4 = 2 ∨ i % 4 = 3 := by omega
  rcases phase with here | here | here | here
  · have next : (i + 1) % 4 = 1 := by omega
    rw [orderAt, orderAt, here, next]
    rfl
  · have next : (i + 1) % 4 = 2 := by omega
    rw [orderAt, orderAt, here, next]
    rfl
  · have next : (i + 1) % 4 = 3 := by omega
    rw [orderAt, orderAt, here, next]
    rfl
  · have next : (i + 1) % 4 = 0 := by omega
    rw [orderAt, orderAt, here, next]
    rfl

/-- A row of the RFC's tables agrees with the tables of the code at `i`. -/
def RowAt (op : Operation) (i : Nat) : Prop :=
  op.order = orderAt i ∧ (md5S.getD i 0).toNat = op.s ∧ 0 < op.s ∧ op.s < 32 ∧
    md5K.getD i 0 = Hash.sineTable.getD (op.i - 1) 0

instance (op : Operation) (i : Nat) : Decidable (RowAt op i) := inferInstanceAs (Decidable (_ ∧ _))

/-- An operation writes the register that comes first, and the code moves the variables along. -/
theorem rotated_operate (f : UInt32 → UInt32 → UInt32 → UInt32) (x : List UInt32) (r : Registers)
    (op : Operation) :
    rotated (nextOrder op.order) (Hash.operate f x r op) =
      ⟨(rotated op.order r).d,
        Hash.mix f x op (rotated op.order r).a (rotated op.order r).b (rotated op.order r).c
          (rotated op.order r).d,
        (rotated op.order r).b, (rotated op.order r).c⟩ := by
  obtain ⟨order, k, s, i⟩ := op
  cases order <;> rfl

variable {f : UInt32 → UInt32 → UInt32 → UInt32}

theorem md5Round_operate (x : List UInt32) (r : Registers) {op : Operation} {i : Nat}
    (row : RowAt op i) (mixes : ∀ s, md5Mix s i = (f s.b s.c s.d, op.k)) :
    md5Round x (rotated (orderAt i) r) i = rotated (orderAt (i + 1)) (Hash.operate f x r op) := by
  obtain ⟨order, shift, positive, bounded, sine⟩ := row
  rw [orderAt_succ, ← order, rotated_operate, md5Round, mixes]
  dsimp only
  rw [rotateLeft_eq _ _ (by rwa [shift]) (by rwa [shift]), shift, sine, Hash.mix]
  congr 3
  rw [UInt32.add_comm (f _ _ _), UInt32.add_assoc, UInt32.add_comm (Hash.sineTable.getD _ _),
    ← UInt32.add_assoc]

/-- The sixteen rounds of the code from `base` on run a list of operations. -/
theorem md5Round_foldl (x : List UInt32) (ops : List Operation) (base : Nat) (r : Registers)
    (rows : ∀ j op, ops[j]? = some op →
      RowAt op (base + j) ∧ ∀ s, md5Mix s (base + j) = (f s.b s.c s.d, op.k)) :
    (List.range' base ops.length).foldl (md5Round x) (rotated (orderAt base) r) =
      rotated (orderAt (base + ops.length)) (ops.foldl (Hash.operate f x) r) := by
  induction ops generalizing base r with
  | nil => rfl
  | cons op rest ih =>
    obtain ⟨row, mixes⟩ : RowAt op base ∧ ∀ s, md5Mix s base = (f s.b s.c s.d, op.k) :=
      rows 0 op rfl
    have later := ih (base + 1) (Hash.operate f x r op) fun j next found => by
      have shifted := rows (j + 1) next found
      rwa [← Nat.add_assoc, Nat.add_right_comm] at shifted
    rw [List.length_cons, List.range'_succ, List.foldl_cons, md5Round_operate x r row mixes, later,
      List.foldl_cons, Nat.add_right_comm, Nat.add_assoc]

/-- The rows of a round, its tables compared one by one. -/
theorem round_rows {ops : List Operation} {base : Nat}
    (tables : ∀ j < 16, RowAt (ops.getD j default) (base + j)) (size : ops.length = 16)
    {g : Nat → Nat} (words : ∀ j < 16, (ops.getD j default).k = g (base + j))
    (mixes : ∀ i, base ≤ i → i < base + 16 → ∀ s, md5Mix s i = (f s.b s.c s.d, g i)) :
    ∀ j op, ops[j]? = some op → RowAt op (base + j) ∧ ∀ s,
      md5Mix s (base + j) = (f s.b s.c s.d, op.k) := by
  intro j op found
  obtain ⟨inside, here⟩ := List.getElem?_eq_some_iff.mp found
  have at_j : ops.getD j default = op := by
    rw [List.getD_eq_getElem?_getD, found, Option.getD_some]
  rw [size] at inside
  have row := tables j inside
  have word := words j inside
  rw [at_j] at row word
  refine ⟨row, fun s => ?_⟩
  rw [mixes (base + j) (Nat.le_add_right _ _) (Nat.add_lt_add_left inside base) s, word]

theorem round1_rows : ∀ j op, Hash.round1[j]? = some op → RowAt op (0 + j) ∧
    ∀ s, md5Mix s (0 + j) = (Hash.auxF s.b s.c s.d, op.k) := by
  refine round_rows (by decide) rfl (g := id) (by decide) ?_
  intro i _ short s
  rw [md5Mix, if_pos (by omega)]
  rfl

theorem round2_rows : ∀ j op, Hash.round2[j]? = some op → RowAt op (16 + j) ∧
    ∀ s, md5Mix s (16 + j) = (Hash.auxG s.b s.c s.d, op.k) := by
  refine round_rows (by decide) rfl (g := fun i => (5 * i + 1) % 16) (by decide) ?_
  intro i long short s
  rw [md5Mix, if_neg (by omega), if_pos (by omega), Hash.auxG, UInt32.and_comm s.d,
    UInt32.and_comm _ s.c]

theorem round3_rows : ∀ j op, Hash.round3[j]? = some op → RowAt op (32 + j) ∧
    ∀ s, md5Mix s (32 + j) = (Hash.auxH s.b s.c s.d, op.k) := by
  refine round_rows (by decide) rfl (g := fun i => (3 * i + 5) % 16) (by decide) ?_
  intro i long short s
  rw [md5Mix, if_neg (by omega), if_neg (by omega), if_pos (by omega)]
  rfl

theorem round4_rows : ∀ j op, Hash.round4[j]? = some op → RowAt op (48 + j) ∧
    ∀ s, md5Mix s (48 + j) = (Hash.auxI s.b s.c s.d, op.k) := by
  refine round_rows (by decide) rfl (g := fun i => (7 * i) % 16) (by decide) ?_
  intro i long short s
  rw [md5Mix, if_neg (by omega), if_neg (by omega), if_neg (by omega)]
  rfl

/-- The variables of the code that hold the registers between blocks. -/
def md5View (r : Registers) : Md5State := rotated .abcd r

/-- The sixty-four rounds of the code run the four rounds of the RFC. -/
theorem md5Rounds (x : List UInt32) (r : Registers) :
    (List.range 64).foldl (md5Round x) (md5View r) =
    md5View (Hash.md5Mixed x r) := by
  have rounds : List.range 64 = List.range' 0 16 ++ List.range' 16 16 ++ List.range' 32 16 ++
      List.range' 48 16 := rfl
  have first (r : Registers) : (List.range' 0 16).foldl (md5Round x) (md5View r) =
      md5View (Hash.round1.foldl (Hash.operate Hash.auxF x) r) :=
    md5Round_foldl x Hash.round1 0 r round1_rows
  have second (r : Registers) : (List.range' 16 16).foldl (md5Round x) (md5View r) =
      md5View (Hash.round2.foldl (Hash.operate Hash.auxG x) r) :=
    md5Round_foldl x Hash.round2 16 r round2_rows
  have third (r : Registers) : (List.range' 32 16).foldl (md5Round x) (md5View r) =
      md5View (Hash.round3.foldl (Hash.operate Hash.auxH x) r) :=
    md5Round_foldl x Hash.round3 32 r round3_rows
  have fourth (r : Registers) : (List.range' 48 16).foldl (md5Round x) (md5View r) =
      md5View (Hash.round4.foldl (Hash.operate Hash.auxI x) r) :=
    md5Round_foldl x Hash.round4 48 r round4_rows
  rw [rounds, List.foldl_append, List.foldl_append, List.foldl_append, first, second, third, fourth,
    Hash.md5Mixed]

theorem md5Chunk_block (r : Registers) (chunk : Bytes) (whole : chunk.length = 64) :
    md5Chunk (md5View r) chunk = md5View (Hash.md5Block r (wordsWith readLe32 chunk)) := by
  have words := blockWords readLe32 whole
  have rounds := md5Rounds (wordsWith readLe32 chunk) r
  rw [md5Chunk, words, rounds, Hash.md5Block]
  simp only [md5View, rotated]

theorem le32_leBytes (word : UInt32) : le32 word = Hash.leBytes word :=
  (Hash.leBytes_eq word).symm

/-- MD5 is the message digest of RFC 1321. -/
theorem md5_eq (input : Bytes) : md5 input = Hash.md5 (bitsOf input) := by
  have whole := padded_length input (le64 (bitLen input)) rfl
  have blocks := chunks_groups _ whole
  have chain :=
    foldl_related md5View md5Chunk_block (groups 64 (padZeros input ++ le64 (bitLen input)))
      (fun _ member => groups_whole member) ⟨0x67452301, 0xefcdab89, 0x98badcfe, 0x10325476⟩
  rw [← Hash.groups_wordsWith _ whole, ← md5Words_bitsOf] at chain
  change (groups 64 (padZeros input ++ le64 (bitLen input))).foldl md5Chunk
    ⟨0x67452301, 0xefcdab89, 0x98badcfe, 0x10325476⟩ = _ at chain
  rw [md5, blocks, chain, Hash.md5]
  simp only [le32_leBytes]
  rfl

end Md5

section Sha1

/-- The variables of the code that hold the digest between blocks. -/
def sha1View (h : Digest) : Sha1State := ⟨h.h0, h.h1, h.h2, h.h3, h.h4⟩

/-- The words that the code has computed are those of the schedule. -/
structure Scheduled (block w : List UInt32) (count : Nat) : Prop where
  length : w.length = count
  words : ∀ t < count, w.getD t 0 = Hash.schedule block t

theorem Scheduled.extend {block w : List UInt32} {count : Nat} (scheduled : Scheduled block w count)
    (long : 16 ≤ count) : Scheduled block (sha1Extend w count) (count + 1) := by
  obtain ⟨length, words⟩ := scheduled
  refine ⟨?_, ?_⟩
  · rw [sha1Extend, List.length_append, length, List.length_singleton]
  · intro t inside
    rw [sha1Extend]
    by_cases old : t < count
    · rw [List.getD_append _ _ _ _ (by rwa [length]), words t old]
    · have last : t = count := by omega
      have late : ¬ count < 16 := Nat.not_lt.mpr long
      rw [last, List.getD_append_right _ _ _ _ (Nat.le_of_eq length), length, Nat.sub_self,
        words (count - 3) (by omega), words (count - 8) (by omega), words (count - 14) (by omega),
        words (count - 16) (by omega)]
      conv_rhs => rw [Hash.schedule, if_neg late]
      exact rotateLeft_eq _ 1 (by decide) (by decide)

theorem scheduled_words {block : List UInt32} (whole : block.length = 16) :
    Scheduled block block 16 := by
  refine ⟨whole, ?_⟩
  intro t inside
  rw [Hash.schedule, if_pos inside]

theorem scheduled_foldl {block : List UInt32} (more count : Nat) (long : 16 ≤ count)
    {w : List UInt32} (scheduled : Scheduled block w count) :
    Scheduled block ((List.range' count more).foldl sha1Extend w) (count + more) := by
  induction more generalizing count w with
  | zero => exact scheduled
  | succ more ih =>
    rw [List.range'_succ, List.foldl_cons, ← Nat.add_assoc, Nat.add_right_comm]
    exact ih (count + 1) (Nat.le_succ_of_le long) (scheduled.extend long)

theorem sha1Mix_eq (s : Sha1State) (t : Nat) :
    sha1Mix s t = (Hash.choice t s.b s.c s.d, Hash.constant t) := by
  rw [sha1Mix, Hash.choice, Hash.constant]
  simp only [← Nat.lt_succ_iff]
  split
  · rfl
  split
  · rfl
  split
  · rfl
  · rfl

theorem sha1Round_step {block w : List UInt32} {t : Nat} (word : w.getD t 0 = Hash.schedule block t)
    (h : Digest) : sha1Round w (sha1View h) t = sha1View (Hash.sha1Step block h t) := by
  have five : rotateLeft h.h0 5 = rotate h.h0 5 := rotateLeft_eq _ 5 (by decide) (by decide)
  have thirty : rotateLeft h.h1 30 = rotate h.h1 30 := rotateLeft_eq _ 30 (by decide) (by decide)
  rw [sha1Round, sha1Mix_eq, Hash.sha1Step]
  simp only [sha1View, five, thirty, word]
  congr 1
  rw [UInt32.add_assoc, UInt32.add_comm (Hash.constant t), ← UInt32.add_assoc]

theorem sha1Round_foldl {block w : List UInt32} (scheduled : Scheduled block w 80)
    (steps : List Nat) (inside : ∀ t ∈ steps, t < 80) (h : Digest) :
    steps.foldl (sha1Round w) (sha1View h) = sha1View (steps.foldl (Hash.sha1Step block) h) := by
  induction steps generalizing h with
  | nil => rfl
  | cons t rest ih =>
    have word := scheduled.words t (inside t List.mem_cons_self)
    rw [List.foldl_cons, sha1Round_step word, List.foldl_cons]
    exact ih (fun other member => inside other (List.mem_cons_of_mem _ member)) _

theorem sha1Chunk_block (h : Digest) (chunk : Bytes) (whole : chunk.length = 64) :
    sha1Chunk (sha1View h) chunk = sha1View (Hash.sha1Block h (wordsWith readBe32 chunk)) := by
  have sixteen : (wordsWith readBe32 chunk).length = 16 := by
    rw [Hash.wordsWith_length, whole]
  have scheduled := scheduled_foldl 64 16 (Nat.le_refl 16) (scheduled_words sixteen)
  have steps :=
    sha1Round_foldl scheduled (List.range 80) (fun _ member => List.mem_range.mp member) h
  rw [sha1Chunk, blockWords readBe32 whole, steps, Hash.sha1Block]
  rfl

/-- SHA-1 is the message digest of RFC 3174. -/
theorem sha1_eq (input : Bytes) : sha1 input = Hash.sha1 (bitsOf input) := by
  have whole := padded_length input (be64 (bitLen input)) rfl
  have blocks := chunks_groups _ whole
  have chain :=
    foldl_related sha1View sha1Chunk_block (groups 64 (padZeros input ++ be64 (bitLen input)))
      (fun _ member => groups_whole member)
        ⟨0x67452301, 0xEFCDAB89, 0x98BADCFE, 0x10325476, 0xC3D2E1F0⟩
  rw [← Hash.groups_wordsWith _ whole, ← sha1Words_bitsOf] at chain
  change (groups 64 (padZeros input ++ be64 (bitLen input))).foldl sha1Chunk
    ⟨0x67452301, 0xEFCDAB89, 0x98BADCFE, 0x10325476, 0xC3D2E1F0⟩ = _ at chain
  rw [sha1, blocks, chain, Hash.sha1]
  rfl

end Sha1

section Hmac

theorem keyBlock_eq (key : Bytes) : keyBlock key = Hash.hmacKey sha1 64 key := rfl

theorem zipWith_constant (pad : UInt8) {key : Bytes} {size : Nat} (whole : key.length = size) :
    List.zipWith (· ^^^ ·) key (List.replicate size pad) = key.map (pad ^^^ ·) := by
  subst whole
  induction key with
  | nil => rfl
  | cons byte rest ih =>
    rw [List.length_cons, List.replicate_succ, List.zipWith_cons_cons, ih, List.map_cons,
      UInt8.xor_comm]

theorem keyBlock_length (key : Bytes) : (keyBlock key).length = 64 := by
  rw [keyBlock, List.length_append, List.length_replicate]
  by_cases long : key.length > 64
  · rw [if_pos long, sha1_length]
  · rw [if_neg long]
    omega

theorem hmacSha1_eq (key message : Bytes) :
    hmacSha1 key message = Hash.hmac (fun text => Hash.sha1 (bitsOf text)) 64 key message := by
  have hash : (fun text => Hash.sha1 (bitsOf text)) = sha1 := funext fun text => (sha1_eq text).symm
  rw [hash, hmacSha1, Hash.hmac, ← keyBlock_eq, zipWith_constant _ (keyBlock_length key),
    zipWith_constant _ (keyBlock_length key)]

end Hmac

/-- The hash functions of the credential exchange are those of their RFCs, on every key
and message. -/
theorem hashes_match_references :
    (∀ input, md5 input = Hash.md5 (bitsOf input)) ∧
      (∀ input, sha1 input = Hash.sha1 (bitsOf input)) ∧
      ∀ key message, hmacSha1 key message =
        Hash.hmac (fun text => Hash.sha1 (bitsOf text)) 64 key message :=
  ⟨md5_eq, sha1_eq, hmacSha1_eq⟩

end FragglePacket.NetworkTests
