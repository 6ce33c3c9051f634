import FragglePacket.Hash.Bits

/-! The MD5 message digest of RFC 1321, on messages of any number of bits. -/

namespace FragglePacket.Hash

open FragglePacket.Wire

structure Registers where
  a : UInt32
  b : UInt32
  c : UInt32
  d : UInt32

/-- The order in which an operation takes the four registers; it writes the first. -/
inductive Order where
  | abcd
  | dabc
  | cdab
  | bcda
deriving DecidableEq, Inhabited

/-- The operation `[order k s i]` of a round. -/
structure Operation where
  order : Order
  k : Nat
  s : Nat
  i : Nat
deriving DecidableEq, Inhabited

def auxF (x y z : UInt32) : UInt32 := (x &&& y) ||| (~~~x &&& z)
def auxG (x y z : UInt32) : UInt32 := (x &&& z) ||| (y &&& ~~~z)
def auxH (x y z : UInt32) : UInt32 := x ^^^ y ^^^ z
def auxI (x y z : UInt32) : UInt32 := y ^^^ (x ||| ~~~z)

/-- `T[1 ... 64]`: the integer parts of 4294967296 times `abs(sin(i))`. -/
def sineTable : List UInt32 :=
  [0xd76aa478, 0xe8c7b756, 0x242070db, 0xc1bdceee, 0xf57c0faf, 0x4787c62a, 0xa8304613, 0xfd469501,
    0x698098d8, 0x8b44f7af, 0xffff5bb1, 0x895cd7be, 0x6b901122, 0xfd987193, 0xa679438e, 0x49b40821,
    0xf61e2562, 0xc040b340, 0x265e5a51, 0xe9b6c7aa, 0xd62f105d, 0x02441453, 0xd8a1e681, 0xe7d3fbc8,
    0x21e1cde6, 0xc33707d6, 0xf4d50d87, 0x455a14ed, 0xa9e3e905, 0xfcefa3f8, 0x676f02d9, 0x8d2a4c8a,
    0xfffa3942, 0x8771f681, 0x6d9d6122, 0xfde5380c, 0xa4beea44, 0x4bdecfa9, 0xf6bb4b60, 0xbebfbc70,
    0x289b7ec6, 0xeaa127fa, 0xd4ef3085, 0x04881d05, 0xd9d4d039, 0xe6db99e5, 0x1fa27cf8, 0xc4ac5665,
    0xf4292244, 0x432aff97, 0xab9423a7, 0xfc93a039, 0x655b59c3, 0x8f0ccc92, 0xffeff47d, 0x85845dd1,
    0x6fa87e4f, 0xfe2ce6e0, 0xa3014314, 0x4e0811a1, 0xf7537e82, 0xbd3af235, 0x2ad7d2bb, 0xeb86d391]

def round1 : List Operation :=
  [⟨.abcd, 0, 7, 1⟩, ⟨.dabc, 1, 12, 2⟩, ⟨.cdab, 2, 17, 3⟩, ⟨.bcda, 3, 22, 4⟩,
    ⟨.abcd, 4, 7, 5⟩, ⟨.dabc, 5, 12, 6⟩, ⟨.cdab, 6, 17, 7⟩, ⟨.bcda, 7, 22, 8⟩,
    ⟨.abcd, 8, 7, 9⟩, ⟨.dabc, 9, 12, 10⟩, ⟨.cdab, 10, 17, 11⟩, ⟨.bcda, 11, 22, 12⟩,
    ⟨.abcd, 12, 7, 13⟩, ⟨.dabc, 13, 12, 14⟩, ⟨.cdab, 14, 17, 15⟩, ⟨.bcda, 15, 22, 16⟩]

def round2 : List Operation :=
  [⟨.abcd, 1, 5, 17⟩, ⟨.dabc, 6, 9, 18⟩, ⟨.cdab, 11, 14, 19⟩, ⟨.bcda, 0, 20, 20⟩,
    ⟨.abcd, 5, 5, 21⟩, ⟨.dabc, 10, 9, 22⟩, ⟨.cdab, 15, 14, 23⟩, ⟨.bcda, 4, 20, 24⟩,
    ⟨.abcd, 9, 5, 25⟩, ⟨.dabc, 14, 9, 26⟩, ⟨.cdab, 3, 14, 27⟩, ⟨.bcda, 8, 20, 28⟩,
    ⟨.abcd, 13, 5, 29⟩, ⟨.dabc, 2, 9, 30⟩, ⟨.cdab, 7, 14, 31⟩, ⟨.bcda, 12, 20, 32⟩]

def round3 : List Operation :=
  [⟨.abcd, 5, 4, 33⟩, ⟨.dabc, 8, 11, 34⟩, ⟨.cdab, 11, 16, 35⟩, ⟨.bcda, 14, 23, 36⟩,
    ⟨.abcd, 1, 4, 37⟩, ⟨.dabc, 4, 11, 38⟩, ⟨.cdab, 7, 16, 39⟩, ⟨.bcda, 10, 23, 40⟩,
    ⟨.abcd, 13, 4, 41⟩, ⟨.dabc, 0, 11, 42⟩, ⟨.cdab, 3, 16, 43⟩, ⟨.bcda, 6, 23, 44⟩,
    ⟨.abcd, 9, 4, 45⟩, ⟨.dabc, 12, 11, 46⟩, ⟨.cdab, 15, 16, 47⟩, ⟨.bcda, 2, 23, 48⟩]

def round4 : List Operation :=
  [⟨.abcd, 0, 6, 49⟩, ⟨.dabc, 7, 10, 50⟩, ⟨.cdab, 14, 15, 51⟩, ⟨.bcda, 5, 21, 52⟩,
    ⟨.abcd, 12, 6, 53⟩, ⟨.dabc, 3, 10, 54⟩, ⟨.cdab, 10, 15, 55⟩, ⟨.bcda, 1, 21, 56⟩,
    ⟨.abcd, 8, 6, 57⟩, ⟨.dabc, 15, 10, 58⟩, ⟨.cdab, 6, 15, 59⟩, ⟨.bcda, 13, 21, 60⟩,
    ⟨.abcd, 4, 6, 61⟩, ⟨.dabc, 11, 10, 62⟩, ⟨.cdab, 2, 15, 63⟩, ⟨.bcda, 9, 21, 64⟩]

/-- `a = b + ((a + f(b, c, d) + X[k] + T[i]) <<< s)`. -/
def mix (f : UInt32 → UInt32 → UInt32 → UInt32) (x : List UInt32) (op : Operation)
    (a b c d : UInt32) : UInt32 :=
  b + rotate (a + f b c d + x.getD op.k 0 + sineTable.getD (op.i - 1) 0) op.s

def operate (f : UInt32 → UInt32 → UInt32 → UInt32) (x : List UInt32) (r : Registers)
    (op : Operation) : Registers :=
  match op.order with
  | .abcd => { r with a := mix f x op r.a r.b r.c r.d }
  | .dabc => { r with d := mix f x op r.d r.a r.b r.c }
  | .cdab => { r with c := mix f x op r.c r.d r.a r.b }
  | .bcda => { r with b := mix f x op r.b r.c r.d r.a }

/-- The registers after the four rounds over a block of sixteen words. -/
def md5Mixed (x : List UInt32) (r : Registers) : Registers :=
  round4.foldl (operate auxI x) (round3.foldl (operate auxH x) (round2.foldl (operate auxG x)
    (round1.foldl (operate auxF x) r)))

def md5Block (r : Registers) (x : List UInt32) : Registers :=
  let mixed := md5Mixed x r
  ⟨r.a + mixed.a, r.b + mixed.b, r.c + mixed.c, r.d + mixed.d⟩

/-- The padded message and its length, low-order word first. -/
def md5Words (message : List Bool) : List UInt32 :=
  leWords (pad message) ++ [.ofNat message.length, .ofNat (message.length / 2 ^ 32)]

/-- The bytes of a word, the low-order byte first. -/
def leBytes (word : UInt32) : Bytes := (List.range 4).map fun i => .ofNat (word.toNat / 256 ^ i)

def md5 (message : List Bool) : Bytes :=
  let r :=
    (groups 16 (md5Words message)).foldl md5Block ⟨0x67452301, 0xefcdab89, 0x98badcfe, 0x10325476⟩
  leBytes r.a ++ leBytes r.b ++ leBytes r.c ++ leBytes r.d

theorem leBytes_eq (word : UInt32) : leBytes word = (be32 word).reverse := by
  have first : lowByte (lowWord word) = .ofNat (word.toNat / 256 ^ 0) := by
    apply UInt8.toNat_inj.mp
    rw [lowByte_toNat, lowWord_toNat, UInt8.toNat_ofNat']
    omega
  have second : highByte (lowWord word) = .ofNat (word.toNat / 256 ^ 1) := by
    apply UInt8.toNat_inj.mp
    rw [highByte_toNat, lowWord_toNat, UInt8.toNat_ofNat']
    omega
  have third : lowByte (highWord word) = .ofNat (word.toNat / 256 ^ 2) := by
    apply UInt8.toNat_inj.mp
    rw [lowByte_toNat, highWord_toNat, UInt8.toNat_ofNat']
    omega
  have fourth : highByte (highWord word) = .ofNat (word.toNat / 256 ^ 3) := by
    have bound := word.toNat_lt
    apply UInt8.toNat_inj.mp
    rw [highByte_toNat, highWord_toNat, UInt8.toNat_ofNat']
    omega
  change _ = [lowByte (lowWord word), highByte (lowWord word), lowByte (highWord word),
    highByte (highWord word)]
  rw [first, second, third, fourth]
  rfl

end FragglePacket.Hash
