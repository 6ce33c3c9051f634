import FragglePacket.Wire.Bytes

/-! MD5, SHA-1 and HMAC-SHA1, as the long-term credential exchange needs them. -/

namespace FragglePacket.NetworkTests

open FragglePacket.Wire

/-- `u32::rotate_left`, for a distance below 32. -/
def rotateLeft (word distance : UInt32) : UInt32 :=
  (word <<< distance) ||| (word >>> (32 - distance))

/-- `u32::to_le_bytes`. -/
def le32 (word : UInt32) : Bytes := (be32 word).reverse

/-- `u32::from_le_bytes`. -/
def readLe32 (a b c d : UInt8) : UInt32 := readBe32 d c b a

/-- `u64::to_be_bytes`. -/
def be64 (word : UInt64) : Bytes := be32 (word >>> 32).toUInt32 ++ be32 word.toUInt32

/-- `u64::to_le_bytes`. -/
def le64 (word : UInt64) : Bytes := (be64 word).reverse

/-- `slice.chunks(64)`. -/
def chunks (msg : Bytes) : List Bytes :=
  (List.range ((msg.length + 63) / 64)).map fun i => (msg.drop (64 * i)).take 64

/-- `(input.len() as u64).wrapping_mul(8)`. -/
def bitLen (input : Bytes) : UInt64 := UInt64.ofNat input.length * 8

/-- The message with its one bit, and zeros up to eight bytes before a block ends. -/
def padZeros (input : Bytes) : Bytes :=
  input ++ [0x80] ++ List.replicate ((120 - (input.length + 1) % 64) % 64) 0

def md5S : List UInt32 :=
  [7, 12, 17, 22, 7, 12, 17, 22, 7, 12, 17, 22, 7, 12, 17, 22, 5, 9, 14, 20, 5, 9, 14, 20, 5, 9, 14,
    20, 5, 9, 14, 20, 4, 11, 16, 23, 4, 11, 16, 23, 4, 11, 16, 23, 4, 11, 16, 23, 6, 10, 15, 21, 6,
    10, 15, 21, 6, 10, 15, 21, 6, 10, 15, 21]

def md5K : List UInt32 :=
  [0xd76aa478, 0xe8c7b756, 0x242070db, 0xc1bdceee, 0xf57c0faf, 0x4787c62a, 0xa8304613, 0xfd469501,
    0x698098d8, 0x8b44f7af, 0xffff5bb1, 0x895cd7be, 0x6b901122, 0xfd987193, 0xa679438e, 0x49b40821,
    0xf61e2562, 0xc040b340, 0x265e5a51, 0xe9b6c7aa, 0xd62f105d, 0x02441453, 0xd8a1e681, 0xe7d3fbc8,
    0x21e1cde6, 0xc33707d6, 0xf4d50d87, 0x455a14ed, 0xa9e3e905, 0xfcefa3f8, 0x676f02d9, 0x8d2a4c8a,
    0xfffa3942, 0x8771f681, 0x6d9d6122, 0xfde5380c, 0xa4beea44, 0x4bdecfa9, 0xf6bb4b60, 0xbebfbc70,
    0x289b7ec6, 0xeaa127fa, 0xd4ef3085, 0x04881d05, 0xd9d4d039, 0xe6db99e5, 0x1fa27cf8, 0xc4ac5665,
    0xf4292244, 0x432aff97, 0xab9423a7, 0xfc93a039, 0x655b59c3, 0x8f0ccc92, 0xffeff47d, 0x85845dd1,
    0x6fa87e4f, 0xfe2ce6e0, 0xa3014314, 0x4e0811a1, 0xf7537e82, 0xbd3af235, 0x2ad7d2bb, 0xeb86d391]

structure Md5State where
  a : UInt32
  b : UInt32
  c : UInt32
  d : UInt32

/-- The mixing function of round `i` and the word it takes. -/
def md5Mix (s : Md5State) (i : Nat) : UInt32 × Nat :=
  if i < 16 then ((s.b &&& s.c) ||| (~~~s.b &&& s.d), i)
  else if i < 32 then ((s.d &&& s.b) ||| (~~~s.d &&& s.c), (5 * i + 1) % 16)
  else if i < 48 then (s.b ^^^ s.c ^^^ s.d, (3 * i + 5) % 16)
  else (s.c ^^^ (s.b ||| ~~~s.d), (7 * i) % 16)

def md5Round (m : List UInt32) (s : Md5State) (i : Nat) : Md5State :=
  let (f, g) := md5Mix s i
  let f := f + s.a + md5K.getD i 0 + m.getD g 0
  ⟨s.d, s.b + rotateLeft f (md5S.getD i 0), s.b, s.c⟩

def md5Chunk (s : Md5State) (chunk : Bytes) : Md5State :=
  let m := (List.range 16).map fun i => readLe32 (chunk.getD (i * 4) 0) (chunk.getD (i * 4 + 1) 0)
    (chunk.getD (i * 4 + 2) 0) (chunk.getD (i * 4 + 3) 0)
  let r := (List.range 64).foldl (md5Round m) s
  ⟨s.a + r.a, s.b + r.b, s.c + r.c, s.d + r.d⟩

def md5 (input : Bytes) : Bytes :=
  let s := (chunks (padZeros input ++ le64 (bitLen input))).foldl md5Chunk
    ⟨0x67452301, 0xefcdab89, 0x98badcfe, 0x10325476⟩
  le32 s.a ++ le32 s.b ++ le32 s.c ++ le32 s.d

structure Sha1State where
  a : UInt32
  b : UInt32
  c : UInt32
  d : UInt32
  e : UInt32

/-- The words `w` with `w[i]` written behind them. -/
def sha1Extend (w : List UInt32) (i : Nat) : List UInt32 :=
  w ++ [rotateLeft (w.getD (i - 3) 0 ^^^ w.getD (i - 8) 0 ^^^ w.getD (i - 14) 0 ^^^ w.getD
    (i - 16) 0) 1]

def sha1Mix (s : Sha1State) (i : Nat) : UInt32 × UInt32 :=
  if i < 20 then ((s.b &&& s.c) ||| (~~~s.b &&& s.d), 0x5A827999)
  else if i < 40 then (s.b ^^^ s.c ^^^ s.d, 0x6ED9EBA1)
  else if i < 60 then ((s.b &&& s.c) ||| (s.b &&& s.d) ||| (s.c &&& s.d), 0x8F1BBCDC)
  else (s.b ^^^ s.c ^^^ s.d, 0xCA62C1D6)

def sha1Round (w : List UInt32) (s : Sha1State) (i : Nat) : Sha1State :=
  let (f, k) := sha1Mix s i
  let temp := rotateLeft s.a 5 + f + s.e + k + w.getD i 0
  ⟨temp, s.a, rotateLeft s.b 30, s.c, s.d⟩

def sha1Chunk (s : Sha1State) (chunk : Bytes) : Sha1State :=
  let words :=
    (List.range 16).map fun i => readBe32 (chunk.getD (i * 4) 0) (chunk.getD (i * 4 + 1) 0)
      (chunk.getD (i * 4 + 2) 0) (chunk.getD (i * 4 + 3) 0)
  let w := (List.range' 16 64).foldl sha1Extend words
  let r := (List.range 80).foldl (sha1Round w) s
  ⟨s.a + r.a, s.b + r.b, s.c + r.c, s.d + r.d, s.e + r.e⟩

def sha1 (input : Bytes) : Bytes :=
  let s := (chunks (padZeros input ++ be64 (bitLen input))).foldl sha1Chunk
    ⟨0x67452301, 0xEFCDAB89, 0x98BADCFE, 0x10325476, 0xC3D2E1F0⟩
  be32 s.a ++ be32 s.b ++ be32 s.c ++ be32 s.d ++ be32 s.e

/-- The key as `hmac_sha1` lays it out in a block. -/
def keyBlock (key : Bytes) : Bytes :=
  let used := if key.length > 64 then sha1 key else key
  used ++ List.replicate (64 - used.length) 0

def hmacSha1 (key message : Bytes) : Bytes :=
  let ipad := (keyBlock key).map (0x36 ^^^ ·)
  let opad := (keyBlock key).map (0x5c ^^^ ·)
  sha1 (opad ++ sha1 (ipad ++ message))

theorem md5_length (input : Bytes) : (md5 input).length = 16 := rfl

theorem sha1_length (input : Bytes) : (sha1 input).length = 20 := rfl

theorem hmacSha1_length (key message : Bytes) : (hmacSha1 key message).length = 20 := rfl

end FragglePacket.NetworkTests
