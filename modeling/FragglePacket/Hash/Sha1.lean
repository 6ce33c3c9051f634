import FragglePacket.Hash.Bits

/-! The SHA-1 message digest of RFC 3174, on messages of any number of bits, and the HMAC
construction of RFC 2104. -/

namespace FragglePacket.Hash

open FragglePacket.Wire

structure Digest where
  h0 : UInt32
  h1 : UInt32
  h2 : UInt32
  h3 : UInt32
  h4 : UInt32

/-- `f(t;B,C,D)`. -/
def choice (t : Nat) (b c d : UInt32) : UInt32 :=
  if t ≤ 19 then (b &&& c) ||| (~~~b &&& d)
  else if t ≤ 39 then b ^^^ c ^^^ d
  else if t ≤ 59 then (b &&& c) ||| (b &&& d) ||| (c &&& d)
  else b ^^^ c ^^^ d

/-- `K(t)`. -/
def constant (t : Nat) : UInt32 :=
  if t ≤ 19 then 0x5A827999
  else if t ≤ 39 then 0x6ED9EBA1
  else if t ≤ 59 then 0x8F1BBCDC
  else 0xCA62C1D6

/-- `W(t)` of a block of sixteen words. -/
def schedule (block : List UInt32) (t : Nat) : UInt32 :=
  if t < 16 then block.getD t 0
  else rotate (schedule block (t - 3) ^^^ schedule block (t - 8) ^^^ schedule block (t - 14) ^^^
    schedule block (t - 16)) 1

/-- The step `t` of a block. -/
def sha1Step (block : List UInt32) (h : Digest) (t : Nat) : Digest :=
  let temp := rotate h.h0 5 + choice t h.h1 h.h2 h.h3 + h.h4 + schedule block t + constant t
  ⟨temp, h.h0, rotate h.h1 30, h.h2, h.h3⟩

def sha1Block (h : Digest) (block : List UInt32) : Digest :=
  let mixed := (List.range 80).foldl (sha1Step block) h
  ⟨h.h0 + mixed.h0, h.h1 + mixed.h1, h.h2 + mixed.h2, h.h3 + mixed.h3, h.h4 + mixed.h4⟩

/-- The padded message and its length, high-order word first. -/
def sha1Words (message : List Bool) : List UInt32 :=
  beWords (pad message) ++ [.ofNat (message.length / 2 ^ 32), .ofNat message.length]

def sha1 (message : List Bool) : Bytes :=
  let h := (groups 16 (sha1Words message)).foldl sha1Block
    ⟨0x67452301, 0xEFCDAB89, 0x98BADCFE, 0x10325476, 0xC3D2E1F0⟩
  be32 h.h0 ++ be32 h.h1 ++ be32 h.h2 ++ be32 h.h3 ++ be32 h.h4

/-- The key filled with zeros to the size of a block, a longer one hashed first. -/
def hmacKey (hash : Bytes → Bytes) (blockSize : Nat) (key : Bytes) : Bytes :=
  let key := if blockSize < key.length then hash key else key
  key ++ List.replicate (blockSize - key.length) 0

/-- `H(K XOR opad, H(K XOR ipad, text))`. -/
def hmac (hash : Bytes → Bytes) (blockSize : Nat) (key text : Bytes) : Bytes :=
  let ipad := List.replicate blockSize 0x36
  let opad := List.replicate blockSize 0x5C
  let key := hmacKey hash blockSize key
  hash (List.zipWith (· ^^^ ·) key opad ++ hash (List.zipWith (· ^^^ ·) key ipad ++ text))

end FragglePacket.Hash
