import Abacus.Bytes

/-!
# Checks of archives

A cyclic check is the remainder of a bit sequence by a polynomial over the field of two
elements, with the bits of each byte from the lowest up. The register starts with ones and
is inverted at the end, so that zero bytes at the ends change the check too.

For the check of 256 bits a message is filled up to whole blocks, the last of which ends in
its length. Every block is stretched to one word for each round, and the rounds stir eight
words. For the mixing check of 64 bits four lanes take in eight bytes each in turn and are
merged at the end; what is left over is mixed in afterwards.

* `Checksum.crc32`, `Checksum.crc64`: the two cyclic checks that archives carry.
* `Checksum.crc32HighFirst`: the first of them, with the bits from the highest down.
* `Checksum.sha256`: the check of 256 bits.
* `Checksum.xxHash64`: the mixing check.
-/

/-! ## Cyclic checks -/

namespace Abacus.Checksum

/-- Moves the register on by one bit; a bit that falls out subtracts the polynomial. -/
def shift (polynomial register : UInt64) : UInt64 :=
  if register &&& 1 = 1 then (register >>> 1) ^^^ polynomial else register >>> 1

/-- Moves the register on by one byte. -/
def absorb (polynomial register : UInt64) (b : UInt8) : UInt64 :=
  Nat.repeat (shift polynomial) 8 (register ^^^ b.toUInt64)

/-- The check of bytes, in a register that has room for `ones`. -/
def cyclic (polynomial ones : UInt64) (bytes : List UInt8) : Nat :=
  (bytes.foldl (absorb polynomial) ones ^^^ ones).toNat

/-- The check of 32 bits. -/
def crc32 (bytes : List UInt8) : Nat := cyclic 0xEDB88320 0xFFFFFFFF bytes

/-- The check of 64 bits. -/
def crc64 (bytes : List UInt8) : Nat := cyclic 0xC96C5795D7870F42 0xFFFFFFFFFFFFFFFF bytes

/-- A number of `width` bits with its bits in the other order. -/
def reversed (width n : Nat) : Nat :=
  (List.range width).foldl (fun r i => 2 * r + (n.testBit i).toNat) 0

/-- The check of 32 bits over bytes whose bits come from the highest down. -/
def crc32HighFirst (bytes : List UInt8) : Nat :=
  reversed 32 (crc32 (bytes.map fun b => (reversed 8 b.toNat).toUInt8))

end Abacus.Checksum

/-! ## The check of 256 bits -/

namespace Abacus.Checksum.Sha256

/-- The eight words that are stirred. -/
structure Words where
  a : UInt32
  b : UInt32
  c : UInt32
  d : UInt32
  e : UInt32
  f : UInt32
  g : UInt32
  h : UInt32

/-- The words before the first block: the first bits of the fractions of the square
    roots of the first primes. -/
def Words.start : Words :=
  ⟨0x6A09E667, 0xBB67AE85, 0x3C6EF372, 0xA54FF53A, 0x510E527F, 0x9B05688C,
    0x1F83D9AB, 0x5BE0CD19⟩

/-- The constants of the rounds: the first bits of the fractions of the cube roots of
    the first primes. -/
def roundConstants : List UInt32 :=
  [0x428A2F98, 0x71374491, 0xB5C0FBCF, 0xE9B5DBA5, 0x3956C25B, 0x59F111F1, 0x923F82A4, 0xAB1C5ED5,
   0xD807AA98, 0x12835B01, 0x243185BE, 0x550C7DC3, 0x72BE5D74, 0x80DEB1FE, 0x9BDC06A7, 0xC19BF174,
   0xE49B69C1, 0xEFBE4786, 0x0FC19DC6, 0x240CA1CC, 0x2DE92C6F, 0x4A7484AA, 0x5CB0A9DC, 0x76F988DA,
   0x983E5152, 0xA831C66D, 0xB00327C8, 0xBF597FC7, 0xC6E00BF3, 0xD5A79147, 0x06CA6351, 0x14292967,
   0x27B70A85, 0x2E1B2138, 0x4D2C6DFC, 0x53380D13, 0x650A7354, 0x766A0ABB, 0x81C2C92E, 0x92722C85,
   0xA2BFE8A1, 0xA81A664B, 0xC24B8B70, 0xC76C51A3, 0xD192E819, 0xD6990624, 0xF40E3585, 0x106AA070,
   0x19A4C116, 0x1E376C08, 0x2748774C, 0x34B0BCB5, 0x391C0CB3, 0x4ED8AA4A, 0x5B9CCA4F, 0x682E6FF3,
   0x748F82EE, 0x78A5636F, 0x84C87814, 0x8CC70208, 0x90BEFFFA, 0xA4506CEB, 0xBEF9A3F7, 0xC67178F2]

/-- Turns a word to the right. -/
def turn (w n : UInt32) : UInt32 := (w >>> n) ||| (w <<< (32 - n))

/-- The words of a block, the highest byte first. -/
def blockWords : List UInt8 → List UInt32
  | a :: b :: c :: d :: rest =>
    ((a.toUInt32 <<< 24) ||| (b.toUInt32 <<< 16) ||| (c.toUInt32 <<< 8) ||| d.toUInt32) ::
      blockWords rest
  | _ => []

/-- The next word of the stretched block, from the latest 16 words, the earliest of
    which stands first. -/
def nextWord (recent : List UInt32) : UInt32 :=
  let word (i : Nat) : UInt32 := (recent[i]?).getD 0
  let low := word 1
  let high := word 14
  word 0 + (turn low 7 ^^^ turn low 18 ^^^ (low >>> 3)) + word 9 +
    (turn high 17 ^^^ turn high 19 ^^^ (high >>> 10))

/-- The words for `n` rounds. -/
def stretch : (n : Nat) → (recent : List UInt32) → List UInt32
  | 0, _ => []
  | n + 1, recent => recent.headD 0 :: stretch n (recent.drop 1 ++ [nextWord recent])

/-- One round, with the sum of its word and its constant. -/
def round (s : Words) (input : UInt32) : Words :=
  let choice := (s.e &&& s.f) ^^^ (~~~s.e &&& s.g)
  let majority := (s.a &&& s.b) ^^^ (s.a &&& s.c) ^^^ (s.b &&& s.c)
  let first := s.h + (turn s.e 6 ^^^ turn s.e 11 ^^^ turn s.e 25) + choice + input
  let second := (turn s.a 2 ^^^ turn s.a 13 ^^^ turn s.a 22) + majority
  ⟨first + second, s.a, s.b, s.c, s.d + first, s.e, s.f, s.g⟩

/-- Adds words place by place. -/
def Words.add (s t : Words) : Words :=
  ⟨s.a + t.a, s.b + t.b, s.c + t.c, s.d + t.d, s.e + t.e, s.f + t.f, s.g + t.g, s.h + t.h⟩

/-- Takes in a block. -/
def absorb (s : Words) (block : List UInt8) : Words :=
  let inputs := (stretch roundConstants.length (blockWords block)).zip roundConstants
  s.add (inputs.foldl (fun s (word, constant) => round s (word + constant)) s)

/-- The length of a block. -/
def blockSize : Nat := 64

/-- Takes in all blocks; `count` is their number. -/
def absorbAll : (count : Nat) → Words → List UInt8 → Words
  | 0, s, _ => s
  | count + 1, s, bytes => absorbAll count (absorb s (bytes.take blockSize)) (bytes.drop blockSize)

/-- A number in `width` bytes, the highest first. -/
def highFirst (width n : Nat) : List UInt8 :=
  ((List.range width).map fun i => (n / Nat.pow 256 i).toUInt8).reverse

/-- The message with a mark, zeros and its length in bits. -/
def padded (bytes : List UInt8) : List UInt8 :=
  let length := bytes.length
  bytes ++ 0x80 :: List.replicate ((119 - length % blockSize) % blockSize) 0 ++
    highFirst 8 (8 * length)

/-- The bytes of the words. -/
def Words.bytes (s : Words) : List UInt8 :=
  [s.a, s.b, s.c, s.d, s.e, s.f, s.g, s.h].flatMap fun w => highFirst 4 w.toNat

end Sha256

/-- The check of 256 bits. -/
def sha256 (bytes : List UInt8) : List UInt8 :=
  let message := Sha256.padded bytes
  (Sha256.absorbAll (message.length / Sha256.blockSize) .start message).bytes

end Abacus.Checksum

/-! ## The mixing check of 64 bits -/

namespace Abacus.Checksum.XxHash

/-- The first prime. -/
def prime1 : UInt64 := 0x9E3779B185EBCA87

/-- The second prime. -/
def prime2 : UInt64 := 0xC2B2AE3D27D4EB4F

/-- The third prime. -/
def prime3 : UInt64 := 0x165667B19E3779F9

/-- The fourth prime. -/
def prime4 : UInt64 := 0x85EBCA77C2B2AE63

/-- The fifth prime. -/
def prime5 : UInt64 := 0x27D4EB2F165667C5

/-- Turns a word to the left. -/
def turn (w n : UInt64) : UInt64 := (w <<< n) ||| (w >>> (64 - n))

/-- The word of the first `n` bytes, the lowest first. -/
def word (n : Nat) (bytes : List UInt8) : UInt64 := (Bytes.littleEndian (bytes.take n)).toUInt64

/-- A lane takes in a word. -/
def lane (l input : UInt64) : UInt64 := turn (l + input * prime2) 31 * prime1

/-- Four lanes. -/
structure Lanes where
  a : UInt64
  b : UInt64
  c : UInt64
  d : UInt64

/-- The lanes before any bytes. -/
def Lanes.start : Lanes := ⟨prime1 + prime2, prime2, 0, 0 - prime1⟩

/-- How many bytes the lanes take in at a time. -/
def stripe : Nat := 32

/-- Every lane takes in a word. -/
def Lanes.absorb (l : Lanes) (bytes : List UInt8) : Lanes :=
  ⟨lane l.a (word 8 bytes), lane l.b (word 8 (bytes.drop 8)), lane l.c (word 8 (bytes.drop 16)),
    lane l.d (word 8 (bytes.drop 24))⟩

/-- Takes in all whole stripes; `count` is their number. Gives the bytes that are left. -/
def absorbAll : (count : Nat) → Lanes → List UInt8 → Lanes × List UInt8
  | 0, l, bytes => (l, bytes)
  | count + 1, l, bytes => absorbAll count (l.absorb bytes) (bytes.drop stripe)

/-- Merges a lane into a check. -/
def merge (h l : UInt64) : UInt64 := (h ^^^ lane 0 l) * prime1 + prime4

/-- The check of the lanes. -/
def Lanes.check (l : Lanes) : UInt64 :=
  [l.a, l.b, l.c, l.d].foldl merge (turn l.a 1 + turn l.b 7 + turn l.c 12 + turn l.d 18)

/-- Mixes in the bytes that are left: in words of eight, then of four, then one by one;
    `fuel` is their number. -/
def mixRest : (fuel : Nat) → UInt64 → List UInt8 → UInt64
  | 0, h, _ => h
  | fuel + 1, h, bytes =>
    if 8 ≤ bytes.length then
      mixRest fuel (turn (h ^^^ lane 0 (word 8 bytes)) 27 * prime1 + prime4) (bytes.drop 8)
    else if 4 ≤ bytes.length then
      mixRest fuel (turn (h ^^^ (word 4 bytes * prime1)) 23 * prime2 + prime3) (bytes.drop 4)
    else
      match bytes with
      | [] => h
      | b :: rest => mixRest fuel (turn (h ^^^ (b.toUInt64 * prime5)) 11 * prime1) rest

/-- Lets every bit act on every other. -/
def spread (h : UInt64) : UInt64 :=
  let h := (h ^^^ (h >>> 33)) * prime2
  let h := (h ^^^ (h >>> 29)) * prime3
  h ^^^ (h >>> 32)

end XxHash

/-- The mixing check of bytes. -/
def xxHash64 (bytes : List UInt8) : Nat :=
  let count := bytes.length / XxHash.stripe
  let (lanes, rest) := XxHash.absorbAll count .start bytes
  let h := if count = 0 then XxHash.prime5 else lanes.check
  (XxHash.spread (XxHash.mixRest (rest.length + 1) (h + bytes.length.toUInt64) rest)).toNat

end Abacus.Checksum
