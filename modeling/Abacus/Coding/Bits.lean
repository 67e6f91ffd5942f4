import Abacus.Bytes

/-!
# Bits

Compressed data as a sequence of bits. A format reads each byte either from its
lowest bit up or from its highest bit down. Some pieces of data are read from their
end to their start; above the first bit to be read stands a mark.

* `Bits.lowFirst`, `Bits.highFirst`: the bits of bytes.
* `Bits.numberAt`: the number in some bits, the lowest first.
* `Bits.ranges`: what symbols stand for that extra bits follow.
* `PrefixCode.ofLengths`: the canonical code in which symbols have given lengths.
* `Backward.ofMarked?`: the bits of a piece that is read backward.
* `Backward.read`: reads bits; before the start there are zeros.
-/

namespace Abacus.Coding

namespace Bits

/-- The bits of bytes, the lowest bit of each byte first. -/
def lowFirst (bytes : List UInt8) : List Bool :=
  bytes.flatMap fun b => (List.range 8).map b.toNat.testBit

/-- The bits of bytes, the highest bit of each byte first. -/
def highFirst (bytes : List UInt8) : List Bool :=
  bytes.flatMap fun b => ((List.range 8).map b.toNat.testBit).reverse

/-- The number that bits stand for, the lowest bit first. -/
def lowValue : List Bool → Nat
  | [] => 0
  | b :: rest => b.toNat + 2 * lowValue rest

/-- The number that bits stand for, the highest bit first. -/
def highValue (bits : List Bool) : Nat := bits.foldl (fun n b => 2 * n + b.toNat) 0

/-- The number in `n` bits from some place on, the lowest bit first. -/
def numberAt (bytes : ByteArray) (place n : Nat) : Nat :=
  Bytes.number bytes (place / 8) 8 / Nat.pow 2 (place % 8) % Nat.pow 2 n

/-- Ranges of numbers, one after another: each has a first number, and as many numbers as
    its extra bits tell apart. -/
def ranges (first : Nat) (extras : List Nat) : List (Nat × Nat) :=
  match extras with
  | [] => []
  | extra :: rest => (first, extra) :: ranges (first + Nat.pow 2 extra) rest

/-- The bits that stand for a number, the highest bit first. -/
def ofNat (width n : Nat) : List Bool := ((List.range width).map n.testBit).reverse

end Bits

/-- A code in which no code word begins another: a tree of which each bit chooses
    a branch, until a leaf gives the symbol. -/
inductive PrefixCode
  | unused
  | leaf (symbol : Nat)
  | fork (zero one : PrefixCode)
deriving Inhabited

namespace PrefixCode

/-- The two branches of a code; a leaf gives way to them. -/
def branches : PrefixCode → PrefixCode × PrefixCode
  | .fork zero one => (zero, one)
  | _ => (.unused, .unused)

/-- Gives a symbol the code word `word`. -/
def insert (symbol : Nat) : List Bool → PrefixCode → PrefixCode
  | [], _ => .leaf symbol
  | b :: word, code =>
    let (zero, one) := code.branches
    if b then .fork zero (insert symbol word one) else .fork (insert symbol word zero) one

/-- The longest code word of all formats. -/
def longest : Nat := 20

/-- The canonical code: shorter words come before longer ones, words of one length
    are in the order of the symbols. A symbol of length zero has no word. -/
def ofLengths (lengths : List Nat) : PrefixCode :=
  let step (state : PrefixCode × Nat) (len : Nat) : PrefixCode × Nat :=
    (lengths.zipIdx.filter (·.1 = len)).foldl
      (fun (code, next) (_, symbol) => (code.insert symbol (Bits.ofNat len next), next + 1))
      (state.1, 2 * state.2)
  ((List.range' 1 longest).foldl step (.unused, 0)).1

/-- The share of all bit sequences that words of these lengths begin, in units of
    one word of length `longest`. -/
def weight (lengths : List Nat) : Nat :=
  (lengths.filter (0 < ·)).foldr (fun len rest => Nat.pow 2 (longest - len) + rest) 0

/-- The share of all bit sequences. -/
def fullWeight : Nat := Nat.pow 2 longest

/-- What the next bits are in a code. -/
inductive Reading
  | symbol (s : Nat) (rest : List Bool)
  | unknown
  | starved

/-- Reads one symbol. -/
def read : PrefixCode → List Bool → Reading
  | .leaf s, bits => .symbol s bits
  | .unused, _ => .unknown
  | .fork _ _, [] => .starved
  | .fork zero one, b :: rest => if b then read one rest else read zero rest

end PrefixCode

/-! ## Bits read backward -/

/-- Bits that are read backward. How many are left is negative when more were read than
    there are. -/
structure Backward where
  bytes : ByteArray
  left : Int

namespace Backward

/-- The bits of a piece: the highest bit of the last byte is the mark. -/
def ofMarked? (bytes : ByteArray) : Option Backward :=
  match bytes[bytes.size - 1]? with
  | none => none
  | some b => if b = 0 then none else some ⟨bytes, 8 * (bytes.size - 1 : Nat) + b.toNat.log2⟩

/-- The number in the next `n` bits. -/
def peek (b : Backward) (n : Nat) : Nat :=
  let left := b.left.toNat
  if n ≤ left then Bits.numberAt b.bytes (left - n) n
  else Bits.numberAt b.bytes 0 left * Nat.pow 2 (n - left)

/-- Passes over `n` bits. -/
def drop (b : Backward) (n : Nat) : Backward := { b with left := b.left - n }

/-- Reads `n` bits. -/
def read (b : Backward) (n : Nat) : Nat × Backward := (b.peek n, b.drop n)

/-- Were more bits read than there are? -/
def isOver (b : Backward) : Bool := b.left < 0

/-- Are all bits read? -/
def isEmpty (b : Backward) : Bool := b.left = 0

end Backward

end Abacus.Coding
