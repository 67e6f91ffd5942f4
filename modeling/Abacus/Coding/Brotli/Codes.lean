import Abacus.Coding.Bits

/-!
# Codes in Brotli data

Numbers, prefix codes and what they are chosen by. A code is given by a few symbols, or
by the lengths of all words, which are in a code of their own. The symbols of a kind
come in blocks of some type, and the code of a symbol depends on the type of its block.

* `Codes.readCode`: reads a prefix code.
* `Codes.readMap`: reads which code is used where.
* `Blocks.read`: the type of the block in which the next symbol stands.
-/

namespace Abacus.Coding.Brotli

/-- Why a decoder stops: the input ran out, or it makes no sense. -/
inductive Stop
  | starved
  | corrupt
deriving DecidableEq

/-- A decoder: its place in the bits of the input, and the output so far. -/
structure State where
  input : ByteArray
  place : Nat
  out : ByteArray

/-- A decoder of packed data. It keeps what it has written when it stops. -/
abbrev Decoder := EStateM Stop State

namespace Codes

/-! ## Numbers -/

/-- Reads a number of `n` bits. -/
def number (n : Nat) : Decoder Nat := do
  let s ← get
  if 8 * s.input.size < s.place + n then throw .starved
  set { s with place := s.place + n }
  return Bits.numberAt s.input s.place n

/-- Reads a bit. -/
def bit : Decoder Bool := do return (← number 1) = 1

/-- Refuses the data unless a condition holds. -/
def require (condition : Bool) : Decoder Unit := do
  if !condition then throw .corrupt

/-- Passes over the bits that are left of a byte. They must be zeros. -/
def align : Decoder Unit := do
  let n ← number ((8 - (← get).place % 8) % 8)
  require (n = 0)

/-- Reads a symbol of a code. -/
def symbol : PrefixCode → Decoder Nat
  | .leaf s => return s
  | .unused => throw .corrupt
  | .fork zero one => do if ← bit then symbol one else symbol zero

/-- Reads a number in one of some ranges. -/
def inRange (ranges : List (Nat × Nat)) (index : Nat) : Decoder Nat := do
  let (base, extra) := (ranges[index]?).getD (0, 0)
  return base + (← number extra)

/-- Reads a number from 1 to 256. -/
def count : Decoder Nat := do
  if ← bit then
    let width ← number 3
    return Nat.pow 2 width + (← number width) + 1
  else return 1

/-! ## Prefix codes -/

/-- The code in which some symbols have words of given lengths. -/
def codeOf (size : Nat) (words : List (Nat × Nat)) : PrefixCode :=
  .ofLengths (words.foldl (fun lengths (symbol, length) => lengths.setIfInBounds symbol length)
    (Array.replicate size 0)).toList

/-- Reads one of `size` symbols as it is. -/
def plainSymbol (size : Nat) : Decoder Nat := do
  let s ← number ((size - 1).log2 + 1)
  require (s < size)
  return s

/-- Reads a code of up to four symbols out of `size`. -/
def readFew (size : Nat) : Decoder PrefixCode := do
  let last ← number 2
  let symbols ← (List.replicate (last + 1) size).mapM plainSymbol
  require (symbols.eraseDups.length = symbols.length)
  match symbols with
  | [a] => return .leaf a
  | [a, b] => return codeOf size [(a, 1), (b, 1)]
  | [a, b, c] => return codeOf size [(a, 1), (b, 2), (c, 2)]
  | symbols =>
    let lengths := if ← bit then [1, 2, 3, 3] else [2, 2, 2, 2]
    return codeOf size (symbols.zip lengths)

/-- The order in which the lengths of the code for lengths are given. -/
def lengthsOrder : List Nat := [1, 2, 3, 4, 0, 5, 17, 6, 16, 7, 8, 9, 10, 11, 12, 13, 14, 15]

/-- The code of the lengths of the code for lengths. -/
def lengthsCode : PrefixCode :=
  .fork (.fork (.leaf 0) (.leaf 3)) (.fork (.leaf 4) (.fork (.leaf 2) (.fork (.leaf 1) (.leaf 5))))

/-- The share of all bit sequences that a word of a given length begins, in parts of
    `whole`. -/
def share (whole length : Nat) : Nat := if length = 0 then 0 else whole / Nat.pow 2 length

/-- Reads the lengths of the code for lengths, until they fill the code. -/
def readLengthsFrom : (order : List Nat) → (left : Nat) → List (Nat × Nat) →
    Decoder (List (Nat × Nat) × Nat)
  | [], left, known => return (known, left)
  | s :: order, left, known => do
    if left = 0 then return (known, left)
    let length ← symbol lengthsCode
    readLengthsFrom order (left - share 32 length) (known ++ [(s, length)])

/-- Reads the code for lengths, of which the first `skipped` are left out. It is full, or
    it has a single symbol. -/
def readLengthsCode (skipped : Nat) : Decoder PrefixCode := do
  let (words, _) ← readLengthsFrom (lengthsOrder.drop skipped) 32 []
  let used := words.filter (·.2 ≠ 0)
  let sum := used.foldr (fun word n => share 32 word.2 + n) 0
  match used with
  | [(s, _)] => return .leaf s
  | used =>
    require (sum = 32)
    return codeOf 18 used

/-- What was read of the lengths of a code: the lengths, what they leave of the code, the
    last one that is not zero, and how often the last one was just repeated, if it was. -/
structure Lengths where
  known : Array Nat
  left : Int
  last : Nat
  repeated : Nat
  isZero : Bool

/-- The share of all bit sequences, in parts of a word of the greatest length. -/
def whole : Nat := 0x8000

/-- Takes in a length, or a repetition. A repetition right after another one makes that
    one longer. -/
def Lengths.absorb (l : Lengths) (size s : Nat) : Decoder Lengths := do
  if s < 16 then
    let left := l.left - share whole s
    return { l with
      known := l.known.push s, left, repeated := 0, last := if s = 0 then l.last else s }
  else
    let isZero : Bool := s = 17
    let width := if isZero then 3 else 2
    let before := if isZero = l.isZero then l.repeated else 0
    let repeated := (before - 2) * Nat.pow 2 width + (← number width) + 3
    let times := repeated - before
    require (l.known.size + times ≤ size)
    let length := if isZero then 0 else l.last
    return { l with
      known := l.known ++ Array.replicate times length
      left := l.left - times * share whole length
      repeated, isZero }

/-- Reads lengths until they fill the code or there are `size` of them. Each step gives
    a length or more, so `fuel` is their number. -/
def readLengths (code : PrefixCode) (size : Nat) : (fuel : Nat) → Lengths → Decoder Lengths
  | 0, l => return l
  | fuel + 1, l => do
    if size ≤ l.known.size || l.left = 0 then return l
    readLengths code size fuel (← l.absorb size (← symbol code))

/-- The length before the first one. -/
def firstLength : Nat := 8

/-- Reads a prefix code for `size` symbols. -/
def readCode (size : Nat) : Decoder PrefixCode := do
  let skipped ← number 2
  if skipped = 1 then readFew size
  else
    let code ← readLengthsCode skipped
    let l ← readLengths code size size ⟨#[], whole, firstLength, 0, false⟩
    require (l.left = 0)
    return .ofLengths l.known.toList

/-! ## Which code is used -/

/-- Reads `size` numbers of codes. Symbols up to `runs` are runs of zeros. Each step gives
    a number or more, so `fuel` is their number. -/
def readNumbers (code : PrefixCode) (runs size : Nat) :
    (fuel : Nat) → Array Nat → Decoder (Array Nat)
  | 0, known => return known
  | fuel + 1, known => do
    if size ≤ known.size then return known
    let s ← symbol code
    if s = 0 then readNumbers code runs size fuel (known.push 0)
    else if s ≤ runs then
      let times := Nat.pow 2 s + (← number s)
      require (known.size + times ≤ size)
      readNumbers code runs size fuel (known ++ Array.replicate times 0)
    else readNumbers code runs size fuel (known.push (s - runs))

/-- Numbers that are given by how long ago they were last used. -/
def recalled : (recent : List Nat) → List Nat → List Nat
  | _, [] => []
  | recent, index :: rest =>
    let n := (recent[index]?).getD 0
    n :: recalled (n :: recent.eraseIdx index) rest

/-- Reads which of how many codes is used at each of `size` places. -/
def readMap (size : Nat) : Decoder (Nat × Array Nat) := do
  let codes ← count
  if codes = 1 then return (1, Array.replicate size 0)
  let runs ← if ← bit then (· + 1) <$> number 4 else pure 0
  let code ← readCode (codes + runs)
  let numbers ← readNumbers code runs size size #[]
  if ← bit then return (codes, (recalled (List.range 256) numbers.toList).toArray)
  else return (codes, numbers)

end Codes

/-! ## Blocks -/

/-- The blocks of symbols of some kind: the codes for types and lengths, the number of
    types, the type of this block and of the one before, and how many symbols are left. -/
structure Blocks where
  types : Nat
  typeCode : PrefixCode
  lengthCode : PrefixCode
  type : Nat
  before : Nat
  left : Nat

namespace Blocks

/-- Lengths of blocks. -/
def lengthRanges : List (Nat × Nat) :=
  Bits.ranges 1 [2, 2, 2, 2, 3, 3, 3, 3, 4, 4, 4, 4, 5, 5, 5, 5, 6, 6, 7, 8, 9, 10, 11, 12, 13, 24]

/-- The length of the block when there is only one. -/
def longest : Nat := 0x1000000

/-- Reads what is told of blocks. -/
def read : Decoder Blocks := do
  let types ← Codes.count
  if types = 1 then return ⟨1, .unused, .unused, 0, 1, longest⟩
  let typeCode ← Codes.readCode (types + 2)
  let lengthCode ← Codes.readCode lengthRanges.length
  let left ← Codes.inRange lengthRanges (← Codes.symbol lengthCode)
  return ⟨types, typeCode, lengthCode, 0, 1, left⟩

/-- Begins a block when the one before is used up, and takes one symbol of it. The type
    is the one before, the next one, or any. -/
def take (b : Blocks) : Decoder Blocks := do
  if b.left ≠ 0 || b.types = 1 then return { b with left := b.left - 1 }
  let type := match ← Codes.symbol b.typeCode with
    | 0 => b.before
    | 1 => b.type + 1
    | n + 2 => n
  let left ← Codes.inRange lengthRanges (← Codes.symbol b.lengthCode)
  return { b with
    type := if b.types ≤ type then type - b.types else type, before := b.type, left := left - 1 }

end Blocks

end Abacus.Coding.Brotli
