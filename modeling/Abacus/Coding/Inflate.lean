import Abacus.Bytes
import Abacus.Coding.Bits

/-!
# The deflate format

Data in blocks, which are stored as they are or written in prefix codes: a symbol
is a byte, the end of the block, or a length, after which a distance says what is
to be repeated. The codes are fixed or described at the head of the block. There are
two variants, which differ in how far back and how long a repetition can be.

* `Inflate.inflate`: what compressed bytes stand for, and how the reading ended.
-/

namespace Abacus.Coding.Inflate

/-- What is wrong with compressed data. -/
inductive Fault
  | blockType
  | storedLength
  | symbolCount
  | lengthsCode
  | lengthsRepeat
  | noBlockEnd
  | literalCode
  | distanceCode
  | literalSymbol
  | distanceSymbol
  | distance
deriving DecidableEq

/-- The words for a fault. -/
def Fault.reason : Fault → String
  | .blockType => "invalid block type"
  | .storedLength => "invalid stored block lengths"
  | .symbolCount => "too many length or distance symbols"
  | .lengthsCode => "invalid code lengths set"
  | .lengthsRepeat => "invalid bit length repeat"
  | .noBlockEnd => "invalid code -- missing end-of-block"
  | .literalCode => "invalid literal/lengths set"
  | .distanceCode => "invalid distances set"
  | .literalSymbol => "invalid literal/length code"
  | .distanceSymbol => "invalid distance code"
  | .distance => "invalid distance too far back"

/-- How a reading ended early: the data ran out, or they are at fault. -/
inductive Stop
  | starved
  | fault (f : Fault)
deriving DecidableEq

/-- The bits to come, and the bytes written so far. -/
structure State where
  bits : List Bool
  out : ByteArray

/-- A reader of compressed data. It keeps what it has written when it stops. -/
abbrev Reader := EStateM Stop State

/-! ## Small pieces -/

/-- Reads a number of `n` bits, the lowest first. -/
def number (n : Nat) : Reader Nat := do
  let s ← get
  let taken := s.bits.take n
  if taken.length < n then throw .starved
  set { s with bits := s.bits.drop n }
  return Bits.lowValue taken

/-- Reads a symbol of a code; `fault` is a word that the code does not have. -/
def symbol (code : PrefixCode) (fault : Fault) : Reader Nat := do
  let s ← get
  match code.read s.bits with
  | .symbol n rest => set { s with bits := rest }; return n
  | .unknown => throw (.fault fault)
  | .starved => throw .starved

/-- Passes over the bits that are left of a byte. -/
def align : Reader Unit :=
  modify fun s => { s with bits := s.bits.drop (s.bits.length % 8) }

/-- The code of given lengths; `empty` is what either bit stands for in a code without
    words. A code that is too full is at fault, and so is one that is not full, unless
    it has no word or `lone` allows a single one. -/
def codeOf (lengths : List Nat) (empty : PrefixCode) (lone : Bool) (fault : Fault) :
    Reader PrefixCode := do
  let weight := PrefixCode.weight lengths
  let longest := lengths.foldl max 0
  if longest = 0 then return .fork empty empty
  if PrefixCode.fullWeight < weight then throw (.fault fault)
  if weight < PrefixCode.fullWeight && !(lone && longest = 1) then throw (.fault fault)
  return .ofLengths lengths

/-! ## Blocks -/

/-- What the symbols for lengths and distances stand for: a range, of which extra bits
    choose a number. A block describes the distances of at most `mostDistances` symbols. -/
structure Variant where
  lengths : List (Nat × Nat)
  distances : List (Nat × Nat)
  mostDistances : Nat

/-- The lengths up to 257. -/
def lengthRanges : List (Nat × Nat) :=
  Bits.ranges 3 (List.replicate 8 0 ++
    [1, 1, 1, 1, 2, 2, 2, 2, 3, 3, 3, 3, 4, 4, 4, 4, 5, 5, 5, 5])

/-- The distances up to 32 KiB. -/
def distanceRanges : List (Nat × Nat) :=
  Bits.ranges 1 [0, 0, 0, 0, 1, 1, 2, 2, 3, 3, 4, 4, 5, 5, 6, 6, 7, 7, 8, 8, 9, 9, 10, 10, 11, 11,
    12, 12, 13, 13]

/-- Repetitions of up to 258 bytes, from up to 32 KiB. -/
def Variant.near : Variant := ⟨lengthRanges ++ [(258, 0)], distanceRanges, 30⟩

/-- Repetitions of up to 64 KiB, from up to 64 KiB. -/
def Variant.far : Variant :=
  ⟨lengthRanges ++ [(3, 16)], distanceRanges ++ Bits.ranges 49153 [14, 14], 32⟩

/-- Reads the value of a symbol from a table. -/
def tableValue (table : List (Nat × Nat)) (index : Nat) (fault : Fault) : Reader Nat := do
  match table[index]? with
  | none => throw (.fault fault)
  | some (base, extra) => return base + (← number extra)

/-- Repeats `len` bytes from a distance. -/
def copy (distance len : Nat) : Reader Unit := do
  if (← get).out.size < distance then throw (.fault .distance)
  modify fun s => { s with out := Bytes.repeatBack s.out distance len }

/-- Reads symbols up to the end of the block. Every symbol takes a bit, so `fuel`
    is the number of bits to come. -/
def symbols (v : Variant) (literals distances : PrefixCode) : (fuel : Nat) → Reader Unit
  | 0 => throw .starved
  | fuel + 1 => do
    let s ← symbol literals .literalSymbol
    if s < 256 then
      modify fun state => { state with out := state.out.push s.toUInt8 }
      symbols v literals distances fuel
    else if s = 256 then return
    else
      let len ← tableValue v.lengths (s - 257) .literalSymbol
      let distance ← tableValue v.distances (← symbol distances .distanceSymbol) .distanceSymbol
      copy distance len
      symbols v literals distances fuel

/-- Reads symbols in the given codes. -/
def compressed (v : Variant) (literals distances : PrefixCode) : Reader Unit := do
  symbols v literals distances ((← get).bits.length + 1)

/-- Reads a block that is stored as it is. -/
def stored : Reader Unit := do
  align
  let len ← number 16
  let complement ← number 16
  if len + complement ≠ 0xFFFF then throw (.fault .storedLength)
  for _ in [0:len] do
    let b ← number 8
    modify fun s => { s with out := s.out.push b.toUInt8 }

/-- The lengths of the fixed code for literals. -/
def fixedLengths : List Nat :=
  List.replicate 144 8 ++ List.replicate 112 9 ++ List.replicate 24 7 ++ List.replicate 8 8

/-- Reads a block in the fixed codes. -/
def fixed (v : Variant) : Reader Unit :=
  compressed v (.ofLengths fixedLengths) (.ofLengths (List.replicate 32 5))

/-- The order in which the lengths of the code for code lengths are given. -/
def lengthsOrder : List Nat :=
  [16, 17, 18, 0, 8, 7, 9, 6, 10, 5, 11, 4, 12, 3, 13, 2, 14, 1, 15]

/-- Reads `wanted` code lengths, some of them repeated. -/
def codeLengths (code : PrefixCode) (wanted : Nat) :
    (fuel : Nat) → Array Nat → Reader (List Nat)
  | 0, known => return known.toList
  | fuel + 1, known => do
    if wanted ≤ known.size then return known.toList
    let s ← symbol code .lengthsCode
    if s < 16 then codeLengths code wanted fuel (known.push s)
    else
      let value := if s = 16 then known.back?.getD 0 else 0
      let count ←
        if s = 16 then (3 + ·) <$> number 2
        else if s = 17 then (3 + ·) <$> number 3
        else (11 + ·) <$> number 7
      if s = 16 ∧ known.size = 0 then throw (.fault .lengthsRepeat)
      if wanted < known.size + count then throw (.fault .lengthsRepeat)
      codeLengths code wanted fuel (known ++ Array.replicate count value)

/-- Reads a block that begins with its codes. -/
def described (v : Variant) : Reader Unit := do
  let literalCount := 257 + (← number 5)
  let distanceCount := 1 + (← number 5)
  let lengthCount := 4 + (← number 4)
  if 286 < literalCount ∨ v.mostDistances < distanceCount then throw (.fault .symbolCount)
  let mut given : Array Nat := Array.replicate 19 0
  for index in lengthsOrder.take lengthCount do
    given := given.setIfInBounds index (← number 3)
  let code ← codeOf given.toList (.leaf 0) false .lengthsCode
  let wanted := literalCount + distanceCount
  let lengths ← codeLengths code wanted wanted #[]
  if lengths[256]? = some 0 then throw (.fault .noBlockEnd)
  let literals ← codeOf (lengths.take literalCount) .unused true .literalCode
  let distances ← codeOf (lengths.drop literalCount) .unused true .distanceCode
  compressed v literals distances

/-- Reads blocks up to the last one. Every block takes three bits or more, so
    `fuel` is the number of bits to come. -/
def blocks (v : Variant) : (fuel : Nat) → Reader Unit
  | 0 => throw .starved
  | fuel + 1 => do
    let last ← number 1
    match ← number 2 with
    | 0 => stored
    | 1 => fixed v
    | 2 => described v
    | _ => throw (.fault .blockType)
    if last = 1 then return
    blocks v fuel

/-- The bytes that compressed bytes stand for, and why the reading stopped if it
    did not come to the end of the last block. -/
def inflate (v : Variant) (input : List UInt8) : ByteArray × Option Stop :=
  let bits := Bits.lowFirst input
  match (blocks v (bits.length + 1)).run ⟨bits, .empty⟩ with
  | .ok _ s => (s.out, none)
  | .error stop s => (s.out, some stop)

end Abacus.Coding.Inflate
