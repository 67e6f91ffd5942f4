import Abacus.Coding.Zstandard.Literals

/-!
# Sequences

After its literals a block has sequences: each copies some literals, and then repeats
earlier output, given by its length and distance. One of the last three distances may
be used again. The three numbers are read from three tables of states.

* `Sequences.read`: undoes the sequences of a block.
-/

namespace Abacus.Coding.Zstandard

/-- The last three distances, the latest first. -/
structure Distances where
  first : Nat
  second : Nat
  third : Nat

/-- The distances before the first block. -/
def Distances.start : Distances := ⟨1, 4, 8⟩

/-- The tables of the three numbers. -/
structure Tables where
  literals : States
  distances : States
  lengths : States

/-- What a block leaves to the next one. -/
structure Memory where
  code : Option Code
  tables : Option Tables
  distances : Distances

namespace Sequences

/-! ## Numbers -/

/-- Numbers of literals. -/
def literalRanges : List (Nat × Nat) :=
  Bits.ranges 0 (List.replicate 16 0 ++
    [1, 1, 1, 1, 2, 2, 3, 3, 4, 6, 7, 8, 9, 10, 11, 12, 13, 14, 15, 16])

/-- Lengths of repetitions. -/
def lengthRanges : List (Nat × Nat) :=
  Bits.ranges 3 (List.replicate 32 0 ++
    [1, 1, 1, 1, 2, 2, 3, 3, 4, 4, 5, 7, 8, 9, 10, 11, 12, 13, 14, 15, 16])

/-- The number of symbols for distances. -/
def distanceSymbols : Nat := 32

/-- The shares of numbers of literals that are used when none are given. -/
def literalShares : List Int :=
  [4, 3, 2, 2, 2, 2, 2, 2, 2, 2, 2, 2, 2, 1, 1, 1, 2, 2, 2, 2, 2, 2, 2, 2, 2, 3, 2, 1, 1, 1, 1, 1,
   -1, -1, -1, -1]

/-- The shares of lengths that are used when none are given. -/
def lengthShares : List Int :=
  [1, 4, 3, 2, 2, 2, 2, 2, 2, 1, 1, 1, 1, 1, 1, 1, 1, 1, 1, 1, 1, 1, 1, 1, 1, 1, 1, 1, 1, 1, 1, 1,
   1, 1, 1, 1, 1, 1, 1, 1, 1, 1, 1, 1, 1, 1, -1, -1, -1, -1, -1, -1, -1]

/-- The shares of distances that are used when none are given. -/
def distanceShares : List Int :=
  [1, 1, 1, 1, 1, 1, 2, 2, 2, 1, 1, 1, 1, 1, 1, 1, 1, 1, 1, 1, 1, 1, 1, 1, -1, -1, -1, -1, -1]

/-- The tables that are used when none are given. -/
def Tables.usual : Tables :=
  ⟨.ofShares 6 literalShares, .ofShares 5 distanceShares, .ofShares 6 lengthShares⟩

/-- Reads the extra bits of a symbol. -/
def number (ranges : List (Nat × Nat)) (symbol : Nat) (bits : Backward) : Nat × Backward :=
  let (base, extra) := (ranges[symbol]?).getD (0, 0)
  let (n, bits) := bits.read extra
  (base + n, bits)

/-! ## Distances -/

/-- Uses one of the last distances again: the first, the second, the third, or one less
    than the first. -/
def again (d : Distances) (index : Nat) : Nat × Distances :=
  match index with
  | 0 => (d.first, d)
  | 1 => (d.second, ⟨d.second, d.first, d.third⟩)
  | 2 => (d.third, ⟨d.third, d.first, d.second⟩)
  | _ => (d.first - 1, ⟨d.first - 1, d.first, d.second⟩)

/-- Reads a distance. When there are no literals the first of the last distances is left
    out, since it would only go on with the repetition before. -/
def distance (d : Distances) (noLiterals : Bool) (symbol : Nat) (bits : Backward) :
    Nat × Distances × Backward :=
  let (extra, bits) := bits.read symbol
  let n := Nat.pow 2 symbol + extra
  if 3 < n then (n - 3, ⟨n - 3, d.first, d.second⟩, bits)
  else
    let (n, d) := again d (n - 1 + noLiterals.toNat)
    (n, d, bits)

/-! ## Sequences -/

/-- How far the sequences of a block are undone. -/
structure State where
  bits : Backward
  literal : Nat
  length : Nat
  distance : Nat
  distances : Distances
  place : Nat
  out : ByteArray

/-- Goes on to the next states. -/
def State.advance (t : Tables) (s : State) : State :=
  let (literal, bits) := t.literals.next s.literal s.bits
  let (length, bits) := t.lengths.next s.length bits
  let (distance, bits) := t.distances.next s.distance bits
  { s with bits, literal, length, distance }

/-- Undoes one sequence. Of the output at most `room` bytes are kept back. -/
def step (t : Tables) (literals : ByteArray) (first : Nat) (s : State) : Except Fault State := do
  let symbol := (t.literals.cell s.literal).symbol
  let (distance, distances, bits) :=
    Sequences.distance s.distances (symbol = 0) (t.distances.cell s.distance).symbol s.bits
  let (length, bits) := number lengthRanges (t.lengths.cell s.length).symbol bits
  let (count, bits) := number literalRanges symbol bits
  let place := s.place + count
  let out := s.out ++ literals.extract s.place place
  let isFar := distance = 0 || out.size - first < distance
  Literals.require (place ≤ literals.size && !isFar && !bits.isOver) .corrupt
  return { s with bits, distances, place, out := Bytes.repeatBack out distance length }

/-- Undoes `n` sequences. -/
def steps (t : Tables) (literals : ByteArray) (first limit : Nat) :
    (n : Nat) → State → Except Fault State
  | 0, s => .ok s
  | n + 1, s => do
    let s ← step t literals first s
    Literals.require (s.out.size ≤ limit) .corrupt
    if n = 0 then return s
    steps t literals first limit n (s.advance t)

/-! ## The header -/

/-- Reads a table of some kind: the usual one, that of a single symbol, one that is given,
    or that of the block before. -/
def readTable (block : ByteArray) (place kind most mostLog : Nat) (usual : States)
    (before : Option States) : Except Fault (Nat × States) :=
  Literals.get <| match kind with
    | 0 => some (place, usual)
    | 1 => do
      let b ← block[place]?
      if most ≤ b.toNat then none else some (place + 1, .single b.toNat)
    | 2 => States.read? block place most mostLog
    | _ => before.map (place, ·)

/-- Reads the tables of a block. -/
def readTables (block : ByteArray) (place : Nat) (before : Option Tables) :
    Except Fault (Nat × Tables) := do
  let kinds ← match block[place]? with
    | some b => .ok b.toNat
    | none => .error .size
  Literals.require (kinds % 4 = 0) .corrupt
  let (place, literals) ← readTable block (place + 1) (kinds / 64) literalRanges.length 9
    Tables.usual.literals (before.map Tables.literals)
  let (place, distances) ← readTable block place (kinds / 16 % 4) distanceSymbols 8
    Tables.usual.distances (before.map Tables.distances)
  let (place, lengths) ← readTable block place (kinds / 4 % 4) lengthRanges.length 9
    Tables.usual.lengths (before.map Tables.lengths)
  return (place, ⟨literals, distances, lengths⟩)

/-- Reads the number of sequences. -/
def readCount (block : ByteArray) (place : Nat) : Except Fault (Nat × Nat) := do
  let first := Bytes.number block place 1
  let width := if first < 0x80 then 1 else if first < 0xFF then 2 else 3
  Literals.require (place + width ≤ block.size) .size
  let count :=
    if first < 0x80 then first
    else if first < 0xFF then (first - 0x80) * 0x100 + Bytes.number block (place + 1) 1
    else Bytes.number block (place + 1) 2 + 0x7F00
  return (place + width, count)

/-- Undoes the sequences of a block from some place on. The frame begins at `first` in
    the output, which grows to `limit` at most. -/
def read (block : ByteArray) (place : Nat) (literals : ByteArray) (first limit : Nat)
    (m : Memory) (out : ByteArray) : Except Fault (Memory × ByteArray) := do
  let (place, count) ← readCount block place
  if count = 0 then
    Literals.require (place = block.size) .corrupt
    return (m, out ++ literals)
  let (place, t) ← readTables block place m.tables
  let bits ← Literals.get (Backward.ofMarked? (block.extract place block.size))
  let (literal, bits) := t.literals.start bits
  let (distance, bits) := t.distances.start bits
  let (length, bits) := t.lengths.start bits
  let s ← steps t literals first limit count ⟨bits, literal, length, distance, m.distances, 0, out⟩
  Literals.require s.bits.isEmpty .corrupt
  return ({ m with tables := some t, distances := s.distances },
    s.out ++ literals.extract s.place literals.size)

end Sequences

end Abacus.Coding.Zstandard
