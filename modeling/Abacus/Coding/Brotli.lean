import Abacus.Coding.Brotli.Command
import Abacus.Coding.Brotli.Words

/-!
# The Brotli format

Data in blocks, which are stored as they are or written in prefix codes: a command says
how many bytes follow and how many are repeated, from some distance. A distance that
reaches before the start stands for a word that is known beforehand, in some form.

* `Brotli.decode`: what packed bytes stand for.
-/

namespace Abacus.Coding.Brotli

open Codes

/-! ## Blocks in prefix codes -/

/-- Codes, one of which is chosen by a type and a context. -/
structure Choice where
  contexts : Nat
  map : Array Nat
  codes : Array PrefixCode

/-- The code for a type and a context. -/
def Choice.code (c : Choice) (type context : Nat) : PrefixCode :=
  (c.codes[(c.map[type * c.contexts + context]?).getD 0]?).getD .unused

/-- Reads `n` codes for `size` symbols. -/
def readCodes (n size : Nat) : Decoder (Array PrefixCode) := do
  return (← (List.replicate n size).mapM readCode).toArray

/-- What is read in a block, and how far: the codes, the blocks of symbols, the last
    distances, and how many bytes are left. -/
structure Reading where
  modes : Array Mode
  split : Split
  literalChoice : Choice
  commandCodes : Array PrefixCode
  distanceChoice : Choice
  literals : Blocks
  commands : Blocks
  distances : Blocks
  recent : Recent
  left : Int

/-- Reads what is told at the head of a block that stands for `size` bytes. -/
def Reading.start (recent : Recent) (size : Nat) : Decoder Reading := do
  let literals ← Blocks.read
  let commands ← Blocks.read
  let distances ← Blocks.read
  let lowBits ← number 2
  let split : Split := ⟨lowBits, (← number 4) * Nat.pow 2 lowBits⟩
  let modes ← (List.replicate literals.types 2).mapM number
  let (literalCount, literalMap) ← readMap (literals.types * contexts)
  let (distanceCount, distanceMap) ← readMap (distances.types * distanceContexts)
  let literalCodes ← readCodes literalCount 256
  let commandCodes ← readCodes commands.types Brotli.commands
  let distanceCodes ← readCodes distanceCount split.size
  return { modes := (modes.map Mode.ofNat).toArray, split
           literalChoice := ⟨contexts, literalMap, literalCodes⟩, commandCodes
           distanceChoice := ⟨distanceContexts, distanceMap, distanceCodes⟩
           literals, commands, distances, recent, left := size }

/-- The byte that was written some distance ago, or zero. -/
def byteBack (out : ByteArray) (distance : Nat) : Nat :=
  if out.size < distance then 0 else ((out[out.size - distance]?).getD 0).toNat

/-- Reads `n` bytes in their contexts. -/
def readLiterals : (n : Nat) → Reading → Decoder Reading
  | 0, r => return r
  | n + 1, r => do
    let literals ← r.literals.take
    let out := (← get).out
    let mode := (r.modes[literals.type]?).getD .low
    let context := mode.context (byteBack out 1) (byteBack out 2)
    let b ← symbol (r.literalChoice.code literals.type context)
    modify fun s => { s with out := s.out.push b.toUInt8 }
    readLiterals n { r with literals, left := r.left - 1 }

/-- Reads a distance after a command; without one the last distance is used. -/
def readDistance (r : Reading) (isSame : Bool) (copied : Nat) : Decoder (Nat × Bool × Reading) := do
  if isSame then return (r.recent.headD 0, true, r)
  let distances ← r.distances.take
  let symbol ← symbol (r.distanceChoice.code distances.type (distanceContext copied))
  return (← r.split.distance r.recent symbol, symbol = 0, { r with distances })

/-- A distance up to this is too short for a word that has no bytes. -/
def leastEmpty : Nat := 120

/-- The word that stands so far before the start. -/
def word (distance most length : Nat) : Decoder (List UInt8) := do
  let index := distance - most - 1
  let count := Words.count length
  let form := Form.all[index / count]?
  match form, Words.word? length (index % count) with
  | some form, some word =>
    let bytes := form.apply word
    require (!bytes.isEmpty || leastEmpty < distance)
    return bytes
  | _, _ => throw .corrupt

/-- Repeats bytes from some distance. -/
def repeatFrom (window distance : Nat) (isLast : Bool) (copied : Nat) (r : Reading) :
    Decoder Reading := do
  let out := (← get).out
  let most := min out.size window
  if distance ≤ most then
    modify fun s => { s with out := Bytes.repeatBack s.out distance copied }
    let recent := if isLast then r.recent else distance :: r.recent.take 3
    return { r with recent, left := r.left - copied }
  else
    let bytes ← word distance most copied
    modify fun s => { s with out := bytes.foldl ByteArray.push s.out }
    return { r with left := r.left - bytes.length }

/-- Follows commands up to the end of a block. Each takes a bit or writes a byte, so
    `fuel` is the number of both. -/
def followCommands (window : Nat) : (fuel : Nat) → Reading → Decoder Reading
  | 0, _ => throw .starved
  | fuel + 1, r => do
    let commands ← r.commands.take
    let command ← symbol ((r.commandCodes[commands.type]?).getD .unused)
    let (inserted, copied) ← commandNumbers command
    require (inserted ≤ r.left)
    let r ← readLiterals inserted { r with commands }
    if r.left = 0 then return r
    let (distance, isLast, r) ← readDistance r (command < sameDistance) copied
    let r ← repeatFrom window distance isLast copied r
    require (0 ≤ r.left)
    if r.left = 0 then return r
    followCommands window fuel r

/-- Reads a block in prefix codes that stands for `size` bytes. -/
def readCoded (window size : Nat) (recent : Recent) : Decoder Recent := do
  let r ← Reading.start recent size
  let fuel := 8 * (← get).input.size + size + 1
  return (← followCommands window fuel r).recent

/-! ## Streams -/

/-- Reads a block that is stored as it is. -/
def readStored (size : Nat) : Decoder Unit := do
  align
  let s ← get
  let place := s.place / 8
  let last := min s.input.size (place + size)
  set { s with place := 8 * last, out := s.out ++ s.input.extract place last }
  if last < place + size then throw .starved

/-- Passes over data that stand for nothing. -/
def skip : Decoder Unit := do
  require (!(← bit))
  let width ← number 2
  let size ← number (8 * width)
  require (width < 2 || Nat.pow 256 (width - 1) ≤ size)
  align
  let s ← get
  let place := s.place + (if width = 0 then 0 else 8 * (size + 1))
  if 8 * s.input.size < place then throw .starved
  set { s with place }

/-- Reads blocks up to the last one. Each takes a bit, so `fuel` is their number. -/
def readBlocks (window : Nat) : (fuel : Nat) → Recent → Decoder Unit
  | 0, _ => throw .starved
  | fuel + 1, recent => do
    let isLast ← bit
    let isEmpty ← if isLast then bit else pure false
    if isEmpty then return
    let width ← number 2
    let recent ←
      if width = 3 then do
        skip
        pure recent
      else do
        let size ← number (16 + 4 * width)
        require (width = 0 || Nat.pow 16 (width + 3) ≤ size)
        let isStored ← if isLast then pure false else bit
        if isStored then do
          readStored (size + 1)
          pure recent
        else readCoded window (size + 1) recent
    if isLast then return
    readBlocks window fuel recent

/-- Reads the size of the window. -/
def readWindow : Decoder Nat := do
  let log ←
    if ← bit then do
      let n ← number 3
      if n ≠ 0 then pure (17 + n)
      else do
        let n ← number 3
        require (n ≠ 1)
        pure (if n = 0 then 17 else 8 + n)
    else pure 16
  return Nat.pow 2 log - 16

/-- Reads a stream, which must be all there is. -/
def readStream : Decoder Unit := do
  let window ← readWindow
  readBlocks window (8 * (← get).input.size + 1) Recent.start
  align
  let s ← get
  require (s.place = 8 * s.input.size)

/-- The bytes that packed bytes stand for, and why the reading stopped if it did not come
    to the end of the stream. -/
def decode (input : ByteArray) : ByteArray × Option Stop :=
  match readStream.run ⟨input, 0, .empty⟩ with
  | .ok _ s => (s.out, none)
  | .error stop s => (s.out, some stop)

end Abacus.Coding.Brotli
