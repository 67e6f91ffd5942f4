import Abacus.Coding.Trace

/-!
# LZMA

A stream of symbols: a byte, or a piece of earlier output given by its length and
distance, where one of the last four distances may be used again. Each symbol is
spelled in bits, each bit is coded by the share that it takes of a range, and the
chance of a bit is learnt from the bits that came in the same place before.

A stream may also be cut into chunks. A control byte before each chunk tells whether its
bytes are stored or coded, and whether the dictionary, the properties or all that was
learnt start afresh. A zero ends the stream.

* `Lzma.symbol`: reads a symbol from the decoder's state.
* `Lzma.trace`: what a decoder does on a stream that stands alone.
* `Lzma.Chunks.trace`: what a decoder does on a stream in chunks.
-/

namespace Abacus.Coding.Lzma

/-! ## Parameters and state -/

/-- How many bits of context are used: of the byte before a literal, of the
    position for literals, and of the position for the other symbols. -/
structure Properties where
  literalContext : Nat
  literalPosition : Nat
  position : Nat
deriving DecidableEq

/-- The most bits of context for literals. -/
def mostContext : Nat := 4

/-- The properties in one byte. -/
def Properties.ofNat? (n : Nat) : Option Properties :=
  if 225 ≤ n ∨ mostContext < n % 9 + n / 9 % 5 then none else some ⟨n % 9, n / 9 % 5, n / 45⟩

/-- The sizes of dictionaries are whole multiples of this. -/
def windowUnit : Nat := 16

/-- The smallest dictionary. -/
def leastWindow : Nat := 0x1000

/-- The size of the dictionary that is used when some size is asked for. -/
def windowOf (size : Nat) : Nat :=
  (max size leastWindow + windowUnit - 1) / windowUnit * windowUnit

/-- Why a decoder stops early: the input ran out, or it makes no sense, which was
    seen when `need` bytes of it were read. -/
inductive Stop
  | starved
  | corrupt (need : Nat)
deriving DecidableEq

/-- The last four distances, the latest first. A distance of zero is the byte before. -/
structure Distances where
  first : Nat
  second : Nat
  third : Nat
  fourth : Nat

/-- Puts one of the last four distances first, counted from zero. -/
def Distances.recall (d : Distances) : Nat → Distances
  | 0 => d
  | 1 => ⟨d.second, d.first, d.third, d.fourth⟩
  | 2 => ⟨d.third, d.first, d.second, d.fourth⟩
  | _ => ⟨d.fourth, d.first, d.second, d.third⟩

/-- The state of a decoder. The next byte of the input stands at `place`; bytes from
    `bound` on are not its own. The dictionary is the last `window` bytes that were
    written since `start`, and writing stops at `limit`. The phase tells of the latest
    symbols: below 7 the last one was a byte. -/
structure State where
  input : ByteArray
  place : Nat
  bound : Nat
  range : Nat
  code : Nat
  chances : Array Nat
  phase : Nat
  distances : Distances
  properties : Properties
  start : Nat
  window : Nat
  limit : Nat
  out : ByteArray
  events : Trace

/-- A decoder. It keeps what it has written when it stops. -/
abbrev Decoder := EStateM Stop State

/-! ## Where chances are kept -/

namespace Slot

/-- Is the symbol a piece of earlier output? -/
def isPiece (phase position : Nat) : Nat := phase * 16 + position

/-- Is the distance of a piece one of the last four? -/
def isKnown (phase : Nat) : Nat := 192 + phase

/-- Which of the last four distances is it? -/
def isNotFirst (phase : Nat) : Nat := 204 + phase

/-- Which of the last three? -/
def isNotSecond (phase : Nat) : Nat := 216 + phase

/-- Which of the last two? -/
def isNotThird (phase : Nat) : Nat := 228 + phase

/-- Is a piece at the latest distance longer than one byte? -/
def isLong (phase position : Nat) : Nat := 240 + phase * 16 + position

/-- The class of a distance, for each class of lengths. -/
def distanceClass (lengthClass : Nat) : Nat := 432 + lengthClass * 64

/-- The bits of short distances. -/
def distanceBits : Nat := 688

/-- The lowest bits of long distances. -/
def distanceAlign : Nat := 803

/-- Lengths of pieces at new distances. -/
def newLength : Nat := 819

/-- Lengths of pieces at known distances. -/
def knownLength : Nat := 1333

/-- Literal bytes, in each context. -/
def literal (context : Nat) : Nat := 1847 + context * 0x300

/-- The number of slots. -/
def count (p : Properties) : Nat := literal (Nat.pow 2 (p.literalContext + p.literalPosition))

end Slot

/-- The chance of a bit about which nothing is known, in units of 1/2048. -/
def evenChance : Nat := 1024

/-- A state that has learnt nothing. -/
def State.reset (s : State) (p : Properties) : State :=
  { s with
    chances := Array.replicate (Slot.count p) evenChance
    phase := 0
    distances := ⟨0, 0, 0, 0⟩
    properties := p }

/-- A state before any input from some place on. -/
def State.initial (p : Properties) (window : Nat) (input : ByteArray) (place limit : Nat) :
    State :=
  { input, place, bound := input.size, range := 0, code := 0
    chances := Array.replicate (Slot.count p) evenChance
    phase := 0, distances := ⟨0, 0, 0, 0⟩, properties := p, start := 0, window, limit
    out := .empty, events := #[] }

/-! ## Input and output -/

/-- Refuses what was read. -/
def refuse : Decoder α := do throw (.corrupt (← get).place)

/-- Reads a byte. One that belongs to somebody else is at fault. -/
def nextByte : Decoder UInt8 := do
  let s ← get
  match s.input[s.place]? with
  | none => throw .starved
  | some b =>
    if s.bound ≤ s.place then throw (.corrupt (s.place + 1))
    modify fun s => { s with place := s.place + 1 }
    return b

/-- Writes a byte if there is room below the limit. -/
def write (b : UInt8) : Decoder Unit := do
  let s ← get
  if s.limit ≤ s.out.size then refuse
  modify fun s =>
    { s with out := s.out.push b, events := s.events.push (.write b s.place s.place) }

/-! ## Bits -/

/-- Takes in a byte when the range has become small. -/
def normalize : Decoder Unit := do
  if (← get).range < 0x1000000 then
    let b ← nextByte
    modify fun s =>
      { s with range := s.range * 256, code := (s.code * 256 + b.toNat) % 0x100000000 }

/-- Takes in `n` bytes of code. -/
def codeBytes : (n : Nat) → Decoder Unit
  | 0 => return
  | n + 1 => do
    let b ← nextByte
    modify fun s => { s with code := (s.code * 256 + b.toNat) % 0x100000000 }
    codeBytes n

/-- Starts on a new range: a zero byte, then four bytes of code. -/
def enter : Decoder Unit := do
  if (← nextByte) ≠ 0 then refuse
  modify fun s => { s with range := 0xFFFFFFFF, code := 0 }
  codeBytes 4

/-- A bit whose chance is learnt in a slot. -/
def bit (slot : Nat) : Decoder Bool := do
  normalize
  modifyGet fun s =>
    let chance := (s.chances[slot]?).getD evenChance
    let bound := s.range / 2048 * chance
    if s.code < bound then
      (false, { s with
        range := bound
        chances := s.chances.setIfInBounds slot (chance + (2048 - chance) / 32) })
    else
      (true, { s with
        range := s.range - bound
        code := s.code - bound
        chances := s.chances.setIfInBounds slot (chance - chance / 32) })

/-- Appends `n` bits to `value`, the highest first, each with a chance of its own
    for every value so far. -/
def appendBits (slot : Nat) : (n : Nat) → (value : Nat) → Decoder Nat
  | 0, value => return value
  | n + 1, value => do
    let b ← bit (slot + value)
    appendBits slot n (2 * value + b.toNat)

/-- A number of `n` bits, the highest first. -/
def tree (slot n : Nat) : Decoder Nat := return (← appendBits slot n 1) - Nat.pow 2 n

/-- A number of `n` bits, the lowest first, after the bits in `path`. -/
def reverseTree (slot : Nat) : (n : Nat) → (path : Nat) → Decoder Nat
  | 0, _ => return 0
  | n + 1, path => do
    let b ← bit (slot + path)
    return b.toNat + 2 * (← reverseTree slot n (2 * path + b.toNat))

/-- Appends `n` bits of even chance to `value`. -/
def evenBits : (n : Nat) → (value : Nat) → Decoder Nat
  | 0, value => return value
  | n + 1, value => do
    normalize
    let b ← modifyGet fun s =>
      let half := s.range / 2
      if s.code < half then (false, { s with range := half })
      else (true, { s with range := half, code := s.code - half })
    evenBits n (2 * value + b.toNat)

/-! ## Symbols -/

/-- The length of the dictionary. -/
def State.known (s : State) : Nat := min (s.out.size - s.start) s.window

/-- The byte at a distance before the end; zero stands before the dictionary. -/
def State.byteAt (s : State) (distance : Nat) : Nat :=
  if distance < s.known then (((s.out[s.out.size - 1 - distance]?).getD 0)).toNat else 0

/-- The bits of the position that are used for most symbols. -/
def State.position (s : State) : Nat := (s.out.size - s.start) % Nat.pow 2 s.properties.position

/-- The context of a literal byte. -/
def State.literalContext (s : State) : Nat :=
  let p := s.properties
  (s.out.size - s.start) % Nat.pow 2 p.literalPosition * Nat.pow 2 p.literalContext +
    s.byteAt 0 / Nat.pow 2 (8 - p.literalContext)

/-- The bits of a byte as long as they agree with those of `guide`, then freely. -/
def guidedBits (slot guide : Nat) : (n : Nat) → (value : Nat) → Decoder Nat
  | 0, value => return value
  | n + 1, value => do
    let expected := guide.testBit n
    let b ← bit (slot + 0x100 * (1 + expected.toNat) + value)
    if b = expected then guidedBits slot guide n (2 * value + b.toNat)
    else appendBits slot n (2 * value + b.toNat)

/-- The phase after a literal byte. -/
def phaseAfterLiteral (phase : Nat) : Nat :=
  if phase < 4 then 0 else if phase < 10 then phase - 3 else phase - 6

/-- Reads a literal byte. -/
def literal : Decoder Unit := do
  let s ← get
  let slot := Slot.literal s.literalContext
  let value ←
    if s.phase < 7 then appendBits slot 8 1
    else guidedBits slot (s.byteAt s.distances.first) 8 1
  write value.toUInt8
  modify fun s => { s with phase := phaseAfterLiteral s.phase }

/-- Reads the length of a piece: short, middling or long. -/
def length (slot position : Nat) : Decoder Nat := do
  if !(← bit slot) then return 2 + (← tree (slot + 2 + position * 8) 3)
  if !(← bit (slot + 1)) then return 10 + (← tree (slot + 130 + position * 8) 3)
  return 18 + (← tree (slot + 258) 8)

/-- Reads a new distance for a piece of some length. -/
def distance (length : Nat) : Decoder Nat := do
  let cls ← tree (Slot.distanceClass (min (length - 2) 3)) 6
  if cls < 4 then return cls
  let width := cls / 2 - 1
  let high := (2 + cls % 2) * Nat.pow 2 width
  if cls < 14 then return high + (← reverseTree (Slot.distanceBits + high - cls) width 1)
  let middle ← evenBits (width - 4) 0
  return high + 16 * middle + (← reverseTree Slot.distanceAlign 4 1)

/-- Writes a piece at the latest distance. -/
def copy : (length : Nat) → Decoder Unit
  | 0 => return
  | length + 1 => do
    write ((← get).byteAt (← get).distances.first).toUInt8
    copy length

/-- Checks that a distance lies in the dictionary. -/
def checkDistance (distance : Nat) : Decoder Unit := do
  if (← get).known ≤ distance then refuse

/-- The distance that stands for the end of a stream. -/
def endMark : Nat := 0xFFFFFFFF

/-- Ends a range: nothing of its code may be left. -/
def leave : Decoder Unit := do
  normalize
  if (← get).code ≠ 0 then refuse

/-- Reads a piece at a new distance; false is the end of the stream, if it may stand
    here. -/
def newPiece (mayEnd : Bool) (phase position : Nat) : Decoder Bool := do
  let len ← length Slot.newLength position
  let dist ← distance len
  if dist = endMark then
    if !mayEnd then refuse
    leave
    return false
  checkDistance dist
  modify fun s =>
    let d := s.distances
    { s with
      distances := ⟨dist, d.first, d.second, d.third⟩
      phase := if phase < 7 then 7 else 10 }
  copy len
  return true

/-- Reads a piece at one of the last four distances. -/
def knownPiece (phase position index : Nat) : Decoder Unit := do
  let len ← length Slot.knownLength position
  modify fun s =>
    { s with
      distances := s.distances.recall index
      phase := if phase < 7 then 8 else 11 }
  copy len

/-- Repeats one byte at the latest distance. -/
def singleByte (phase : Nat) : Decoder Unit := do
  modify fun s => { s with phase := if phase < 7 then 9 else 11 }
  copy 1

/-- Reads one symbol; false is the end of the stream, if it may stand here. -/
def symbol (mayEnd : Bool) : Decoder Bool := do
  let s ← get
  let phase := s.phase
  let position := s.position
  if !(← bit (Slot.isPiece phase position)) then
    literal
    return true
  if !(← bit (Slot.isKnown phase)) then
    newPiece mayEnd phase position
  else
    checkDistance 0
    if !(← bit (Slot.isNotFirst phase)) then
      if ← bit (Slot.isLong phase position) then knownPiece phase position 0
      else singleByte phase
    else if !(← bit (Slot.isNotSecond phase)) then knownPiece phase position 1
    else if !(← bit (Slot.isNotThird phase)) then knownPiece phase position 2
    else knownPiece phase position 3
    return true

/-- Reads symbols until the limit or the end of the stream, which is the answer
    false; `count` bounds the symbols. -/
def symbols (mayEnd : Bool) : (count : Nat) → Decoder Bool
  | 0 => return true
  | count + 1 => do
    let s ← get
    if s.limit ≤ s.out.size then return true
    if ← symbol mayEnd then symbols mayEnd count else return false

/-! ## Streams that stand alone -/

/-- The length of the longest piece. -/
def longestPiece : Nat := 273

/-- More bytes than `n` bytes of input can stand for. A bit takes at least 31 of 2048
    parts of the range, so fewer than 400 bits bring it down from what one byte makes
    of it, and a symbol takes a bit or more. -/
def mostOutput (n : Nat) : Nat := 400 * (n + 4) * longestPiece

/-- The trace that a decoder leaves. -/
def traceOf (decoder : Decoder Unit) (s : State) : Trace :=
  match decoder.run s with
  | .ok _ s => s.events.push (.finish s.place)
  | .error .starved s => s.events
  | .error (.corrupt need) s => s.events.push (.fail need)

/-- Reads a stream whose end is marked, but not more than `wanted` bytes and a piece. -/
def marked (wanted : Nat) : Decoder Unit := do
  enter
  if ← symbols true (wanted + 1) then throw .starved

/-- Reads a stream whose size is the limit. Its end may be marked all the same. -/
def sized (size : Nat) : Decoder Unit := do
  enter
  if ← symbols false size then
    normalize
    if (← get).code ≠ 0 then
      let _ ← symbol true

/-- What a decoder does on a stream from some place on, of which the size is known or
    the end is marked. Of the output no more than `wanted` bytes are asked for. -/
def trace (p : Properties) (window : Nat) (size : Option Nat) (wanted : Nat)
    (input : ByteArray) (place : Nat) : Trace :=
  let most := mostOutput (input.size - place)
  match size with
  | some n => traceOf (sized n) (.initial p (windowOf window) input place n)
  | none => traceOf (marked (min wanted most)) (.initial p (windowOf window) input place most)

/-! ## Chunks -/

namespace Chunks

/-- The next `n` bytes of the input as a number, the highest first, after `high`. -/
def number : (n : Nat) → (high : Nat) → Decoder Nat
  | 0, high => return high
  | n + 1, high => do number n (256 * high + (← nextByte).toNat)

/-- Forgets the dictionary. -/
def restart : Decoder Unit :=
  modify fun s => { s with start := s.out.size, events := s.events.push (.pause s.place) }

/-- A chunk whose bytes are stored. A byte is not read before there is room for it. -/
def stored : (len : Nat) → Decoder Unit
  | 0 => return
  | len + 1 => do
    let b ← nextByte
    modify fun s =>
      { s with
        out := s.out.push b
        events := s.events.push (.write b (s.place - 1) s.place) }
    stored len

/-- A chunk that is coded in `packed` bytes and writes `len` bytes. Both numbers
    must come out exactly. -/
def coded (len packed : Nat) : Decoder Unit := do
  modify fun s => { s with bound := s.place + packed, limit := s.out.size + len }
  enter
  let _ ← symbols false len
  leave
  if (← get).place ≠ (← get).bound then refuse
  modify fun s => { s with bound := s.input.size }

/-- What must come before bytes can be coded: a new dictionary, and properties. -/
structure Needs where
  dictionary : Bool
  properties : Bool

/-- Reads one chunk after its control byte. -/
def chunk (needs : Needs) (control : Nat) : Decoder Needs := do
  let isNew := control = 1 || 0xE0 ≤ control
  if !isNew && needs.dictionary then refuse
  let needsProperties := needs.properties || isNew
  if 2 < control && control < 0x80 then refuse
  let setup := control / 32 % 4
  if 0x80 ≤ control && setup < 2 && needsProperties then refuse
  if isNew then restart
  if control < 0x80 then
    stored ((← number 2 0) + 1)
    return ⟨false, needsProperties⟩
  if setup = 1 then modify fun s => s.reset s.properties
  let len ← number 2 (control % 32)
  let packed ← number 2 0
  if 2 ≤ setup then
    match Properties.ofNat? (← nextByte).toNat with
    | some p => modify (·.reset p)
    | none => refuse
  coded (len + 1) (packed + 1)
  return ⟨false, false⟩

/-- Reads chunks up to the end of the stream, or until `wanted` bytes are written.
    Every chunk takes a byte, so `fuel` is the length of the input. -/
def chunks (wanted : Nat) : (fuel : Nat) → Needs → Decoder Unit
  | 0, _ => throw .starved
  | fuel + 1, needs => do
    if wanted < (← get).out.size then throw .starved
    let control ← nextByte
    if control = 0 then return
    chunks wanted fuel (← chunk needs control.toNat)

/-- What a decoder does on a stream of chunks from some place on. Of the output no
    more than `wanted` bytes are asked for. -/
def trace (window wanted : Nat) (input : ByteArray) (place : Nat) : Trace :=
  traceOf (chunks wanted (input.size - place + 1) ⟨true, true⟩)
    (.initial ⟨0, 0, 0⟩ (windowOf window) input place 0)

end Chunks

end Abacus.Coding.Lzma
