import Abacus.Coding.Filters
import Abacus.Coding.Lzma

/-!
# Chains of filters

Packed data may go through several filters: the last of them packs, and those before
it change the bytes so that they pack better. What comes out depends on the room that
is left for it only at the end of the data or at a fault, and there it does: a filter
for branches takes more bytes from the one behind it than it can hand out.

* `Filter.chain?`: the chain of some filters, if they can stand so.
* `Pipe.pull`: takes output from a chain.
* `pullRooms`: takes much output in rooms of some sizes.
-/

namespace Abacus.Coding

/-! ## Filters -/

/-- A filter with its parameters. -/
inductive Filter
  | lzma (p : Lzma.Properties) (window : Nat)
  | chunks (window : Nat)
  | deltas (distance : Nat)
  | branches (m : Machine) (place : Nat)

/-- The size of the window in one byte. -/
def Filter.window? (code : Nat) : Option Nat :=
  if 40 < code then none
  else if code = 40 then some 0xFFFFFFFF
  else some ((2 + code % 2) * Nat.pow 2 (code / 2 + 11))

/-- Parameters for branches: none, or the place of the data. -/
def Filter.branches? (m : Machine) (parameters : List UInt8) : Option Filter :=
  let place := Bytes.littleEndian parameters
  if parameters.length ≠ 0 ∧ parameters.length ≠ 4 then none
  else if place % m.alignment ≠ 0 then none
  else some (.branches m place)

/-! ## Layers -/

/-- A filter for branches at work. `ready` bytes are done and wait for room; `held`
    bytes may be the start of a branch. -/
structure Branching where
  branches : Branches
  ready : List UInt8
  held : List UInt8
  ended : Bool

namespace Branching

/-- How many bytes are held at most. -/
def capacity (b : Branching) : Nat :=
  match b.branches.machine with
  | .x86 => 10
  | m => 2 * m.width

/-- Undoes the change in `bytes`; what is left is held, or at the end done as it is. -/
def process (b : Branching) (bytes : List UInt8) (atEnd : Bool) : Branching × List UInt8 :=
  let (branches, done, rest) := b.branches.undo bytes
  if atEnd then ({ b with branches, held := [], ended := true }, done ++ rest)
  else ({ b with branches, held := rest }, done)

/-- Takes bytes from the filter behind as long as there is room. -/
def pullInto (inner : σ → Nat → σ × List UInt8 × Status) (b : Branching) (s : σ) (room : Nat) :
    Branching × σ × List UInt8 × Bool :=
  if b.held.length < room || b.held.isEmpty then
    let (s, bytes, status) := inner s (room - b.held.length)
    if status = .failed then (b, s, [], true)
    else
      let (b, done) := b.process (b.held ++ bytes) (status = .finished)
      (b, s, done, false)
  else (b, s, [], false)

/-- Takes bytes from the filter behind into what is held. -/
def pullHeld (inner : σ → Nat → σ × List UInt8 × Status) (b : Branching) (s : σ) :
    Branching × σ × Bool :=
  if b.held.isEmpty then (b, s, false)
  else
    let (s, bytes, status) := inner s (b.capacity - b.held.length)
    if status = .failed then (b, s, true)
    else
      let (b, done) := b.process (b.held ++ bytes) (status = .finished)
      ({ b with ready := done }, s, false)

/-- Hands out `room` bytes at most; `inner` is the filter behind. -/
def pull (inner : σ → Nat → σ × List UInt8 × Status) (b : Branching) (s : σ) (room : Nat) :
    Branching × σ × List UInt8 × Status :=
  let first := b.ready.take room
  let b := { b with ready := b.ready.drop room }
  if !b.ready.isEmpty then (b, s, first, .running)
  else if b.ended then (b, s, first, .finished)
  else
    let room := room - first.length
    let (b, s, second, failed) := pullInto inner b s room
    if failed then (b, s, first, .failed)
    else
      let (b, s, failed) := pullHeld inner b s
      if failed then (b, s, first ++ second, .failed)
      else
        let room := room - second.length
        let third := b.ready.take room
        let b := { b with ready := b.ready.drop room }
        let status := if b.ended && b.ready.isEmpty then .finished else .running
        (b, s, first ++ second ++ third, status)

end Branching

/-- A filter at work that does not pack. -/
inductive Layer
  | deltas (d : Deltas)
  | branching (b : Branching)

/-! ## Chains -/

/-- A chain at work: the filters that do not pack, the first to be undone last, and
    the trace of the one that packs. -/
structure Pipe where
  layers : List Layer
  source : Cursor

namespace Pipe

/-- Hands out `room` bytes at most from the last `depth` layers, when `loaded` bytes of
    the input are there. -/
def pullFrom (loaded : Nat) : (depth : Nat) → Pipe → (room : Nat) → Pipe × List UInt8 × Status
  | 0, p, room =>
    let (source, out, status) := p.source.pull loaded room
    (⟨[], source⟩, Bytes.toList out, status)
  | depth + 1, p, room =>
    match p.layers with
    | [] =>
      let (source, out, status) := p.source.pull loaded room
      (⟨[], source⟩, Bytes.toList out, status)
    | .deltas d :: rest =>
      let (p, bytes, status) := pullFrom loaded depth ⟨rest, p.source⟩ room
      let (d, done) := d.undo bytes
      (⟨.deltas d :: p.layers, p.source⟩, done, status)
    | .branching b :: rest =>
      let (b, p, bytes, status) := b.pull (pullFrom loaded depth) ⟨rest, p.source⟩ room
      (⟨.branching b :: p.layers, p.source⟩, bytes, status)

/-- Hands out `room` bytes at most, when `loaded` bytes of the input are there. -/
def pull (p : Pipe) (loaded room : Nat) : Pipe × List UInt8 × Status :=
  pullFrom loaded p.layers.length p room

/-- How much of the input was taken. -/
def taken (p : Pipe) : Nat := p.source.taken

end Pipe

/-! ## Rooms -/

/-- The sizes of the rooms in which output is taken at one time; the last one is
    repeated. -/
def rooms : List Nat :=
  [0x8000, 0x10000, 0x40000, 0x100000, 0x400000, 0x800000, 0x1000000]

/-- Takes `size` bytes of output at most, in one room after another. It ends when a room
    is not filled, or when what is at work does not go on. Every other room is full, so
    there are fewer than `fuel`. -/
def pullRooms (pull : σ → Nat → σ × List UInt8 × π) (goesOn : π → Bool) :
    (fuel : Nat) → (rooms : List Nat) → (size : Nat) → List UInt8 → σ → σ × List UInt8 × π
  | 0, _, _, out, s =>
    let (s, more, progress) := pull s 0
    (s, out ++ more, progress)
  | fuel + 1, rooms, size, out, s =>
    let room := min size (rooms.headD 0)
    let (s, more, progress) := pull s room
    let out := out ++ more
    if !goesOn progress || more.length < room || size ≤ room then (s, out, progress)
    else
      let rest := if rooms.length = 1 then rooms else rooms.drop 1
      pullRooms pull goesOn fuel rest (size - room) out s

/-- The layer of a filter that does not pack. -/
def Filter.layer? : Filter → Option Layer
  | .deltas distance => some (.deltas (.start distance))
  | .branches m place => some (.branching ⟨.start m place, [], [], false⟩)
  | _ => none

/-- The trace of a filter that packs, on the input from some place on. Of the output
    no more than `wanted` bytes are asked for. -/
def Filter.trace? (wanted : Nat) (input : ByteArray) (place : Nat) : Filter → Option Trace
  | .lzma p window => some (Lzma.trace p window none wanted input place)
  | .chunks window => some (Lzma.Chunks.trace window wanted input place)
  | _ => none

/-- The most filters of a chain. -/
def Filter.most : Nat := 4

/-- The chain of some filters. Only the last one may pack, and it must. -/
def Filter.chain? (filters : List Filter) (wanted : Nat) (input : ByteArray) (place : Nat) :
    Option Pipe := do
  if Filter.most < filters.length then none
  let last ← filters.getLast?
  let trace ← last.trace? wanted input place
  let layers ← filters.dropLast.mapM Filter.layer?
  return ⟨layers, .start trace place⟩

end Abacus.Coding
