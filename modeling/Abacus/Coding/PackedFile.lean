import Abacus.Coding.LzmaFile
import Abacus.Coding.Xz

/-!
# Files that are unpacked as they are read

A file holds one container after another, of which the first byte tells the kind. Its
data are loaded in pieces of a fixed size, and unpacked as far as they are asked for.
What follows the last container is passed over if it cannot be the start of another.
A fault is seen when the reading comes to it, which depends on how much is asked for
at a time; nothing of what was asked for is had then.

* `PackedFile.read`, `PackedFile.seek`: reads the output, from any place.
-/

namespace Abacus.Coding

/-! ## Containers -/

/-- A container of any kind. -/
inductive Container
  | unknown (place : Nat)
  | xz (s : Xz.Stream)
  | file (f : LzmaFile)

namespace Container

/-- The place up to which the container was read. -/
def place : Container → Nat
  | .unknown place => place
  | .xz s => s.place
  | .file f => f.place

/-- The kind of container that a first byte tells. -/
def ofFirst (first : UInt8) (place : Nat) : Container :=
  if Xz.magic.head? = some first then .xz (.start place)
  else .file (.begin (LzmaFile.magic.head? = some first) place)

/-- Takes `room` bytes of output at most, when `loaded` bytes of the data are there. -/
def pullKnown (c : Container) (bytes : ByteArray) (loaded room : Nat) :
    Container × List UInt8 × Progress :=
  match c with
  | .unknown _ => (c, [], .running)
  | .xz s => let (s, out, progress) := s.pull bytes loaded room; (.xz s, out, progress)
  | .file f => let (f, out, progress) := f.pull bytes loaded room; (.file f, out, progress)

@[inherit_doc pullKnown]
def pull (c : Container) (bytes : ByteArray) (loaded room : Nat) :
    Container × List UInt8 × Progress :=
  match c with
  | .unknown place =>
    match (Scan.byte.run bytes place).within loaded with
    | .ok (_, first) => (ofFirst first place).pullKnown bytes loaded room
    | .error progress => (c, [], progress)
  | c => c.pullKnown bytes loaded room

end Container

/-! ## Reading -/

/-- A packed file of which `loaded` bytes were loaded. `position` bytes of output were
    taken from its containers, the last of which are in the buffer; `used` of these
    were handed out. -/
structure PackedFile where
  bytes : ByteArray
  loaded : Nat
  container : Container
  isOver : Bool
  ended : Bool
  position : Nat
  buffer : ByteArray
  used : Nat

namespace PackedFile

/-- A file before it is read. -/
def ofBytes (bytes : ByteArray) : PackedFile :=
  ⟨bytes, 0, .unknown 0, false, false, 0, .empty, 0⟩

/-- A reader of a packed file. -/
abbrev Reader := StateT PackedFile (Except PackedFault)

/-- The size of the pieces in which data are loaded, and of the buffer. -/
def pieceSize : Nat := 8192

/-- Takes `size` bytes of output at most from the data that are loaded. -/
def unpack (f : PackedFile) (size : Nat) : PackedFile × List UInt8 × Progress :=
  let (container, out, progress) :=
    pullRooms (·.pull f.bytes f.loaded) (· = .running) (size / rooms.headD 1 + 1) rooms size []
      f.container
  ({ f with container, isOver := progress = .finished }, out, progress)

/-- Loads the next piece of data; false is the end of the file. -/
def load : Reader Bool := do
  let f ← get
  if f.bytes.size ≤ f.loaded then return false
  set { f with loaded := min f.bytes.size (f.loaded + pieceSize) }
  return true

/-- Notes the end of the output. -/
def close : Reader (List UInt8) := do
  modify fun f => { f with ended := true }
  return []

/-- Takes between one and `size` bytes of output; nothing is the end of it. Every round
    loads a piece or begins a container, so `fuel` is the length of the file. -/
def takeFrom (size : Nat) : (fuel : Nat) → Reader (List UInt8)
  | 0 => close
  | fuel + 1 => do
    let isNext := (← get).isOver
    if isNext then
      if (← get).container.place = (← get).loaded then
        if !(← load) then return ← close
      modify fun f => { f with container := .unknown f.container.place }
    let (f, out, progress) := (← get).unpack size
    set f
    match progress with
    | .refused fault => if isNext then close else throw fault
    | progress =>
      if !out.isEmpty then
        modify fun f => { f with position := f.position + out.length }
        return out
      if progress = .running then
        if !(← load) then throw .truncated
      takeFrom size fuel

/-- Takes between one and `size` bytes of output; nothing is the end of it. -/
def take (size : Nat) : Reader (List UInt8) := do
  if size = 0 || (← get).ended then return []
  takeFrom size (2 * (← get).bytes.size + 2)

/-- How many bytes of the buffer were not handed out yet. -/
def ahead (f : PackedFile) : Nat := f.buffer.size - f.used

/-- The place of the next byte of output. -/
def tell (f : PackedFile) : Nat := f.position - f.ahead

/-- Hands out `n` bytes of the buffer. -/
def handOut (n : Nat) : Reader (List UInt8) := do
  let f ← get
  set { f with used := f.used + n }
  return Bytes.slice f.buffer f.used n

/-- Reads whole pieces past the buffer as long as `left` bytes hold any; gives what was
    read, and whether the output ended. -/
def readPieces : (fuel : Nat) → (left : Nat) → Reader (List UInt8 × Bool)
  | 0, _ => return ([], false)
  | fuel + 1, left => do
    if left < pieceSize then return ([], false)
    let out ← take (left / pieceSize * pieceSize)
    if out.isEmpty then return ([], true)
    let (rest, ended) ← readPieces fuel (left - out.length)
    return (out ++ rest, ended)

/-- Reads `left` bytes through the buffer, which is filled as far as it goes. -/
def readBuffered : (fuel : Nat) → (left : Nat) → Reader (List UInt8)
  | 0, _ => return []
  | fuel + 1, left => do
    if left = 0 then return []
    let out ← take (pieceSize - (← get).buffer.size)
    if out.isEmpty then return []
    modify fun f => { f with buffer := f.buffer ++ Bytes.ofList out }
    let first ← handOut (min left out.length)
    return first ++ (← readBuffered fuel (left - first.length))

/-- Reads `n` bytes, or fewer at the end. -/
def read (n : Nat) : Reader (List UInt8) := do
  if n ≤ (← get).ahead then handOut n
  else
    let first ← handOut (← get).ahead
    let (second, ended) ← readPieces n (n - first.length)
    modify fun f => { f with buffer := .empty, used := 0 }
    if ended then return first ++ second
    let left := n - first.length - second.length
    return first ++ second ++ (← readBuffered left left)

/-- Passes over `n` bytes of output, or fewer at its end. -/
def skip : (fuel : Nat) → (n : Nat) → Reader Unit
  | 0, _ => return
  | fuel + 1, n => do
    if n = 0 then return
    let out ← take (min pieceSize n)
    if out.isEmpty then return
    skip fuel (n - out.length)

/-- Goes back to the start. -/
def rewind : Reader Unit := modify fun f => ofBytes f.bytes

/-- Goes to a place of the output, or to its end. A place in the buffer is gone to
    there; a place before it takes a new start. -/
def seek (place : Int) : Reader Unit := do
  let f ← get
  let offset := place - f.tell
  if 0 < f.ahead ∧ -(f.used : Int) ≤ offset ∧ offset ≤ f.ahead then
    set { f with used := (f.used + offset).toNat }
  else
    if place < f.position then rewind
    modify fun f => { f with buffer := .empty, used := 0 }
    let n := (place - (← get).position).toNat
    skip n n

end PackedFile

end Abacus.Coding
