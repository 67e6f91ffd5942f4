import Abacus.Checksum
import Abacus.Coding.Lzma
import Abacus.Coding.Scan

/-!
# Containers of one stream

Two containers that hold one bare stream of LZMA. The older one has its properties, the
size of its dictionary and the size of its output before it. The other is called lzip:
it has its name, a version and the size of its dictionary before it, and a check and
sizes after it.

* `LzmaFile.pull`: takes output from such a container.
-/

namespace Abacus.Coding

/-- What a container of one stream says before it: how the stream is to be read, and the
    version if it is of the kind that has a footer. -/
structure LzmaFile.Header where
  properties : Lzma.Properties
  window : Nat
  size : Option Nat
  footed : Option Nat

/-- How far a container of one stream was read. -/
inductive LzmaFile.Phase
  | head
  | inside (footed : Option Nat) (source : Cursor) (out : ByteArray)
  | ended

/-- A container of one stream that begins at some place and was read up to another.
    It has a footer or not. -/
structure LzmaFile where
  start : Nat
  hasFooter : Bool
  phase : LzmaFile.Phase

namespace LzmaFile

/-! ## The older container -/

/-- Reads `n` bytes as a number, the lowest first. -/
def number (n : Nat) : Scan Nat := return Bytes.littleEndian (← Scan.take n)

/-- The size that stands for an unknown size. -/
def unknownSize : Nat := 0xFFFFFFFFFFFFFFFF

/-- Larger sizes are taken for a sign of another format. -/
def largestSize : Nat := 0x4000000000

/-- Is this a size that a dictionary has: a power of two, or the sum of two that
    follow one another, or the largest of all? -/
def isWindow (n : Nat) : Bool :=
  let spread := [2, 3, 4, 8, 16].foldl (fun d shift => d ||| d >>> shift)
    ((n + 0xFFFFFFFF) % 0x100000000)
  n = 0xFFFFFFFF || (spread + 1) % 0x100000000 = n

/-- Reads the header of the older container. -/
def olderHeader : Scan Header := do
  match Lzma.Properties.ofNat? (← Scan.byte).toNat with
  | none => Scan.refuse .unknownFormat
  | some properties =>
    let window ← number 4
    Scan.require (isWindow window) .unknownFormat
    let size ← number 8
    Scan.require (size = unknownSize || size < largestSize) .unknownFormat
    return ⟨properties, window, if size = unknownSize then none else some size, none⟩

/-! ## The container with a footer -/

/-- What the container with a footer begins with. -/
def magic : List UInt8 := [0x4C, 0x5A, 0x49, 0x50]

/-- Reads bytes that must be these. -/
def exactly (f : PackedFault) : List UInt8 → Scan Unit
  | [] => return
  | b :: rest => do
    Scan.require ((← Scan.byte) = b) f
    exactly f rest

/-- The size of the dictionary in one byte: a power of two less some sixteenths. -/
def window? (code : Nat) : Option Nat :=
  let power := code % 32
  let sixteenths := code / 32
  if power < 12 ∨ 29 < power ∨ power = 12 ∧ 0 < sixteenths then none
  else some (Nat.pow 2 power - sixteenths * Nat.pow 2 (power - 4))

/-- Reads the header of the container with a footer. -/
def footedHeader : Scan Header := do
  exactly .unknownFormat magic
  let version := (← Scan.byte).toNat
  Scan.require (version ≤ 1) .unsupported
  match window? (← Scan.byte).toNat with
  | none => Scan.refuse .corrupt
  | some window => return ⟨⟨3, 0, 2⟩, window, none, some version⟩

/-- Reads the footer of a container that began at some place: the check, the size of
    the output, and since the first version but one the size of the container. -/
def footer (version start : Nat) (out : ByteArray) : Scan Unit := do
  let length := if version = 0 then 12 else 20
  let foot ← Scan.take length
  let stop ← get
  Scan.require (Bytes.littleEndian (foot.take 4) = Checksum.crc32 (Bytes.toList out)) .corrupt
  Scan.require (Bytes.littleEndian ((foot.drop 4).take 8) = out.size) .corrupt
  Scan.require (version = 0 || Bytes.littleEndian (foot.drop 12) = stop - start) .corrupt

/-! ## The whole -/

/-- The start of a container. -/
def begin (hasFooter : Bool) (start : Nat) : LzmaFile := ⟨start, hasFooter, .head⟩

/-- Reads the header, when `loaded` bytes are there. -/
def passHeader (f : LzmaFile) (bytes : ByteArray) (loaded : Nat) : Except Progress LzmaFile := do
  let scan := if f.hasFooter then footedHeader else olderHeader
  let (place, h) ← (scan.run bytes f.start).within loaded
  let trace := Lzma.trace h.properties h.window h.size (Lzma.mostOutput bytes.size) bytes place
  return { f with phase := .inside h.footed (.start trace place) .empty }

/-- Takes output from the stream and reads what follows it; gives the place, too. -/
def pullInside (f : LzmaFile) (bytes : ByteArray) (loaded room : Nat) :
    LzmaFile × List UInt8 × Progress :=
  match f.phase with
  | .inside footed source out =>
    let (source, more, status) := source.pull loaded room
    let out := out ++ more
    let file : LzmaFile := { f with phase := .inside footed source out }
    match status, footed with
    | .finished, some version =>
      match ((footer version f.start out).run bytes source.taken).within loaded with
      | .ok (place, _) =>
        ({ f with phase := .inside none { source with taken := place } out }, Bytes.toList more,
          .finished)
      | .error progress => (file, Bytes.toList more, progress)
    | status, _ => (file, Bytes.toList more, .ofStatus status)
  | _ => (f, [], .finished)

/-- Takes `room` bytes of output at most, when `loaded` bytes of the data are there. -/
def pull (f : LzmaFile) (bytes : ByteArray) (loaded room : Nat) :
    LzmaFile × List UInt8 × Progress :=
  match f.phase with
  | .head =>
    match f.passHeader bytes loaded with
    | .ok f => f.pullInside bytes loaded room
    | .error progress => (f, [], progress)
  | _ => f.pullInside bytes loaded room

/-- The place up to which the container was read. -/
def place (f : LzmaFile) : Nat :=
  match f.phase with
  | .inside _ source _ => source.taken
  | _ => f.start

end LzmaFile

end Abacus.Coding
