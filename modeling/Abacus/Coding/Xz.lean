import Abacus.Checksum
import Abacus.Coding.Pipe
import Abacus.Coding.Scan

/-!
# The xz format

A container for packed data: a header, blocks that hold the output of a chain of
filters, an index of the blocks and a footer, each with a check. The header of a block
may promise its sizes.

* `Xz.Stream.pull`: takes output from a container.
-/

namespace Abacus.Coding.Xz

/-! ## Checks -/

/-- Bytes and their check of 32 bits. -/
def withCheck (bytes check : List UInt8) : Bool :=
  Checksum.crc32 bytes = Bytes.littleEndian check

/-- The kinds of checks that are computed. -/
def crc32Kind : Nat := 1

@[inherit_doc crc32Kind]
def crc64Kind : Nat := 4

@[inherit_doc crc32Kind]
def sha256Kind : Nat := 10

/-- The length of a check. -/
def checkLength (kind : Nat) : Nat := if kind = 0 then 0 else 4 * Nat.pow 2 ((kind - 1) / 3)

/-- Is this the check of the bytes? Other kinds are not computed. -/
def isCheck (kind : Nat) (bytes check : List UInt8) : Bool :=
  if kind = crc32Kind then Checksum.crc32 bytes = Bytes.littleEndian check
  else if kind = crc64Kind then Checksum.crc64 bytes = Bytes.littleEndian check
  else if kind = sha256Kind then Checksum.sha256 bytes = check
  else true

/-! ## Header and footer -/

/-- What every container begins with. -/
def magic : List UInt8 := [0xFD, 0x37, 0x7A, 0x58, 0x5A, 0x00]

/-- What every container ends with. -/
def footerMagic : List UInt8 := [0x59, 0x5A]

/-- The length of the header, and of the footer. -/
def headSize : Nat := 12

/-- The kind of check that two bytes of flags choose. -/
def flagsKind (flags : List UInt8) : Scan Nat :=
  match flags with
  | [0, kind] => if kind < 16 then return kind.toNat else Scan.refuse .unsupported
  | _ => Scan.refuse .unsupported

/-- Reads the header: it says which check the blocks carry. -/
def header : Scan Nat := do
  let head ← Scan.take headSize
  let flags := (head.drop 6).take 2
  Scan.require (magic.isPrefixOf head) .unknownFormat
  Scan.require (withCheck flags (head.drop 8)) .corrupt
  flagsKind flags

/-- Reads the footer after an index of some size. -/
def footer (kind indexSize : Nat) : Scan Unit := do
  let foot ← Scan.take headSize
  let body := (foot.drop 4).take 6
  Scan.require (foot.drop 10 = footerMagic) .corrupt
  Scan.require (withCheck body (foot.take 4)) .corrupt
  let found ← flagsKind (body.drop 4)
  Scan.require (4 * (Bytes.littleEndian (body.take 4) + 1) = indexSize) .corrupt
  Scan.require (found = kind) .corrupt

/-! ## Headers of blocks -/

/-- The sizes that a block header may promise. -/
structure Promise where
  packed : Option Nat
  unpacked : Option Nat

/-- The machines in the order of the names of their filters. -/
def machines : List Machine := [.x86, .powerPC, .ia64, .arm, .armThumb, .sparc, .arm64]

/-- The first name of a filter for branches. -/
def firstMachine : Nat := 4

/-- Names from here on are reserved. -/
def reservedNames : Nat := 0x4000000000000000

/-- The filter of some name with some parameters. -/
def filter? (name : Nat) (parameters : List UInt8) : Option Filter :=
  match name, parameters with
  | 0x21, [size] => (Filter.window? size.toNat).map .chunks
  | 0x03, [distance] => some (.deltas (distance.toNat + 1))
  | _, _ =>
    if name < firstMachine then none
    else (machines[name - firstMachine]?).bind fun m => Filter.branches? m parameters

/-- Reads a filter: its name, the length of its parameters, and these. -/
def filter (left : Scan Nat) : Scan Filter := do
  let name ← VariableNumber.scan
  Scan.require (name < reservedNames) .corrupt
  let length ← VariableNumber.scan
  Scan.require (length ≤ (← left)) .corrupt
  match filter? name (← Scan.take length) with
  | some f => return f
  | none => Scan.refuse .unsupported

/-- What a block header says. -/
structure BlockHeader where
  size : Nat
  promise : Promise
  filters : List Filter

/-- The largest length of a block without padding. -/
def largestBlock : Nat := 0x7FFFFFFFFFFFFFFC

/-- Reads what a block header holds between its size and its check. -/
def blockFields (kind size : Nat) : Scan BlockHeader := do
  let left : Scan Nat := return (← read).size - (← get)
  let flags := (← Scan.byte).toNat
  Scan.require (flags / 4 % 16 = 0) .unsupported
  let packed ← if flags / 64 % 2 = 1 then some <$> VariableNumber.scan else pure none
  Scan.require (packed.all fun n => n ≠ 0 && n + size + checkLength kind ≤ largestBlock) .corrupt
  let unpacked ← if flags / 128 = 1 then some <$> VariableNumber.scan else pure none
  let filters ← (List.replicate (flags % 4 + 1) (filter left)).mapM id
  let padding ← Scan.take (← left)
  Scan.require (padding.all (· = 0)) .unsupported
  return ⟨size, ⟨packed, unpacked⟩, filters⟩

/-- Reads a block header. Fields that do not fit into it are at fault. -/
def blockHeader (kind : Nat) : Scan BlockHeader := do
  let sizeCode ← Scan.byte
  let size := 4 * sizeCode.toNat + 4
  let body ← Scan.take (size - 5)
  let check ← Scan.take 4
  Scan.require (withCheck (sizeCode :: body) check) .corrupt
  match (blockFields kind size).run (Bytes.ofList body) 0 with
  | .reached _ h => return h
  | .refused _ f => Scan.refuse f
  | .starved => Scan.refuse .corrupt

/-! ## Blocks -/

/-- What the index says of a block: its packed length without padding, and the
    length of its output. -/
structure Record where
  packed : Nat
  unpacked : Nat
deriving DecidableEq

/-- A block at work: its data start at some place; `out` is its output so far. -/
structure Block where
  header : BlockHeader
  start : Nat
  pipe : Pipe
  out : ByteArray

namespace Block

/-- How much of the data was taken. -/
def packed (b : Block) : Nat := b.pipe.taken - b.start

/-- Takes `room` bytes of output at most, when `loaded` bytes of the data are there. No
    more is read and written than the header promises. Data that stop short of the
    promise, or go on beyond it, are refused as soon as that shows. -/
def pull (b : Block) (loaded room : Nat) : Block × List UInt8 × Progress :=
  let promise := b.header.promise
  let stop := (promise.packed.map fun n => min loaded (b.start + n)).getD loaded
  let most := (promise.unpacked.map fun n => min room (n - b.out.size)).getD room
  let (pipe, bytes, status) := b.pipe.pull stop most
  let b := { b with pipe, out := b.out ++ Bytes.ofList bytes }
  let read := promise.packed = some b.packed
  let written := promise.unpacked = some b.out.size
  match status with
  | .failed => (b, bytes, .refused .corrupt)
  | .running =>
    if read && (written || bytes.length < room) || written && pipe.taken < loaded then
      (b, bytes, .refused .corrupt)
    else (b, bytes, .running)
  | .finished =>
    if promise.packed.all (· = b.packed) && promise.unpacked.all (· = b.out.size) then
      (b, bytes, .finished)
    else (b, bytes, .refused .corrupt)

/-- Reads `n` zeros. -/
def zeros : (n : Nat) → Scan Unit
  | 0 => return
  | n + 1 => do
    Scan.require ((← Scan.byte) = 0) .corrupt
    zeros n

/-- How many zero bytes fill up `n` bytes to a multiple of four. -/
def paddingAfter (n : Nat) : Nat := (4 - n % 4) % 4

/-- Reads what follows the data of a block: padding and a check. -/
def tail (b : Block) (kind : Nat) : Scan Record := do
  zeros (paddingAfter b.packed)
  let check ← Scan.take (checkLength kind)
  Scan.require (isCheck kind (Bytes.toList b.out) check) .corrupt
  return ⟨b.header.size + b.packed + checkLength kind, b.out.size⟩

end Block

/-! ## The index -/

namespace Index

/-- The sums of an index so far: the blocks with padding, the output, and the records. -/
structure Sums where
  blocks : Nat
  output : Nat
  records : Nat

/-- Takes in a record. -/
def Sums.add (s : Sums) (r : Record) : Sums :=
  ⟨s.blocks + r.packed + Block.paddingAfter r.packed, s.output + r.unpacked,
    s.records + VariableNumber.length r.packed + VariableNumber.length r.unpacked⟩

/-- The sums of some records. -/
def sums (records : List Record) : Sums := records.foldl Sums.add ⟨0, 0, 0⟩

/-- The smallest length of a block without padding. -/
def smallestBlock : Nat := 5

/-- Reads `n` records, which may not go beyond the sums of the blocks. -/
def records (whole : Sums) : (n : Nat) → Sums → Scan (List Record)
  | 0, _ => return []
  | n + 1, s => do
    let packed ← VariableNumber.scan
    Scan.require (smallestBlock ≤ packed && packed ≤ largestBlock) .corrupt
    let unpacked ← VariableNumber.scan
    let r : Record := ⟨packed, unpacked⟩
    let s := s.add r
    Scan.require (s.blocks ≤ whole.blocks && s.output ≤ whole.output &&
      s.records ≤ whole.records) .corrupt
    return r :: (← records whole n s)

/-- Reads the bytes of a check one by one. -/
def checkBytes : List UInt8 → Scan Unit
  | [] => return
  | b :: rest => do
    Scan.require ((← Scan.byte) = b) .corrupt
    checkBytes rest

/-- A number of 32 bits in bytes. -/
def fourBytes (n : Nat) : List UInt8 := (List.range 4).map fun i => (n / Nat.pow 256 i).toUInt8

/-- Reads the index of the blocks that were met; gives its size. -/
def scan (met : List Record) : Scan Nat := do
  let start ← get
  let _ ← Scan.byte
  Scan.require ((← VariableNumber.scan) = met.length) .corrupt
  let found ← records (sums met) met.length ⟨0, 0, 0⟩
  Block.zeros (Block.paddingAfter ((← get) - start))
  let stop ← get
  let check := fourBytes (Checksum.crc32 (Bytes.slice (← read) start (stop - start)))
  let first ← Scan.byte
  Scan.require (found = met && check.head? = some first) .corrupt
  checkBytes (check.drop 1)
  return stop + 4 - start

end Index

/-- Reads the index and the footer. -/
def indexAndFooter (kind : Nat) (met : List Record) : Scan Unit := do
  footer kind (← Index.scan met)

/-! ## The whole -/

/-- How far a container was read: up to its header, a block header or the index, or
    into a block, with the records of the blocks that were met. -/
inductive Phase
  | head
  | between (kind : Nat) (met : List Record)
  | inside (kind : Nat) (met : List Record) (b : Block)
  | after (kind : Nat) (met : List Record) (b : Block)
  | ended

/-- A container that was read up to some place. -/
structure Stream where
  place : Nat
  phase : Phase

namespace Stream

/-- The start of a container. -/
def start (place : Nat) : Stream := ⟨place, .head⟩

/-- The block that a header announces, in data from some place on. -/
def announced (bytes : ByteArray) (place : Nat) (h : BlockHeader) : Except Progress Block :=
  match Filter.chain? h.filters (Lzma.mostOutput bytes.size) bytes place with
  | some pipe => .ok ⟨h, place, pipe, .empty⟩
  | none => .error (.refused .unsupported)

/-- Passes over a part that writes no output, when `loaded` bytes are there; the error
    is how the container stands if that cannot be done. -/
def pass (bytes : ByteArray) (loaded : Nat) (s : Stream) : Except Progress Stream := do
  match s.phase with
  | .head =>
    let (place, kind) ← (header.run bytes s.place).within loaded
    return ⟨place, .between kind []⟩
  | .between kind met =>
    let (_, first) ← (Scan.byte.run bytes s.place).within loaded
    if first = 0 then
      let (place, _) ← ((indexAndFooter kind met).run bytes s.place).within loaded
      return ⟨place, .ended⟩
    let (place, header) ← ((blockHeader kind).run bytes s.place).within loaded
    return ⟨place, .inside kind met (← announced bytes place header)⟩
  | .after kind met b =>
    let (place, record) ← ((b.tail kind).run bytes s.place).within loaded
    return ⟨place, .between kind (met ++ [record])⟩
  | _ => throw .finished

/-- Goes on with a container until the input or the room is used up, or to its end.
    A block has more bytes than parts, so `fuel` is the length of the data. -/
def pullFrom (bytes : ByteArray) (loaded : Nat) :
    (fuel : Nat) → (room : Nat) → List UInt8 → Stream → Stream × List UInt8 × Progress
  | 0, _, out, s => (s, out, .running)
  | fuel + 1, room, out, s =>
    match s.phase with
    | .inside kind met b =>
      let (b, more, progress) := b.pull loaded room
      match progress with
      | .finished =>
        pullFrom bytes loaded fuel (room - more.length) (out ++ more)
          ⟨b.pipe.taken, .after kind met b⟩
      | progress => (⟨s.place, .inside kind met b⟩, out ++ more, progress)
    | _ =>
      match s.pass bytes loaded with
      | .ok s => pullFrom bytes loaded fuel room out s
      | .error progress => (s, out, progress)

/-- Takes `room` bytes of output at most, when `loaded` bytes of the data are there. -/
def pull (s : Stream) (bytes : ByteArray) (loaded room : Nat) : Stream × List UInt8 × Progress :=
  pullFrom bytes loaded (bytes.size + 4) room [] s

end Stream

end Abacus.Coding.Xz
