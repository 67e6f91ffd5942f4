import Abacus.Archive.SevenZip.Fault
import Abacus.Coding.Brotli
import Abacus.Coding.Bzip2
import Abacus.Coding.Pipe
import Abacus.Coding.Ppmd

/-!
# Stages of unpacking

A coder at work is a stage: it is fed with packed data and hands out what they stand
for. Most stages hand out all they can at once, so that a fault is seen even if it
comes after what is asked for. Chains of filters and data that are packed by prediction
hand out no more than they are asked for.

* `Coder.stage?`, `Coder.filters?`: the stage of a coder, or of a chain of them.
* `Stage.feed`: feeds a stage.
-/

namespace Abacus.Archive.SevenZip

open Coding

/-! ## Stages -/

/-- What a stage does. A chain of filters may have a limit to what it hands out at a time;
    branches that stand apart know the size of their data, at the end of which nothing is
    held any more. -/
inductive Work
  | copy
  | deflate (v : Inflate.Variant)
  | bzip2
  | zstandard
  | brotli
  | ppmd (order size : Nat)
  | filters (chain : List Filter) (limit : Option Nat) (pipe : Option Pipe)
  | branches (b : Branches) (size : Nat) (held : List UInt8)

/-- A stage: what it does, the size of its output, all its input so far, how much it has
    handed out, and whether its data have come to their end. -/
structure Stage where
  work : Work
  size : Int
  input : ByteArray
  given : Nat
  isOver : Bool

namespace Stage

/-- A stage before it is fed. -/
def start (work : Work) (size : Int) : Stage := ⟨work, size, .empty, 0, false⟩

/-- What is left of some output when the first bytes were handed out. -/
def rest (s : Stage) (out : ByteArray) : List UInt8 := Bytes.slice out s.given (out.size - s.given)

/-- More than any chain hands out. -/
def unlimited : Nat := 0x4000000000000000

/-- How much more than its output a chain may be asked for. -/
def slack : Nat := 0x1000

/-- How much of the output of a chain is asked for at most: not more than the limit, if
    there is one, when less than its size was handed out. -/
def wanted (s : Stage) : Option Nat → Nat
  | none => unlimited
  | some limit => s.size.toNat + limit + slack

/-- The chain at work on all its input. The trace of its last filter goes on where the one
    for less input ended. -/
def pipeOn (s : Stage) (chain : List Filter) (limit : Option Nat) (pipe : Option Pipe)
    (input : ByteArray) : Option Pipe :=
  match pipe with
  | none => Filter.chain? chain (s.wanted limit) input 0
  | some pipe =>
    if input.size = s.input.size then some pipe
    else (Filter.chain? chain (s.wanted limit) input 0).map fun fresh =>
      { pipe with source := { pipe.source with trace := fresh.source.trace } }

/-- Feeds a chain of filters. -/
def feedFilters (s : Stage) (chain : List Filter) (limit : Option Nat) (pipe : Option Pipe)
    (data : ByteArray) (room : Nat) : Except DataFault (Stage × List UInt8) := do
  if s.isOver then throw (.exhausted .filters)
  let input := s.input ++ data
  match s.pipeOn chain limit pipe input with
  | none => throw .options
  | some pipe =>
    let size := min room (limit.getD room)
    let (pipe, out, status) :=
      pullRooms (·.pull input.size) (· = .running) (pipe.source.trace.size + 1) rooms size [] pipe
    if status = .failed then throw .filters
    let work := .filters chain limit (some pipe)
    return ({ s with input, work, isOver := status = .finished }, out)

/-- Feeds branches that stand apart. -/
def feedBranches (s : Stage) (b : Branches) (size : Nat) (held : List UInt8)
    (data : ByteArray) : Stage × List UInt8 :=
  let input := s.input ++ data
  let (b, done, held) := b.undo (held ++ Bytes.toList data)
  if size ≤ input.size then ({ s with input, work := .branches b size [] }, done ++ held)
  else ({ s with input, work := .branches b size held }, done)

/-- The first bytes of data that only look like packed ones. -/
def passedMarks : List (List UInt8) := [[0x50, 0x2A, 0x4D, 0x18], [0x18, 0x4D, 0x2A, 0x50]]

/-- Feeds a stage, of which no more than `room` bytes are wanted. -/
def feed (s : Stage) (data : ByteArray) (room : Nat) : Except Fault (Stage × List UInt8) := do
  let input := s.input ++ data
  let s' := { s with input }
  match s.work with
  | .copy => return (s', Bytes.toList data)
  | .deflate v =>
    match Inflate.inflate v (Bytes.toList input) with
    | (_, some (.fault f)) =>
      throw (.data (if v.mostDistances = 30 then .deflate f else .deflate64 f))
    | (out, _) => return (s', s.rest out)
  | .bzip2 =>
    if s.isOver then throw (.data (.exhausted .bzip2))
    match Bzip2.unpack (Bytes.toList input) with
    | (_, some .corrupt) => throw (.data .bzip2)
    | (out, stop) => return ({ s' with isOver := stop.isNone }, s.rest (Bytes.ofList out))
  | .zstandard =>
    if s.isOver then throw (.data (.exhausted .zstandard))
    match Zstandard.decode input with
    | (_, some (.fault f)) => throw (.data (.zstandard f))
    | (out, stop) => return ({ s' with isOver := stop.isNone }, s.rest out)
  | .brotli =>
    let first := Bytes.slice input 0 4
    if passedMarks.contains first then throw (.coder (.passedBrotli first))
    match Brotli.decode input with
    | (_, some .corrupt) => throw (.data .brotli)
    | (out, _) => return (s', s.rest out)
  | .ppmd order size =>
    match Ppmd.decode order size (Bytes.toList input) (s.given + room) with
    | (_, some .corrupt) => throw (.data .ppmd)
    | (out, _) => return (s', s.rest out)
  | .filters chain limit pipe =>
    Excess.place.refuse (min room (limit.getD room))
    (s.feedFilters chain limit pipe data room).mapError .data
  | .branches b size held => return s.feedBranches b size held data

end Stage

/-! ## Chains of filters -/

/-- The machine whose branches a method changes. -/
def Method.machine? : Method → Option Machine
  | .x86 => some .x86
  | .powerPC => some .powerPC
  | .ia64 => some .ia64
  | .arm => some .arm
  | .armThumb => some .armThumb
  | .sparc => some .sparc
  | _ => none

/-- The window when no properties are given. -/
def usualWindow : Nat := 0x800000

/-- The filter of a method with properties, or with the usual ones. -/
def Method.filter? (m : Method) (properties : Option (List UInt8)) : Option Filter :=
  match m, properties with
  | .lzma, none => some (.lzma ⟨3, 0, 2⟩ usualWindow)
  | .lzma, some (first :: window) =>
    if window.length ≠ 4 then none
    else (Lzma.Properties.ofNat? first.toNat).map (.lzma · (Bytes.littleEndian window))
  | .lzma2, none => some (.chunks usualWindow)
  | .lzma2, some [code] => (Filter.window? code.toNat).map .chunks
  | .deltas, none => some (.deltas 1)
  | .deltas, some [distance] => some (.deltas (distance.toNat + 1))
  | m, properties => m.machine?.bind fun machine => Filter.branches? machine (properties.getD [])

/-- The filter of a coder that stands in a chain with others. -/
def Coder.filter? (c : Coder) (chain : List Coder) : Except Fault Filter := do
  if c.inputs ≠ 1 ∨ c.outputs ≠ 1 then throw (.coder (.notSimple chain))
  match c.method?.bind (·.filter? c.properties) with
  | some f => return f
  | none => throw (.data .options)

/-- The stage of a chain of coders, of which the first was the last to pack. With one
    method the chain has a limit. -/
def Coder.filters? (chain : List Coder) (size limit : Nat) : Except Fault Stage := do
  let filters := (← chain.mapM (·.filter? chain)).reverse
  if (Filter.chain? filters 0 .empty 0).isNone then throw (.data .options)
  let hasLimit := chain.any (·.method? = some .lzma)
  return .start (.filters filters (if hasLimit then some limit else none) none) size

/-! ## Other stages -/

/-- Refuses a version that is later than the one which is known. -/
def isLater (major minor knownMajor knownMinor : UInt8) : Bool :=
  knownMajor < major || (major = knownMajor && knownMinor < minor)

/-- What properties say of Zstandard data. -/
def zstandardWork (properties : Option (List UInt8)) : Except Fault Work :=
  match properties with
  | none => .error .noProperties
  | some bytes =>
    match bytes with
    | major :: minor :: rest =>
      if rest.length ≠ 1 ∧ rest.length ≠ 3 then
        .error (.coder (.properties properties .zstandardSize))
      else if isLater major minor 1 5 then
        .error (.coder (.properties properties (.zstandardVersion major minor)))
      else .ok .zstandard
    | _ => .error (.coder (.properties properties .zstandardSize))

/-- What properties say of Brotli data. -/
def brotliWork (properties : Option (List UInt8)) : Except Fault Work :=
  match properties with
  | none => .error .noProperties
  | some [major, minor, _] =>
    if isLater major minor 1 0 then
      .error (.coder (.properties properties (.brotliVersion major minor)))
    else .ok .brotli
  | some _ => .error (.coder (.properties properties .brotliSize))

/-- What properties say of data that are packed by prediction: the order, and the size of
    the model. -/
def ppmdWork (properties : Option (List UInt8)) : Except Fault Work :=
  match properties with
  | none => .error (.coder (.properties properties .ppmdKind))
  | some (order :: rest) =>
    if rest.length ≠ 4 ∧ rest.length ≠ 6 then
      .error (.coder (.properties properties .ppmdSize))
    else .ok (.ppmd order.toNat (Bytes.littleEndian (rest.take 4)))
  | some [] => .error (.coder (.properties properties .ppmdSize))

/-- The stage of a coder that stands alone, with output of some size. -/
def Coder.stage? (c : Coder) (m : Method) (size : Nat) : Except Fault Stage := do
  let work ← match m with
    | .deflate => .ok (.deflate .near)
    | .deflate64 => .ok (.deflate .far)
    | .bzip2 => .ok .bzip2
    | .zstandard => zstandardWork c.properties
    | .brotli => brotliWork c.properties
    | .ppmd => ppmdWork c.properties
    | m => match m.machine? with
      | some machine => .ok (.branches (.start machine 0) size [])
      | none => .ok .copy
  return .start work size

end Abacus.Archive.SevenZip
