import Abacus.Checksum
import Abacus.Coding.Zstandard.Sequences

/-!
# The Zstandard format

A frame has a header and blocks, which are stored as they are, stand for one byte many
times, or consist of literals and sequences. A check may follow. A frame that is to be
passed over stands for nothing.

* `Zstandard.decode`: what packed bytes stand for.
-/

namespace Abacus.Coding.Zstandard

/-- Why a decoder stops: the input ran out, or it is at fault. -/
inductive Stop
  | starved
  | fault (f : Fault)
deriving DecidableEq

/-- A decoder: its place in the input, and the output so far. -/
structure State where
  input : ByteArray
  place : Nat
  out : ByteArray

/-- A decoder of packed data. It keeps what it has written when it stops. -/
abbrev Decoder := EStateM Stop State

/-- Refuses the data. -/
def refuse (f : Fault) : Decoder α := throw (.fault f)

/-- Goes on if nothing is at fault. -/
def get? (e : Except Fault α) : Decoder α :=
  match e with
  | .ok a => return a
  | .error f => refuse f

/-- Reads `n` bytes. -/
def take (n : Nat) : Decoder ByteArray := do
  let s ← get
  if s.input.size < s.place + n then throw .starved
  set { s with place := s.place + n }
  return s.input.extract s.place (s.place + n)

/-- Reads a number of `n` bytes, the lowest first. -/
def number (n : Nat) : Decoder Nat := do
  return Bytes.littleEndian (Bytes.toList (← take n))

/-! ## Frames -/

/-- What the header of a frame tells: how many bytes a block stands for at most, how many
    the frame stands for, and whether a check follows. -/
structure Header where
  limit : Nat
  size : Option Nat
  hasCheck : Bool

/-- The number with which a frame begins. -/
def magic : Nat := 0xFD2FB528

/-- The numbers with which a frame begins that is to be passed over, divided by 16. -/
def passedMagic : Nat := 0x184D2A5

/-- Can the bytes be the start of a frame? -/
def canStart (first : List UInt8) : Bool :=
  let shown := Nat.pow 256 first.length
  let n := Bytes.littleEndian first
  n = magic % shown || n / 16 = passedMagic % (shown / 16)

/-- The largest window. -/
def mostWindow : Nat := 0x8000001

/-- The window that a byte tells. -/
def windowOf (code : Nat) : Nat :=
  let base := Nat.pow 2 (10 + code / 8)
  base + base / 8 * (code % 8)

/-- Reads the header of a frame. -/
def readHeader : Decoder Header := do
  let flags ← number 1
  let isSingle : Bool := flags / 0x20 % 2 = 1
  let sizeClass := flags / 0x40
  let sizeWidth := if sizeClass = 0 then isSingle.toNat else Nat.pow 2 sizeClass
  let dictionaryWidth := Nat.pow 2 (flags % 4) / 2
  let window ← take (if isSingle then 0 else 1)
  let dictionary ← number dictionaryWidth
  let size ← number sizeWidth
  if flags / 8 % 2 = 1 then refuse .parameter
  let size := if sizeWidth = 0 then none else some (if sizeClass = 1 then size + 0x100 else size)
  let window := match window[0]? with
    | some code => windowOf code.toNat
    | none => size.getD 0
  if dictionary ≠ 0 then refuse .dictionary
  if mostWindow < window then refuse .window
  return ⟨min window Literals.mostInBlock, size, flags / 4 % 2 = 1⟩

/-- Undoes a block. The frame begins at `first` in the output. -/
def readBlock (h : Header) (first : Nat) (m : Memory) (kind size : Nat) : Decoder Memory := do
  match kind with
  | 0 =>
    let s ← get
    let last := min s.input.size (s.place + size)
    set { s with place := last, out := s.out ++ s.input.extract s.place last }
    if last < s.place + size then throw .starved
    return m
  | 1 =>
    let b := ← number 1
    modify fun s => { s with out := s.out ++ Bytes.ofList (List.replicate size b.toUInt8) }
    return m
  | 2 =>
    let block ← take size
    let (place, literals, code) ← get? (Literals.read block h.limit m.code)
    let out := (← get).out
    let limit := out.size + h.limit
    let (m, out) ← get? (Sequences.read block place literals first limit { m with code } out)
    if limit < out.size then refuse .corrupt
    modify fun s => { s with out }
    return m
  | _ => refuse .corrupt

/-- Undoes blocks up to the last one. Each takes bytes, so `fuel` is their number. -/
def readBlocks (h : Header) (first : Nat) : (fuel : Nat) → Memory → Decoder Unit
  | 0, _ => throw .starved
  | fuel + 1, m => do
    let head ← number 3
    let size := head / 8
    if head / 2 % 4 = 3 || h.limit < size then refuse .corrupt
    let m ← readBlock h first m (head / 2 % 4) size
    if head % 2 = 0 then readBlocks h first fuel m

/-- Reads a frame. -/
def readFrame : Decoder Unit := do
  let s ← get
  if !canStart (Bytes.slice s.input s.place 4) then refuse .unknownFrame
  if (← number 4) = magic then
    let h ← readHeader
    let first := (← get).out.size
    readBlocks h first (s.input.size + 1) ⟨none, none, .start⟩
    let written := Bytes.slice (← get).out first ((← get).out.size - first)
    if h.size.any (· ≠ written.length) then refuse .corrupt
    if h.hasCheck then
      if (← number 4) ≠ Checksum.xxHash64 written % 0x100000000 then refuse .check
  else
    let size ← number 4
    let _ ← take size

/-- The bytes that packed bytes stand for, up to the end of the first frame, and why the
    reading stopped if it did not come to that. -/
def decode (input : ByteArray) : ByteArray × Option Stop :=
  match readFrame.run ⟨input, 0, .empty⟩ with
  | .ok _ s => (s.out, none)
  | .error stop s => (s.out, some stop)

end Abacus.Coding.Zstandard
