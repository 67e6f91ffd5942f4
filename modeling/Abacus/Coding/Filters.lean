import Abacus.Bytes

/-!
# Filters

Data are easier to pack when they are changed first in a way that can be undone.

Machine code is written with the targets of calls and jumps counted from
the start of the data instead of from the place of the branch. For each kind of
machine there is a change of this sort; it knows branches by the
bits that they have in common, whether the bytes are code or not. Other data are written
with each byte as its difference from the one some distance before it.

* `Branches.undo`: undoes the change of targets in a piece of the data, up to the last
  bytes, which may be the start of a branch.
* `Deltas.undo`: the bytes that differences stand for, piece by piece.
-/

namespace Abacus.Coding

/-! ## Targets of branches -/

/-- The kinds of machines. -/
inductive Machine
  | x86
  | powerPC
  | ia64
  | arm
  | armThumb
  | sparc
  | arm64
deriving DecidableEq

namespace Machine

/-- How many bytes are looked at together. -/
def width : Machine → Nat
  | .x86 => 5
  | .ia64 => 16
  | _ => 4

/-- The data start at a multiple of this. -/
def alignment : Machine → Nat
  | .x86 => 1
  | .ia64 => 16
  | .armThumb => 2
  | _ => 4

/-! ## Words -/

/-- The word of four bytes, the lowest first. -/
def wordOf (b0 b1 b2 b3 : UInt8) : UInt32 :=
  b0.toUInt32 ||| (b1.toUInt32 <<< 8) ||| (b2.toUInt32 <<< 16) ||| (b3.toUInt32 <<< 24)

/-- The bytes of a word, the lowest first. -/
def bytesOf (w : UInt32) : List UInt8 :=
  [w.toUInt8, (w >>> 8).toUInt8, (w >>> 16).toUInt8, (w >>> 24).toUInt8]

/-- Changes four bytes that are a word with the highest byte first. -/
def highFirst (change : UInt32 → UInt32) (b0 b1 b2 b3 : UInt8) : List UInt8 :=
  (bytesOf (change (wordOf b3 b2 b1 b0))).reverse

/-- Changes four bytes that are a word with the lowest byte first. -/
def lowFirst (change : UInt32 → UInt32) (b0 b1 b2 b3 : UInt8) : List UInt8 :=
  bytesOf (change (wordOf b0 b1 b2 b3))

/-! ## Machines whose instructions are words -/

/-- A word of PowerPC code at some place. -/
def powerPCWord (place w : UInt32) : UInt32 :=
  if w >>> 26 = 0x12 && (w &&& 3) = 1 then
    (((w &&& 0x03FFFFFC) - place) &&& 0x03FFFFFF) ||| 0x48000001
  else w

/-- A word of ARM code at some place. -/
def armWord (place w : UInt32) : UInt32 :=
  if w >>> 24 = 0xEB then
    ((((w <<< 2) - (place + 8)) >>> 2) &&& 0x00FFFFFF) ||| 0xEB000000
  else w

/-- A word of SPARC code at some place. -/
def sparcWord (place w : UInt32) : UInt32 :=
  if w >>> 22 = 0x100 || w >>> 22 = 0x1FF then
    let target := ((w <<< 2) - place) >>> 2
    let sign := (target >>> 22) &&& 1
    ((-sign <<< 22) &&& 0x3FFFFFFF) ||| (target &&& 0x3FFFFF) ||| 0x40000000
  else w

/-- The bits of a word that a mask leaves. -/
def masked (mask w : UInt32) : UInt32 := w &&& mask

/-- A word of ARM64 code at some place: a call, or the page of an address if that is
    not too far. -/
def arm64Word (place w : UInt32) : UInt32 :=
  if w >>> 26 = 0x25 then masked 0x03FFFFFF (w - (place >>> 2)) ||| 0x94000000
  else if masked 0x9F000000 w = 0x90000000 then
    let page := masked 3 (w >>> 29) ||| masked 0x001FFFFC (w >>> 3)
    if masked 0x001C0000 (page + 0x00020000) ≠ 0 then w
    else
      let page := page - (place >>> 12)
      let sign := masked 0x00020000 page
      masked 0x9000001F w ||| (masked 3 page <<< 29) ||| (masked 0x0003FFFC page <<< 3) |||
        masked 0x00E00000 (-sign)
  else w

/-! ## Thumb code -/

/-- Two halves of Thumb code at some place: a call takes both, all else one. -/
def thumbHalves (place : UInt32) (b0 b1 b2 b3 : UInt8) : List UInt8 :=
  if (b1 &&& 0xF8) = 0xF0 && (b3 &&& 0xF8) = 0xF8 then
    let source := ((b1.toUInt32 &&& 7) <<< 19) ||| (b0.toUInt32 <<< 11) |||
      ((b3.toUInt32 &&& 7) <<< 8) ||| b2.toUInt32
    let target := ((source <<< 1) - (place + 4)) >>> 1
    [(target >>> 11).toUInt8, ((target >>> 19) &&& 7).toUInt8 ||| 0xF0, target.toUInt8,
      ((target >>> 8) &&& 7).toUInt8 ||| 0xF8]
  else [b0, b1]

/-! ## Bundles of IA-64 -/

/-- Which of the three instructions of a bundle may be branches, for every template:
    one bit for each. -/
def branchSlots : List Nat :=
  [0, 0, 0, 0, 0, 0, 0, 0, 0, 0, 0, 0, 0, 0, 0, 0, 4, 4, 6, 6, 0, 0, 7, 7, 4, 4, 0, 0, 4, 4, 0, 0]

/-- An instruction in a bundle at some place. -/
def bundleInstruction (place : Nat) (instruction : Nat) : Nat :=
  if instruction / Nat.pow 2 37 % 16 = 5 ∧ instruction / Nat.pow 2 9 % 8 = 0 then
    let source := instruction / Nat.pow 2 13 % Nat.pow 2 20 +
      instruction / Nat.pow 2 36 % 2 * Nat.pow 2 20
    let target := (source * 16 + 0x100000000 - place % 0x100000000) % 0x100000000 / 16
    let cleared := instruction - instruction / Nat.pow 2 13 % Nat.pow 2 20 * Nat.pow 2 13 -
      instruction / Nat.pow 2 36 % 2 * Nat.pow 2 36
    cleared + target % Nat.pow 2 20 * Nat.pow 2 13 +
      target / Nat.pow 2 20 % 2 * Nat.pow 2 36
  else instruction

/-- Changes the instruction that begins at some bit of a bundle. It reaches over six
    bytes. -/
def changeSlot (place : Nat) (bundle : List UInt8) (start : Nat) : List UInt8 :=
  let six := Bytes.littleEndian ((bundle.drop (start / 8)).take 6)
  let low := six % Nat.pow 2 (start % 8)
  let changed := low +
    bundleInstruction place (six / Nat.pow 2 (start % 8)) * Nat.pow 2 (start % 8)
  bundle.take (start / 8) ++
    (List.range 6).map (fun i => (changed / Nat.pow 256 i).toUInt8) ++ bundle.drop (start / 8 + 6)

/-- A bundle at some place. -/
def bundle (place : Nat) (bytes : List UInt8) : List UInt8 :=
  let template := (bytes.headD 0).toNat % 32
  let slots := (branchSlots[template]?).getD 0
  let starts := ((List.range 3).filter slots.testBit).map fun slot => 5 + 41 * slot
  starts.foldl (changeSlot place) bytes

/-! ## All but x86 -/

/-- The first instruction of some bytes, as many as are looked at together, with its
    target from its own place. -/
def instruction (m : Machine) (place : UInt32) (bytes : List UInt8) : List UInt8 :=
  match m, bytes with
  | .powerPC, [b0, b1, b2, b3] => highFirst (powerPCWord place) b0 b1 b2 b3
  | .arm, [b0, b1, b2, b3] => lowFirst (armWord place) b0 b1 b2 b3
  | .armThumb, [b0, b1, b2, b3] => thumbHalves place b0 b1 b2 b3
  | .sparc, [b0, b1, b2, b3] => highFirst (sparcWord place) b0 b1 b2 b3
  | .arm64, [b0, b1, b2, b3] => lowFirst (arm64Word place) b0 b1 b2 b3
  | .ia64, bytes => bundle place.toNat bytes
  | _, bytes => bytes

end Machine

/-! ## x86 -/

namespace X86

/-- Is the byte a call or a jump with a target of four bytes? -/
def isBranch (b : UInt8) : Bool := b = 0xE8 || b = 0xE9

/-- Can the byte be the highest of a near target? -/
def isNear (b : UInt8) : Bool := b = 0 || b = 0xFF

/-- What was seen shortly before: one bit for each place where a branch began, and
    above them one for each whose target did not look near. -/
abbrev Marks := Nat

/-- The marks that still allow a branch to be changed. -/
def allowing : List Nat := [0, 1, 2, 4]

/-- Which byte of a target the marks cast doubt on. -/
def doubtful (marks : Marks) : Nat :=
  match marks / 2 with
  | 0 => 0
  | 1 => 1
  | 2 | 3 => 2
  | _ => 3

/-- How many places a mark lasts. -/
def memory : Nat := 5

/-- Moves marks on by `n` places. -/
def moveOn (marks : Marks) (n : Nat) : Marks :=
  if memory < n then 0 else Nat.repeat (fun m => 2 * (m &&& 0x77)) n marks

/-- Turns a target around until the marks cast no more doubt on it. -/
def settle (marks : Marks) (place : Nat) : (fuel : Nat) → (target : Nat) → Nat
  | 0, target => target
  | fuel + 1, target =>
    let moved := (target + 0x100000000 - place % 0x100000000) % 0x100000000
    let n := doubtful marks
    if marks = 0 || !isNear (moved / Nat.pow 2 (24 - 8 * n)).toUInt8 then moved
    else settle marks place fuel (moved ^^^ (Nat.pow 2 (32 - 8 * n) - 1))

/-- How often a target is turned around at most. -/
def maxTurns : Nat := 8

/-- The four bytes of a target; the highest is that of a near one. -/
def targetBytes (target : Nat) : List UInt8 :=
  [target.toUInt8, (target / 0x100).toUInt8, (target / 0x10000).toUInt8,
    if target / 0x1000000 % 2 = 1 then 0xFF else 0]

end X86

/-! ## Pieces of data -/

/-- How far a change was undone: the place in the data, and for x86 how long ago a
    branch began and what was seen shortly before. -/
structure Branches where
  machine : Machine
  place : Nat
  since : Nat
  marks : X86.Marks

namespace Branches

/-- The start of data that stand at some place. -/
def start (m : Machine) (place : Nat) : Branches := ⟨m, place, X86.memory, 0⟩

/-- Undoes the change in x86 code. Gives the bytes that are done and the rest, which
    is too short for a branch. -/
def undoX86 (b : Branches) (done : ByteArray) : List UInt8 → Branches × ByteArray × List UInt8
  | b0 :: b1 :: b2 :: b3 :: b4 :: rest =>
    if X86.isBranch b0 then
      let marks := X86.moveOn b.marks b.since
      if X86.isNear b4 && X86.allowing.contains (marks / 2) then
        let target :=
          X86.settle marks (b.place + 5) X86.maxTurns (Bytes.littleEndian [b1, b2, b3, b4])
        let done := (b0 :: X86.targetBytes target).foldl ByteArray.push done
        undoX86 { b with place := b.place + 5, since := 5, marks := 0 } done rest
      else
        let marks := marks ||| (if X86.isNear b4 then 0x11 else 1)
        undoX86 { b with place := b.place + 1, since := 1, marks } (done.push b0)
          (b1 :: b2 :: b3 :: b4 :: rest)
    else
      undoX86 { b with place := b.place + 1, since := b.since + 1 } (done.push b0)
        (b1 :: b2 :: b3 :: b4 :: rest)
  | bytes => (b, done, bytes)
termination_by bytes => bytes.length

/-- Undoes the change for the other machines. Every instruction has bytes, so `fuel`
    is their number. -/
def undoWords (b : Branches) (done : ByteArray) : (fuel : Nat) → List UInt8 →
    Branches × ByteArray × List UInt8
  | 0, bytes => (b, done, bytes)
  | fuel + 1, bytes =>
    let head := bytes.take b.machine.width
    if head.length < b.machine.width then (b, done, bytes)
    else
      let changed := b.machine.instruction b.place.toUInt32 head
      undoWords { b with place := b.place + changed.length } (changed.foldl ByteArray.push done)
        fuel (bytes.drop changed.length)

/-- Undoes the change in a piece of the data. Gives the bytes that are done and the
    rest, which is too short for a branch. -/
def undo (b : Branches) (bytes : List UInt8) : Branches × List UInt8 × List UInt8 :=
  let (b, done, rest) :=
    if b.machine = .x86 then b.undoX86 .empty bytes
    else b.undoWords .empty bytes.length bytes
  (b, Bytes.toList done, rest)

end Branches

/-! ## Differences -/

/-- The latest bytes, the earliest first, as many as the distance. -/
structure Deltas where
  recent : List UInt8

namespace Deltas

/-- Before the data there are zeros. -/
def start (distance : Nat) : Deltas := ⟨List.replicate distance 0⟩

/-- The bytes that the differences of a piece stand for. -/
def undo (d : Deltas) : List UInt8 → Deltas × List UInt8
  | [] => (d, [])
  | b :: rest =>
    let byte := b + d.recent.headD 0
    let (d, done) := undo ⟨d.recent.drop 1 ++ [byte]⟩ rest
    (d, byte :: done)

end Deltas

end Abacus.Coding
