import Abacus.Coding.Brotli.Codes

/-!
# Commands and contexts

The code of a byte depends on the two bytes before it, in one of four modes, and that of
a distance on how much is repeated. A command has two numbers: how many bytes follow and
how many are repeated. Then the distance is told, which may be near one of the last four.

* `Mode.context`: the context of a byte.
* `distanceContext`: the context of a distance.
* `commandNumbers`: reads the numbers of a command.
* `Split.distance`: reads a distance.
-/

namespace Abacus.Coding.Brotli

/-! ## Contexts -/

/-- How the code of a byte depends on the two bytes before it. -/
inductive Mode
  | low
  | high
  | text
  | signed
deriving Inhabited

/-- The mode with a number. -/
def Mode.ofNat : Nat → Mode
  | 0 => .low
  | 1 => .high
  | 2 => .text
  | _ => .signed

/-- The class of the byte before in a text, for bytes below 0x80: what kind of sign it is. -/
def textClasses : List Nat :=
  [0, 0, 0, 0, 0, 0, 0, 0, 0, 4, 4, 0, 0, 4, 0, 0, 0, 0, 0, 0, 0, 0, 0, 0, 0, 0, 0, 0, 0, 0, 0, 0,
   8, 12, 16, 12, 12, 20, 12, 16, 24, 28, 12, 12, 32, 12, 36, 12,
   44, 44, 44, 44, 44, 44, 44, 44, 44, 44, 32, 32, 24, 40, 28, 12,
   12, 48, 52, 52, 52, 48, 52, 52, 52, 48, 52, 52, 52, 52, 52, 48,
   52, 52, 52, 52, 52, 48, 52, 52, 52, 52, 52, 24, 12, 28, 12, 12,
   12, 56, 60, 60, 60, 56, 60, 60, 60, 56, 60, 60, 60, 60, 60, 56,
   60, 60, 60, 60, 60, 56, 60, 60, 60, 60, 60, 24, 12, 28, 12, 0]

/-- The class of the byte before in a text. -/
def textClass (b : Nat) : Nat :=
  if b < 0x80 then (textClasses[b]?).getD 0 else b % 2 + if b < 0xC0 then 0 else 2

/-- Is a byte below 0x80 a letter or a digit? -/
def isWordByte (b : Nat) : Bool := 44 ≤ textClass b && 0x2F < b

/-- The class of the second byte before in a text. -/
def textClass2 (b : Nat) : Nat :=
  if 0xE0 ≤ b then 2
  else if b ≤ 0x20 || 0x7F ≤ b then 0
  else if !isWordByte b then 1
  else if b < 0x60 then 2
  else 3

/-- The class of a byte by its size, as a number with a sign. -/
def signedClass (b : Nat) : Nat :=
  if b = 0 then 0
  else if b < 16 then 1
  else if b < 64 then 2
  else if b < 128 then 3
  else if b < 192 then 4
  else if b < 240 then 5
  else if b < 255 then 6
  else 7

/-- The context of a byte after two others, the later of which is `b`. -/
def Mode.context (m : Mode) (b before : Nat) : Nat :=
  match m with
  | .low => b % 64
  | .high => b / 4
  | .text => textClass b ||| textClass2 before
  | .signed => 8 * signedClass b + signedClass before

/-- The number of contexts of bytes. -/
def contexts : Nat := 64

/-- The context of a distance: how much is repeated. -/
def distanceContext (copied : Nat) : Nat := min 3 (copied - 2)

/-- The number of contexts of distances. -/
def distanceContexts : Nat := 4

open Codes

/-! ## Commands -/

/-- Numbers of bytes that follow a command. -/
def insertRanges : List (Nat × Nat) :=
  Bits.ranges 0 [0, 0, 0, 0, 0, 0, 1, 1, 2, 2, 3, 3, 4, 4, 5, 5, 6, 7, 8, 9, 10, 12, 14, 24]

/-- Numbers of bytes that are repeated. -/
def copyRanges : List (Nat × Nat) :=
  Bits.ranges 2 [0, 0, 0, 0, 0, 0, 0, 0, 1, 1, 2, 2, 3, 3, 4, 4, 5, 5, 6, 7, 8, 9, 10, 24]

/-- The number of commands. -/
def commands : Nat := 704

/-- Commands below this use the last distance again. -/
def sameDistance : Nat := 128

/-- From which symbols on the two numbers of a command are, for each 64 commands. -/
def commandCells : List (Nat × Nat) :=
  [(0, 0), (0, 8), (0, 0), (0, 8), (8, 0), (8, 8), (0, 16), (16, 0), (8, 16), (16, 8), (16, 16)]

/-- Reads the two numbers of a command. -/
def commandNumbers (command : Nat) : Decoder (Nat × Nat) := do
  let (insert, copy) := (commandCells[command / 64]?).getD (0, 0)
  let inserted ← inRange insertRanges (insert + command / 8 % 8)
  return (inserted, ← inRange copyRanges (copy + command % 8))

/-! ## Distances -/

/-- The last four distances, the latest first. -/
abbrev Recent := List Nat

/-- The distances before the first command. -/
def Recent.start : Recent := [4, 11, 15, 16]

/-- Distances that are told from the last ones: which of them, and by how much it differs. -/
def recentChanges : List (Nat × Int) :=
  [(0, 0), (1, 0), (2, 0), (3, 0), (0, -1), (0, 1), (0, -2), (0, 2), (0, -3), (0, 3), (1, -1),
   (1, 1), (1, -2), (1, 2), (1, -3), (1, 3)]

/-- How the symbols for distances are split: `direct` of them stand for one distance each,
    and the lowest `lowBits` bits of the others are told by the symbol. -/
structure Split where
  lowBits : Nat
  direct : Nat

/-- The number of symbols for distances. -/
def Split.size (s : Split) : Nat := 16 + s.direct + 48 * Nat.pow 2 s.lowBits

/-- Reads the distance for a symbol. -/
def Split.distance (s : Split) (recent : Recent) (symbol : Nat) : Decoder Nat := do
  match recentChanges[symbol]? with
  | some (index, change) =>
    let distance := ((recent[index]?).getD 0 : Nat) + change
    require (0 < distance)
    return distance.toNat
  | none =>
    let index := symbol - 16
    if index < s.direct then return index + 1
    else
      let index := index - s.direct
      let low := index % Nat.pow 2 s.lowBits
      let high := index / Nat.pow 2 s.lowBits
      let width := 1 + high / 2
      let extra ← number width
      let offset := (2 + high % 2) * Nat.pow 2 width - 4 + extra
      return offset * Nat.pow 2 s.lowBits + low + s.direct + 1

end Abacus.Coding.Brotli
