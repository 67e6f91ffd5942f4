import Abacus.Coding.Trace

/-!
# Scanning packed data

The parts of packed data that write no output are read as a whole. What comes of
them is known when enough of the data is there: they end at some place, or they are
refused there.

* `Scan.run`: reads such a part from some place on.
* `Outlook.within`: what is known of a part when only some of the data are there.
-/

namespace Abacus.Coding

/-- What is wrong with packed data. -/
inductive PackedFault
  | unknownFormat
  | unsupported
  | corrupt
  | truncated
deriving DecidableEq

/-- The words for a fault. -/
def PackedFault.message : PackedFault → String
  | .unknownFormat => "Input format not supported by decoder"
  | .unsupported => "Invalid or unsupported options"
  | .corrupt => "Corrupt input data"
  | .truncated => "Compressed file ended before the end-of-stream marker was reached"

/-- Why a scan stops: the data end, or they are refused. -/
inductive Halt
  | starved
  | refused (f : PackedFault)

/-- A reader of data, at some place. -/
abbrev Scan := ReaderT ByteArray (EStateM Halt Nat)

/-- What comes of a scan: it reaches a place, the data up to a place are refused, or
    more data are wanted than there are. -/
inductive Outlook (α : Type)
  | reached (place : Nat) (a : α)
  | refused (place : Nat) (f : PackedFault)
  | starved

namespace Scan

/-- Refuses the data. -/
def refuse (f : PackedFault) : Scan α := throw (.refused f)

/-- Refuses the data unless a condition holds. -/
def require (condition : Bool) (f : PackedFault) : Scan Unit := do
  if !condition then refuse f

/-- Reads a byte. -/
def byte : Scan UInt8 := do
  match (← read)[← get]? with
  | none => throw .starved
  | some b =>
    modify (· + 1)
    return b

/-- Reads `n` bytes. -/
def take (n : Nat) : Scan (List UInt8) := do
  let place ← get
  let bytes ← read
  if bytes.size < place + n then throw .starved
  set (place + n)
  return Bytes.slice bytes place n

/-- Reads what the data hold from some place on. -/
def run (scan : Scan α) (bytes : ByteArray) (place : Nat) : Outlook α :=
  match (ReaderT.run scan bytes).run place with
  | .ok a place => .reached place a
  | .error (.refused f) place => .refused place f
  | .error .starved _ => .starved

end Scan

/-! ## Numbers of variable length -/

namespace VariableNumber

/-- The most bytes that a number of variable length has. -/
def width : Nat := 9

/-- Reads a number in groups of seven bits, the lowest first; the last byte has its
    highest bit clear and is zero only if it stands alone. -/
def readFrom : (left : Nat) → (isFirst : Bool) → Scan Nat
  | 0, _ => Scan.refuse .corrupt
  | left + 1, isFirst => do
    let b ← Scan.byte
    if b < 0x80 then
      Scan.require (b ≠ 0 || isFirst) .corrupt
      return b.toNat
    Scan.require (left ≠ 0) .corrupt
    return b.toNat - 0x80 + 128 * (← readFrom left false)

/-- Reads a number of variable length. -/
def scan : Scan Nat := readFrom width true

/-- How many bytes a number takes. -/
def length (n : Nat) : Nat := n.log2 / 7 + 1

end VariableNumber

/-! ## Unpacking piece by piece -/

/-- How a container stands: it goes on, it has come to its end, or it is refused. -/
inductive Progress
  | running
  | finished
  | refused (f : PackedFault)
deriving DecidableEq

/-- How a container stands while it hands on what a decoder does. -/
def Progress.ofStatus : Status → Progress
  | .running => .running
  | .finished => .finished
  | .failed => .refused .corrupt

/-- What is known of a part when `loaded` bytes of the data are there: the place where it
    ends, its fault, or nothing as yet. -/
def Outlook.within (o : Outlook α) (loaded : Nat) : Except Progress (Nat × α) :=
  match o with
  | .reached place a => if place ≤ loaded then .ok (place, a) else .error .running
  | .refused place f => if place ≤ loaded then .error (.refused f) else .error .running
  | .starved => .error .running

end Abacus.Coding
