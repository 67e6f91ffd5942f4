import Abacus.Coding.Zstandard.Weights

/-!
# Literals

A block begins with the bytes that are not repeated from earlier ones: as they are, as
one byte many times, or in a code, which may be that of an earlier block.

* `Fault.reason`: the words for what may be wrong with packed data.
* `Literals.read`: the literals of a block.
-/

namespace Abacus.Coding.Zstandard

/-- What is wrong with packed data. -/
inductive Fault
  | unknownFrame
  | parameter
  | window
  | dictionary
  | corrupt
  | check
  | literalsHeader
  | noTable
  | size
deriving DecidableEq

/-- The words for a fault. -/
def Fault.reason : Fault → String
  | .unknownFrame => "Unknown frame descriptor"
  | .parameter => "Unsupported frame parameter"
  | .window => "Frame requires too much memory for decoding"
  | .dictionary => "Dictionary mismatch"
  | .corrupt => "Data corruption detected"
  | .check => "Restored data doesn't match checksum"
  | .literalsHeader => "Header of Literals' block doesn't respect format specification"
  | .noTable => "Dictionary is corrupted"
  | .size => "Src size is incorrect"

end Abacus.Coding.Zstandard

namespace Abacus.Coding.Zstandard.Literals

/-- The most bytes that a block stands for. -/
def mostInBlock : Nat := 0x20000

/-- A block has at least this many bytes. -/
def leastBlock : Nat := 2

/-- Refuses unless a condition holds. -/
def require (condition : Bool) (f : Fault) : Except Fault Unit :=
  if condition then .ok () else .error f

/-- The value in an option, or a corruption. -/
def get (o : Option α) : Except Fault α :=
  match o with
  | some a => .ok a
  | none => .error .corrupt

/-- The sizes of a header and of what it announces, for bytes in no code. -/
def plainSizes (block : ByteArray) : Nat × Nat :=
  let head := Bytes.number block 0 3
  match head / 4 % 4 with
  | 1 => (2, head % 0x10000 / 16)
  | 3 => (3, head / 16)
  | _ => (1, head % 0x100 / 8)

/-- The sizes of a header, of what it announces, and of that in a code. -/
def codedSizes (block : ByteArray) : Nat × Nat × Nat :=
  let head := Bytes.number block 0 5
  match head / 4 % 4 with
  | 2 => (4, head / 0x10 % 0x4000, head / 0x40000 % 0x4000)
  | 3 => (5, head / 0x10 % 0x40000, head / 0x400000)
  | _ => (3, head / 0x10 % 0x400, head / 0x4000 % 0x400)

/-- The least number of bytes in four streams. -/
def leastInFour : Nat := 6

/-- The least size of four streams. -/
def leastFour : Nat := 10

/-- Decodes four streams, after the sizes of the first three. Each of these has the same
    number of bytes. -/
def fourStreams (code : Code) (body : ByteArray) (count : Nat) : Option ByteArray := do
  if body.size < leastFour then none
  let size1 := Bytes.number body 0 2
  let size2 := Bytes.number body 2 2
  let size3 := Bytes.number body 4 2
  let place2 := 6 + size1
  let place3 := place2 + size2
  let place4 := place3 + size3
  let part := (count + 3) / 4
  if body.size < place4 || count < 3 * part then none
  let first ← code.decode? (body.extract 6 place2) part
  let second ← code.decode? (body.extract place2 place3) part
  let third ← code.decode? (body.extract place3 place4) part
  let fourth ← code.decode? (body.extract place4 body.size) (count - 3 * part)
  return first ++ second ++ third ++ fourth

/-- Reads literals in a code. -/
def readCoded (block : ByteArray) (isNew : Bool) (limit : Nat) (code : Option Code) :
    Except Fault (Nat × ByteArray × Option Code) := do
  require (isNew || code.isSome) .noTable
  require (5 ≤ block.size) .corrupt
  let (header, count, packed) := codedSizes block
  let isSingle := Bytes.number block 0 1 / 4 % 4 = 0
  require (count ≤ limit) .corrupt
  require (isSingle || leastInFour ≤ count) .literalsHeader
  let last := header + packed
  require (last ≤ block.size) .corrupt
  let body := block.extract header last
  let (place, code) ← get (if isNew then Weights.readCode? body 0 else code.map (0, ·))
  let streams := body.extract place body.size
  let bytes ← get (if isSingle then code.decode? streams count else fourStreams code streams count)
  return (last, bytes, some code)

/-- Reads the literals of a block that stands for `limit` bytes at most. Gives the place
    behind them, and the code for the next block. -/
def read (block : ByteArray) (limit : Nat) (code : Option Code) :
    Except Fault (Nat × ByteArray × Option Code) := do
  require (leastBlock ≤ block.size) .corrupt
  match Bytes.number block 0 1 % 4 with
  | 0 =>
    let (header, count) := plainSizes block
    require (count ≤ limit && header + count ≤ block.size) .corrupt
    return (header + count, block.extract header (header + count), code)
  | 1 =>
    let (header, count) := plainSizes block
    require (count ≤ limit && header < block.size) .corrupt
    let b := (block[header]?).getD 0
    return (header + 1, Bytes.ofList (List.replicate count b), code)
  | 2 => readCoded block true limit code
  | _ => readCoded block false limit code

end Abacus.Coding.Zstandard.Literals
