import Abacus.Coding.Zstandard.States

/-!
# Codes by weight

The code of literals is given by the weight of each byte: a word of weight one is the
longest, and each weight more makes a word one bit shorter. The weight of the last byte
follows from the others, since the code is full.

* `Weights.code?`: the code of given weights.
* `Weights.readCode?`: reads weights and builds their code.
* `Code.decode?`: decodes a stream of literals.
-/

namespace Abacus.Coding.Zstandard

/-- A code with words of at most `log` bits. For each number of `log` bits it has the
    byte whose word begins there, and the length of the word. -/
structure Code where
  log : Nat
  cells : Array (UInt8 × Nat)

namespace Code

/-- Decodes `n` bytes. -/
def decodeFrom (c : Code) : (n : Nat) → Backward → ByteArray → Backward × ByteArray
  | 0, bits, out => (bits, out)
  | n + 1, bits, out =>
    let (b, length) := (c.cells[bits.peek c.log]?).getD (0, 0)
    decodeFrom c n (bits.drop length) (out.push b)

/-- Decodes a stream of `n` bytes, which must be all that is in it. -/
def decode? (c : Code) (stream : ByteArray) (n : Nat) : Option ByteArray := do
  let bits ← Backward.ofMarked? stream
  let (bits, out) := c.decodeFrom n bits .empty
  if bits.isEmpty then some out else none

end Code

namespace Weights

/-- The most bits of a word. -/
def mostLog : Nat := 12

/-- What share of the code a word of some weight has. -/
def share (weight : Nat) : Nat := Nat.pow 2 weight / 2

/-- The code of given weights, of which the last is left out. -/
def code? (weights : List Nat) : Option Code :=
  let sum := weights.foldr (fun w n => share w + n) 0
  let log := sum.log2 + 1
  let rest := Nat.pow 2 log - sum
  let weights := weights ++ [rest.log2 + 1]
  let ones := (weights.filter (· = 1)).length
  if weights.any (mostLog < ·) || sum = 0 || mostLog < log then none
  else if Nat.pow 2 rest.log2 ≠ rest || ones < 2 || ones % 2 = 1 then none
  else
    let cellsOf (weight : Nat) : List (UInt8 × Nat) :=
      (weights.zipIdx.filter (·.1 = weight)).flatMap fun (_, b) =>
        List.replicate (share weight) (b.toUInt8, log + 1 - weight)
    some ⟨log, ((List.range' 1 log).flatMap cellsOf).toArray⟩

/-- The most weights that are given. -/
def most : Nat := 255

/-- Reads weights from two states in turn, until a state takes more bits than there are.
    The other one has the last weight. -/
def readFrom (t : States) :
    (fuel : Nat) → (state other : Nat) → Backward → List Nat → Option (List Nat)
  | 0, _, _, _, _ => none
  | fuel + 1, state, other, bits, known =>
    let known := known ++ [(t.cell state).symbol]
    let (state, bits) := t.next state bits
    if bits.isOver then some (known ++ [(t.cell other).symbol])
    else readFrom t fuel other state bits known

/-- The most states of weights are two to the power of this. -/
def mostStates : Nat := 6

/-- The weights in a piece of data, which begins with the table of their states. -/
def ofStates? (bytes : ByteArray) : Option (List Nat) := do
  let (place, t) ← States.read? bytes 0 256 mostStates
  let bits ← Backward.ofMarked? (bytes.extract place bytes.size)
  let (state, bits) := t.start bits
  let (other, bits) := t.start bits
  readFrom t (most - 1) state other bits []

/-- The first of a number of weights in half bytes is told by the number and this. -/
def halfBytes : Nat := 127

/-- Reads a code from some place on. Gives the place behind it. -/
def readCode? (bytes : ByteArray) (place : Nat) : Option (Nat × Code) := do
  let head ← bytes[place]?
  let count := head.toNat - halfBytes
  let length := if halfBytes < head.toNat then (count + 1) / 2 else head.toNat
  let last := place + 1 + length
  if bytes.size < last then none
  let body := bytes.extract (place + 1) last
  let weights ←
    if halfBytes < head.toNat then
      some (((Bytes.toList body).flatMap fun b => [b.toNat / 16, b.toNat % 16]).take count)
    else ofStates? body
  return (last, ← code? weights)

end Weights

end Abacus.Coding.Zstandard
