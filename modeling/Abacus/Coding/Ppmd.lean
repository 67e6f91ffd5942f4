import Abacus.Bytes
import Abacus.Coding.Ppmd.Model

/-!
# Data packed by prediction

Each byte takes a share of a range that tells how well a model predicted it. The
decoder keeps the same model, so it knows the shares. A byte that the context does not
know is announced by an escape, after which shorter contexts are asked; what the longer
ones knew is masked there.

* `Ppmd.decode`: what packed bytes stand for.
-/

namespace Abacus.Coding.Ppmd

/-- Why a decoder stops: the input ran out, it makes no sense, or it has come to its
    end. -/
inductive Stop
  | starved
  | corrupt
  | ended
deriving DecidableEq

/-- A decoder: what is left of the input, the range and the code in it, and the model. -/
structure State where
  input : List UInt8
  range : Nat
  code : Nat
  model : Model

/-- A reader of packed data. -/
abbrev Decoder := EStateM Stop State

/-! ## The range -/

/-- A range below this takes in a byte. -/
def leastRange : Nat := 0x1000000

/-- Takes in a byte. -/
def nextByte : Decoder Unit := do
  let s ← get
  match s.input with
  | [] => throw .starved
  | b :: rest => set { s with input := rest, code := s.code * 256 + b.toNat }

/-- Widens the range when it has become small. -/
def widen : (times : Nat) → Decoder Unit
  | 0 => return
  | times + 1 => do
    if (← get).range < leastRange then
      nextByte
      modify fun s => { s with range := s.range * 256 }
      widen times

/-- Divides the range into `total` shares; gives the one in which the code lies. -/
def share (total : Nat) : Decoder Nat :=
  modifyGet fun s => (s.code / (s.range / total), { s with range := s.range / total })

/-- Takes `size` shares from `start` on. -/
def takeShares (start size : Nat) : Decoder Unit := do
  modify fun s => { s with code := s.code - start * s.range, range := s.range * size }
  widen 2

/-- Is the code in the first `size` of the shares of a bit? -/
def takeBit (size : Nat) : Decoder Bool := do
  let isFirst ← modifyGet fun s =>
    let bound := s.range / Model.singleUnit * size
    if s.code < bound then (true, { s with range := bound })
    else (false, { s with code := s.code - bound, range := s.range - bound })
  widen 2
  return isFirst

/-! ## Bytes -/

/-- Is it a byte of the upper three quarters? -/
def isHigh (b : UInt8) : Bool := 0x40 ≤ b

/-- The index of the first count whose share, with those before it, is above `share`;
    and the sum of those before it. -/
def locate (share : Nat) : (sum : Nat) → List (Nat × Nat) → Option (Nat × Nat × Nat)
  | _, [] => none
  | sum, (index, times) :: rest =>
    if share < sum + times then some (index, sum, times) else locate share (sum + times) rest

/-- The class of a number of counts, for what is learnt of single ones. -/
def suffixClass (size : Nat) : Nat :=
  if size ≤ 1 then 0 else if size ≤ 2 then 2 else if size ≤ 11 then 4 else 6

/-- The class of a number that is at least `least`, where `cls` begins and has `width`
    numbers. Each class has one number more than the one before, so that there are fewer
    than `fuel`. -/
def classFrom (n : Nat) : (fuel : Nat) → (cls least width : Nat) → Nat
  | 0, cls, _, _ => cls
  | fuel + 1, cls, least, width =>
    if n < least + width then cls else classFrom n fuel (cls + 1) (least + width) (width + 1)

/-- The classes of numbers of counts: the first three have one number each. -/
def countClass (n : Nat) : Nat := if n < 3 then n else classFrom n 25 3 3 1

/-- Reads a byte in a context of several counts, or nothing after an escape. -/
def fromSeveral : Decoder (Option UInt8) := do
  let m := (← get).model
  let c := m.context m.current
  let share ← share c.total
  let shares := c.counts.toList.zipIdx.map fun (s, index) => (index, s.times)
  match locate share 0 shares with
  | some (index, sum, times) =>
    takeShares sum times
    let m := if index = 0 then m.foundFirst else m.foundLater index
    modify ({ · with model := m })
    return some (c.count index).byte
  | none =>
    if c.total ≤ share then throw .corrupt
    let sum := shares.foldr (fun s n => s.2 + n) 0
    takeShares sum (c.total - sum)
    modify ({ · with model := { m with wasLikely := false, highByte := isHigh m.lastByte } })
    return none

/-- The share of escapes after a single count, for each class of what is learnt. -/
def escapeShares : List Nat := [25, 14, 9, 7, 5, 5, 4, 4, 4, 3, 3, 3, 2, 2, 2, 2]

/-- The mean of what is learnt of a single count. -/
def mean (chance : Nat) : Nat := (chance + 32) / 128

/-- Where it is kept what is learnt of a single count: it depends on how often it was
    met, on the shorter context, and on what was read before. -/
def singleSlot (m : Model) (count : Count) (highByte : Bool) : Nat :=
  let shorter := m.context (((m.context m.current).shorter).getD 0)
  64 * (count.times - 1) + m.wasLikely.toNat + suffixClass shorter.size + 8 * highByte.toNat +
    16 * (isHigh count.byte).toNat + if m.run < 0 then 32 else 0

/-- Reads a byte in a context of one count, or nothing after an escape. -/
def fromSingle : Decoder (Option UInt8) := do
  let m := (← get).model
  let highByte := isHigh m.lastByte
  let count := (m.context m.current).count 0
  let slot := singleSlot m count highByte
  let chance := (m.single[slot]?).getD 0
  if ← takeBit chance then
    let single := m.single.setIfInBounds slot (chance + 128 - mean chance)
    modify ({ · with model := { m with highByte, single }.foundSingle })
    return some count.byte
  else
    let chance := chance - mean chance
    let single := m.single.setIfInBounds slot chance
    let firstEscape := (escapeShares[chance / 1024]?).getD 0
    modify ({ · with model := { m with highByte, single, firstEscape, wasLikely := false } })
    return none

/-- Goes to the next shorter context that knows more than `masked` bytes. A context has
    fewer than `fuel` shorter ones. -/
def shorten (masked : Nat) : (fuel : Nat) → Decoder Unit
  | 0 => throw .ended
  | fuel + 1 => do
    let m := (← get).model
    match (m.context m.current).shorter with
    | none => throw .ended
    | some place =>
      let m := { m with current := place, fall := m.fall + 1 }
      modify ({ · with model := m })
      if (m.context place).size = masked then shorten masked fuel

/-- Where an estimate of escapes is kept: it depends on how many counts are left, on the
    shorter context, and on what was read before. -/
def escapeSlot (m : Model) (masked : Nat) : Nat :=
  let c := m.context m.current
  let left := c.size - masked
  let shorter := (m.context (c.shorter.getD 0)).size
  let isFew := shorter < c.size || left < shorter - c.size
  16 * countClass (left - 1) + isFew.toNat + (if c.total < 11 * c.size then 2 else 0) +
    (if left < masked then 4 else 0) + if m.highByte then 8 else 0

/-- Makes an estimate coarser or finer as it is borne out. -/
def Escape.confirm (e : Escape) : Escape :=
  if e.shift < Model.periodBits then
    if e.left = 1 then ⟨e.sum * 2 % 0x10000, e.shift + 1, 3 * Nat.pow 2 e.shift % 0x100⟩
    else { e with left := e.left - 1 }
  else e

/-- Reads a byte in shorter contexts, where bytes are masked. Each escape leads to a
    shorter context, and there are fewer than `fuel`. -/
def fromShorter : (fuel : Nat) → (masked : List UInt8) → Decoder UInt8
  | 0, _ => throw .ended
  | fuel + 1, masked => do
    let number := let m := (← get).model; (m.context m.current).size
    shorten number (fuel + 1)
    let m := (← get).model
    let c := m.context m.current
    let open_ := c.counts.toList.zipIdx.filter fun (s, _) => !masked.contains s.byte
    let shares := open_.map fun (s, index) => (index, s.times)
    let sum := shares.foldr (fun s n => s.2 + n) 0
    let slot := escapeSlot m number
    let isWhole := c.size = 256
    let e := (m.escapes[slot]?).getD default
    let guess := e.sum / Nat.pow 2 e.shift
    let e := { e with sum := e.sum - guess }
    let total := sum + if isWhole then 1 else max guess 1
    let share ← share total
    match locate share 0 shares with
    | some (index, start, times) =>
      takeShares start times
      let escapes := if isWhole then m.escapes else m.escapes.setIfInBounds slot e.confirm
      modify ({ · with model := { m with escapes }.foundMasked index })
      return (c.count index).byte
    | none =>
      if total ≤ share then throw .corrupt
      takeShares sum (total - sum)
      let e := { e with sum := (e.sum + total) % 0x10000 }
      let escapes := if isWhole then m.escapes else m.escapes.setIfInBounds slot e
      modify ({ · with model := { m with escapes } })
      fromShorter fuel (open_.map (·.1.byte) ++ masked)

/-- Reads a byte. -/
def byte : Decoder UInt8 := do
  let m := (← get).model
  let c := m.context m.current
  match ← if c.size = 1 then fromSingle else fromSeveral with
  | some b => return b
  | none => fromShorter (m.order + 2) (c.counts.toList.map (·.byte))

/-- Starts on a range: a zero byte, then four bytes of code. -/
def enter : Decoder Unit := do
  for _ in [0:5] do nextByte
  if 0xFFFFFFFF ≤ (← get).code then throw .corrupt

/-! ## Packed data -/

/-- The orders that a model can have. -/
def leastOrder : Nat := 2

@[inherit_doc leastOrder]
def mostOrder : Nat := 64

/-- The sizes that an arena can have. -/
def leastSize : Nat := 0x800

@[inherit_doc leastSize]
def mostSize : Nat := 0xFFFFFFDB

/-- A decoder before any input. -/
def State.start (order size : Nat) (input : List UInt8) : State :=
  ⟨input, 0xFFFFFFFF, 0,
    .start (max leastOrder (min mostOrder order)) (max leastSize (min mostSize size))⟩

/-- Decodes up to `n` bytes more. -/
def decodeFrom : (n : Nat) → ByteArray → State → ByteArray × Option Stop
  | 0, out, _ => (out, none)
  | n + 1, out, s =>
    match byte.run s with
    | .ok b s => decodeFrom n (out.push b) s
    | .error stop _ => (out, some stop)

/-- The first `n` bytes that packed bytes stand for, and why there are fewer. -/
def decode (order size : Nat) (input : List UInt8) (n : Nat) : ByteArray × Option Stop :=
  match enter.run (.start order size input) with
  | .ok _ s => decodeFrom n .empty s
  | .error stop _ => (.empty, some stop)

end Abacus.Coding.Ppmd
