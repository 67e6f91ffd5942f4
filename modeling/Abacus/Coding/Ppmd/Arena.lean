import Std.Data.HashMap

/-!
# The arena of a model

A model is kept in an arena of a fixed size. The text that was read grows from its
front; behind it stand units of twelve bytes, in blocks of a few sizes. Which blocks
are free decides only when the arena is full, but then the model starts afresh, so
both sides have to agree on it.

* `Arena.takeBlock?`, `Arena.takeUnit?`: take a block.
* `Arena.shrink`, `Arena.put`: give back a part of a block, or all of it.
-/

namespace Abacus.Coding.Ppmd

/-- The size of a unit. -/
def unitSize : Nat := 12

/-- The sizes of blocks, in units. -/
def blockSizes : List Nat := [1, 2, 3, 4, 6, 8, 10, 12, 15, 18, 21, 24] ++
  (List.range 26).map (28 + 4 * ·)

/-- The size of the blocks of a class. -/
def sizeOfClass (cls : Nat) : Nat := (blockSizes[cls]?).getD 0

/-- The least class whose blocks have so many units. -/
def classOf (units : Nat) : Nat := blockSizes.findIdx (units ≤ ·)

/-- The number of classes. -/
def classCount : Nat := blockSizes.length

/-- An arena. The text ends at `text`, and units stand from `start` on. Those between
    `low` and `high` were never used; of the others `free` has the free blocks of each
    class. Blocks are merged when `credit` is used up. -/
structure Arena where
  text : Nat
  start : Nat
  low : Nat
  high : Nat
  free : Array (List Nat)
  credit : Nat

namespace Arena

/-- An empty arena of some size, of which an eighth is kept for text. -/
def ofSize (size : Nat) : Arena :=
  let start := size - size / 8 / unitSize * 7 * unitSize
  ⟨0, start, start, size, Array.replicate classCount [], 0⟩

/-- Has the class a free block? -/
def hasFree (a : Arena) (cls : Nat) : Bool := !((a.free[cls]?).getD []).isEmpty

/-- Takes the latest free block of a class. -/
def takeFree? (a : Arena) (cls : Nat) : Option (Nat × Arena) :=
  match (a.free[cls]?).getD [] with
  | place :: rest => some (place, { a with free := a.free.setIfInBounds cls rest })
  | [] => none

/-- Puts a block among the free ones of its class. -/
def put (a : Arena) (place cls : Nat) : Arena := { a with free := a.free.modify cls (place :: ·) }

/-- Puts units among the free blocks, in two blocks if no class has their number. -/
def putUnits (a : Arena) (place units : Nat) : Arena :=
  let cls := classOf units
  if sizeOfClass cls = units then a.put place cls
  else
    let first := sizeOfClass (cls - 1)
    (a.put (place + first * unitSize) (units - first - 1)).put place (cls - 1)

/-- Keeps the front of a block and frees the rest. -/
def split (a : Arena) (place oldClass newClass : Nat) : Arena :=
  let kept := sizeOfClass newClass
  a.putUnits (place + kept * unitSize) (sizeOfClass oldClass - kept)

/-! ## Merging free blocks -/

/-- Free blocks that are merged: their sizes by their places. -/
abbrev Blocks := Std.HashMap Nat Nat

/-- Merged blocks have less units than this. -/
def mergeLimit : Nat := 0x10000

/-- Merges a block with those that follow it. Each of them is used up, so `fuel` is
    their number. -/
def mergeFrom (place : Nat) : (fuel : Nat) → (units : Nat) → Blocks → Blocks
  | 0, units, blocks => blocks.insert place units
  | fuel + 1, units, blocks =>
    let next := place + units * unitSize
    match blocks[next]? with
    | none => blocks.insert place units
    | some more =>
      if mergeLimit ≤ units + more then blocks.insert place units
      else mergeFrom place fuel (units + more) (blocks.erase next)

/-- Merges every block that is left when its turn comes. -/
def mergeAll (places : List Nat) (blocks : Blocks) : Blocks :=
  places.foldl
    (fun blocks place =>
      match blocks[place]? with
      | none => blocks
      | some units => mergeFrom place blocks.size units blocks)
    blocks

/-- The most units of a block. -/
def mostUnits : Nat := 128

/-- Puts a merged block among the free ones, in blocks that are not too large. -/
def putMerged (a : Arena) (place units : Nat) : Arena :=
  let whole := (units - 1) / mostUnits
  let a := (List.range whole).foldl
    (fun a i => a.put (place + i * mostUnits * unitSize) (classCount - 1)) a
  a.putUnits (place + whole * mostUnits * unitSize) (units - whole * mostUnits)

/-- The credit after a merge. -/
def fullCredit : Nat := 255

/-- Merges free blocks, the latest first. -/
def merge (a : Arena) : Arena :=
  let listed := a.free.toList.zipIdx.flatMap fun (places, cls) =>
    places.map (·, sizeOfClass cls)
  let places := (listed.map Prod.fst).reverse
  let blocks := mergeAll places (Std.HashMap.ofList listed)
  places.foldl
    (fun a place => match blocks[place]? with
      | some units => a.putMerged place units
      | none => a)
    { a with free := Array.replicate classCount [], credit := fullCredit }

/-! ## Taking blocks -/

/-- Takes a block of a class from a larger one, or from what is left for text. -/
def takeLarger? (a : Arena) (cls : Nat) : Option (Nat × Arena) :=
  match (List.range' (cls + 1) (classCount - cls - 1)).find? a.hasFree with
  | some larger => (a.takeFree? larger).map fun (place, a) => (place, a.split place larger cls)
  | none =>
    let size := sizeOfClass cls * unitSize
    if a.start - a.text ≤ size then none
    else
      some (a.start - size, { a with start := a.start - size, credit := a.credit - 1 })

/-- Takes a block of a class when there is none and nothing unused is left. -/
def takeRare? (a : Arena) (cls : Nat) : Option (Nat × Arena) :=
  if a.credit = 0 then
    let a := a.merge
    (a.takeFree? cls).orElse fun _ => a.takeLarger? cls
  else a.takeLarger? cls

/-- Takes a block of a class. -/
def takeBlock? (a : Arena) (cls : Nat) : Option (Nat × Arena) :=
  (a.takeFree? cls).orElse fun _ =>
    let size := sizeOfClass cls * unitSize
    if size ≤ a.high - a.low then some (a.low, { a with low := a.low + size })
    else a.takeRare? cls

/-- Takes one unit, from the far end of what was never used. -/
def takeUnit? (a : Arena) : Option (Nat × Arena) :=
  if a.high ≠ a.low then some (a.high - unitSize, { a with high := a.high - unitSize })
  else (a.takeFree? 0).orElse fun _ => a.takeRare? 0

/-- Makes a block smaller, where it stands or in another free block; gives its place. -/
def shrink (a : Arena) (place oldUnits newUnits : Nat) : Nat × Arena :=
  let old := classOf oldUnits
  let new := classOf newUnits
  if old = new then (place, a)
  else
    match a.takeFree? new with
    | some (other, a) => (other, a.put place old)
    | none => (place, a.split place old new)

end Arena

end Abacus.Coding.Ppmd
