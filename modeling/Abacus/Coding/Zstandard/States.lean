import Abacus.Coding.Bits

/-!
# Tables of states

A symbol is read from the state of a decoder: every state has a symbol, and the next
state is found by adding some bits to a base. How many states a symbol has is its share;
it follows how often it is to be read.

* `States.ofShares`: the table of given shares.
* `States.read?`: reads shares and builds their table.
-/

namespace Abacus.Coding.Zstandard

/-- What a state stands for, and how the next one is found. -/
structure Cell where
  symbol : Nat
  bits : Nat
  base : Nat
deriving Inhabited

/-- A table of two to the power of `log` states. -/
structure States where
  log : Nat
  cells : Array Cell
deriving Inhabited

namespace States

/-- The table of a single symbol, which takes no bits. -/
def single (symbol : Nat) : States := ⟨0, #[⟨symbol, 0, 0⟩]⟩

/-- The cell of a state. -/
def cell (t : States) (state : Nat) : Cell := (t.cells[state]?).getD default

/-- The first state. -/
def start (t : States) (bits : Backward) : Nat × Backward := bits.read t.log

/-- The state after another one. -/
def next (t : States) (state : Nat) (bits : Backward) : Nat × Backward :=
  let c := t.cell state
  let (n, bits) := bits.read c.bits
  (c.base + n, bits)

/-! ## Building a table -/

/-- Which symbol each of `size` states has. A rare symbol, whose share is -1, has one
    state at the end; the others are spread over the rest in wide steps. -/
def symbols (size : Nat) (shares : List Int) : Array Nat :=
  let rare := (shares.zipIdx.filter (·.1 = -1)).map Prod.snd
  let common := shares.zipIdx.flatMap fun (share, symbol) => List.replicate share.toNat symbol
  let step := size / 2 + size / 8 + 3
  let places := ((List.range size).map (· * step % size)).filter (· < size - rare.length)
  let spread := (places.zip common).foldl
    (fun table (place, symbol) => table.setIfInBounds place symbol) (Array.replicate size 0)
  rare.zipIdx.foldl (fun table (symbol, i) => table.setIfInBounds (size - 1 - i) symbol) spread

/-- The table of given shares, which have two to the power of `log` states together. The
    states of a symbol share all the next ones among them. -/
def ofShares (log : Nat) (shares : List Int) : States :=
  let size := Nat.pow 2 log
  let first := (shares.map Int.natAbs).toArray
  let step (built : Array Cell × Array Nat) (symbol : Nat) : Array Cell × Array Nat :=
    let (cells, counts) := built
    let count := (counts[symbol]?).getD 1
    let bits := log - count.log2
    (cells.push ⟨symbol, bits, count * Nat.pow 2 bits - size⟩,
      counts.setIfInBounds symbol (count + 1))
  ⟨log, ((symbols size shares).foldl step (#[], first)).1⟩

/-! ## Reading shares -/

/-- The place of a bit behind flags that tell how many more symbols have no share; and
    their number. There are not more than `fuel` full flags. -/
def readZeros (bytes : ByteArray) : (fuel : Nat) → (bit count : Nat) → Nat × Nat
  | 0, bit, count => (bit, count)
  | fuel + 1, bit, count =>
    let flag := Bits.numberAt bytes bit 2
    if flag = 3 then readZeros bytes fuel (bit + 2) (count + 3) else (bit + 2, count + flag)

/-- Reads a share of at most `left`, with the fewest bits that leave no doubt. -/
def readShare (bytes : ByteArray) (bit left : Nat) : Int × Nat :=
  let width := (left + 1).log2 + 1
  let half := Nat.pow 2 (width - 1)
  let spare := 2 * half - 2 - left
  let n := Bits.numberAt bytes bit width
  if n % half < spare then ((n % half : Nat) - 1, bit + width - 1)
  else ((if n < half then n else n - spare : Nat) - 1, bit + width)

/-- Reads shares until `left` is used up, of at most `most` symbols. Each step reads a
    symbol, so `fuel` is their number. -/
def readShares (bytes : ByteArray) (most : Nat) :
    (fuel : Nat) → (bit left : Nat) → List Int → Option (Nat × List Int)
  | 0, _, _, _ => none
  | fuel + 1, bit, left, known =>
    if left = 0 then (if known.length ≤ most then some (bit, known) else none)
    else if most ≤ known.length then none
    else
      let (share, bit) := readShare bytes bit left
      let left := left - share.natAbs
      if share = 0 then
        let (bit, zeros) := readZeros bytes most bit 0
        readShares bytes most fuel bit left (known ++ 0 :: List.replicate zeros 0)
      else readShares bytes most fuel bit left (known ++ [share])

/-- The least number of states is two to the power of this. -/
def leastLog : Nat := 5

/-- Reads a table from some place on, of at most `most` symbols and of two to the power
    of `mostLog` states. Gives the place behind it. -/
def read? (bytes : ByteArray) (place most mostLog : Nat) : Option (Nat × States) := do
  let log := Bits.numberAt bytes (8 * place) 4 + leastLog
  if mostLog < log then none
  let (bit, shares) ← readShares bytes most (most + 1) (8 * place + 4) (Nat.pow 2 log) []
  let place := (bit + 7) / 8
  if bytes.size < place then none
  return (place, ofShares log shares)

end States

end Abacus.Coding.Zstandard
