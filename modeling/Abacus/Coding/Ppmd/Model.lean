import Abacus.Coding.Ppmd.Arena

/-!
# Prediction by partial matching

A model of a text: for each sequence of latest bytes that came before, a context,
which counts the bytes that followed it. A context leads to the one that is shorter by
a byte, and each of its counts to the context that is longer by that byte, or to the
place in the text where that one would begin. What the model has learnt is forgotten
when its arena is full.

* `Model.start`: the model before any text.
* `Model.found`, `Model.foundSingle`, `Model.foundMasked`: learn that a byte followed.
-/

namespace Abacus.Coding.Ppmd

/-! ## Contexts -/

/-- Where a count leads: nowhere yet, to the text, or to a context. -/
inductive Link
  | none
  | text (place : Nat)
  | context (place : Nat)
deriving DecidableEq, Inhabited

/-- How often a byte followed. -/
structure Count where
  byte : UInt8
  times : Nat
  next : Link
deriving Inhabited

/-- A context: its counts, which stand in a block of the arena if there are several;
    their sum with the share of other bytes; and the context that is shorter. -/
structure Context where
  counts : Array Count
  block : Nat
  total : Nat
  shorter : Option Nat
deriving Inhabited

/-- The number of counts. -/
def Context.size (c : Context) : Nat := c.counts.size

/-- The index of the count of a byte. -/
def Context.indexOf (c : Context) (byte : UInt8) : Nat := c.counts.findIdx (·.byte == byte)

/-- The count with an index. -/
def Context.count (c : Context) (index : Nat) : Count := (c.counts[index]?).getD default

/-- Changes the count with an index. -/
def Context.modify (c : Context) (index : Nat) (change : Count → Count) : Context :=
  { c with counts := c.counts.modify index change }

/-- An estimate of how often bytes follow that have no count. -/
structure Escape where
  sum : Nat
  shift : Nat
  left : Nat
deriving Inhabited

/-! ## The model -/

/-- A model. `longest` is the context of the latest bytes, `current` the one in which
    the byte was found, or is looked for, at the index `found`. `fall` tells how many
    bytes the context is short of the most; `run` counts well predicted bytes. -/
structure Model where
  order : Nat
  size : Nat
  arena : Arena
  text : ByteArray
  contexts : Std.HashMap Nat Context
  longest : Nat
  current : Nat
  found : Nat
  lastByte : UInt8
  fall : Nat
  run : Int
  firstRun : Int
  wasLikely : Bool
  firstEscape : Nat
  highByte : Bool
  single : Array Nat
  escapes : Array Escape

namespace Model

/-- Counts are halved when one is above this. -/
def mostTimes : Nat := 124

/-- What is learnt of single counts starts from these. -/
def firstSingle : List Nat :=
  [0x3CDD, 0x1F3F, 0x59BF, 0x48F3, 0x64A1, 0x5ABC, 0x6632, 0x6051]

/-- The unit of chances of single counts. -/
def singleUnit : Nat := 0x4000

/-- The bits of the fraction in estimates. -/
def periodBits : Nat := 7

/-- What is learnt of single counts, for every count, in sixty-four situations. -/
def startSingle : Array Nat :=
  ((List.range 128).flatMap fun times =>
    (List.range 64).map fun situation =>
      singleUnit - (firstSingle[situation % 8]?).getD 0 / (times + 2)).toArray

/-- What is learnt of escapes, in sixteen situations for each class of contexts. -/
def startEscapes : Array Escape :=
  ((List.range 25).flatMap fun cls =>
    List.replicate 16 ⟨(5 * cls + 10) * Nat.pow 2 (periodBits - 4), periodBits - 4, 4⟩).toArray

/-- A model before any text, for contexts of at most `order` bytes. The context of no
    bytes has all counts. -/
def start (order size : Nat) : Model :=
  let arena := Arena.ofSize size
  let root := size - unitSize
  let counts := ((List.range 256).map fun b => (⟨b.toUInt8, 1, .none⟩ : Count)).toArray
  let firstRun : Int := -(min order 12 : Nat) - 1
  { order, size
    arena := { arena with high := root, low := arena.low + 128 * unitSize }
    text := .empty
    contexts := Std.HashMap.emptyWithCapacity.insert root ⟨counts, arena.low, 257, none⟩
    longest := root, current := root, found := 0, lastByte := 0
    fall := order, run := firstRun, firstRun, wasLikely := false
    firstEscape := 0, highByte := false
    single := startSingle, escapes := startEscapes }

/-- The context at some place. -/
def context (m : Model) (place : Nat) : Context := m.contexts.getD place default

/-- Changes the context at some place. -/
def modify (m : Model) (place : Nat) (change : Context → Context) : Model :=
  { m with contexts := m.contexts.insert place (change (m.context place)) }

/-- Changes a count. -/
def modifyCount (m : Model) (place index : Nat) (change : Count → Count) : Model :=
  m.modify place (·.modify index change)

/-- The count that was found. -/
def foundCount (m : Model) : Count := (m.context m.current).count m.found

/-- What is learnt when the arena is full: nothing. The order and the size stay, and so
    do the situation and the share of escapes. -/
def restart (m : Model) : Model :=
  { start m.order m.size with firstEscape := m.firstEscape, highByte := m.highByte }

/-! ## Longer contexts -/

/-- Goes to shorter contexts as long as the byte leads to the same place of the text;
    gives these, the shortest first, and the context where another is known. A context
    has fewer than `fuel` shorter ones. -/
def climb (m : Model) (byte : UInt8) (branch : Link) :
    (fuel : Nat) → (place : Nat) → List (Nat × Nat) → Nat × List (Nat × Nat)
  | 0, place, passed => (place, passed)
  | fuel + 1, place, passed =>
    match (m.context place).shorter with
    | none => (place, passed)
    | some place =>
      let c := m.context place
      let index := c.indexOf byte
      match (c.count index).next with
      | .context other => (other, passed)
      | next =>
        if next = branch then climb m byte branch fuel place ((place, index) :: passed)
        else (place, passed)

/-- How often a byte is taken to have followed in a new context, from what is known in
    the shorter one. -/
def inherited (c : Context) (byte : UInt8) : Nat :=
  if c.size = 1 then (c.count 0).times
  else
    let own := (c.count (c.indexOf byte)).times - 1
    let others := c.total - c.size - own
    1 + if 2 * own ≤ others then (if others < 5 * own then 1 else 0)
      else (2 * own + 3 * others - 1) / (2 * others)

/-- Makes a context for each place that was passed, each the longer one of the one
    before; gives the last of them. -/
def grow (only : Count) : (passed : List (Nat × Nat)) → (shorter : Nat) → Model →
    Option (Nat × Model)
  | [], shorter, m => some (shorter, m)
  | (place, index) :: rest, shorter, m => do
    let (new, arena) ← m.arena.takeUnit?
    let contexts := m.contexts.insert new ⟨#[only], 0, 0, some shorter⟩
    let m := { m with arena, contexts }
    grow only rest new (m.modifyCount place index ({ · with next := .context new }))

/-- Makes the contexts that the found count leads to, and the like of shorter ones; the
    count itself is left as it is when `skip` is set. -/
def extend? (m : Model) (skip : Bool) : Option (Nat × Model) :=
  let count := m.foundCount
  let passed := if skip then [] else [(m.current, m.found)]
  let (place, passed) := m.climb count.byte count.next (m.order + 2) m.current passed
  match count.next with
  | .text at_ =>
    let byte := (m.text[at_]?).getD 0
    m.grow ⟨byte, inherited (m.context place) byte, .text (at_ + 1)⟩ passed place
  | _ => some (place, m)

/-! ## Learning -/

/-- Counts the found byte in the shorter context, too, when it is rare yet. -/
def learnShorter (m : Model) : Model :=
  let count := m.foundCount
  match (m.context m.current).shorter with
  | none => m
  | some place =>
    if mostTimes / 4 ≤ count.times then m
    else
      let c := m.context place
      if c.size = 1 then
        if (c.count 0).times < 32 then
          m.modifyCount place 0 fun s => { s with times := s.times + 1 }
        else m
      else
        let index := c.indexOf count.byte
        let isAhead := index ≠ 0 && (c.count (index - 1)).times ≤ (c.count index).times
        let c :=
          if isAhead then { c with counts := c.counts.swapIfInBounds index (index - 1) } else c
        let index := if isAhead then index - 1 else index
        let c :=
          if (c.count index).times < mostTimes - 9 then
            { c.modify index fun s => { s with times := s.times + 2 } with total := c.total + 2 }
          else c
        { m with contexts := m.contexts.insert place c }

/-- Makes room for one more count in a context of several. -/
def widen? (m : Model) (place : Nat) : Option Model :=
  let c := m.context place
  if c.size % 2 ≠ 0 then some m
  else
    let units := c.size / 2
    let cls := classOf units
    if cls = classOf (units + 1) then some m
    else do
      let (block, arena) ← m.arena.takeBlock? (cls + 1)
      return { m with arena := arena.put c.block cls }.modify place ({ · with block })

/-- Gives a context of one count a block for several. -/
def detach? (m : Model) (place isMany : Nat) : Option Model := do
  let (block, arena) ← m.arena.takeBlock? 0
  let halve (times : Nat) : Nat := if times < mostTimes / 4 - 1 then 2 * times else mostTimes - 4
  let count := (m.context place).count 0
  let times := halve count.times
  return { m with arena }.modify place fun c =>
    { c with block, counts := #[{ count with times }], total := times + m.firstEscape + isMany }

/-- What the sum of a context of `size` counts gains before a count is added, when the
    found one is in a context of `seen` counts. -/
def gain (total size seen : Nat) : Nat :=
  (if 2 * size < seen then 1 else 0) +
    if 4 * size ≤ seen ∧ total ≤ 8 * size then 2 else 0

/-- Adds a count of the found byte to a context: how often it is taken to have followed
    depends on its share in the shorter context. -/
def addCount (m : Model) (place others : Nat) (next : Link) : Model :=
  let count := m.foundCount
  m.modify place fun c =>
    let share := 2 * count.times * (c.total + 6)
    let whole := others + c.total
    let (times, total) :=
      if share < 6 * whole then
        (1 + (if whole < share then 1 else 0) + (if 4 * whole ≤ share then 1 else 0), c.total + 3)
      else
        let times := 4 + (if 9 * whole ≤ share then 1 else 0) +
          (if 12 * whole ≤ share then 1 else 0) + (if 15 * whole ≤ share then 1 else 0)
        (times, c.total + times)
    { c with counts := c.counts.push ⟨count.byte, times, next⟩, total }

/-- Adds a count of the found byte to the contexts from some place up to the current
    one. A context has fewer than `fuel` shorter ones. -/
def addCounts (others seen : Nat) (next : Link) :
    (fuel : Nat) → (place : Nat) → Model → Option Model
  | 0, _, m => some m
  | fuel + 1, place, m =>
    if place = m.current then some m
    else do
      let c := m.context place
      let m ←
        if c.size = 1 then m.detach? place (if 3 < seen then 1 else 0)
        else
          (m.widen? place).map (·.modify place fun c =>
            { c with total := c.total + gain c.total c.size seen })
      addCounts others seen next fuel (c.shorter.getD m.current) (m.addCount place others next)

/-- Learns that the found byte followed, if the arena has room. -/
def update? (m : Model) : Option Model := do
  let next := m.foundCount.next
  let m := m.learnShorter
  -- The found count itself stands in the current context, which is not changed there.
  if m.fall = 0 then
    let (place, m) ← m.extend? true
    let m := m.modifyCount m.current m.found ({ · with next := .context place })
    return { m with longest := place, current := place }
  let end_ := m.arena.text
  let byte := m.foundCount.byte
  let text := if end_ < m.text.size then m.text.set! end_ byte else m.text.push byte
  let m := { m with text, arena := { m.arena with text := end_ + 1 } }
  if m.arena.start ≤ end_ + 1 then none
  let here : Link := .text (end_ + 1)
  let (target, m) ← match next with
    | .none => some (m.current, m.modifyCount m.current m.found ({ · with next := here }))
    | .text _ => m.extend? false
    | .context place => some (place, m)
  let fall := if next = .none then m.fall else m.fall - 1
  let isFull := next ≠ .none && fall = 0
  let arena := if isFull && m.longest ≠ m.current then { m.arena with text := end_ } else m.arena
  let m := { m with fall, arena }
  let c := m.context m.current
  let others := c.total - c.size - (m.foundCount.times - 1)
  let link := if isFull then .context target else here
  let m ← m.addCounts others c.size link (m.order + 2) m.longest
  return { m with longest := target, current := target }

/-- Learns that the found byte followed. -/
def update (m : Model) : Model :=
  let byte := m.foundCount.byte
  match m.update? with
  | some m => { m with lastByte := byte }
  | none => m.restart

/-- Goes on to the next byte: to the longer context if it is known, or by learning. -/
def advance (m : Model) : Model :=
  match m.fall, m.foundCount.next with
  | 0, .context place =>
    { m with lastByte := m.foundCount.byte, longest := place, current := place }
  | _, _ => m.update

/-! ## Halving counts -/

/-- Adds a count to sorted ones: it comes before those that are smaller. -/
def settle (sorted : List Count) (count : Count) : List Count :=
  let kept := sorted.reverse.dropWhile (·.times < count.times)
  let passed := sorted.reverse.takeWhile (·.times < count.times)
  kept.reverse ++ count :: passed.reverse

/-- How often the last byte that is left of a context is taken to have followed: half as
    often for each time that the share of other bytes can be halved. That share is at
    most `fuel`. -/
def reduced : (fuel : Nat) → (times escape : Nat) → Nat
  | 0, times, _ => times
  | fuel + 1, times, escape =>
    let times := times - times / 2
    if 1 < escape / 2 then reduced fuel times (escape / 2) else times

/-- Halves the counts of the current context. The found one comes first, the others are
    sorted; those that vanish are dropped, and other bytes get their share. -/
def halve (m : Model) : Model :=
  let c := m.context m.current
  let first := m.foundCount
  let rest := (c.counts.toList.eraseIdx m.found)
  let adder := if m.fall ≠ 0 then 1 else 0
  let half (s : Count) : Count := { s with times := (s.times + adder) / 2 }
  let escape := c.total - first.times - rest.foldr (fun s n => s.times + n) 0
  let sorted := (rest.map half).foldl settle [half { first with times := first.times + 4 }]
  let left := sorted.filter (·.times ≠ 0)
  let dropped := sorted.length - left.length
  let escape := escape + dropped
  if left.length = 1 ∧ dropped ≠ 0 then
    let count := left.headD default
    let arena := m.arena.put c.block (classOf ((sorted.length + 1) / 2))
    let count := { count with times := reduced c.total count.times escape }
    { m with arena, found := 0 }.modify m.current ({ · with counts := #[count], block := 0 })
  else
    let (block, arena) :=
      if dropped = 0 then (c.block, m.arena)
      else m.arena.shrink c.block ((sorted.length + 1) / 2) ((left.length + 1) / 2)
    let total := left.foldr (fun s n => s.times + n) 0 + escape - escape / 2
    { m with arena, found := 0 }.modify m.current
      ({ · with counts := left.toArray, block, total })

/-- Counts the found byte four times more. -/
def raise (m : Model) : Model :=
  m.modify m.current fun c =>
    { c.modify m.found fun s => { s with times := s.times + 4 } with total := c.total + 4 }

/-- Halves the counts if the found one has become too large. -/
def halveIfLarge (m : Model) : Model := if mostTimes < m.foundCount.times then m.halve else m

/-! ## What was found -/

/-- The byte is the first one of the current context. -/
def foundFirst (m : Model) : Model :=
  let c := m.context m.current
  let wasLikely := c.total < 2 * (c.count 0).times
  let m := { m with found := 0, wasLikely, run := m.run + (if wasLikely then 1 else 0) }
  m.raise.halveIfLarge.advance

/-- The byte is another one of the current context. -/
def foundLater (m : Model) (index : Nat) : Model :=
  let m := { m with found := index, wasLikely := false }.raise
  let c := m.context m.current
  if (c.count (index - 1)).times < (c.count index).times then
    let m := m.modify m.current fun c =>
      { c with counts := c.counts.swapIfInBounds index (index - 1) }
    { m with found := index - 1 }.halveIfLarge.advance
  else m.advance

/-- The byte is the only one of the current context. -/
def foundSingle (m : Model) : Model :=
  let m := m.modifyCount m.current 0 fun s =>
    { s with times := s.times + (if s.times < 128 then 1 else 0) }
  { m with found := 0, wasLikely := true, run := m.run + 1 }.advance

/-- The byte was found after others had been ruled out. -/
def foundMasked (m : Model) (index : Nat) : Model :=
  let m := { m with found := index }.raise.halveIfLarge
  { m with run := m.firstRun }.update

end Model

end Abacus.Coding.Ppmd
