import Abacus.Checksum
import Abacus.Coding.Bits

/-!
# The bzip2 format

Data in blocks. Each block is shortened where bytes repeat, sorted by what follows
each byte, written as places in a list of recent bytes, and spelled in several
prefix codes that take turns. Reading undoes these steps from the last to the first.
Blocks that are hard to sort may have the lowest bit of some bytes flipped, at distances
that look random.

* `Bzip2.unpack`: what compressed bytes stand for, and how the reading ended.
* `Bzip2.unsort`, `Bzip2.expandRuns`: the two inner steps.
* `Bzip2.unflip`: flips bits back.
-/

namespace Abacus.Coding.Bzip2

/-! ## Flipped bits -/

/-- The lengths of the pieces, of which one byte each is flipped. They come again from the
    first after the last. -/
def pieces : List Nat :=
  [619, 720, 127, 481, 931, 816, 813, 233, 566, 247, 985, 724, 205, 454, 863, 491, 741, 242, 949,
   214, 733, 859, 335, 708, 621, 574, 73, 654, 730, 472, 419, 436, 278, 496, 867, 210, 399, 680,
   480, 51, 878, 465, 811, 169, 869, 675, 611, 697, 867, 561, 862, 687, 507, 283, 482, 129, 807,
   591, 733, 623, 150, 238, 59, 379, 684, 877, 625, 169, 643, 105, 170, 607, 520, 932, 727, 476,
   693, 425, 174, 647, 73, 122, 335, 530, 442, 853, 695, 249, 445, 515, 909, 545, 703, 919, 874,
   474, 882, 500, 594, 612, 641, 801, 220, 162, 819, 984, 589, 513, 495, 799, 161, 604, 958, 533,
   221, 400, 386, 867, 600, 782, 382, 596, 414, 171, 516, 375, 682, 485, 911, 276, 98, 553, 163,
   354, 666, 933, 424, 341, 533, 870, 227, 730, 475, 186, 263, 647, 537, 686, 600, 224, 469, 68,
   770, 919, 190, 373, 294, 822, 808, 206, 184, 943, 795, 384, 383, 461, 404, 758, 839, 887, 715,
   67, 618, 276, 204, 918, 873, 777, 604, 560, 951, 160, 578, 722, 79, 804, 96, 409, 713, 940, 652,
   934, 970, 447, 318, 353, 859, 672, 112, 785, 645, 863, 803, 350, 139, 93, 354, 99, 820, 908, 609,
   772, 154, 274, 580, 184, 79, 626, 630, 742, 653, 282, 762, 623, 680, 81, 927, 626, 789, 125, 411,
   521, 938, 300, 821, 78, 343, 175, 128, 250, 170, 774, 972, 275, 999, 639, 495, 78, 352, 126, 857,
   956, 358, 619, 580, 124, 737, 594, 701, 612, 669, 112, 134, 694, 363, 992, 809, 743, 168, 974,
   944, 375, 748, 52, 600, 747, 642, 182, 862, 81, 344, 805, 988, 739, 511, 655, 814, 334, 249, 515,
   897, 955, 664, 981, 649, 113, 974, 459, 893, 228, 433, 837, 553, 268, 926, 240, 102, 654, 459,
   51, 686, 754, 806, 760, 493, 403, 415, 394, 687, 700, 946, 670, 656, 610, 738, 392, 760, 799,
   887, 653, 978, 321, 576, 617, 626, 502, 894, 679, 243, 440, 680, 879, 194, 572, 640, 724, 926,
   56, 204, 700, 707, 151, 457, 449, 797, 195, 791, 558, 945, 679, 297, 59, 87, 824, 713, 663, 412,
   693, 342, 606, 134, 108, 571, 364, 631, 212, 174, 643, 304, 329, 343, 97, 430, 751, 497, 314,
   983, 374, 822, 928, 140, 206, 73, 263, 980, 736, 876, 478, 430, 305, 170, 514, 364, 692, 829, 82,
   855, 953, 676, 246, 369, 970, 294, 750, 807, 827, 150, 790, 288, 923, 804, 378, 215, 828, 592,
   281, 565, 555, 710, 82, 896, 831, 547, 261, 524, 462, 293, 465, 502, 56, 661, 821, 976, 991, 658,
   869, 905, 758, 745, 193, 768, 550, 608, 933, 378, 286, 215, 979, 792, 961, 61, 688, 793, 644,
   986, 403, 106, 366, 905, 644, 372, 567, 466, 434, 645, 210, 389, 550, 919, 135, 780, 773, 635,
   389, 707, 100, 626, 958, 165, 504, 920, 176, 193, 713, 857, 265, 203, 50, 668, 108, 645, 990,
   626, 197, 510, 357, 358, 850, 858, 364, 936, 638]

/-- Flips a bit of the last byte but one of every piece. No piece is empty, so `fuel` is
    the number of bytes. -/
def unflipFrom : (fuel : Nat) → (left : List Nat) → List UInt8 → List UInt8
  | 0, _, bytes => bytes
  | fuel + 1, left, bytes =>
    match if left.isEmpty then pieces else left with
    | [] => bytes
    | size :: left =>
      (bytes.take size).modify (size - 2) (· ^^^ 1) ++ unflipFrom fuel left (bytes.drop size)

/-- The bytes of a block with their bits flipped back. -/
def unflip (bytes : List UInt8) : List UInt8 := unflipFrom bytes.length [] bytes

/-! ## Reading -/

/-- Why a reading stops early: the data ran out, or they make no sense. -/
inductive Stop
  | starved
  | corrupt
deriving DecidableEq

/-- The bits to come, and the bytes of the blocks so far. -/
structure State where
  bits : List Bool
  out : List UInt8

/-- A reader of compressed data. It keeps what it has written when it stops. -/
abbrev Reader := EStateM Stop State

/-! ## The inner steps -/

/-- For every place of a sorted block, the place of the byte that comes after it in
    the block as it was: equal bytes keep their order. -/
def successors (sorted : List UInt8) : Array Nat :=
  let places := Array.replicate 256 ([] : List Nat)
  let places := sorted.zipIdx.foldl
    (fun places (b, place) => places.modify b.toNat (place :: ·)) places
  (places.toList.flatMap List.reverse).toArray

/-- Goes along the successors and gives the byte at each place. -/
def trail (sorted : Array UInt8) (next : Array Nat) : (steps : Nat) → (place : Nat) → List UInt8
  | 0, _ => []
  | steps + 1, place =>
    (sorted[place]?).getD 0 :: trail sorted next steps ((next[place]?).getD 0)

/-- The block as it was before it was sorted; `origin` is the place of its first
    rotation. -/
def unsort (sorted : List UInt8) (origin : Nat) : List UInt8 :=
  let next := successors sorted
  trail sorted.toArray next sorted.length ((next[origin]?).getD 0)

/-- After four equal bytes a byte tells how many more there are. `run` counts equal
    bytes up to the one before. -/
def expandRunsFrom (last : UInt8) (run : Nat) : List UInt8 → List UInt8
  | [] => []
  | b :: rest =>
    if run = 4 then List.replicate b.toNat last ++ expandRunsFrom last 0 rest
    else b :: expandRunsFrom b (if run ≠ 0 ∧ b = last then run + 1 else 1) rest

/-- The bytes of a block with all that repeats. -/
def expandRuns (bytes : List UInt8) : List UInt8 := expandRunsFrom 0 0 bytes

/-! ## Small pieces -/

/-- Reads a number of `n` bits, the highest first. -/
def number (n : Nat) : Reader Nat := do
  let s ← get
  let taken := s.bits.take n
  if taken.length < n then throw .starved
  set { s with bits := s.bits.drop n }
  return Bits.highValue taken

/-- Reads a bit. -/
def bit : Reader Bool := return (← number 1) = 1

/-- Reads a symbol of a code. -/
def symbol (code : PrefixCode) : Reader Nat := do
  let s ← get
  match code.read s.bits with
  | .symbol n rest => set { s with bits := rest }; return n
  | .unknown => throw .corrupt
  | .starved => throw .starved

/-- Refuses the data unless a condition holds. -/
def require (condition : Bool) : Reader Unit := do
  if !condition then throw .corrupt

/-- Runs a reader `n` times. -/
def times (n : Nat) (reader : Reader α) : Reader (List α) := (List.replicate n reader).mapM id

/-! ## The head of a block -/

/-- Reads which bytes a block has: which of 16 ranges, then which of each. -/
def usedBytes : Reader (List UInt8) := do
  let ranges ← times 16 bit
  let rows ← ranges.mapM fun isUsed =>
    if isUsed then times 16 bit else pure (List.replicate 16 false)
  return (rows.flatten.zipIdx.filter Prod.fst).map fun (_, place) => place.toUInt8

/-- Counts ones up to a zero; there are at most `bound`. -/
def ones : (bound : Nat) → Reader Nat
  | 0 => throw .corrupt
  | bound + 1 => do
    if ← bit then return (← ones bound) + 1
    return 0

/-- Takes the element at a place and moves it to the front. -/
def moveToFront (list : List α) (place : Nat) : Option (α × List α) :=
  (list[place]?).map fun a => (a, a :: list.eraseIdx place)

/-- Reads which code each group of symbols is spelled in, by places in a list of
    recent codes. -/
def selectors (codes : Nat) : (count : Nat) → (recent : List Nat) → Reader (List Nat)
  | 0, _ => return []
  | count + 1, recent => do
    match moveToFront recent (← ones codes) with
    | none => throw .corrupt
    | some (code, recent) => return code :: (← selectors codes count recent)

/-- Reads steps up or down from a length. Every step takes a bit, so `fuel` is the
    number of bits to come. -/
def lengthSteps : (fuel : Nat) → (length : Nat) → Reader Nat
  | 0, _ => throw .starved
  | fuel + 1, length => do
    require (1 ≤ length && length ≤ PrefixCode.longest)
    if !(← bit) then return length
    lengthSteps fuel (if ← bit then length - 1 else length + 1)

/-- Reads the lengths of the words of a code, each as steps from the one before. -/
def lengths (fuel : Nat) : (count : Nat) → (length : Nat) → Reader (List Nat)
  | 0, _ => return []
  | count + 1, length => do
    let length ← lengthSteps fuel length
    return length :: (← lengths fuel count length)

/-- Reads a code of `count` symbols. -/
def code (fuel count : Nat) : Reader PrefixCode := do
  let start ← number 5
  return .ofLengths (← lengths fuel count start)

/-! ## The symbols of a block -/

/-- How many symbols are spelled before the codes take turns. -/
def groupSize : Nat := 50

/-- How far a block has been read: symbols left in the group, the codes of the groups
    to come, the recent bytes, and what is known of a run: its length so far and the
    weight of its next digit. -/
structure Progress where
  left : Nat
  code : PrefixCode
  groups : List PrefixCode
  recent : List UInt8
  run : Nat
  weight : Nat
  sorted : Array UInt8

/-- Writes out a run of the latest byte. -/
def Progress.endRun (p : Progress) : Progress :=
  { p with
    run := 0
    weight := 1
    sorted := p.sorted ++ Array.replicate p.run (p.recent.headD 0) }

/-- Goes on to the code of the next group if this one is used up. -/
def Progress.turn (p : Progress) : Reader Progress := do
  if p.left ≠ 0 then return { p with left := p.left - 1 }
  match p.groups with
  | [] => throw .corrupt
  | next :: rest => return { p with left := groupSize - 1, code := next, groups := rest }

/-- Reads symbols up to the end of the block, which is the symbol `last`: the digits
    of a run, or places in the list of recent bytes. Every symbol takes a bit, so
    `fuel` is the number of bits to come. -/
def symbols (last room : Nat) : (fuel : Nat) → Progress → Reader (List UInt8)
  | 0, _ => throw .starved
  | fuel + 1, p => do
    let p ← p.turn
    let s ← symbol p.code
    if s < 2 then
      let p := { p with run := p.run + p.weight * (s + 1), weight := 2 * p.weight }
      require (p.sorted.size + p.run ≤ room)
      symbols last room fuel p
    else
      let p := p.endRun
      if s = last then return p.sorted.toList
      match moveToFront p.recent (s - 1) with
      | none => throw .corrupt
      | some (b, recent) =>
        require (p.sorted.size < room)
        symbols last room fuel { p with recent := recent, sorted := p.sorted.push b }

/-- Reads a block after its mark, of at most `room` bytes; gives its check. -/
def block (room : Nat) : Reader Nat := do
  let check ← number 32
  let isFlipped ← bit
  let origin ← number 24
  let used ← usedBytes
  require (!used.isEmpty)
  let codeCount ← number 3
  require (2 ≤ codeCount && codeCount ≤ 6)
  let groupCount ← number 15
  require (1 ≤ groupCount)
  let chosen ← selectors codeCount groupCount (List.range codeCount)
  let fuel := (← get).bits.length + 1
  let codes ← times codeCount (code fuel (used.length + 2))
  let groups := chosen.map fun n => (codes[n]?).getD .unused
  let sorted ← symbols (used.length + 1) room fuel ⟨0, .unused, groups, used, 0, 1, #[]⟩
  require (origin < sorted.length)
  let flipped := unsort sorted origin
  let bytes := expandRuns (if isFlipped then unflip flipped else flipped)
  require (Checksum.crc32HighFirst bytes = check)
  modify fun s => { s with out := s.out ++ bytes }
  return check

/-! ## The whole -/

/-- What a block begins with. -/
def blockMark : Nat := 0x314159265359

/-- What ends the blocks. -/
def endMark : Nat := 0x177245385090

/-- Takes the check of a block into the check of all: that is turned by one bit first. -/
def combine (all check : Nat) : Nat := (2 * all % 0x100000000 + all / 0x80000000) ^^^ check

/-- Reads blocks to the end; `all` is the check of those before. Every block takes
    bits, so `fuel` is their number. -/
def blocks (room : Nat) : (fuel : Nat) → (all : Nat) → Reader Unit
  | 0, _ => throw .starved
  | fuel + 1, all => do
    let mark ← number 48
    if mark = endMark then require ((← number 32) = all)
    else
      require (mark = blockMark)
      let check ← block room
      blocks room fuel (combine all check)

/-- What all data begin with. -/
def magic : Nat := 0x425A68

/-- The unit of the size of blocks. -/
def roomUnit : Nat := 100000

/-- Reads the head and the blocks. -/
def whole : Reader Unit := do
  require ((← number 24) = magic)
  let level ← number 8
  require (0x31 ≤ level && level ≤ 0x39)
  blocks (roomUnit * (level - 0x30)) ((← get).bits.length + 1) 0

/-- The bytes that compressed bytes stand for, and why the reading stopped if it did
    not come to the end. -/
def unpack (input : List UInt8) : List UInt8 × Option Stop :=
  match whole.run ⟨Bits.highFirst input, []⟩ with
  | .ok _ s => (s.out, none)
  | .error stop s => (s.out, some stop)

end Abacus.Coding.Bzip2
