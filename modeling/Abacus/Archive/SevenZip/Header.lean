import Abacus.Archive.SevenZip.Fault

/-!
# Headers of 7z archives

A header lists the packed streams, the folders that are packed in them, the pieces into
which each folder is cut, and the files with their properties. Where it ends too early,
the bytes that are missing count as none: a number is smaller then, or none at all.

* `Header.read`: the header in some bytes.
-/

namespace Abacus.Archive.SevenZip

/-! ## What a header tells -/

/-- The packed streams: where they begin, how many there are, and their sizes. -/
structure Packed where
  place : Nat
  count : Nat
  sizes : List Nat

/-- A folder: its coders, which output of one is the input of another, the sizes of all
    outputs, and its check, which is told for every folder if for one. -/
structure Folder where
  coders : List Coder
  links : List (Nat × Nat)
  sizes : List Nat
  check : Option Nat
  isChecked : Bool

/-- The pieces of all folders: how many each folder has, and their sizes and checks, if
    these are told. -/
structure Pieces where
  counts : List Nat
  sizes : Option (List Int)
  checks : Option (List (Option Nat))

/-- The number of all pieces. -/
def Pieces.count (p : Pieces) : Nat := p.counts.foldr (· + ·) 0

/-- A list of streams. -/
structure Streams where
  packed : Option Packed
  folders : Option (List Folder)
  pieces : Option Pieces

/-- A file: whether it is empty, its name, when it was written, and its attributes. -/
structure Entry where
  isEmpty : Bool
  name : Option (List Char)
  written : Option Nat
  attributes : Option Nat

/-- A header. -/
structure Header where
  streams : Option Streams
  entries : Option (List Entry)

/-! ## Reading -/

/-- A reader of a header, at some place of it. -/
abbrev Reader := ReaderT ByteArray (StateT Nat (Except Fault))

namespace Reader

/-- Reads `n` bytes, or fewer at the end. -/
def take (n : Nat) : Reader (List UInt8) := do
  Excess.amount.refuse n
  let place ← get
  let all ← read
  let bytes := Bytes.slice all place n
  set (place + bytes.length)
  return bytes

/-- Reads a mark, which is missing at the end. -/
def mark : Reader (List UInt8) := take 1

/-- Reads a byte. -/
def byte : Reader Nat := do
  match ← mark with
  | b :: _ => return b.toNat
  | [] => throw .noByte

/-- Reads a number of `width` bytes. -/
def fixed (width : Nat) : Reader Nat := do
  let bytes ← take width
  if bytes.length < width then throw (.shortNumber width)
  return Bytes.littleEndian bytes

/-- How many of the highest bits of a byte are set, before the first that is not. -/
def leadingOnes (b : Nat) : Nat := ((List.range 8).takeWhile fun i => b.testBit (7 - i)).length

/-- Reads a number whose first byte tells by its highest bits how many bytes follow. Its
    other bits are the highest of the number. -/
def number : Reader Nat := do
  let b ← byte
  let width := leadingOnes b
  if width = 8 then fixed 8
  else
    let low := Bytes.littleEndian (← take width)
    return low + b % Nat.pow 2 (7 - width) * Nat.pow 256 width

/-- Reads `n` things. -/
def times (n : Nat) (thing : Reader α) : Reader (List α) :=
  match n with
  | 0 => return []
  | n + 1 => do
    let first ← thing
    return first :: (← times n thing)

/-- No list is longer than this. -/
def mostThings : Nat := 0x1000000

/-- Refuses a number of things of which there are more than `most`. -/
def refuseMore (most n : Nat) : Reader Unit := do
  Excess.amount.refuse n
  if most < n then throw .tooLarge

/-- The same thing `n` times. -/
def copies (n : Nat) (a : α) : Reader (List α) := do
  refuseMore mostThings n
  return List.replicate n a

/-- Reads `n` flags, eight in a byte, the highest bit first. -/
def flags (n : Nat) : Reader (List Bool) := do
  let bytes ← times ((n + 7) / 8) byte
  return (bytes.flatMap fun b => (List.range 8).map fun i => b.testBit (7 - i)).take n

/-- No more flags than these are set at once. -/
def mostFlags : Nat := 0x40000000

/-- Reads flags after a byte that tells whether there are any. If not, all are set. -/
def flagsOrAll (n : Nat) : Reader (Option (List Bool)) := do
  if (← mark) = [0] then return some (← flags n)
  refuseMore mostFlags n
  return none

/-- What belongs to flags: nothing where one is not set. -/
def flagged (flags : Option (List Bool)) (all : List α) : List (Option α) :=
  match flags with
  | some flags => (flags.zip all).map fun (isSet, a) => if isSet then some a else none
  | none => all.map some

/-- Reads a mark and refuses all but one. -/
def expect (m : Mark) (byte : UInt8) : Reader Unit := do
  let found ← mark
  if found ≠ [byte] then throw (.unexpected m found)

/-- Refuses a mark that is not the end of a list. -/
def expectEnd (found : List UInt8) : Reader Unit := do
  if found ≠ [0] then throw (.unexpected .finish found)

/-- Reads at another place, and then goes on here. -/
def elsewhere (place : Nat) (reader : Reader α) : Reader α := do
  Excess.place.refuse place
  let here ← get
  set place
  let a ← reader
  set here
  return a

/-- Reads other bytes from their start. -/
def inside (bytes : List UInt8) (reader : Reader α) : Reader α := do
  let here ← get
  set 0
  let a ← withReader (fun _ => Bytes.ofList bytes) reader
  set here
  return a

end Reader

open Reader

/-! ## Streams -/

/-- Reads checks. -/
def readChecks (n : Nat) : Reader (List Nat) := times n (fixed 4)

/-- Reads the packed streams. Their checks are not used. -/
def Packed.read : Reader Packed := do
  let place ← number
  let count ← number
  let mut found ← mark
  let mut sizes : List Nat := []
  if found = [0x09] then
    sizes ← times count number
    found ← mark
    if found = [0x0A] then
      let defined ← flagsOrAll count
      let _ ← readChecks ((defined.map (·.countP id)).getD count)
      found ← mark
  expectEnd found
  refuseMore mostFlags count
  return ⟨place, count, sizes⟩

/-- Reads a coder. -/
def Coder.read : Reader Coder := do
  let flags ← byte
  let id ← take (flags % 16)
  let isComplex := flags.testBit 4
  let inputs ← if isComplex then number else pure 1
  let outputs ← if isComplex then number else pure 1
  if flags.testBit 5 then return ⟨id, inputs, outputs, some (← take (← number))⟩
  else return ⟨id, inputs, outputs, none⟩

/-- The number of outputs of coders. -/
def outputCount (coders : List Coder) : Nat := coders.foldr (fun c n => c.outputs + n) 0

/-- The number of inputs of coders. -/
def inputCount (coders : List Coder) : Nat := coders.foldr (fun c n => c.inputs + n) 0

/-- Reads a folder, of which the sizes and the check follow later. -/
def Folder.read : Reader Folder := do
  let coders ← times (← number) Coder.read
  let linkCount := outputCount coders - 1
  let links ← times linkCount do return (← number, ← number)
  let open_ : Int := (inputCount coders : Int) - ((outputCount coders : Int) - 1)
  if 1 < open_ then
    let _ ← times open_.toNat number
  return ⟨coders, links, [], none, false⟩

/-- Reads the sizes of all outputs of a folder. -/
def Folder.readSizes (f : Folder) : Reader Folder := do
  return { f with sizes := ← times (outputCount f.coders) number }

/-- Reads the folders. -/
def readFolders : Reader (List Folder) := do
  expect .folder 0x0B
  let count ← number
  let folders ←
    if (← byte) = 0 then times count Folder.read
    else elsewhere (← number) (times count Folder.read)
  expect .sizes 0x0C
  let mut folders ← folders.mapM Folder.readSizes
  let mut found ← mark
  if found = [0x0A] then
    let defined ← flagsOrAll count
    let checks ← readChecks count
    let flags := flagged defined checks
    folders := (folders.zip (flags.zip checks)).map fun (f, flag, check) =>
      { f with isChecked := flag.isSome, check := some check }
    found ← mark
  expectEnd found
  return folders

/-- The size of a folder: that of its last output which is not the first to be linked. -/
def Folder.size (f : Folder) : Reader Nat := do
  let isLast (output : Nat) : Bool := f.links.findIdx? (·.2 = output) ≠ some 0
  match (List.range f.sizes.length).reverse.find? isLast with
  | some output => return (f.sizes[output]?).getD 0
  | none => throw .noSize

/-- Reads the sizes of the pieces of a folder. The last of them is what is left of it. -/
def readPieceSizes (f : Folder) (count : Nat) : Reader (List Int) := do
  let sizes ← times (count - 1) number
  let rest : Int := (← f.size : Int) - (sizes.foldr (· + ·) 0 : Nat)
  return sizes.map (Int.ofNat ·) ++ [rest]

/-- Hands out the checks of pieces: a folder with one piece and a check gives its own. -/
def pieceChecks : List (Folder × Nat) → List (Option Nat) → List (Option Nat)
  | [], _ => []
  | (f, count) :: rest, told =>
    if count = 1 ∧ f.isChecked then f.check :: pieceChecks rest told
    else told.take count ++ pieceChecks rest (told.drop count)

/-- How many checks of pieces are told. -/
def toldCount (counted : List (Folder × Nat)) : Nat :=
  counted.foldr (fun (f, count) n => (if count ≠ 1 || !f.isChecked then count else 0) + n) 0

/-- Reads the pieces of folders. -/
def Pieces.read (folders : List Folder) : Reader Pieces := do
  let mut found ← mark
  let mut counts := folders.map fun _ => 1
  if found = [0x0D] then
    counts ← times folders.length number
    found ← mark
  let counted := folders.zip counts
  let mut sizes : Option (List Int) := none
  if found = [0x09] then
    sizes := some (← counted.mapM fun (f, count) => readPieceSizes f count).flatten
    found ← mark
  let mut checks : List (Option Nat) := []
  if found = [0x0A] then
    let count := toldCount counted
    let defined ← flagsOrAll count
    let told ← readChecks count
    checks := pieceChecks counted (flagged defined told)
    found ← mark
  expectEnd found
  let pieces : Pieces := ⟨counts, sizes, if checks.isEmpty then none else some checks⟩
  if checks.isEmpty then refuseMore mostFlags pieces.count
  return pieces

/-- Reads a list of streams. -/
def Streams.read : Reader Streams := do
  let mut found ← mark
  let mut packed : Option Packed := none
  let mut folders : Option (List Folder) := none
  let mut pieces : Option Pieces := none
  if found = [0x06] then
    packed := some (← Packed.read)
    found ← mark
  if found = [0x07] then
    folders := some (← readFolders)
    found ← mark
  if found = [0x08] then
    match folders with
    | some fs => pieces := some (← Pieces.read fs)
    | none => throw (.missing .folderCount)
    found ← mark
  expectEnd found
  return ⟨packed, folders, pieces⟩

/-! ## Files -/

/-- The most units of a name. -/
def longestName : Nat := 0x10000

/-- Reads units of two bytes up to a zero; `fuel` bounds their number. -/
def readUnits : (fuel : Nat) → Reader (List UInt8)
  | 0 => return []
  | fuel + 1 => do
    let unit ← take 2
    if unit = [0, 0] ∨ unit = [] then return []
    return unit ++ (← readUnits fuel)

/-- Reads a name. A backslash in it is a slash. -/
def readName : Reader (List Char) := do
  match Text.Utf16.decode (← readUnits longestName) with
  | .ok cs => return cs.map fun c => if c = '\\' then '/' else c
  | .error f => throw (.undecodable f)

/-- Reads the names of files. -/
def readNames (entries : List Entry) : Reader (List Entry) :=
  entries.mapM fun e => return { e with name := some (← readName) }

/-- Reads a number of `width` bytes for each of `n` files that has one. -/
def readNumbers (width n : Nat) (defined : Option (List Bool)) : Reader (List (Option Nat)) :=
  match defined with
  | some flags => flags.mapM fun isDefined => if isDefined then some <$> fixed width else pure none
  | none => times n (some <$> fixed width)

/-- Reads attributes of files. -/
def readAttributes (defined : Option (List Bool)) (entries : List Entry) :
    Reader (List Entry) := do
  let numbers ← readNumbers 4 entries.length defined
  return (entries.zip numbers).map fun (e, attributes) => { e with attributes }

/-- Reads the times of files. -/
def readTimes (count : Nat) : Reader (List (Option Nat)) := do
  let defined ← flagsOrAll count
  if (← mark) ≠ [0] then throw .refusedProperty
  readNumbers 8 count defined

/-- Reads something in the header, at a place that a property tells. -/
def readOutside (property : List UInt8) (used : Nat) (reader : Reader α) : Reader α := do
  elsewhere (← inside (property.drop used) number) reader

/-- Reads a property of all files. `bytes` are its own; names and attributes may stand
    elsewhere in the header. -/
def readProperty (kind : List UInt8) (bytes : List UInt8) (entries : List Entry) :
    Reader (List Entry) := do
  let count := entries.length
  match kind with
  | [0x0E] =>
    let empty ← inside bytes (flags count)
    return (entries.zip empty).map fun (e, isEmpty) => { e with isEmpty }
  | [0x0F] =>
    let _ ← inside bytes (flags (entries.countP (·.isEmpty)))
    return entries
  | [0x11] =>
    if bytes.take 1 = [0] then inside (bytes.drop 1) (readNames entries)
    else readOutside bytes 1 (readNames entries)
  | [0x12] | [0x13] =>
    let _ ← inside bytes (readTimes count)
    return entries
  | [0x14] =>
    let times ← inside bytes (readTimes count)
    return (entries.zip times).map fun (e, written) => { e with written }
  | [0x15] =>
    let (defined, place) ← inside bytes do return (← flagsOrAll count, ← get)
    if (bytes.drop place).take 1 = [0] then
      inside (bytes.drop (place + 1)) (readAttributes defined entries)
    else readOutside bytes (place + 1) (readAttributes defined entries)
  | [0x18] => throw .refusedProperty
  | kind => throw (.unknownProperty kind)

/-- Reads the properties of files up to their end. Each takes bytes, so `fuel` is their
    number. -/
def readProperties : (fuel : Nat) → List Entry → Reader (List Entry)
  | 0, entries => return entries
  | fuel + 1, entries => do
    let kind ← mark
    if kind = [0] then return entries
    let size ← number
    if kind = [0x19] then
      Excess.place.refuse size
      Excess.skipped.refuse ((← get) + size)
      modify (· + size)
      readProperties fuel entries
    else
      readProperties fuel (← readProperty kind (← take size) entries)

/-- Reads the files. -/
def readEntries : Reader (List Entry) := do
  let entries ← copies (← number) ⟨false, none, none, none⟩
  readProperties ((← read).size + 1) entries

/-! ## The header -/

/-- Reads a header after its mark. -/
def Header.read : Reader Header := do
  let mut found ← mark
  let mut streams : Option Streams := none
  let mut entries : Option (List Entry) := none
  if found = [0x04] then
    streams := some (← Streams.read)
    found ← mark
  if found = [0x05] then
    entries := some (← readEntries)
    found ← mark
  expectEnd found
  return ⟨streams, entries⟩

end Abacus.Archive.SevenZip
