import Abacus.Archive.Member
import Abacus.Archive.SevenZip.Unpacker
import Abacus.Checksum
import Abacus.Path

/-!
# 7z archives

A short header leads to a long one, which may itself be packed in folders. A file that
is not empty has the next piece of a folder. A file is looked up by its name: all files
with that name are unpacked, and those before them in their folder are checked.

* `SevenZip.members`: the members of an archive.
* `SevenZip.reader`: the reader of 7z archives that the program has.
-/

namespace Abacus.Archive.SevenZip

/-! ## The header of an archive -/

/-- What every archive begins with. -/
def magic : List UInt8 := [0x37, 0x7A, 0xBC, 0xAF, 0x27, 0x1C]

/-- The size of what stands before the packed data. -/
def headSize : Nat := 32

/-- Reads the short header: the place and the size of the long one, and its check. -/
def readHead : Reader (Nat × Nat × Nat) := do
  set (magic.length + 2)
  let check ← Reader.fixed 4
  let place ← Reader.fixed 8
  let size ← Reader.fixed 8
  let longCheck ← Reader.fixed 4
  let told := Bytes.slice (← read) 12 20
  if Checksum.crc32 told ≠ check then throw .headerCheck
  return (place, size, longCheck)

/-- The bytes from a place on; there may be none. -/
def piece (bytes : ByteArray) (place size : Nat) : ByteArray :=
  if bytes.size ≤ place then .empty else bytes.extract place (place + min size bytes.size)

/-- Unpacks the folders that hold a header, one after another. Each moves the place of
    the packed data on. -/
def unpackHeader (bytes : ByteArray) (packed : Option Packed) :
    (place : Nat) → List Folder → Except Fault ByteArray
  | _, [] => .ok .empty
  | place, f :: rest => do
    let some packed := packed | throw (.missing .packedSizes)
    let place := place + packed.place
    match packed.sizes.head?, f.sizes.getLast? with
    | some packedSize, some size =>
      Excess.archivePlace.refuse place
      let u ← Unpacker.start? f (piece bytes place packedSize)
      let (_, out) ← u.read size
      if f.isChecked ∧ f.check ≠ some (Checksum.crc32 out) then throw .blockCheck
      return Bytes.ofList out ++ (← unpackHeader bytes (some packed) (place + size) rest)
    | _, _ => throw .outOfRange

/-- Reads a header behind its mark, or one that is packed. -/
def readHeader (bytes : ByteArray) : Reader Header := do
  match ← Reader.mark with
  | [] => return ⟨none, none⟩
  | [0x01] => Header.read
  | [0x17] =>
    let streams ← Streams.read
    let some folders := streams.folders | throw (.missing .folders)
    let header ← unpackHeader bytes streams.packed headSize folders
    Reader.inside (Bytes.toList header) do
      let found ← Reader.mark
      if found ≠ [0x01] then throw (.unknownField found)
      Header.read
  | found => throw (.unknownField found)

/-- Runs a reader from the start of some bytes. -/
def Reader.run (reader : Reader α) (bytes : ByteArray) : Except Fault α :=
  (·.1) <$> (ReaderT.run reader bytes).run 0

/-- No header is larger than this. -/
def mostHeader : Nat := 0x1000000000

/-- The header of an archive. -/
def headerOf (bytes : ByteArray) : Except Fault Header := do
  if Bytes.slice bytes 0 magic.length ≠ magic then throw .notSevenZip
  let (place, size, check) ← readHead.run bytes
  Excess.archivePlace.refuse place
  Excess.amount.refuse size
  if mostHeader < size then throw .tooLarge
  let header := piece bytes (headSize + place) size
  if Checksum.crc32 (Bytes.toList header) ≠ check then throw .headerCheck
  (readHeader bytes).run header

/-! ## Files -/

/-- Where the contents of a file are: the number of its folder, how much of it they are,
    how much is packed there, and their check. -/
structure Contents where
  folder : Nat
  size : Int
  packedSize : Int
  check : Option Nat

/-- A file of an archive; it may have no contents. -/
structure File where
  entry : Entry
  name : List Char
  contents : Option Contents

namespace File

/-- Has the file some attribute? -/
def hasAttribute (f : File) (mask : Nat) : Bool := (f.entry.attributes.getD 0) &&& mask ≠ 0

/-- Is it a directory? -/
def isDirectory (f : File) : Bool := f.hasAttribute 0x10

/-- Is it a socket? The higher attributes tell the kind of a file if a flag says so. -/
def isSocket (f : File) : Bool :=
  f.hasAttribute 0x8000 && (f.entry.attributes.getD 0) / 0x10000000 = 0xC

end File

/-- What is still to be handed out to files: the number of the folder, how many pieces
    of it were, how many pieces of all folders, and how many packed streams. -/
structure Handout where
  folder : Nat
  taken : Nat
  pieces : Nat
  streams : Nat

/-- The sizes of pieces. When none are told, each folder is one piece. -/
def pieceSizes (folders : List Folder) (pieces : Pieces) : List (Option Int) :=
  match pieces.sizes with
  | some sizes => sizes.map some
  | none => folders.map fun f => f.sizes.getLast?.map Int.ofNat

/-- The place with an index in a list. -/
def indexed (l : List α) (index : Nat) : Except Fault α :=
  match l[index]? with
  | some a => .ok a
  | none => .error .outOfRange

/-- The check of a piece. -/
def Pieces.check (p : Pieces) (index : Nat) : Except Fault (Option Nat) :=
  match p.checks with
  | some checks => indexed checks index
  | none => if index < p.count then .ok none else .error .outOfRange

/-- Hands out the next piece. A folder whose pieces have all been handed out is followed
    by the next one, and takes at least one piece. -/
def Handout.next (h : Handout) (packed : Packed) (folders : List Folder)
    (pieces : Option Pieces) : Except Fault (Contents × Handout) := do
  let f ← indexed folders h.folder
  let some streams := (f.coders.map (·.inputs)).max? | throw .noCoders
  let some pieces := pieces | throw (.missing .counts)
  let count ← indexed pieces.counts h.folder
  if 1 < count ∧ packed.sizes.length ≤ h.streams then throw .outOfRange
  let some size ← indexed (pieceSizes folders pieces) h.pieces | throw .outOfRange
  let packedSize := ((packed.sizes[h.streams]?).map Int.ofNat).getD size
  let check ← pieces.check h.pieces
  let contents := ⟨h.folder, size, packedSize, check⟩
  if count ≤ h.taken + 1 then
    return (contents, ⟨h.folder + 1, 0, h.pieces + 1, h.streams + streams⟩)
  else return (contents, { h with taken := h.taken + 1, pieces := h.pieces + 1 })

/-- Gives each entry its contents. -/
def handOut (packed : Packed) (folders : List Folder) (pieces : Option Pieces) :
    Handout → List Entry → Except Fault (List (Entry × Option Contents))
  | _, [] => .ok []
  | h, e :: rest =>
    if e.isEmpty then do return (e, none) :: (← handOut packed folders pieces h rest)
    else do
      let (contents, h) ← h.next packed folders pieces
      return (e, some contents) :: (← handOut packed folders pieces h rest)

/-- The first time that is too late for a date. -/
def endOfDates : Nat := 2650467744000000000

/-- An archive: its packed streams and folders, if it has any, and its files. -/
structure Listing where
  packed : Packed
  folders : List Folder
  files : List File

/-- The files of an archive with some name. A file without a name has that of the archive
    without its extension. -/
def Listing.ofArchive (name : List Char) (bytes : ByteArray) : Except Fault Listing := do
  let header ← headerOf bytes
  let entries := header.entries.getD []
  let (packed, folders, given) ←
    match header.streams with
    | none => .ok (⟨0, 0, []⟩, [], entries.map (·, none))
    | some streams =>
      if header.entries.isNone then .ok (⟨0, 0, []⟩, [], [])
      else do
        let some folders := streams.folders | throw (.missing .folders)
        let some packed := streams.packed | throw (.missing .packedSizes)
        let given ← handOut packed folders streams.pieces ⟨0, 0, 0, 0⟩ entries
        .ok (packed, folders, given)
  if entries.any (·.written.any (endOfDates ≤ ·)) then throw .farDate
  let usual := name.take (name.length - (Path.nameSuffix name).length)
  return ⟨packed, folders, given.map fun (e, contents) => ⟨e, e.name.getD usual, contents⟩⟩

/-! ## Looking up a file -/

/-- A name that no file before has: a number is put behind it if need be. One of the
    first numbers is free, so `fuel` is one more than the number of names. -/
def freshName (used : List (List Char)) (name : List Char) : (fuel : Nat) → (n : Nat) → List Char
  | 0, _ => name
  | fuel + 1, n =>
    let numbered := name ++ '_' :: (toString n).toList
    if used.contains numbered then freshName used name fuel (n + 1) else numbered

/-- The names under which files are unpacked. -/
def freshNames (used : List (List Char)) : List (List Char) → List (List Char)
  | [] => []
  | name :: rest =>
    let fresh := if used.contains name then freshName used name (used.length + 1) 0 else name
    fresh :: freshNames (fresh :: used) rest

/-- Does a path lead out of the place where it starts? -/
def leadsOut (names : List (List Char)) : Bool :=
  (names.foldl
    (fun (depth, isOut) name =>
      if name = ['.', '.'] then (depth - 1, isOut || depth = 0) else (depth + 1, isOut))
    ((0 : Nat), false)).2

/-- The path under which a file is unpacked, which stays where it starts. -/
def safePath? (fresh : List Char) : Except Fault Path :=
  let relative := fresh.dropWhile (· = '/')
  let path := Path.ofChars relative
  if leadsOut path.names then .error (.badPath relative) else .ok path

/-! ## Unpacking files -/

/-- A file to be unpacked, or to be checked only. -/
structure Task where
  name : List Char
  contents : Option Contents
  isWanted : Bool

/-- How far a folder is unpacked: where its packed data begin and how far they reach, and
    its stages, as soon as they are needed. -/
structure Progress where
  folder : Folder
  start : Nat
  stop : Nat
  unpacker : Option Unpacker

/-- The place in the archive up to which data were read. -/
def Progress.place (p : Progress) : Nat :=
  match p.unpacker with
  | some u => p.start + (if u.isFed then u.packed.size else 0)
  | none => p.start

/-- Unpacks the next contents and checks them. When all data were read the folder is
    checked, too, as far as it was unpacked. -/
def Progress.next (p : Progress) (bytes : ByteArray) (name : List Char) (c : Contents) :
    Except Fault (Progress × List UInt8) := do
  let u ← match p.unpacker with
    | some u => .ok u
    | none => Unpacker.start? p.folder (piece bytes p.start c.packedSize.toNat)
  let (u, out) ← u.read c.size
  let p := { p with unpacker := some u }
  if p.stop ≤ p.place then
    match p.folder.check with
    | some check =>
      let found := Checksum.crc32 (Bytes.toList u.out)
      if found ≠ check then throw (.check check found none)
    | none => pure ()
  let found := Checksum.crc32 out
  match c.check with
  | some check => if found ≠ check then throw (.check found check (some name))
  | none => pure ()
  return (p, out)

/-- Unpacks and checks files that are not wanted. -/
def checkAll (bytes : ByteArray) (p : Progress) : List Task → Except Fault Progress
  | [] => .ok p
  | t :: rest =>
    match t.contents with
    | none => checkAll bytes p rest
    | some c => do
      let (p, _) ← p.next bytes t.name c
      checkAll bytes p rest

/-- Unpacks the files of a folder that are wanted; gives the first of them. Those before
    a wanted file are checked, and `waiting` are those since the last one. -/
def unpackAll (bytes : ByteArray) :
    (waiting : List Task) → (first : Option (List UInt8)) → Progress → List Task →
      Except Fault (Option (List UInt8))
  | _, first, _, [] => .ok first
  | waiting, first, p, t :: rest =>
    if !t.isWanted then unpackAll bytes (waiting ++ [t]) first p rest
    else do
      let p ← checkAll bytes p waiting
      match t.contents with
      | none => unpackAll bytes [] (some (first.getD [])) p rest
      | some c =>
        let (p, out) ← p.next bytes t.name c
        unpackAll bytes [] (some (first.getD out)) p rest

/-- The place where a packed stream begins, or where the last one ends. -/
def Packed.placeOf (p : Packed) (index : Nat) : Except Fault Nat :=
  if index ≤ p.count then .ok ((p.sizes.take index).foldr (· + ·) 0) else .error .outOfRange

/-- The place where the last packed stream ends. -/
def Packed.stop (p : Packed) : Nat := (p.sizes.take p.count).foldr (· + ·) 0

/-- What is to be done with each of several folders that has a wanted file. A folder must
    have files. -/
def folderTasks (l : Listing) (tasks : List Task) :
    Except Fault (List (Progress × List Task)) := do
  let listed ← l.folders.zipIdx.mapM fun (folder, index) => do
    let own := tasks.filter fun t => t.contents.any (·.folder = index)
    if own.isEmpty then throw .noFiles
    if own.any (·.isWanted) then
      let start ← l.packed.placeOf index
      let stop ← l.packed.placeOf (index + 1)
      return some (⟨folder, headSize + start, headSize + stop, none⟩, own)
    else return none
  return listed.filterMap id

/-- Unpacks all wanted files; gives the first of them. -/
def unpackTasks (l : Listing) (bytes : ByteArray) (tasks : List Task) :
    Except Fault (Option (List UInt8)) :=
  match l.folders with
  | [folder] =>
    unpackAll bytes [] none ⟨folder, headSize, headSize + l.packed.stop, none⟩ tasks
  | _ => do
    let firsts ← (← folderTasks l tasks).mapM fun (p, own) => do
      Excess.archivePlace.refuse p.start
      unpackAll bytes [] none p own
    let wanted := tasks.find? (·.isWanted)
    if wanted.any (·.contents.isNone) then return some []
    else return firsts.findSome? id

/-- The contents of the first file with a name. It must be a file whose name is a plain
    path. All files with this name are unpacked, except directories and sockets. -/
def Listing.read (l : Listing) (bytes : ByteArray) (name : List Char) :
    Except Fault (List UInt8) := do
  let fresh := freshNames [] (l.files.map (·.name))
  let paths ← fresh.mapM safePath?
  let isWanted (f : File) : Bool := f.name == name && !f.isDirectory && !f.isSocket
  let tasks := l.files.map fun f => ⟨f.name, f.contents, isWanted f⟩
  let first ← unpackTasks l bytes tasks
  let isFound := (l.files.zip paths).any fun (f, p) => isWanted f && p.chars == name
  if isFound then return first.getD [] else throw (.unlisted name)

/-- The members of an archive of some name (`SevenZipFile.list`, and `SevenZipFile.read` for what
    they hold). -/
def members (name : List Char) (bytes : ByteArray) : Except Fault (List (Member Fault)) := do
  let l ← Listing.ofArchive name bytes
  return l.files.map fun f => ⟨f.name, !f.isDirectory, ⟨fun _ => l.read bytes f.name⟩⟩

/-- The reader of 7z archives that the program has. -/
instance reader : SevenZipReader where
  Fault := Fault
  decEq := inferInstance
  message := Fault.message
  isOfValue := Fault.isOfValue
  members := members

end Abacus.Archive.SevenZip
