import Abacus.Archive.Member
import Abacus.Checksum
import Abacus.Coding.Bzip2
import Abacus.Coding.Inflate
import Abacus.Coding.Lzma
import Abacus.Text.Encoding
import Abacus.Text.Character
import Abacus.Text.Utf8

/-!
# Zip archives

The directory of an archive stands near its end, before a record that places it;
other bytes may stand before the archive, and a comment after it. Each entry of
the directory leads to a member, which repeats the name before its contents.
Numbers that are too large for their fields stand in longer ones elsewhere. Contents
are stored as they are or packed in one of three ways, and carry a check.

* `Zip.members`: the members of an archive, in the order of the directory.
-/

namespace Abacus.Archive.Zip

/-! ## Faults -/

/-- The numbers that may be too large for their fields. -/
inductive LongField
  | size
  | packed
  | place
deriving DecidableEq

/-- The name of such a number. -/
def LongField.name : LongField → String
  | .size => "File size"
  | .packed => "Compress size"
  | .place => "Header offset"

/-- What is wrong with an archive, or with one of its members. -/
inductive Fault
  | noDirectory
  | manyDisks
  | directoryPlace
  | directoryTruncated
  | directoryMagic
  | version (tenths : Nat)
  | extraField (kind size : Nat)
  | longNumber (field : LongField)
  | undecodable (f : Text.Utf8.Fault)
  | unnamed
  | memberFar
  | memberPlace
  | memberTruncated
  | memberMagic
  | patched
  | stronglyEncrypted
  | nameDiffers (expected : List Char) (found : List UInt8)
  | overlap (member : List Char)
  | encrypted (member : List Char)
  | method
  | check (member : List Char)
  | deflate (f : Coding.Inflate.Fault)
  | bzip2
  | lzmaProperties
  | lzma
  | endOfData
deriving DecidableEq

/-- A name in quotes. -/
def quoted (name : List Char) : String := String.ofList (Text.quoteChars name)

/-- The words for a fault. -/
def Fault.message : Fault → String
  | .noDirectory => "File is not a zip file"
  | .manyDisks => "zipfiles that span multiple disks are not supported"
  | .directoryPlace => "Bad offset for central directory"
  | .directoryTruncated => "Truncated central directory"
  | .directoryMagic => "Bad magic number for central directory"
  | .version tenths =>
    "zip file version " ++ toString (tenths / 10) ++ "." ++ toString (tenths % 10)
  | .extraField kind size =>
    "Corrupt extra field " ++ String.ofList (Text.hexPadded 4 kind) ++ " (size=" ++
      toString size ++ ")"
  | .longNumber field => "Corrupt zip64 extra field. " ++ field.name ++ " not found."
  | .undecodable f => f.message
  | .unnamed => "string index out of range"
  | .memberFar => "cannot fit 'int' into an offset-sized integer"
  | .memberPlace => "[Errno 22] Invalid argument"
  | .memberTruncated => "Truncated file header"
  | .memberMagic => "Bad magic number for file header"
  | .patched => "compressed patched data (flag bit 5)"
  | .stronglyEncrypted => "strong encryption (flag bit 6)"
  | .nameDiffers expected found =>
    "File name in directory " ++ quoted expected ++ " and header " ++ Text.quoteBytes found ++
      " differ."
  | .overlap member => "Overlapped entries: " ++ quoted member ++ " (possible zip bomb)"
  | .encrypted member =>
    "File " ++ quoted member ++ " is encrypted, password required for extraction"
  | .method => "That compression method is not supported"
  | .check member => "Bad CRC-32 for file " ++ quoted member
  | .deflate f => "Error -3 while decompressing data: " ++ f.reason
  | .bzip2 => "Invalid data stream"
  | .lzmaProperties => "Invalid or unsupported options"
  | .lzma => "Corrupt input data"
  | .endOfData => ""

/-- Is it a value in the archive that makes no sense? -/
def Fault.isOfValue : Fault → Bool
  | .undecodable _ => true
  | .memberFar => true
  | _ => false

/-! ## The directory -/

/-- What marks the record at the end. -/
def endMagic : List UInt8 := [0x50, 0x4B, 0x05, 0x06]

/-- What marks the record with long numbers, and the one that leads to it. -/
def longEndMagic : List UInt8 := [0x50, 0x4B, 0x06, 0x06]

@[inherit_doc longEndMagic]
def locatorMagic : List UInt8 := [0x50, 0x4B, 0x06, 0x07]

/-- What marks an entry of the directory. -/
def entryMagic : List UInt8 := [0x50, 0x4B, 0x01, 0x02]

/-- What marks the head of a member. -/
def memberMagic : List UInt8 := [0x50, 0x4B, 0x03, 0x04]

/-- The length of the record at the end. -/
def endSize : Nat := 22

/-- The lengths of the two records for long numbers. -/
def longEndSize : Nat := 56

@[inherit_doc longEndSize]
def locatorSize : Nat := 20

/-- The length of an entry without its texts. -/
def entrySize : Nat := 46

/-- The length of the head of a member without its texts. -/
def headSize : Nat := 30

/-- The longest comment. -/
def maxComment : Nat := 0x10000

/-- The highest version of the format that is known, in tenths. -/
def knownVersion : Nat := 63

/-- Where the directory is: its start, its size, and how far the archive is moved
    from the place that its own numbers say. -/
structure Directory where
  start : Nat
  size : Nat
  moved : Int

/-- Does the record at the end stand at some place? -/
def isEndAt (bytes : ByteArray) (place : Nat) : Bool := Bytes.slice bytes place 4 = endMagic

/-- The place of the record at the end: the very end if there is no comment, else
    the last place that its mark has. -/
def endPlace? (bytes : ByteArray) : Option Nat :=
  if bytes.size < endSize then none
  else
    let last := bytes.size - endSize
    if isEndAt bytes last && Bytes.number bytes (last + 20) 2 = 0 then some last
    else
      let first := bytes.size - maxComment - endSize
      let places := (List.range' first (bytes.size - first)).reverse
      (places.find? (isEndAt bytes)).filter (· ≤ last)

/-- Where the record with long numbers stands that belongs to the record at some
    place, if there is one. -/
def longEndPlace? (bytes : ByteArray) (place : Nat) : Except Fault (Option Nat) := do
  if place < locatorSize then return none
  let locator := place - locatorSize
  if Bytes.slice bytes locator 4 ≠ locatorMagic then return none
  if Bytes.number bytes (locator + 4) 4 ≠ 0 ∨ 1 < Bytes.number bytes (locator + 16) 4 then
    throw .manyDisks
  if locator < longEndSize then throw .noDirectory
  let long := locator - longEndSize
  return if Bytes.slice bytes long 4 = longEndMagic then some long else none

/-- The directory that ends at some place, from the size and the start that are said. -/
def Directory.before (stop size said : Nat) : Except Fault Directory :=
  if stop < size then .error .directoryPlace
  else .ok ⟨stop - size, size, (stop : Int) - size - said⟩

/-- Finds the directory. -/
def Directory.ofArchive (bytes : ByteArray) : Except Fault Directory := do
  let some place := endPlace? bytes | throw .noDirectory
  match ← longEndPlace? bytes place with
  | some long =>
    Directory.before long (Bytes.number bytes (long + 40) 8) (Bytes.number bytes (long + 48) 8)
  | none =>
    Directory.before place (Bytes.number bytes (place + 12) 4) (Bytes.number bytes (place + 16) 4)

/-- An entry of the directory. `name` is the part of `fullName` before a zero. -/
structure Entry where
  fullName : List Char
  name : List Char
  flags : Nat
  method : Nat
  check : Nat
  packed : Nat
  size : Nat
  place : Int

/-- Is one of the flags set? -/
def hasFlag (flags bit : Nat) : Bool := flags.testBit bit

/-- The flag that says that a name is in UTF-8. -/
def utf8Flag : Nat := 11

/-- A name in the character set that the flags choose. -/
def nameOf (flags : Nat) (bytes : List UInt8) : Except Fault (List Char) :=
  if hasFlag flags utf8Flag then (Text.Utf8.decode bytes).mapError Fault.undecodable
  else .ok (Text.CodePage.decode bytes)

/-- The numbers of an entry that may be too large for their fields. -/
structure LongNumbers where
  size : Nat
  packed : Nat
  place : Nat

/-- What stands in a field whose number is too large. -/
def tooLarge : Nat := 0xFFFFFFFF

@[inherit_doc tooLarge]
def farTooLarge : Nat := 0xFFFFFFFFFFFFFFFF

/-- The kind of the extra field that holds long numbers. -/
def longKind : Nat := 1

/-- Takes a long number if it is wanted; gives it and what follows it. -/
def longNumber (isWanted : Bool) (field : LongField) (bytes : List UInt8) (n : Nat) :
    Except Fault (Nat × List UInt8) :=
  if !isWanted then .ok (n, bytes)
  else if bytes.length < 8 then .error (.longNumber field)
  else .ok (Bytes.littleEndian (bytes.take 8), bytes.drop 8)

/-- Takes the long numbers that are wanted, in their order. -/
def LongNumbers.fill (n : LongNumbers) (bytes : List UInt8) : Except Fault LongNumbers := do
  let (size, bytes) ← longNumber (n.size = tooLarge || n.size = farTooLarge) .size bytes n.size
  let (packed, bytes) ← longNumber (n.packed = tooLarge) .packed bytes n.packed
  let (place, _) ← longNumber (n.place = tooLarge) .place bytes n.place
  return ⟨size, packed, place⟩

/-- Reads extra fields, which have a kind, a size and a content, and takes the long
    numbers from them. Each takes four bytes or more, so `fuel` is the number of
    bytes. -/
def extraFields : (fuel : Nat) → LongNumbers → List UInt8 → Except Fault LongNumbers
  | 0, known, _ => .ok known
  | fuel + 1, known, bytes =>
    if bytes.length < 4 then .ok known
    else do
      let kind := Bytes.littleEndian (bytes.take 2)
      let size := Bytes.littleEndian ((bytes.drop 2).take 2)
      if bytes.length < size + 4 then throw (.extraField kind size)
      let known ← if kind = longKind then known.fill ((bytes.drop 4).take size) else pure known
      extraFields fuel known (bytes.drop (size + 4))

/-- Reads the entry at some place of the directory's bytes; gives its length, too. -/
def Entry.ofDirectory (table : ByteArray) (place : Nat) (moved : Int) :
    Except Fault (Entry × Nat) := do
  if table.size < place + entrySize then throw .directoryTruncated
  if Bytes.slice table place 4 ≠ entryMagic then throw .directoryMagic
  let number (offset len : Nat) : Nat := Bytes.number table (place + offset) len
  let nameSize := number 28 2
  let extraSize := number 30 2
  let flags := number 8 2
  let fullName ← nameOf flags (Bytes.slice table (place + entrySize) nameSize)
  let version := number 6 1
  if knownVersion < version then throw (.version version)
  let long ← extraFields extraSize ⟨number 24 4, number 20 4, number 42 4⟩
    (Bytes.slice table (place + entrySize + nameSize) extraSize)
  let entry : Entry :=
    { fullName
      name := fullName.takeWhile (· ≠ '\x00')
      flags
      method := number 10 2
      check := number 16 4
      packed := long.packed
      size := long.size
      place := long.place + moved }
  return (entry, entrySize + nameSize + extraSize + number 32 2)

/-- Reads the entries from some place of a directory's bytes to their end. Every
    entry has bytes, so `fuel` is their number. -/
def entriesFrom (table : ByteArray) (moved : Int) :
    (fuel : Nat) → (place : Nat) → Except Fault (List Entry)
  | 0, _ => .ok []
  | fuel + 1, place =>
    if table.size ≤ place then .ok []
    else do
      let (entry, length) ← Entry.ofDirectory table place moved
      let rest ← entriesFrom table moved fuel (place + length)
      return entry :: rest

/-- The entries of a directory. -/
def Directory.entries (directory : Directory) (bytes : ByteArray) : Except Fault (List Entry) :=
  let table := bytes.extract directory.start (directory.start + directory.size)
  entriesFrom table directory.moved table.size 0

/-! ## Members -/

/-- Where the space of an entry ends: at the next member that the directory knows,
    or at the directory. Of two entries at one place the later has no space. -/
def spaceEnd (directory : Directory) (entries : List Entry) (entry : Entry) (index : Nat) : Int :=
  let later := entries.zipIdx.filter fun (e, i) =>
    entry.place < e.place || (e.place = entry.place && i < index)
  ((later.map fun (e, _) => e.place).min?).getD directory.start

/-- What unpacking gives: the bytes, and whether the data came to their end. -/
structure Unpacked where
  bytes : List UInt8
  isComplete : Bool

/-- Unpacks a stream of LZMA, which stands behind a version, the length of its
    properties, and these. Nothing comes of data that end before. -/
def unpackLzma (packed : List UInt8) : Except Fault Unpacked := do
  let length := Bytes.littleEndian ((packed.drop 2).take 2)
  if packed.length ≤ 4 + length then return ⟨[], false⟩
  match (packed.drop 4).take length with
  | [first, a, b, c, d] =>
    let some properties := Coding.Lzma.Properties.ofNat? first.toNat | throw .lzmaProperties
    let trace := Coding.Lzma.trace properties (Bytes.littleEndian [a, b, c, d]) none
      (Coding.Lzma.mostOutput packed.length) (Bytes.ofList packed) (4 + length)
    if trace.ending = .failed then throw .lzma
    return ⟨Bytes.toList trace.written, trace.ending = .finished⟩
  | _ => throw .lzmaProperties

/-- The bytes that packed bytes stand for. Data that end too early give what they
    give. -/
def unpack (method : Nat) (packed : List UInt8) : Except Fault Unpacked :=
  match method with
  | 0 => .ok ⟨packed, false⟩
  | 8 =>
    match Coding.Inflate.inflate .near packed with
    | (_, some (.fault f)) => .error (.deflate f)
    | (out, stop) => .ok ⟨Bytes.toList out, stop.isNone⟩
  | 12 =>
    match Coding.Bzip2.unpack packed with
    | (_, some .corrupt) => .error .bzip2
    | (out, stop) => .ok ⟨out, stop.isNone⟩
  | 14 => unpackLzma packed
  | _ => .error .method

/-- Methods of packing that are known. -/
def knownMethods : List Nat := [0, 8, 12, 14]

/-- Places from here on are no places at all. -/
def endOfPlaces : Int := 0x8000000000000000

/-- The last place that a file can have. -/
def lastPlace : Int := 0xFFFFFFFF000

/-- Reads the contents of an entry whose space ends at `stop`. -/
def contents (bytes : ByteArray) (entry : Entry) (stop : Int) : Except Fault (List UInt8) := do
  if endOfPlaces ≤ entry.place ∨ entry.place < -endOfPlaces then throw .memberFar
  if entry.place < 0 ∨ lastPlace < entry.place then throw .memberPlace
  let place := entry.place.toNat
  if bytes.size < place + headSize then throw .memberTruncated
  if Bytes.slice bytes place 4 ≠ memberMagic then throw .memberMagic
  let nameSize := Bytes.number bytes (place + 26) 2
  let extraSize := Bytes.number bytes (place + 28) 2
  let nameBytes := Bytes.slice bytes (place + headSize) nameSize
  if hasFlag entry.flags 5 then throw .patched
  if hasFlag entry.flags 6 then throw .stronglyEncrypted
  let name ← nameOf (Bytes.number bytes (place + 6) 2) nameBytes
  if name ≠ entry.fullName then throw (.nameDiffers entry.fullName nameBytes)
  let start := min (place + headSize + nameSize + extraSize) bytes.size
  if stop < (start : Int) + entry.packed then throw (.overlap entry.fullName)
  if hasFlag entry.flags 0 then throw (.encrypted entry.name)
  if !knownMethods.contains entry.method then throw .method
  let packed := Bytes.slice bytes start entry.packed
  if packed = [] ∧ 0 < entry.packed then throw .endOfData
  let unpacked ← unpack entry.method packed
  let out := unpacked.bytes.take entry.size
  if packed.length < entry.packed ∧ !unpacked.isComplete ∧ out.length < entry.size then
    throw .endOfData
  if Checksum.crc32 out ≠ entry.check then throw (.check entry.name)
  return out

/-- The members of an archive (`ZipFile.infolist`, and `ZipFile.read` for what they hold). A name
    that ends in a slash is a directory's; every member must have a name. -/
def members (bytes : ByteArray) : Except Fault (List (Member Fault)) := do
  let directory ← Directory.ofArchive bytes
  let entries ← directory.entries bytes
  if entries.any (·.name.isEmpty) then throw .unnamed
  return entries.zipIdx.map fun (entry, index) =>
    ⟨entry.name, entry.name.getLast? ≠ some '/',
      ⟨fun _ => contents bytes entry (spaceEnd directory entries entry index)⟩⟩

end Abacus.Archive.Zip
