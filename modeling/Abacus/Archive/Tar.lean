import Abacus.Archive.Member
import Abacus.Coding.PackedFile
import Abacus.Numeral
import Abacus.Text.Encoding

/-!
# Tape archives

A tape is cut into blocks. A member has one block of header, then its contents in
whole blocks. Some headers describe the next member: they hold a long name, or
records of keywords and values, for one member or for all that follow. Of a member
with holes the tape has the pieces between them. A block of zeros ends the tape, and
so does a header that makes no sense, unless it is the first.

* `Tar.members`: the members of a packed tape.
-/

namespace Abacus.Archive.Tar

open Coding
open Numeral (Integer.Fault)

/-! ## Faults -/

/-- Why there is no header at some place. -/
inductive HeaderFault
  | ended
  | empty
  | truncated
  | checksum
  | invalid
deriving DecidableEq

/-- The words for a missing header. -/
def HeaderFault.message : HeaderFault → String
  | .ended => "end of file header"
  | .empty => "empty header"
  | .truncated => "truncated header"
  | .checksum => "bad checksum"
  | .invalid => "invalid header"

/-- What is wrong with a packed tape. Of the last ones, a list of pieces ends within a
    number or a block; a place or a length is beyond what a file can have. -/
inductive Fault
  | notPacked
  | unpacking (f : PackedFault)
  | empty
  | header (f : HeaderFault)
  | endOfData
  | number (f : Integer.Fault)
  | endOfPieces
  | endOfBlock
  | farPlace
  | negativeLength
  | farLength
  | tooLong
deriving DecidableEq

/-- The words for a fault. -/
def Fault.message : Fault → String
  | .notPacked => "not an lzma file"
  | .unpacking f => f.message
  | .empty => "empty file"
  | .header f => f.message
  | .endOfData => "unexpected end of data"
  | .number f => f.message
  | .endOfPieces => "not enough values to unpack (expected 2, got 1)"
  | .endOfBlock => "index out of range"
  | .farPlace => "cannot fit 'int' into an offset-sized integer"
  | .negativeLength => "read length must be non-negative or -1"
  | .farLength => "cannot fit 'int' into an index-sized integer"
  | .tooLong => ""

/-- Is it a value on the tape that makes no sense? -/
def Fault.isOfValue : Fault → Bool
  | .number _ => true
  | .endOfPieces => true
  | .farPlace => true
  | .negativeLength => true
  | _ => false

/-! ## Fields of a header -/

/-- The size of a block. -/
def blockSize : Nat := 512

/-- A size in whole blocks. -/
def blocked (size : Int) : Int := (size + blockSize - 1).fdiv blockSize * blockSize

/-- A piece of a header. -/
def field (header : List UInt8) (start stop : Nat) : List UInt8 :=
  (header.drop start).take (stop - start)

/-- The bytes before the first zero. -/
def untilZero (bytes : List UInt8) : List UInt8 := bytes.takeWhile (· ≠ 0)

/-- A number in bytes after a mark, which tells its sign, or in octal digits. -/
def number? (bytes : List UInt8) : Option Int :=
  match bytes with
  | 0x80 :: rest => some (Bytes.bigEndian rest)
  | 0xFF :: rest => some ((Bytes.bigEndian rest : Int) - Nat.pow 256 rest.length)
  | _ =>
    let text := untilZero bytes
    if text.all (· < 0x80) then Numeral.Integer.octal? (Text.Stray.text text) else none

/-- The value of a byte with a sign. -/
def signed (b : UInt8) : Int := if b < 0x80 then b.toNat else (b.toNat : Int) - 256

/-- Is this the sum of the header's bytes, where the sum itself counts as blanks?
    The bytes may have been added with or without a sign. -/
def hasSum (header : List UInt8) (sum : Int) : Bool :=
  let bytes := header.take 148 ++ header.drop 156
  let add (value : UInt8 → Int) : Int := bytes.foldr (fun b rest => value b + rest) 256
  sum = add (fun b => b.toNat) || sum = add signed

/-- A piece of a member with holes: where it belongs, and its size. -/
abbrev Piece := Int × Int

/-- Contents that are a file's. -/
def isRegular (flag : UInt8) : Bool := [0x30, 0, 0x37, 0x53].contains flag

/-- Members without contents: links, devices, directories, queues. -/
def isBare (flag : UInt8) : Bool := 0x31 ≤ flag && flag ≤ 0x36

/-- Headers that hold the name, or the target, of the next member. -/
def isLongName (flag : UInt8) : Bool := flag = 0x4C

@[inherit_doc isLongName]
def isLongTarget (flag : UInt8) : Bool := flag = 0x4B

/-- Headers of members whose pieces are listed in the header and in blocks behind it. -/
def isPieced (flag : UInt8) : Bool := flag = 0x53

/-- Headers whose names have no second part. -/
def isWhole (flag : UInt8) : Bool := isLongName flag || isLongTarget flag || isPieced flag

/-- Headers that hold records for all members that follow. -/
def isGlobal (flag : UInt8) : Bool := flag = 0x67

/-- Headers that hold records for the next member. -/
def isLocal (flag : UInt8) : Bool := flag = 0x78 || flag = 0x58

/-- A name without the slashes at its end. -/
def withoutSlashes (name : List UInt8) : List UInt8 :=
  (name.reverse.dropWhile (· = 0x2F)).reverse

/-- What a header says of a member. -/
structure Header where
  name : List UInt8
  size : Int
  flag : UInt8

/-- Where the numbers of a header stand, besides its sum and the size. -/
def numberFields : List (Nat × Nat) :=
  [(100, 108), (108, 116), (116, 124), (136, 148), (329, 337), (337, 345)]

/-- A number that stands in a header. -/
def numberAt (bytes : List UInt8) (start stop : Nat) : Except HeaderFault Int :=
  match number? (field bytes start stop) with
  | some n => .ok n
  | none => .error .invalid

/-- Reads a header. -/
def Header.ofBlock (bytes : List UInt8) : Except HeaderFault Header := do
  if bytes.isEmpty then throw .empty
  if bytes.length ≠ blockSize then throw .truncated
  if bytes.all (· = 0) then throw .ended
  if !hasSum bytes (← numberAt bytes 148 156) then throw .checksum
  let size ← numberAt bytes 124 136
  if !(numberFields.all fun (start, stop) => (number? (field bytes start stop)).isSome) then
    throw .invalid
  let name := untilZero (field bytes 0 100)
  let flag := (bytes.drop 156).headD 0
  let flag := if flag = 0 ∧ name.getLast? = some 0x2F then 0x35 else flag
  let first := untilZero (field bytes 345 500)
  if first.isEmpty || isWhole flag then return ⟨name, size, flag⟩
  return ⟨first ++ 0x2F :: name, size, flag⟩

/-! ## Records of keywords and values -/

/-- Keywords with their values, in the order in which the keywords came first. -/
abbrev Records := List (String × List UInt8)

/-- Puts in a value, in the place of one with the same keyword. -/
def Records.put (keyword : String) (value : List UInt8) : Records → Records
  | [] => [(keyword, value)]
  | (k, v) :: rest =>
    if k = keyword then (k, value) :: rest else (k, v) :: Records.put keyword value rest

/-- Puts in several values. -/
def Records.putAll (records more : Records) : Records :=
  more.foldl (fun records (k, v) => records.put k v) records

/-- Reads the digits of a record's length. -/
def lengthDigits (bytes : List UInt8) : List UInt8 :=
  bytes.takeWhile fun b => 0x30 ≤ b && b ≤ 0x39

/-- The most digits of a record's length. -/
def mostLengthDigits : Nat := 20

/-- The least length of a record. -/
def leastLength : Nat := 5

/-- Reads one record: its length in decimal digits, a blank, the keyword, an equals
    sign, the value and a line feed. The length counts all of them. -/
def record? (bytes : List UInt8) : Option ((String × List UInt8) × Nat) :=
  let digits := lengthDigits bytes
  let length := digits.foldl (fun n b => 10 * n + (b.toNat - 0x30)) 0
  let body := field bytes (digits.length + 1) (length - 1)
  let keyword := body.takeWhile (· ≠ 0x3D)
  if digits.isEmpty || mostLengthDigits < digits.length || bytes[digits.length]? ≠ some 0x20 ||
      length < leastLength || bytes.length < length || keyword.isEmpty ||
      keyword.length = body.length || bytes[length - 1]? ≠ some 0x0A then none
  else some ((String.ofList (Text.Stray.text keyword), body.drop (keyword.length + 1)), length)

/-- Reads records up to a zero or the end. Every record takes bytes, so `fuel` is
    their number. -/
def records? : (fuel : Nat) → List UInt8 → Option Records
  | 0, _ => some []
  | fuel + 1, bytes =>
    if bytes.isEmpty || bytes.head? = some 0 then some []
    else do
      let (record, length) ← record? bytes
      let rest ← records? fuel (bytes.drop length)
      return record :: rest

/-! ## Members -/

/-- A member on the tape: where its contents start, and its pieces if it has holes. -/
structure Entry where
  name : List UInt8
  size : Int
  flag : UInt8
  start : Int
  pieces : Option (List Piece)

/-- The decimal integer of a value. -/
def integer (value : List UInt8) : Except Fault Int :=
  (Numeral.Integer.read (Text.Stray.quote value) (Text.Stray.text value)).mapError Fault.number

/-- Puts the value of a record in place of what the header says. -/
def Entry.patch (e : Entry) (keyword : String) (value : List UInt8) : Except Fault Entry :=
  match keyword with
  | "GNU.sparse.name" => .ok { e with name := value }
  | "GNU.sparse.size" => return { e with size := ← integer value }
  | "GNU.sparse.realsize" => return { e with size := ← integer value }
  | "path" => .ok { e with name := withoutSlashes value }
  | "size" => .ok { e with size := (integer value).toOption.getD 0 }
  | _ => .ok e

/-- Puts the values of records in place of what the header says. -/
def Entry.patchAll (e : Entry) (records : Records) : Except Fault Entry :=
  records.foldlM (fun e (keyword, value) => e.patch keyword value) e

/-- The size of the contents on the tape. -/
def Entry.occupied (e : Entry) : Int := if isBare e.flag then 0 else blocked e.size

/-! ## The tape -/

/-- Why no member was read. -/
inductive Stop
  | header (f : HeaderFault)
  | nextHeader (f : HeaderFault)
  | fault (f : Fault)

/-- A tape that is read: the packed file, the place of the next member's header, and
    the records that hold for all members. -/
structure Tape where
  file : PackedFile
  next : Int
  shared : Records

/-- A reader of a tape. What it has read stays read when it stops. -/
abbrev Reader := EStateM Stop Tape

/-- Works on the packed file. -/
def onFile (reader : PackedFile.Reader α) : Reader α := fun tape =>
  match reader.run tape.file with
  | .ok (a, file) => .ok a { tape with file }
  | .error f => .error (.fault (.unpacking f)) tape

/-- Hands on what may be at fault. -/
def orFault : Except Fault α → Reader α
  | .ok a => return a
  | .error f => throw (.fault f)

/-- The last place that a file can have, and the greatest length. -/
def lastPlace : Int := 0x7FFFFFFFFFFFFFFF

/-- More bytes than this are never read at a time. -/
def mostBytes : Int := 0x1000000000

/-- Where the tape stands. -/
def tell : Reader Int := return (← get).file.tell

/-- Winds the tape to a place. -/
def seek (place : Int) : Reader Unit := do
  if lastPlace < place ∨ place < -lastPlace - 1 then throw (.fault .farPlace)
  onFile (PackedFile.seek place)

/-- Reads `n` bytes, or fewer at the end. -/
def read (n : Int) : Reader (List UInt8) := do
  if lastPlace < n ∨ n < -lastPlace - 1 then throw (.fault .farLength)
  if n < 0 then throw (.fault .negativeLength)
  if mostBytes < n then throw (.fault .tooLong)
  onFile (PackedFile.read n.toNat)

/-- The member that a header is about, if the header is that of the next member. -/
def asNext (reader : Reader α) : Reader α :=
  reader.adaptExcept fun
    | .header f => .nextHeader f
    | stop => stop

/-! ## Pieces -/

/-- Pairs up numbers. -/
def pairs : List Int → List Piece
  | a :: b :: rest => (a, b) :: pairs rest
  | _ => []

/-- A piece that is listed in a block. -/
def pieceAt (block : List UInt8) (place : Nat) : Reader Piece := do
  let numberFrom (place : Nat) : Reader Int := do
    let bytes := field block place (place + 12)
    if bytes.isEmpty then throw (.fault .endOfBlock)
    let some n := number? bytes | throw (.header .invalid)
    return n
  return (← numberFrom place, ← numberFrom (place + 12))

/-- The pieces that are listed in a block from some place on. -/
def piecesAt (block : List UInt8) (place count : Nat) : Reader (List Piece) :=
  (List.range count).mapM fun i => pieceAt block (place + 24 * i)

/-- Does another block with pieces follow? The byte at some place tells. -/
def isContinued (block : List UInt8) (place : Nat) : Reader Bool := do
  let some b := block[place]? | throw (.fault .endOfBlock)
  return b ≠ 0

/-- Reads the blocks with more pieces. Each takes bytes of the tape, of which there
    are no more than `fuel` blocks. -/
def morePieces : (fuel : Nat) → (isMore : Bool) → Reader (List Piece)
  | 0, _ => return []
  | _, false => return []
  | fuel + 1, true => do
    let block ← read blockSize
    let pieces ← piecesAt block 0 21
    let rest ← morePieces fuel (← isContinued block 504)
    return pieces.filter (fun (place, size) => place ≠ 0 && size ≠ 0) ++ rest

/-- The member of a header that lists pieces. -/
def pieced (fuel : Nat) (header : Header) (block : List UInt8) : Reader Entry := do
  let first ← piecesAt block 386 4
  let some size := number? (field block 483 495) | throw (.header .invalid)
  let more ← morePieces fuel (← isContinued block 482)
  let start ← tell
  modify fun tape => { tape with next := start + blocked header.size }
  return ⟨header.name, size, header.flag, start, some (first ++ more)⟩

/-- A line of decimal digits, and what follows it. -/
def lineNumber (bytes : List UInt8) : Reader (Int × List UInt8) := do
  let line := bytes.takeWhile (· ≠ 0x0A)
  if line.length = bytes.length then throw (.fault .endOfPieces)
  let n ← orFault ((Numeral.Integer.readBytes line).mapError Fault.number)
  return (n, bytes.drop (line.length + 1))

/-- Reads `count` lines of digits, for which the tape is read on. -/
def lineNumbers : (count : Nat) → (ahead : List UInt8) → Reader (List Int)
  | 0, _ => return []
  | count + 1, ahead => do
    let more ← if ahead.contains 0x0A then pure [] else read blockSize
    let (n, ahead) ← lineNumber (ahead ++ more)
    return n :: (← lineNumbers count ahead)

/-- The pieces that are listed in front of the contents: their number, and a place and
    a size for each. -/
def Entry.listedPieces (e : Entry) : Reader Entry := do
  let (count, ahead) ← lineNumber (← read blockSize)
  let numbers ← lineNumbers (2 * count.toNat) ahead
  return { e with start := ← tell, pieces := some (pairs numbers) }

/-- The pieces of which places and sizes stand in records of their own. -/
def Entry.recordedPieces (e : Entry) (records : Records) : Reader Entry := do
  let integers (keyword : String) : Reader (List Int) :=
    (records.filter (·.1 = keyword)).mapM fun (_, value) =>
      match Text.Utf8.decode value, integer value with
      | .ok _, .ok n => return n
      | _, _ => throw (.header .invalid)
  let places ← integers "GNU.sparse.offset"
  let sizes ← integers "GNU.sparse.numbytes"
  return { e with pieces := some (places.zip sizes) }

/-- The pieces in one value, divided by commas. -/
def Entry.mappedPieces (e : Entry) (value : List UInt8) : Reader Entry := do
  let numbers ← (value.splitOn 0x2C).mapM fun word => orFault (integer word)
  return { e with pieces := some (pairs numbers) }

/-- Finds the pieces of a member in the records that hold for it; `own` are those of
    its last header. -/
def Entry.withPieces (e : Entry) (records own : Records) : Reader Entry :=
  match records.lookup "GNU.sparse.map" with
  | some value => e.mappedPieces value
  | none =>
    if (records.lookup "GNU.sparse.size").isSome then e.recordedPieces own
    else if records.lookup "GNU.sparse.major" = some [0x31] ∧
        records.lookup "GNU.sparse.minor" = some [0x30] then e.listedPieces
    else return e

/-! ## Reading members -/

/-- The member of a header that needs no other. -/
def plain (header : Header) : Reader Entry := do
  let start ← tell
  let e : Entry := ⟨header.name, header.size, header.flag, start, none⟩
  modify fun tape => { tape with next := start + e.occupied }
  orFault (e.patchAll (← get).shared)

/-- Gives a member the values of the records that hold for it alone. -/
def Entry.withRecords (e : Entry) (records : Records) : Reader Entry := do
  let e ← orFault (e.patchAll records)
  if (records.lookup "size").isSome then
    modify fun tape => { tape with next := e.start + e.occupied }
  return e

/-- Reads the member whose first header stands here. Every header takes a block, of
    which there are no more than `fuel`. -/
def entry : (fuel : Nat) → Reader Entry
  | 0 => throw (.header .empty)
  | fuel + 1 => do
    let block ← read blockSize
    match Header.ofBlock block with
    | .error f => throw (.header f)
    | .ok header =>
      if isLongName header.flag || isLongTarget header.flag then
        let text ← read (blocked header.size)
        let e ← asNext (entry fuel)
        return if isLongName header.flag then { e with name := untilZero text } else e
      else if isGlobal header.flag || isLocal header.flag then
        let text ← read (blocked header.size)
        let some own := records? text.length text | throw (.header .invalid)
        let records := (← get).shared.putAll own
        if isGlobal header.flag then
          modify fun tape => { tape with shared := records }
        let e ← asNext (entry fuel)
        if isGlobal header.flag then e.withPieces (← get).shared own
        else (← e.withPieces records own).withRecords records
      else if isPieced header.flag then pieced fuel header block
      else plain header

/-- Winds the tape to the next header; false if there can be none. The contents of
    the last member must be there. -/
def advance : Reader Bool := do
  let next := (← get).next
  if next = (← tell) then return true
  if next = 0 then return false
  seek (next - 1)
  if (← read 1).isEmpty then throw (.fault .endOfData)
  return true

/-- Reads the next member, if there is one. -/
def nextEntry? (fuel : Nat) (tape : Tape) : Except Fault (Option Entry × Tape) :=
  let reader : Reader (Option Entry) := do
    if ← advance then return some (← entry fuel) else return none
  match reader.run tape with
  | .ok e tape => .ok (e, tape)
  | .error (.fault f) _ => .error f
  | .error (.nextHeader f) _ => .error (.header f)
  | .error (.header f) tape =>
    if tape.next ≠ 0 ∨ f = .ended then .ok (none, tape)
    else .error (if f = .empty then .empty else .header f)

/-- Reads the members that follow. Every member takes a block, of which there are no
    more than `fuel`. -/
def entriesFrom : (fuel : Nat) → Tape → Except Fault (List Entry × Tape)
  | 0, tape => .ok ([], tape)
  | fuel + 1, tape => do
    match ← nextEntry? fuel tape with
    | (none, tape) => return ([], tape)
    | (some e, tape) =>
      let (rest, tape) ← entriesFrom fuel tape
      return (e :: rest, tape)

/-- More blocks than a tape can have that is packed in so many bytes. -/
def mostBlocks (packedSize : Nat) : Nat := 64 * packedSize + 64

/-- Reads all members. If the first cannot be unpacked the tape is not packed at all. -/
def entries (packed : ByteArray) : Except Fault (List Entry × Tape) :=
  let fuel := mostBlocks packed.size
  match nextEntry? fuel ⟨.ofBytes packed, 0, []⟩ with
  | .error (.unpacking _) => .error .notPacked
  | .error f => .error f
  | .ok (none, tape) => .ok ([], tape)
  | .ok (some e, tape) => do
    let (rest, tape) ← entriesFrom fuel tape
    return (e :: rest, tape)

/-! ## Contents -/

/-- A stretch of a member's contents: its place and its end in them, and its place on
    the tape unless it is a hole. -/
structure Stretch where
  start : Int
  stop : Int
  place : Option Int

/-- The stretches of a member: its pieces and the holes between them, from the end of
    the last piece on. -/
def stretches (size : Int) : (last place : Int) → List Piece → List Stretch
  | last, _, [] => if last < size then [⟨last, size, none⟩] else []
  | last, place, (start, length) :: rest =>
    let piece : Stretch := ⟨start, start + length, some place⟩
    let more := piece :: stretches size (start + length) (place + length) rest
    if last < start then ⟨last, start, none⟩ :: more else more

/-- The stretches of a member. -/
def Entry.stretches (e : Entry) : List Stretch :=
  Tar.stretches e.size 0 e.start (e.pieces.getD [(0, e.size)])

/-- Does a place of the contents lie in a stretch? -/
def Stretch.holds (s : Stretch) (place : Int) : Bool := s.start ≤ place && place < s.stop

/-- Reads `n` bytes of a hole. -/
def hole (n : Int) : Reader (List UInt8) := do
  if lastPlace < n then throw (.fault .farLength)
  if mostBytes < n then throw (.fault .tooLong)
  return List.replicate n.toNat 0

/-- Reads the contents from some place on. The stretches stand in a ring: the next one
    that holds the place counts. Every stretch is used for a byte at least, so `fuel` is
    the number of bytes. -/
def contentsFrom (size : Int) :
    (fuel : Nat) → (place : Int) → (ring : List Stretch) → Reader (List UInt8)
  | 0, _, _ => return []
  | fuel + 1, place, ring => do
    if size ≤ place then return []
    let past := ring.takeWhile (!·.holds place)
    match ring.dropWhile (!·.holds place) with
    | [] => return []
    | s :: rest =>
      let length := min size s.stop - place
      let bytes ← match s.place with
        | none => hole length
        | some start => do
          seek (start + (place - s.start))
          read length
      if bytes.length ≠ length.toNat then throw (.fault .endOfData)
      let rest ← contentsFrom size fuel (place + length) (s :: rest ++ past)
      return bytes ++ rest

/-- The contents of a member. -/
def Entry.contents (e : Entry) (tape : Tape) : Except Fault (List UInt8) :=
  match (contentsFrom e.size e.size.toNat 0 e.stretches).run tape with
  | .ok bytes _ => .ok bytes
  | .error (.fault f) _ => .error f
  | .error _ _ => .error .endOfData

/-- The members of a packed tape (`getmembers`, and `extractfile` for what they hold). -/
def members (packed : ByteArray) : Except Fault (List (Member Fault)) := do
  let (entries, tape) ← entries packed
  return entries.map fun e =>
    ⟨Text.Stray.text e.name, isRegular e.flag, ⟨fun _ => e.contents tape⟩⟩

end Abacus.Archive.Tar
