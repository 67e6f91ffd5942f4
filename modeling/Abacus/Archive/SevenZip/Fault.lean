import Abacus.Archive.SevenZip.Coder
import Abacus.Coding.Inflate
import Abacus.Coding.Zstandard
import Abacus.Text.Encoding

/-!
# Faults of 7z archives

* `Fault.message`: the words for a fault.
-/

namespace Abacus.Archive.SevenZip

/-- The marks that stand in some places of a header. -/
inductive Mark
  | finish
  | folder
  | sizes
deriving DecidableEq

/-- The words for a mark. -/
def Mark.text : Mark → String
  | .finish => "end id"
  | .folder => "folder id"
  | .sizes => "coders unpack size id"

/-- The parts of a list of streams that may be missing. -/
inductive Part
  | folders
  | folderCount
  | packedSizes
  | counts
deriving DecidableEq

/-- The words for a part. -/
def Part.text : Part → String
  | .folders => "folders"
  | .folderCount => "numfolders"
  | .packedSizes => "packsizes"
  | .counts => "num_unpackstreams_folders"

/-- Why a coder's properties are of no use. -/
inductive PropertiesFault
  | zstandardSize
  | zstandardVersion (major minor : UInt8)
  | ppmdKind
  | ppmdSize
  | brotliSize
  | brotliVersion (major minor : UInt8)
deriving DecidableEq

/-- The words for a fault of properties. -/
def PropertiesFault.reason : PropertiesFault → String
  | .zstandardSize => "Zstd takes 3 or 5 bytes properties."
  | .zstandardVersion major minor =>
    "Unsupported zstd version: " ++ toString major ++ "." ++ toString minor ++ " our 1.5"
  | .ppmdKind => "Unknown type of properties is passed"
  | .ppmdSize => "Unknown size of properties is passed"
  | .brotliSize => "Unknown size of properties are passed"
  | .brotliVersion major minor =>
    "Unsupported brotli version: " ++ toString major ++ "." ++ toString minor ++ " our 1.0"

/-- What is wrong with coders: their number, a method that is not known or needs a
    password, their streams, or their properties. -/
inductive CoderFault
  | tooMany (coders : List Coder)
  | unknown (id : List UInt8)
  | password (coders : List Coder)
  | notSimple (coders : List Coder)
  | properties (bytes : Option (List UInt8)) (f : PropertiesFault)
  | passedBrotli (first : List UInt8)
deriving DecidableEq

/-- The number of a method that mixes four streams. -/
def fourStreamsId : List UInt8 := [0x03, 0x03, 0x01, 0x1B]

/-- The number of a method that is known by name only. -/
def lz4Id : List UInt8 := [0x04, 0xF7, 0x11, 0x04]

/-- What is said of a method that is not known. -/
def unknownReason (id : List UInt8) : String :=
  if id = fourStreamsId then
    "BCJ2 filter is not supported by py7zr. Please consider to contribute to XZ/liblzma " ++
      "project and help Python core team implementing it. Or please use another tool to " ++
      "extract it."
  else if id = lz4Id then "Archive is compressed by an unsupported algorythm LZ4."
  else "Archive is compressed by an unsupported compression algorythm."

/-- The words for a fault of coders, with what it is about. -/
def CoderFault.message (f : CoderFault) : String :=
  let (subject, reason) := match f with
    | .tooMany cs => (Coder.listText cs, "Maximum cascade of filters is 4 but got " ++
        toString cs.length ++ ".")
    | .unknown id => (Text.quoteBytes id, unknownReason id)
    | .password cs => (Coder.listText cs, "Password is required for extracting given archive.")
    | .notSimple cs =>
      (Coder.listText cs, "Only a simple compression method is currently supported.")
    | .properties bytes f => (Coder.propertiesText bytes, f.reason)
    | .passedBrotli first => (Text.quoteBytes first,
        "Unauthorized and modified Brotli data (skipable frame) found.")
  "(" ++ subject ++ ", '" ++ reason ++ "')"

/-- A coder that is asked for more than its data stand for. -/
inductive Exhausted
  | size
  | filters
  | bzip2
  | zstandard
deriving DecidableEq

/-- The words for it. -/
def Exhausted.message : Exhausted → String
  | .size => ""
  | .filters => "Already at end of stream"
  | .bzip2 => "End of stream already reached"
  | .zstandard => "Already at the end of a Zstandard frame."

/-- What is wrong with packed data. -/
inductive DataFault
  | options
  | filters
  | bzip2
  | deflate (f : Coding.Inflate.Fault)
  | deflate64 (f : Coding.Inflate.Fault)
  | zstandard (f : Coding.Zstandard.Fault)
  | brotli
  | ppmd
  | exhausted (e : Exhausted)
deriving DecidableEq

/-- The words for a fault of packed data. -/
def DataFault.message : DataFault → String
  | .options => "Invalid or unsupported options"
  | .filters => "Corrupt input data"
  | .bzip2 => "Invalid data stream"
  | .deflate f => "Error -3 while decompressing data: " ++ f.reason
  | .deflate64 f => f.reason
  | .zstandard f => "Unable to decompress Zstandard data: " ++ f.reason
  | .brotli => "BrotliDecoderDecompressStream failed while processing the stream"
  | .ppmd => "Corrupted data"
  | .exhausted e => e.message

/-- A number that is larger than any amount of bytes: an amount, a place in a header, a
    place to which a header is skipped, or a place in the archive. -/
inductive Excess
  | amount
  | place
  | skipped
  | archivePlace
deriving DecidableEq

/-- The words for it. -/
def Excess.message : Excess → String
  | .amount => "cannot fit 'int' into an index-sized integer"
  | .place => "Python int too large to convert to C ssize_t"
  | .skipped => "new position too large"
  | .archivePlace => "cannot fit 'int' into an offset-sized integer"

/-- The least number that is larger than any amount of bytes. -/
def Excess.least : Nat := 0x8000000000000000

/-- What is wrong with an archive, or with one of its members. -/
inductive Fault
  | notSevenZip
  | shortNumber (width : Nat)
  | headerCheck
  | blockCheck
  | unknownField (found : List UInt8)
  | noByte
  | unexpected (m : Mark) (found : List UInt8)
  | unknownProperty (found : List UInt8)
  | refusedProperty
  | missing (p : Part)
  | outOfRange
  | noFiles
  | noCoders
  | noSize
  | noProperties
  | tooLarge
  | excess (e : Excess)
  | undecodable (f : Text.Utf16.Fault)
  | farDate
  | badPath (name : List Char)
  | unlisted (name : List Char)
  | check (found expected : Int) (member : Option (List Char))
  | coder (f : CoderFault)
  | data (f : DataFault)
deriving DecidableEq

/-- The words for a fault. -/
def Fault.message : Fault → String
  | .notSevenZip => "not a 7z file"
  | .shortNumber width => "unpack requires a buffer of " ++ toString width ++ " bytes"
  | .headerCheck => "invalid header data"
  | .blockCheck => "invalid block data"
  | .unknownField found => "Unknown field: " ++ Text.quoteBytes found
  | .noByte => "ord() expected a character, but string of length 0 found"
  | .unexpected m found => m.text ++ " expected but " ++ Text.quoteBytes found ++ " found"
  | .unknownProperty found => "invalid type " ++ Text.quoteBytes found
  | .refusedProperty => ""
  | .missing p => "'NoneType' object has no attribute '" ++ p.text ++ "'"
  | .outOfRange => "list index out of range"
  | .noFiles => "'NoneType' object is not iterable"
  | .noCoders => "max() arg is an empty sequence"
  | .noSize => "not found"
  | .noProperties => "object of type 'NoneType' has no len()"
  | .tooLarge => ""
  | .excess e => e.message
  | .undecodable f => f.message
  | .farDate => "date value out of range"
  | .badPath name => "Specified path is bad: " ++ String.ofList name
  | .unlisted name => Text.quote (String.ofList name)
  | .check found expected member =>
    "(" ++ toString found ++ ", " ++ toString expected ++ ", " ++
      (match member with
        | some name => Text.quote (String.ofList name)
        | none => "None") ++ ")"
  | .coder f => f.message
  | .data f => f.message

/-- Is it a value that makes no sense: a name that cannot be decoded, a number of coders,
    or a place? Otherwise the archive is broken. -/
def Fault.isOfValue : Fault → Bool
  | .undecodable _ => true
  | .noCoders => true
  | .excess .archivePlace => true
  | .data (.deflate64 _) => true
  | .data .ppmd => true
  | _ => false

/-- Refuses a number that is larger than any amount of bytes. -/
def Excess.refuse (e : Excess) (n : Nat) : Except Fault Unit :=
  if least ≤ n then .error (.excess e) else .ok ()

end Abacus.Archive.SevenZip
