import Abacus.Text.Character

/-!
# Coders of 7z archives

What is in a folder was packed by one or more coders. Each has a number that tells its
method, and properties.

* `Method.ofId?`: the method that a number tells.
* `Coder.listText`: coders as they are shown in messages.
-/

namespace Abacus.Archive.SevenZip

/-- How data are packed. The last ones are known but cannot be undone. -/
inductive Method
  | copy
  | lzma
  | lzma2
  | deltas
  | x86
  | powerPC
  | ia64
  | arm
  | armThumb
  | sparc
  | deflate
  | deflate64
  | bzip2
  | zstandard
  | ppmd
  | brotli
  | aes
deriving DecidableEq

namespace Method

/-- The method that a number tells. -/
def ofId? : List UInt8 → Option Method
  | [0x00] => some .copy
  | [0x03] => some .deltas
  | [0x21] => some .lzma2
  | [0x03, 0x01, 0x01] => some .lzma
  | [0x03, 0x04, 0x01] => some .ppmd
  | [0x03, 0x03, 0x01, 0x03] => some .x86
  | [0x03, 0x03, 0x02, 0x05] => some .powerPC
  | [0x03, 0x03, 0x04, 0x01] => some .ia64
  | [0x03, 0x03, 0x05, 0x01] => some .arm
  | [0x03, 0x03, 0x07, 0x01] => some .armThumb
  | [0x03, 0x03, 0x08, 0x05] => some .sparc
  | [0x04, 0x01, 0x08] => some .deflate
  | [0x04, 0x01, 0x09] => some .deflate64
  | [0x04, 0x02, 0x02] => some .bzip2
  | [0x04, 0xF7, 0x11, 0x01] => some .zstandard
  | [0x04, 0xF7, 0x11, 0x02] => some .brotli
  | [0x06, 0xF1, 0x07, 0x01] => some .aes
  | _ => none

/-- Can the method stand in one chain of filters with others? -/
def isFilter : Method → Bool
  | .lzma | .lzma2 | .deltas | .x86 | .powerPC | .ia64 | .arm | .armThumb | .sparc => true
  | _ => false

/-- Does the method change branches in a way that can be undone outside such a chain? -/
def isBranches : Method → Bool
  | .x86 | .powerPC | .arm | .armThumb | .sparc => true
  | _ => false

/-- Does the method keep branches out of its chain? Of those that pack, only one does not. -/
def keepsApart : Method → Bool
  | .copy | .lzma | .deflate | .deflate64 | .bzip2 | .zstandard | .ppmd | .brotli => true
  | _ => false

end Method

/-- A coder: the number of its method, how many streams go in and out, and its
    properties. -/
structure Coder where
  id : List UInt8
  inputs : Nat
  outputs : Nat
  properties : Option (List UInt8)
deriving DecidableEq

namespace Coder

/-- The method of a coder. -/
def method? (c : Coder) : Option Method := Method.ofId? c.id

/-- Properties as they are shown in messages. -/
def propertiesText : Option (List UInt8) → String
  | none => "None"
  | some bytes => Text.quoteBytes bytes

/-- A coder as it is shown in messages. -/
def text (c : Coder) : String :=
  "\x7b'method': " ++ Text.quoteBytes c.id ++ ", 'numinstreams': " ++ toString c.inputs ++
    ", 'numoutstreams': " ++ toString c.outputs ++ ", 'properties': " ++
    propertiesText c.properties ++ "\x7d"

/-- Coders as they are shown in messages. -/
def listText (cs : List Coder) : String := "[" ++ ", ".intercalate (cs.map text) ++ "]"

/-- The most coders of a folder. -/
def most : Nat := 4

end Coder

end Abacus.Archive.SevenZip
