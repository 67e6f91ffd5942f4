import Abacus.Archive.Member
import Abacus.Archive.Tar
import Abacus.Archive.Zip

/-!
# Archives

The three formats behind one reader. In a zip archive and on a tape a member is
looked up by its name, so of several members with the name of the first text the
last one is read; in a 7z archive the first text itself is. The reader of 7z
archives is a parameter.

* `Archive.members`: the members of an archive.
* `Archive.textMember?`: the member that is read as a text.
-/

namespace Abacus.Archive

variable [SevenZipReader]

/-- What is wrong with an archive. -/
inductive Fault
  | zip (f : Zip.Fault)
  | tar (f : Tar.Fault)
  | sevenZip (f : SevenZipReader.Fault)
deriving DecidableEq

/-- The words for a fault. -/
def Fault.message : Fault → String
  | .zip f => f.message
  | .tar f => f.message
  | .sevenZip f => SevenZipReader.message f

/-- Is it a value that makes no sense: a text that cannot be decoded, or a number?
    Otherwise the archive is broken. -/
def Fault.isOfValue : Fault → Bool
  | .zip f => f.isOfValue
  | .tar f => f.isOfValue
  | .sevenZip f => SevenZipReader.isOfValue f

/-- The members of an archive of some name, in the order of the archive (`ARCHIVE_READERS`). -/
def members (format : Format) (name : List Char) (bytes : ByteArray) :
    Except Fault (List (Member Fault)) :=
  match format with
  | .zip => ((Zip.members bytes).mapError Fault.zip).map (·.map (·.mapFault Fault.zip))
  | .tarXz =>
    ((Tar.members bytes).mapError Fault.tar).map (·.map (·.mapFault Fault.tar))
  | .sevenZip =>
    ((SevenZipReader.members name bytes).mapError Fault.sevenZip).map
      (·.map (·.mapFault Fault.sevenZip))

/-- The member that is read as a text (`_read_zip`, `_read_tar_xz`, `_read_7z`). -/
def textMember? (format : Format) (members : List (Member ε)) : Option (Member ε) :=
  match format with
  | .zip => Member.textByName? (fun _ => true) members
  | .tarXz => Member.textByName? (·.regular) members
  | .sevenZip => Member.firstText? members

/-- The bytes of the text in an archive of some name, or nothing if it holds no text. -/
def textBytes? (format : Format) (name : List Char) (bytes : ByteArray) :
    Except Fault (Option (List UInt8)) := do
  match textMember? format (← members format name bytes) with
  | none => return none
  | some m => return some (← m.contents.get)

end Abacus.Archive
