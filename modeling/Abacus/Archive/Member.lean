import Abacus.Path

/-!
# Archives and their members

The name of a file tells how it is packed: the last two suffixes of the name are
put together, in lower case, and compared with the extension of each format. So
`ops.tar.xz` is a packed tape archive and `a.zip.7z` is a 7z archive.

An archive is a sequence of members. Of an archive only the first text is wanted,
and a format finds a member either where it stands or by its name, when the last
one with that name counts.

* `Format.ofPath?`: the format of a path.
* `isTextPath`: does the path name a plain text?
* `Member.firstText?`, `Member.firstTextName_eq`: the first regular member whose name is that
  of a text.
* `Member.named?`: the member that a name stands for.
* `SevenZipReader`: what is asked of a reader of 7z archives.
-/

namespace Abacus.Archive

/-! ## Formats -/

/-- The ways of packing files that can be read. -/
inductive Format
  | zip
  | tarXz
  | sevenZip
deriving DecidableEq

namespace Format

/-- All formats. -/
def all : List Format := [.zip, .tarXz, .sevenZip]

/-- What a name in this format ends in (the keys of `ARCHIVE_READERS`). -/
def extension : Format → String
  | .zip => ".zip"
  | .tarXz => ".tar.xz"
  | .sevenZip => ".7z"

/-- The last suffixes of a list, two at most. -/
def lastTwo (suffixes : List (List Char)) : List (List Char) :=
  suffixes.drop (suffixes.length - 2)

/-- The format of a path, if its name has one of the extensions (`archive_format`). -/
def ofPath? (p : Path) : Option Format :=
  let ending := (lastTwo p.suffixes).flatten.map Char.toLower
  all.find? fun format => format.extension.toList.isSuffixOf ending

end Format

/-- What a text name ends in. -/
def textExtension : List Char := ['.', 't', 'x', 't']

/-- Does the path name a plain text? Case does not matter. -/
def isTextPath (p : Path) : Bool := p.suffix.map Char.toLower = textExtension

/-- Does the name of a member of an archive say that it is a text? Case matters. -/
def isTextName (name : List Char) : Bool := textExtension.isSuffixOf name

/-- The first name of a text (`_first_txt`). -/
def firstTextName (names : List (List Char)) : Option (List Char) := names.find? isTextName

/-! ## Members -/

/-- A member of an archive. Whether its contents can be had is known only when
    they are asked for. -/
structure Member (ε : Type) where
  name : List Char
  regular : Bool
  contents : Thunk (Except ε (List UInt8))

namespace Member

variable {ε : Type}

/-- The first regular member whose name is that of a text. -/
def firstText? (members : List (Member ε)) : Option (Member ε) :=
  members.find? fun m => m.regular && isTextName m.name

/-- The name of the first text is the first text name among those of the regular members. -/
theorem firstTextName_eq (members : List (Member ε)) :
    firstTextName ((members.filter (·.regular)).map (·.name)) =
      (firstText? members).map (·.name) := by
  simp [firstTextName, firstText?, List.find?_map, List.find?_filter]

/-- The last member with a name, among those that `counts` admits. -/
def named? (counts : Member ε → Bool) (members : List (Member ε)) (name : List Char) :
    Option (Member ε) :=
  members.reverse.find? fun m => counts m && m.name == name

/-- The text that a reader gets who takes the name of the first one and looks it up. -/
def textByName? (counts : Member ε → Bool) (members : List (Member ε)) : Option (Member ε) :=
  (firstText? members).bind fun m => named? counts members m.name

/-- The same member under faults of another kind. -/
def mapFault (f : ε → δ) (m : Member ε) : Member δ :=
  ⟨m.name, m.regular, m.contents.map (·.mapError f)⟩

end Member

/-! ## Readers of 7z archives -/

/-- A reader of 7z archives (`SevenZipFile`), which is given from outside. How these archives are
    packed, why one of them is refused and what is said then are matters of the reader: nothing
    that is stated of worksheets and sessions depends on them. -/
class SevenZipReader where
  /-- What may be wrong with an archive, or with one of its members. -/
  Fault : Type
  decEq : DecidableEq Fault
  /-- The words for a fault. -/
  message : Fault → String
  /-- Is it a value that makes no sense? Otherwise the archive is broken. -/
  isOfValue : Fault → Bool
  /-- The members of an archive of some name, in the order of the archive. -/
  members : (name : List Char) → ByteArray → Except Fault (List (Member Fault))

instance [SevenZipReader] : DecidableEq SevenZipReader.Fault := SevenZipReader.decEq

end Abacus.Archive
