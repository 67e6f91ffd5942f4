import Abacus.Text.Character

/-!
# Paths

A path is an anchor and the names along the way. Reading one drops empty names
and single dots and keeps double dots, so `sub//x.zip` and `sub/./x.zip` are one
path. Two leading slashes are an anchor of their own; three or more count as one.

The extension part of a name starts at the first dot after its leading dots. A
name that ends in a dot has none.

* `Path.suffix`, `Path.suffixes`: the last suffix, and all of them.
* `Path.results?`: where the results of a file go.
-/

namespace Abacus

/-- Where a path starts, and the names that lead on from there. -/
structure Path where
  anchor : List Char
  names : List (List Char)
deriving DecidableEq

namespace Path

/-- Cuts a text at every occurrence of a character. -/
def cut (sep : Char) : List Char → List (List Char)
  | [] => [[]]
  | c :: rest =>
    if c = sep then [] :: cut sep rest
    else
      match cut sep rest with
      | [] => [[c]]
      | part :: parts => (c :: part) :: parts

/-- The anchor of a text: nothing, one slash, or exactly two. -/
def anchorOf : List Char → List Char
  | '/' :: '/' :: '/' :: _ => ['/']
  | '/' :: '/' :: _ => ['/', '/']
  | '/' :: _ => ['/']
  | _ => []

/-- The path that a text denotes. -/
def ofChars (cs : List Char) : Path :=
  ⟨anchorOf cs, (cut '/' cs).filter fun name => name ≠ [] && name ≠ ['.']⟩

/-- The path that a text denotes. -/
def ofString (s : String) : Path := ofChars s.toList

/-- Joins names with slashes. -/
def joinNames : List (List Char) → List Char
  | [] => []
  | [name] => name
  | name :: next :: rest => name ++ '/' :: joinNames (next :: rest)

/-- The text of a path; the path without names is a dot. -/
def chars (p : Path) : List Char :=
  match p.anchor ++ joinNames p.names with
  | [] => ['.']
  | cs => cs

/-- The text of a path. -/
def text (p : Path) : String := String.ofList p.chars

/-- The last name, or nothing if the path has no names. -/
def name (p : Path) : List Char := p.names.getLast?.getD []

/-! ## Suffixes of names -/

/-- The parts of a name's extension, each with its dot. -/
def nameSuffixes (name : List Char) : List (List Char) :=
  if name.getLast? = some '.' then []
  else (cut '.' (name.dropWhile (· = '.'))).tail.map ('.' :: ·)

/-- The last dot of a name and what follows it, unless the dot begins or ends the name. -/
def nameSuffix (name : List Char) : List Char :=
  let tail := (name.reverse.takeWhile (· ≠ '.')).reverse
  if tail = [] ∨ name.length ≤ tail.length + 1 then [] else '.' :: tail

/-- All suffixes of the last name. -/
def suffixes (p : Path) : List (List Char) := nameSuffixes p.name

/-- The last suffix of the last name. -/
def suffix (p : Path) : List Char := nameSuffix p.name

/-- The extension part of a name: all its suffixes, one after the other. -/
def extension (name : List Char) : List Char := (nameSuffixes name).flatten

/-- A name without its extension part. -/
def stem (name : List Char) : List Char := name.take (name.length - (extension name).length)

/-! ## Where results go -/

/-- What a results name ends in. -/
def resultsEnding : List Char :=
  ['_', 'r', 'e', 's', 'u', 'l', 't', 's', '.', 't', 'x', 't']

/-- The name of the results of a file: the dots of the extension become
    underscores, and the ending says what the file holds (`build_output_path`). -/
def resultsName (name : List Char) : List Char :=
  stem name ++ (extension name).map (fun c => if c = '.' then '_' else c) ++ resultsEnding

/-- The path of the results of a file, in the same directory (`build_output_path`). A path
    without a name has none. -/
def results? (p : Path) : Option Path :=
  if p.name = [] then none
  else some ⟨p.anchor, p.names.dropLast ++ [resultsName p.name]⟩

/-- What is said of a path without a name. -/
def emptyNameMessage (p : Path) : String :=
  "PosixPath(" ++ Text.quote p.text ++ ") has an empty name"

end Path

end Abacus
