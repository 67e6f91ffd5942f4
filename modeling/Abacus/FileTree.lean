import Abacus.Path

/-!
# File trees

A tree of directories and files without links. A place is the list of names that
lead to it from the top; the top itself has none. A path starts at the working
directory, or with an anchor at the root. If the top is not the root, nothing
outside the tree can be reached.

* `FileTree.place?`: the place that a path leads to.
* `FileTree.write`: puts a file at a place.
* `FileTree.append`: goes on writing a file.
* `place?_write`: a file that is written does not change where paths lead.
-/

namespace Abacus

/-- The names that lead to a place from the top. -/
abbrev Place := List (List Char)

/-- The files with their bytes, and the directories; the working directory, which is
    the top unless another is named; and whether the top is the root, above which
    there is nothing. -/
structure FileTree where
  files : List (Place × ByteArray)
  directories : List Place
  working : Place := []
  rooted : Bool := false

namespace FileTree

/-- The tree with nothing in it. -/
def empty : FileTree := { files := [], directories := [] }

/-- The bytes of the file at a place, if there is one. -/
def file? (t : FileTree) (place : Place) : Option ByteArray := t.files.lookup place

/-- Is there a directory at the place? The top is one. -/
def isDirectory (t : FileTree) (place : Place) : Bool :=
  place.isEmpty || t.directories.contains place

/-- Puts a file at a place, in place of the one that is there. -/
def write (t : FileTree) (place : Place) (bytes : ByteArray) : FileTree :=
  { t with files := (place, bytes) :: t.files.filter (·.1 ≠ place) }

/-- Makes the directories that lead from `start` on along some names. -/
def makeDirectories (t : FileTree) (start : Place) : List (List Char) → FileTree
  | [] => t
  | name :: rest =>
    let place := start ++ [name]
    makeDirectories
      (if t.isDirectory place then t else { t with directories := place :: t.directories })
      place rest

/-- The name of the directory above. -/
def up : List Char := ['.', '.']

/-- The directory above a place. The root is above itself; from another top a step
    up leads out of the tree. -/
def above? (t : FileTree) (place : Place) : Option Place :=
  if place = [] && !t.rooted then none else some place.dropLast

/-- One step from a place, which must be a directory. -/
def step? (t : FileTree) (place : Place) (name : List Char) : Option Place :=
  if !t.isDirectory place then none
  else if name = up then t.above? place
  else some (place ++ [name])

/-- Walks on from a place along some names. Every name but the last must be a
    directory's, and no step leads out of the tree. -/
def walk? (t : FileTree) (start : Place) (names : List (List Char)) : Option Place :=
  names.foldlM t.step? start

/-- Where a path starts. -/
def origin? (t : FileTree) (p : Path) : Option Place :=
  if p.anchor = [] then some t.working else if t.rooted then some [] else none

/-- The place that a path leads to. -/
def place? (t : FileTree) (p : Path) : Option Place :=
  (t.origin? p).bind fun start => t.walk? start p.names

/-- The file that a path leads to. -/
def read? (t : FileTree) (p : Path) : Option ByteArray := (t.place? p).bind t.file?

/-- The place where a file can be written under a path: no directory stands there. Other ways in
    which a system may refuse to open a file, such as a name of more than 255 bytes, missing
    permissions or a full disk, are left out of the model. -/
def outlet? (t : FileTree) (p : Path) : Option Place := (t.place? p).filter (!t.isDirectory ·)

/-- Goes on writing the file at a place. -/
def append (t : FileTree) (place : Place) (bytes : ByteArray) : FileTree :=
  t.write place ((t.file? place).getD .empty ++ bytes)

/-- A file that is written does not change where paths lead. -/
theorem place?_write (t : FileTree) (place : Place) (bytes : ByteArray) (p : Path) :
    (t.write place bytes).place? p = t.place? p := rfl

theorem file?_write (t : FileTree) (place : Place) (bytes : ByteArray) :
    (t.write place bytes).file? place = some bytes := by
  simp [file?, write]

theorem write_write (t : FileTree) (place : Place) (old new : ByteArray) :
    (t.write place old).write place new = t.write place new := by
  simp [write]

theorem append_write (t : FileTree) (place : Place) (old new : ByteArray) :
    (t.write place old).append place new = t.write place (old ++ new) := by
  rw [append, file?_write, write_write]
  rfl

theorem lookup_filter_ne {place other : Place} (h : other ≠ place)
    (entries : List (Place × ByteArray)) :
    (entries.filter (·.1 ≠ place)).lookup other = entries.lookup other := by
  induction entries with
  | nil => rfl
  | cons entry rest ih =>
    obtain ⟨p, bytes⟩ := entry
    by_cases hp : p = place
    · have ho : (other == p) = false := by simpa [hp] using h
      rw [List.filter_cons_of_neg (by simpa using hp), List.lookup_cons, ho, ih]
    · rw [List.filter_cons_of_pos (by simpa using hp), List.lookup_cons, List.lookup_cons, ih]

theorem file?_write_of_ne (t : FileTree) {place other : Place} (bytes : ByteArray)
    (h : other ≠ place) : (t.write place bytes).file? other = t.file? other := by
  have ho : (other == place) = false := by simpa using h
  rw [file?, file?, write, List.lookup_cons, ho, lookup_filter_ne h]

end FileTree

end Abacus
