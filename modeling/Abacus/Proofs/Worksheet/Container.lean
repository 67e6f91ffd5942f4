import Abacus.Proofs.Archive.TextMember
import Abacus.Proofs.Text.Lines
import Abacus.Proofs.Text.Utf8
import Abacus.Proofs.Worksheet.Reader

/-!
# Worksheets in any container

A worksheet has the same expressions whether it is a text file or the text of an archive.
The line ends of the one are unified and those of the other are not, but the lines are the
same, and bytes that encode no text are refused in both.

* `expressions_unifyNewlines`: the expressions do not depend on the line ends.
* `read_of_members`: an archive is read as its text member is.
* `readExpressions_of_isTextPath`, `readExpressions_of_textMember`: what each container
  gives.
* `readExpressions_container`: they give the same.
* `Holds`, `readExpressions_eq_ok_iff`: the text in a file, and its expressions.
-/

namespace Abacus.Worksheet

open Text

theorem expressions_unifyNewlines (text : List Char) :
    expressions (unifyNewlines text) = expressions text := by
  rw [expressions, splitLines_unifyNewlines]
  rfl

section Containers

variable [Archive.SevenZipReader]

/-- The expressions in a text file are those of the text that its bytes encode. -/
theorem readExpressions_of_isTextPath {p : Path} (h : Archive.isTextPath p = true)
    (bytes : ByteArray) :
    readExpressions p bytes = (decode (Bytes.toList bytes)).map expressions := by
  rw [readExpressions, read, if_pos h]
  cases decode (Bytes.toList bytes) with
  | error f => rfl
  | ok text => exact congrArg Except.ok (expressions_unifyNewlines text)

/-- A file in an archive format is read as its text member is. -/
theorem read_of_members {p : Path} {format : Archive.Format}
    (hp : Archive.Format.ofPath? p = some format) {packed : ByteArray}
    {ms : List (Archive.Member Archive.Fault)}
    (hms : Archive.members format p.name packed = .ok ms) :
    read p packed =
      match Archive.textMember? format ms with
      | none => .error (.noText p)
      | some m =>
        match m.contents.get with
        | .ok bytes => decode bytes
        | .error f => .error (.archive f) := by
  rw [read_of_fits ((ofPath?_eq_some_iff p format).mp hp), Reader.read]
  simp only [Archive.textBytes?, hms, bind, Except.bind]
  cases Archive.textMember? format ms with
  | none => rfl
  | some m =>
    simp only
    cases m.contents.get with
    | ok bytes => rfl
    | error f => rfl

/-- The expressions in an archive are those of the text that the bytes of its text encode. -/
theorem readExpressions_of_textMember {p : Path} {format : Archive.Format}
    (hp : Archive.Format.ofPath? p = some format) {packed : ByteArray}
    {members : List (Archive.Member Archive.Fault)}
    (hmembers : Archive.members format p.name packed = .ok members)
    {m : Archive.Member Archive.Fault} (hm : Archive.textMember? format members = some m)
    {bytes : List UInt8} (hbytes : m.contents.get = .ok bytes) :
    readExpressions p packed = (decode bytes).map expressions := by
  rw [readExpressions, read_of_members hp hmembers, hm]
  simp only [hbytes]

/-! ## The text in a file -/

/-- A file holds a text when its bytes encode the text, or those of the text in an archive do. -/
inductive Holds (p : Path) (bytes : ByteArray) (text : List Char) : Prop
  | file : Archive.isTextPath p = true → decode (Bytes.toList bytes) = .ok text →
      Holds p bytes text
  | archive {format : Archive.Format} {encoded : List UInt8} :
      Archive.Format.ofPath? p = some format →
      Archive.textBytes? format p.name bytes = .ok (some encoded) → decode encoded = .ok text →
      Holds p bytes text

/-- Any text can stand in a text file. -/
theorem holds_toUTF8 {p : Path} (h : Archive.isTextPath p = true) (text : String) :
    Holds p text.toUTF8 text.toList := by
  apply Holds.file h
  rw [decode, Utf8.decode_toUTF8]
  rfl

theorem readExpressions_of_holds {p : Path} {bytes : ByteArray} {text : List Char}
    (h : Holds p bytes text) : readExpressions p bytes = .ok (expressions text) := by
  cases h with
  | file hp htext =>
    rw [readExpressions_of_isTextPath hp, htext]
    rfl
  | archive hp hbytes htext =>
    rw [readExpressions, read_of_fits ((ofPath?_eq_some_iff _ _).mp hp), Reader.read]
    simp only [hbytes, htext]
    rfl

/-- Expressions are read from a file just when it holds a text, and they are those of the text. -/
theorem readExpressions_eq_ok_iff (p : Path) (bytes : ByteArray) (es : List String) :
    readExpressions p bytes = .ok es ↔ ∃ text, Holds p bytes text ∧ es = expressions text := by
  constructor
  · intro h
    by_cases hp : Archive.isTextPath p = true
    · rw [readExpressions_of_isTextPath hp] at h
      cases htext : decode (Bytes.toList bytes) with
      | error f => rw [htext] at h; cases h
      | ok text =>
        rw [htext] at h
        exact ⟨text, .file hp htext, (Except.ok.inj h).symm⟩
    · rw [readExpressions, read, if_neg hp] at h
      split at h
      · cases h
      · next format hformat =>
        split at h
        · cases h
        · cases h
        · next encoded hencoded =>
          cases htext : decode encoded with
          | error f => rw [htext] at h; cases h
          | ok text =>
            rw [htext] at h
            exact ⟨text, .archive hformat hencoded htext, (Except.ok.inj h).symm⟩
  · rintro ⟨text, htext, rfl⟩
    exact readExpressions_of_holds htext

/-! ## One text in two containers -/

/-- Bytes encode a text, or they cannot be decoded. -/
theorem map_decode_cases {α : Type} (bytes : List UInt8) (f : List Char → α) :
    (∃ a, (decode bytes).map f = .ok a) ∨
      ∃ fault, (decode bytes).map f = .error (.undecodable fault) := by
  cases h : decode bytes with
  | ok text => exact .inl ⟨f text, rfl⟩
  | error fault =>
    obtain ⟨g, rfl⟩ := undecodable_of_decode h
    exact .inr ⟨g, rfl⟩

/-- The container of a worksheet does not matter. A text file that holds some bytes, with any
    line ends, and an archive whose only text holds the same bytes give the same: either the
    same expressions, or the same fault of bytes that cannot be decoded. -/
theorem readExpressions_container {file archive : Path} {format : Archive.Format}
    (hfile : Archive.isTextPath file = true)
    (harchive : Archive.Format.ofPath? archive = some format) {packed : ByteArray}
    {members : List (Archive.Member Archive.Fault)}
    (hmembers : Archive.members format archive.name packed = .ok members)
    {m : Archive.Member Archive.Fault}
    (honly : members.filter (fun x => x.regular && Archive.isTextName x.name) = [m])
    {bytes : List UInt8} (hbytes : m.contents.get = .ok bytes) :
    readExpressions archive packed = readExpressions file (Bytes.ofList bytes) ∧
    ((∃ es, readExpressions file (Bytes.ofList bytes) = .ok es) ∨
      ∃ f, readExpressions file (Bytes.ofList bytes) = .error (.undecodable f)) := by
  have hm := Archive.textMember?_of_only hmembers honly
  rw [readExpressions_of_textMember harchive hmembers hm hbytes,
    readExpressions_of_isTextPath hfile, Bytes.toList_ofList]
  exact ⟨rfl, map_decode_cases bytes expressions⟩

end Containers

/-- A zip archive with one member `a.txt`, which holds `1`, a carriage return and a line feed,
    `2`, a carriage return and `3`. -/
def zipped : ByteArray :=
  Bytes.ofList [0x50, 0x4B, 0x03, 0x04, 0x14, 0x00, 0x00, 0x00, 0x00, 0x00, 0x00, 0x00, 0x21, 0x00,
    0xDB, 0x7F, 0x58, 0xC4, 0x06, 0x00, 0x00, 0x00, 0x06, 0x00, 0x00, 0x00, 0x05, 0x00, 0x00, 0x00,
    0x61, 0x2E, 0x74, 0x78, 0x74, 0x31, 0x0D, 0x0A, 0x32, 0x0D, 0x33,
    0x50, 0x4B, 0x01, 0x02, 0x14, 0x03, 0x14, 0x00, 0x00, 0x00, 0x00, 0x00, 0x00, 0x00, 0x21, 0x00,
    0xDB, 0x7F, 0x58, 0xC4, 0x06, 0x00, 0x00, 0x00, 0x06, 0x00, 0x00, 0x00, 0x05, 0x00, 0x00, 0x00,
    0x00, 0x00, 0x00, 0x00, 0x00, 0x00, 0x00, 0x00, 0x80, 0x01, 0x00, 0x00, 0x00, 0x00,
    0x61, 0x2E, 0x74, 0x78, 0x74,
    0x50, 0x4B, 0x05, 0x06, 0x00, 0x00, 0x00, 0x00, 0x01, 0x00, 0x01, 0x00, 0x33, 0x00, 0x00, 0x00,
    0x29, 0x00, 0x00, 0x00, 0x00, 0x00]

theorem eq_ok_of_toOption {ε α : Type} {x : Except ε α} {a : α} (h : x.toOption = some a) :
    x = .ok a := by
  cases x with
  | error e => cases h
  | ok b => cases h; rfl

/-- The member is the only text of the archive. -/
theorem only_text_zipped :
    ∃ members m, Archive.members .zip ['a', '.', 'z', 'i', 'p'] zipped = .ok members ∧
      members.filter (fun x => x.regular && Archive.isTextName x.name) = [m] ∧
      m.contents.get = .ok [0x31, 0x0D, 0x0A, 0x32, 0x0D, 0x33] := by
  have h : ((Archive.members .zip ['a', '.', 'z', 'i', 'p'] zipped).toOption.map fun members =>
      (members.filter fun x => x.regular && Archive.isTextName x.name).map
        (·.contents.get.toOption)) = some [some [0x31, 0x0D, 0x0A, 0x32, 0x0D, 0x33]] := by
    decide +kernel
  obtain ⟨members, hmembers, hm⟩ := Option.map_eq_some_iff.mp h
  obtain ⟨m, hfilter, hbytes⟩ := List.map_eq_singleton_iff.mp hm
  exact ⟨members, m, eq_ok_of_toOption hmembers, hfilter, eq_ok_of_toOption hbytes⟩

/-- The archive gives what a file with its text gives, which ends a line with a carriage return. -/
theorem readExpressions_zipped :
    readExpressions ⟨[], [['a', '.', 'z', 'i', 'p']]⟩ zipped =
        readExpressions ⟨[], [['a', '.', 't', 'x', 't']]⟩
          (Bytes.ofList [0x31, 0x0D, 0x0A, 0x32, 0x0D, 0x33]) ∧
      readExpressions ⟨[], [['a', '.', 't', 'x', 't']]⟩
        (Bytes.ofList [0x31, 0x0D, 0x0A, 0x32, 0x0D, 0x33]) = .ok ["1", "2", "3"] := by
  obtain ⟨members, m, hmembers, honly, hbytes⟩ := only_text_zipped
  exact ⟨(readExpressions_container (by decide) (by decide) hmembers honly hbytes).1, by decide⟩

end Abacus.Worksheet
