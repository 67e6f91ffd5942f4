import Abacus.Failure
import Abacus.Text.Character
import Abacus.Token

/-!
# Reading tokens

A number literal is digits with an optional point and further digits, or a point and
digits. A text is read from left to right. At each place stands a number literal, taken
as long as possible, an operator, or a blank, which is passed over. Any other
character ends the reading, and its position is counted from the start of the
whole text.

* `Literal.scan`: the longest literal that a text begins with.
* `Literal.length_of_scan`: a literal and the rest make up the text.
* `Token.lex`: the tokens of a text.
* `Token.lexFrom_nil`: the empty text has no token.
-/

namespace Abacus

/-! ## Number literals -/

/-- A number as it is written: the digits before the point, and those after it if
    there is a point. -/
structure Literal where
  whole : List Char
  fraction : Option (List Char)
deriving DecidableEq

namespace Literal

/-- The characters of a literal. -/
def chars (l : Literal) : List Char :=
  match l.fraction with
  | none => l.whole
  | some digits => l.whole ++ '.' :: digits

/-- The decimal that a literal denotes. -/
def decimal (l : Literal) : Decimal :=
  let fraction := l.fraction.getD []
  ⟨Nat.ofDigitChars 10 (l.whole ++ fraction) 0, -(fraction.length : Int)⟩

/-- The number that a literal denotes, rounded to the nearest double. -/
def value (l : Literal) : Binary64 := .ofDecimal false l.decimal

/-- The longest literal that a text begins with, and the rest of the text (`NUMBER` in
    `TOKEN_SPECIFICATION`). -/
def scan (cs : List Char) : Option (Literal × List Char) :=
  match cs.takeWhile Char.isDigit, cs.dropWhile Char.isDigit with
  | [], '.' :: rest =>
    match rest.takeWhile Char.isDigit with
    | [] => none
    | d :: ds => some (⟨[], some (d :: ds)⟩, rest.dropWhile Char.isDigit)
  | [], _ => none
  | d :: ds, '.' :: rest =>
    some (⟨d :: ds, some (rest.takeWhile Char.isDigit)⟩, rest.dropWhile Char.isDigit)
  | d :: ds, rest => some (⟨d :: ds, none⟩, rest)

theorem chars_append_of_scan {cs rest : List Char} {l : Literal} (h : scan cs = some (l, rest)) :
    l.chars ++ rest = cs := by
  have hcs := List.takeWhile_append_dropWhile (p := Char.isDigit) (l := cs)
  unfold scan at h
  split at h
  · next r hw hr =>
    have hfs := List.takeWhile_append_dropWhile (p := Char.isDigit) (l := r)
    split at h
    · cases h
    · next d ds hd =>
      cases h
      rw [hw, hr] at hcs
      rw [hd] at hfs
      simpa [chars, hfs] using hcs
  · cases h
  · next d ds r hw hr =>
    have hfs := List.takeWhile_append_dropWhile (p := Char.isDigit) (l := r)
    cases h
    rw [hw, hr] at hcs
    simpa [chars, hfs] using hcs
  · next d ds hw hr =>
    cases h
    rw [hw] at hcs
    simpa [chars] using hcs

theorem chars_ne_nil_of_scan {cs rest : List Char} {l : Literal} (h : scan cs = some (l, rest)) :
    l.chars ≠ [] := by
  unfold scan at h
  split at h
  · split at h
    · cases h
    · cases h; simp [chars]
  · cases h
  · cases h; simp [chars]
  · cases h; simp [chars]

theorem length_of_scan {cs rest : List Char} {l : Literal} (h : scan cs = some (l, rest)) :
    l.chars.length + rest.length = cs.length := by
  rw [← chars_append_of_scan h, List.length_append]

end Literal

/-! ## Texts -/

namespace Token

/-- Reads the tokens of a text that starts at position `pos` of the whole. At each place the
    kinds of `TOKEN_SPECIFICATION` are tried in their order: `NUMBER`, `OPERATOR`, `SKIP`, and
    `MISMATCH`, which is refused. -/
def lexFrom (pos : Nat) (cs : List Char) : Except Failure (List Token) :=
  match _h : Literal.scan cs with
  | some (l, rest) => (lexFrom (pos + l.chars.length) rest).map (.number l.value :: ·)
  | none =>
    match cs with
    | [] => .ok []
    | c :: rest =>
      match Operator.ofSymbol? c with
      | some op => (lexFrom (pos + 1) rest).map (.operator op :: ·)
      | none =>
        if Text.isBlank c then lexFrom (pos + 1) rest
        else .error (.unexpected (String.singleton c) pos)
termination_by cs.length
decreasing_by
  · have h1 := Literal.length_of_scan _h
    have h2 := List.length_pos_iff.2 (Literal.chars_ne_nil_of_scan _h)
    omega
  · simp
  · simp

/-- The tokens of a text, or its first character that begins none (`lex`). -/
def lex (s : String) : Except Failure (List Token) := lexFrom 0 s.toList

@[simp] theorem lexFrom_nil (pos : Nat) : lexFrom pos [] = .ok [] := by
  rw [lexFrom]
  split
  · next h => simp [Literal.scan] at h
  · rfl

end Token

end Abacus
