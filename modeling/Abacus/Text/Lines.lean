import Abacus.Text.Character

/-!
# Lines

Three ways of cutting a text into lines. `splitLines` drops every line boundary
of the Unicode standard, with `\r\n` as one; `readLine` cuts after a line feed
alone; `unifyNewlines` turns every line end of a text file into a line feed.

* `splitLines_cons_boundary`: a boundary ends a line.
* `strip`: a line without the blanks at its two ends.
-/

namespace Abacus.Text

/-- A character that ends a line. -/
def isLineBoundary (c : Char) : Bool :=
  let n := c.toNat
  (0x0A ≤ n && n ≤ 0x0D) || (0x1C ≤ n && n ≤ 0x1E) || n == 0x85 || n == 0x2028 || n == 0x2029

/-- Puts a character in front of the first line. -/
def consLine (c : Char) : List (List Char) → List (List Char)
  | [] => [[c]]
  | line :: lines => (c :: line) :: lines

/-- The lines of a text, without their ends (`splitlines`). A text that ends with a boundary
    has no empty line after it. -/
def splitLines : List Char → List (List Char)
  | [] => []
  | '\r' :: '\n' :: rest => [] :: splitLines rest
  | c :: rest => if isLineBoundary c then [] :: splitLines rest else consLine c (splitLines rest)

theorem splitLines_cons_boundary {c : Char} (hc : isLineBoundary c = true) (hr : c ≠ '\r')
    (rest : List Char) : splitLines (c :: rest) = [] :: splitLines rest := by
  rw [splitLines.eq_3 _ _ (by intro _ h; exact absurd h hr), hc]
  rfl

/-- The first line with its line feed, if it has one, and what follows it (`readline`). -/
def readLine : List Char → List Char × List Char
  | [] => ([], [])
  | c :: rest =>
    if c = '\n' then ([c], rest)
    else (c :: (readLine rest).1, (readLine rest).2)

theorem readLine_append (cs : List Char) : (readLine cs).1 ++ (readLine cs).2 = cs := by
  induction cs with
  | nil => rfl
  | cons c rest ih =>
    by_cases h : c = '\n'
    · simp [readLine, h]
    · simp [readLine, h, ih]

theorem readLine_ne_nil {cs : List Char} (h : cs ≠ []) : (readLine cs).1 ≠ [] := by
  obtain ⟨c, rest, rfl⟩ := List.exists_cons_of_ne_nil h
  rw [readLine]
  split <;> exact List.cons_ne_nil _ _

theorem length_readLine_lt {cs : List Char} (h : cs ≠ []) :
    (readLine cs).2.length < cs.length := by
  have hpos : 0 < (readLine cs).1.length := List.length_pos_iff.mpr (readLine_ne_nil h)
  have hl := congrArg List.length (readLine_append cs)
  rw [List.length_append] at hl
  omega

/-- Turns `\r\n` and `\r` into a line feed, as a text file is read (`read_text`). -/
def unifyNewlines : List Char → List Char
  | [] => []
  | '\r' :: '\n' :: rest => '\n' :: unifyNewlines rest
  | c :: rest => (if c = '\r' then '\n' else c) :: unifyNewlines rest

/-! ## Blanks at the ends -/

/-- A text without the blanks before its first and after its last other character (`strip`). -/
def strip (cs : List Char) : List Char :=
  ((cs.dropWhile isBlank).reverse.dropWhile isBlank).reverse

/-- `strip` on strings. -/
def stripped (s : String) : String := String.ofList (strip s.toList)

end Abacus.Text
