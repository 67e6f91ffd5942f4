import Abacus.Proofs.Text.Lines
import Mathlib.Data.List.SplitBy

/-!
# Texts cut behind line feeds

A reader that takes one line after the other cuts a text behind each line feed. Without
the blanks at their ends these are the lines of the text, if it has no other line
boundary.

* `lines_eq_cons`: the reader takes the first line, and leaves the others.
* `line_induction`: induction on the lines of a text.
* `map_strip_lines`: the lines without the blanks around them.
-/

namespace Abacus.Text

/-- A text cut behind each line feed. -/
def lines (cs : List Char) : List (List Char) := cs.splitBy fun c _ => c ≠ '\n'

theorem lines_nil : lines [] = [] := rfl

theorem flatten_lines (cs : List Char) : (lines cs).flatten = cs := List.flatten_splitBy _ cs

/-! ## The first line -/

/-- The reader takes all up to the first line feed, or all there is. -/
theorem readLine_cases (cs : List Char) :
    (∃ body, '\n' ∉ body ∧ (readLine cs).1 = body ++ ['\n']) ∨
      ('\n' ∉ cs ∧ readLine cs = (cs, [])) := by
  induction cs with
  | nil => exact .inr ⟨List.not_mem_nil, rfl⟩
  | cons c cs ih =>
    by_cases hc : c = '\n'
    · exact .inl ⟨[], List.not_mem_nil, by rw [readLine, if_pos hc, hc]; rfl⟩
    · have hne : '\n' ≠ c := fun h => hc h.symm
      rw [readLine, if_neg hc]
      rcases ih with ⟨body, hbody, hline⟩ | ⟨hcs, hline⟩
      · exact .inl ⟨c :: body, List.not_mem_cons_of_ne_of_not_mem hne hbody, by rw [hline]; rfl⟩
      · exact .inr ⟨List.not_mem_cons_of_ne_of_not_mem hne hcs, by rw [hline]⟩

/-- Induction on the lines of a text, the last of which may have no line feed. -/
@[elab_as_elim]
theorem line_induction {motive : List Char → Prop} (nil : motive [])
    (last : ∀ line, '\n' ∉ line → line ≠ [] → motive line)
    (cons : ∀ line rest, '\n' ∉ line → motive rest → motive (line ++ '\n' :: rest))
    (cs : List Char) : motive cs := by
  induction hn : cs.length using Nat.strongRecOn generalizing cs with
  | ind n ih =>
    by_cases hcs : cs = []
    · exact hcs ▸ nil
    rcases readLine_cases cs with ⟨line, hline, hread⟩ | ⟨hnot, -⟩
    · have hcut : cs = line ++ '\n' :: (readLine cs).2 := by
        rw [List.append_cons, ← hread, readLine_append]
      rw [hcut]
      exact cons line _ hline (ih _ (hn ▸ length_readLine_lt hcs) _ rfl)
    · exact last cs hnot hcs

/-! ## Cuts -/

/-- A line is cut nowhere before its end. -/
theorem isChain_append_of_not_mem {body : List Char} (h : '\n' ∉ body) {tail : List Char}
    (ht : tail.IsChain fun c _ => decide (c ≠ '\n') = true) :
    (body ++ tail).IsChain fun c _ => decide (c ≠ '\n') = true := by
  induction body with
  | nil => exact ht
  | cons c cs ih =>
    have hc : c ≠ '\n' := fun hc => h (hc ▸ List.mem_cons_self)
    have hcs := ih fun hm => h (List.mem_cons_of_mem c hm)
    exact List.isChain_cons.mpr ⟨fun _ _ => decide_eq_true hc, hcs⟩

theorem lines_of_not_mem {cs : List Char} (h : '\n' ∉ cs) (hne : cs ≠ []) : lines cs = [cs] := by
  refine List.splitBy_of_isChain hne ?_
  rw [← List.append_nil cs]
  exact isChain_append_of_not_mem h .nil

theorem lines_append_newline {body : List Char} (h : '\n' ∉ body) (rest : List Char) :
    lines (body ++ '\n' :: rest) = (body ++ ['\n']) :: lines rest := by
  have hend : ∀ c ∈ (body ++ ['\n']).getLast?, ∀ d ∈ rest.head?, decide (c ≠ '\n') = false := by
    intro c hc _ _
    rw [List.getLast?_concat] at hc
    cases hc
    rfl
  have hline : (body ++ ['\n']).splitBy (fun c _ => decide (c ≠ '\n')) = [body ++ ['\n']] :=
    List.splitBy_of_isChain (by simp) (isChain_append_of_not_mem h (List.isChain_singleton _))
  rw [lines, List.append_cons, List.splitBy_append hend, hline]
  rfl

/-- The reader takes the first line, and leaves the others. -/
theorem lines_eq_cons {cs : List Char} (h : cs ≠ []) :
    lines cs = (readLine cs).1 :: lines (readLine cs).2 := by
  rcases readLine_cases cs with ⟨body, hbody, hline⟩ | ⟨hcs, hline⟩
  · have hcs : cs = body ++ '\n' :: (readLine cs).2 := by
      rw [List.append_cons, ← hline, readLine_append]
    rw [hline, ← lines_append_newline hbody, ← hcs]
  · rw [hline, lines_of_not_mem hcs h]
    rfl

/-! ## Lines without the blanks around them -/

theorem strip_append_blank (cs : List Char) {c : Char} (hc : isBlank c = true) :
    strip (cs ++ [c]) = strip cs := by
  unfold strip
  rw [List.dropWhile_append]
  split
  · next h => rw [List.isEmpty_iff.mp h, List.dropWhile_cons_of_pos hc]; rfl
  · rw [List.reverse_append, List.reverse_singleton, List.singleton_append,
      List.dropWhile_cons_of_pos hc]

/-- A text with no line boundary but line feeds has the same lines for both ways of cutting it,
    up to blanks. -/
theorem map_strip_lines {cs : List Char} (h : ∀ c ∈ cs, isLineBoundary c = true → c = '\n') :
    (lines cs).map strip = (splitLines cs).map strip := by
  have hone {line : List Char} (hline : '\n' ∉ line)
      (hl : ∀ c ∈ line, isLineBoundary c = true → c = '\n') : OneLine line := by
    intro c hc
    by_contra hb
    rw [Bool.not_eq_false] at hb
    exact hline (hl c hc hb ▸ hc)
  induction cs using line_induction with
  | nil => rfl
  | last line hline hne => rw [lines_of_not_mem hline hne, splitLines_of_oneLine (hone hline h) hne]
  | cons line rest hline ih =>
    obtain ⟨hfirst, hrest⟩ := List.forall_mem_append.mp h
    rw [lines_append_newline hline, splitLines_append_newline (hone hline hfirst), List.map_cons,
      List.map_cons, ih (List.forall_mem_cons.mp hrest).2, strip_append_blank line (by decide)]

end Abacus.Text
