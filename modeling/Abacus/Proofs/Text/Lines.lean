import Abacus.Proofs.Text.Quoted
import Abacus.Text.Character
import Abacus.Text.Lines
import Mathlib.Data.List.DropRight

/-!
# Texts of one line

The lines of a text hold no line boundary, and texts without one, each ended by a line
feed, are read back as the lines they are. A quoted text is such a text.

* `oneLine_of_mem_splitLines`: the lines of a text.
* `splitLines_flatMap`: texts of one line, put one under the other.
* `exists_splitLines_append_newline`: any two texts, put one under the other.
* `splitLines_unifyNewlines`: the lines do not depend on the kind of line end.
* `strip_strip`: a text without blanks at its ends.
* `oneLine_quoteChars`: a quoted text.
-/

namespace Abacus.Text

/-- No character of the text ends a line. -/
def OneLine (cs : List Char) : Prop := ∀ c ∈ cs, isLineBoundary c = false

instance (cs : List Char) : Decidable (OneLine cs) := List.decidableBAll _ cs

theorem OneLine.append {cs ds : List Char} (hc : OneLine cs) (hd : OneLine ds) :
    OneLine (cs ++ ds) := by
  intro c h
  rcases List.mem_append.mp h with h | h
  · exact hc c h
  · exact hd c h

theorem OneLine.of_subset {cs ds : List Char} (h : OneLine ds) (hs : cs ⊆ ds) : OneLine cs :=
  fun c hc => h c (hs hc)

theorem oneLine_cons {c : Char} {cs : List Char} :
    OneLine (c :: cs) ↔ isLineBoundary c = false ∧ OneLine cs :=
  List.forall_mem_cons

theorem isLineBoundary_of_isDigit {c : Char} (h : c.isDigit = true) : isLineBoundary c = false := by
  have hc : 48 ≤ c.toNat ∧ c.toNat ≤ 57 := by
    simpa [Char.isDigit, Char.le_def, UInt32.le_iff_toNat_le] using h
  simp only [isLineBoundary, Bool.or_eq_false_iff, Bool.and_eq_false_iff, decide_eq_false_iff_not,
    beq_eq_false_iff_ne]
  omega

/-! ## Cutting a text into lines -/

theorem mem_consLine {c : Char} {lines : List (List Char)} {line : List Char}
    (h : line ∈ consLine c lines) : line = [c] ∨ (∃ l ∈ lines, line = c :: l) ∨ line ∈ lines := by
  cases lines with
  | nil => exact .inl (List.mem_singleton.mp h)
  | cons l ls =>
    rcases List.mem_cons.mp h with rfl | h
    · exact .inr (.inl ⟨l, List.mem_cons_self, rfl⟩)
    · exact .inr (.inr (List.mem_cons_of_mem _ h))

theorem oneLine_of_mem_splitLines {cs line : List Char} (h : line ∈ splitLines cs) :
    OneLine line := by
  fun_induction splitLines cs generalizing line with
  | case1 => cases h
  | case2 rest ih =>
    rcases List.mem_cons.mp h with rfl | h
    · exact List.forall_mem_nil _
    · exact ih h
  | case3 c rest _ hc ih =>
    rcases List.mem_cons.mp h with rfl | h
    · exact List.forall_mem_nil _
    · exact ih h
  | case4 c rest _ hc ih =>
    rw [Bool.not_eq_true] at hc
    rcases mem_consLine h with rfl | ⟨l, hl, rfl⟩ | h
    · exact oneLine_cons.mpr ⟨hc, List.forall_mem_nil _⟩
    · exact oneLine_cons.mpr ⟨hc, ih hl⟩
    · exact ih h

theorem splitLines_cons_of_not_boundary {c : Char} (hc : isLineBoundary c = false)
    (rest : List Char) : splitLines (c :: rest) = consLine c (splitLines rest) := by
  have hr : c ≠ '\r' := by
    rintro rfl
    cases hc
  rw [splitLines.eq_3 _ _ (by intro _ h; exact absurd h hr), hc]
  rfl

/-- A text of one line that a line feed ends is the first line of what it begins. -/
theorem splitLines_append_newline {line : List Char} (h : OneLine line) (rest : List Char) :
    splitLines (line ++ '\n' :: rest) = line :: splitLines rest := by
  induction line with
  | nil => exact splitLines_cons_boundary (by decide) (by decide) rest
  | cons c cs ih =>
    obtain ⟨hc, hcs⟩ := oneLine_cons.mp h
    rw [List.cons_append, splitLines_cons_of_not_boundary hc, ih hcs]
    rfl

theorem splitLines_of_oneLine {line : List Char} (h : OneLine line) (hne : line ≠ []) :
    splitLines line = [line] := by
  induction line with
  | nil => exact absurd rfl hne
  | cons c cs ih =>
    obtain ⟨hc, hcs⟩ := oneLine_cons.mp h
    rw [splitLines_cons_of_not_boundary hc]
    cases cs with
    | nil => rfl
    | cons d ds => rw [ih hcs (List.cons_ne_nil d ds)]; rfl

theorem splitLines_flatMap {lines : List (List Char)} (h : ∀ line ∈ lines, OneLine line) :
    splitLines (lines.flatMap (· ++ ['\n'])) = lines := by
  induction lines with
  | nil => rfl
  | cons line lines ih =>
    rw [List.flatMap_cons, List.append_assoc, List.singleton_append,
      splitLines_append_newline (h line List.mem_cons_self),
      ih fun l hl => h l (List.mem_cons_of_mem _ hl)]

/-! ## Texts put one under the other -/

/-- A boundary ends a line, unless a line feed makes it a pair. -/
theorem splitLines_cons_of_not_pair {c : Char} (hc : isLineBoundary c = true) {rest : List Char}
    (hpair : c = '\r' → rest.head? ≠ some '\n') :
    splitLines (c :: rest) = [] :: splitLines rest := by
  rw [splitLines.eq_3, if_pos hc]
  rintro tail hr rfl
  exact hpair hr rfl

theorem consLine_append (c : Char) {ls : List (List Char)} (h : ls ≠ []) (ms : List (List Char)) :
    consLine c (ls ++ ms) = consLine c ls ++ ms := by
  cases ls with
  | nil => exact absurd rfl h
  | cons l ls => rfl

theorem splitLines_ne_nil {cs : List Char} (h : cs ≠ []) : splitLines cs ≠ [] := by
  fun_cases splitLines cs with
  | case1 => exact absurd rfl h
  | case2 rest => exact List.cons_ne_nil _ _
  | case3 c rest => exact List.cons_ne_nil _ _
  | case4 c rest =>
    intro hnil
    cases hs : splitLines rest with
    | nil => rw [hs] at hnil; cases hnil
    | cons l ls => rw [hs] at hnil; cases hnil

/-- A line feed between two texts keeps their lines apart. It ends the last line of the first text,
    or an empty line behind it if the first text is empty or its last line has an end. A carriage
    return at the end of the first text makes a pair with the line feed. -/
theorem exists_splitLines_append_newline (as bs : List Char) :
    ∃ gap, (gap = [] ∨ gap = [[]]) ∧
      splitLines (as ++ '\n' :: bs) = splitLines as ++ (gap ++ splitLines bs) := by
  induction as using splitLines.induct with
  | case1 => exact ⟨[[]], .inr rfl, splitLines_cons_boundary (by decide) (by decide) bs⟩
  | case2 rest ih =>
    obtain ⟨gap, hgap, ih⟩ := ih
    refine ⟨gap, hgap, ?_⟩
    show [] :: splitLines (rest ++ '\n' :: bs) = _
    rw [ih]
    rfl
  | case3 c rest hpair hc ih =>
    by_cases hend : c = '\r' ∧ rest = []
    · obtain ⟨rfl, rfl⟩ := hend
      exact ⟨[], .inl rfl, rfl⟩
    · obtain ⟨gap, hgap, ih⟩ := ih
      refine ⟨gap, hgap, ?_⟩
      have hrest : c = '\r' → rest.head? ≠ some '\n' := by
        intro hr hhead
        obtain ⟨tail, htail⟩ := List.head?_eq_some_iff.mp hhead
        exact hpair tail hr htail
      -- the first line end of the joined text is that of the first text
      have hjoined : c = '\r' → (rest ++ '\n' :: bs).head? ≠ some '\n' := by
        intro hr
        rw [List.head?_append_of_ne_nil _ fun hnil => hend ⟨hr, hnil⟩]
        exact hrest hr
      rw [List.cons_append, splitLines_cons_of_not_pair hc hjoined,
        splitLines_cons_of_not_pair hc hrest, ih, List.cons_append]
  | case4 c rest _ hc ih =>
    rw [Bool.not_eq_true] at hc
    by_cases hnil : rest = []
    · subst hnil
      have hone : OneLine [c] := oneLine_cons.mpr ⟨hc, List.forall_mem_nil _⟩
      refine ⟨[], .inl rfl, ?_⟩
      rw [splitLines_append_newline hone, splitLines_of_oneLine hone (List.cons_ne_nil _ _)]
      rfl
    · obtain ⟨gap, hgap, ih⟩ := ih
      refine ⟨gap, hgap, ?_⟩
      rw [List.cons_append, splitLines_cons_of_not_boundary hc, splitLines_cons_of_not_boundary hc,
        ih, consLine_append c (splitLines_ne_nil hnil)]

/-! ## Line ends made the same -/

/-- A text has the same lines whatever line ends a file has. -/
theorem splitLines_unifyNewlines (cs : List Char) :
    splitLines (unifyNewlines cs) = splitLines cs := by
  fun_induction unifyNewlines cs with
  | case1 => rfl
  | case2 rest ih =>
    rw [splitLines_cons_boundary (by decide) (by decide), ih]
    rfl
  | case3 c rest hpair ih =>
    by_cases hc : c = '\r'
    · subst hc
      -- a carriage return that no line feed follows
      have hr : splitLines ('\r' :: rest) = [] :: splitLines rest :=
        splitLines.eq_3 _ _ fun rest' _ => hpair rest' rfl
      rw [if_pos rfl, splitLines_cons_boundary (by decide) (by decide), ih, hr]
    · rw [if_neg hc]
      cases hb : isLineBoundary c with
      | true => rw [splitLines_cons_boundary hb hc, splitLines_cons_boundary hb hc, ih]
      | false => rw [splitLines_cons_of_not_boundary hb, splitLines_cons_of_not_boundary hb, ih]

/-! ## Blanks at the ends -/

theorem strip_subset (cs : List Char) : strip cs ⊆ cs := by
  intro c hc
  have h := (List.dropWhile_suffix _).subset (List.mem_reverse.mp hc)
  exact (List.dropWhile_suffix _).subset (List.mem_reverse.mp h)

/-- A text has blanks at its ends and, between them, what is left of it without them. -/
theorem exists_eq_append_strip (cs : List Char) :
    ∃ back, cs = cs.takeWhile isBlank ++ strip cs ++ back ∧ ∀ c ∈ back, isBlank c = true := by
  refine ⟨((cs.dropWhile isBlank).reverse.takeWhile isBlank).reverse, ?_, fun c hc => ?_⟩
  · rw [List.append_assoc, strip, ← List.reverse_append, List.takeWhile_append_dropWhile,
      List.reverse_reverse, List.takeWhile_append_dropWhile]
  · exact List.all_eq_true.mp List.all_takeWhile c (List.mem_reverse.mp hc)

theorem strip_eq_rdropWhile (cs : List Char) :
    strip cs = (cs.dropWhile isBlank).rdropWhile isBlank := rfl

/-- What is left of a text without the blanks at its ends has none there. -/
theorem strip_strip (cs : List Char) : strip (strip cs) = strip cs := by
  have hfront : (strip cs).dropWhile isBlank = strip cs := by
    rw [List.dropWhile_eq_self_iff]
    intro hpos
    -- the first character is the first one that is not blank
    have hstart : strip cs <+: cs.dropWhile isBlank := List.rdropWhile_prefix _ _
    rw [hstart.getElem hpos]
    exact List.dropWhile_get_zero_not isBlank cs (hpos.trans_le hstart.length_le)
  rw [strip_eq_rdropWhile (strip cs), hfront, strip_eq_rdropWhile, List.rdropWhile_idempotent]

/-! ## Printable texts -/

/-- Nothing that ends a line can be seen. -/
theorem isPrintable_of_isLineBoundary {c : Char} (h : isLineBoundary c = true) :
    isPrintable c = false := by
  have hhides {range : Nat × Nat} (hr : range ∈ unprintableRanges)
      (hc : range.1 ≤ c.toNat ∧ c.toNat ≤ range.2) : isPrintable c = false := by
    simp only [isPrintable, Bool.not_eq_false', List.any_eq_true, Bool.and_eq_true,
      decide_eq_true_eq]
    exact ⟨range, hr, hc⟩
  simp only [isLineBoundary, Bool.or_eq_true, Bool.and_eq_true, decide_eq_true_eq,
    beq_iff_eq] at h
  have hranges : c.toNat ≤ 0x1F ∨ (0x7F ≤ c.toNat ∧ c.toNat ≤ 0xA0) ∨
      (0x2028 ≤ c.toNat ∧ c.toNat ≤ 0x202F) := by
    omega
  rcases hranges with h | h | h
  · exact hhides (by decide +kernel : (0x0, 0x1F) ∈ unprintableRanges) ⟨Nat.zero_le _, h⟩
  · exact hhides (by decide +kernel : (0x7F, 0xA0) ∈ unprintableRanges) h
  · exact hhides (by decide +kernel : (0x2028, 0x202F) ∈ unprintableRanges) h

theorem oneLine_of_isPrintable {cs : List Char} (h : ∀ c ∈ cs, isPrintable c = true) :
    OneLine cs := by
  intro c hc
  by_contra hb
  rw [Bool.not_eq_false] at hb
  have := isPrintable_of_isLineBoundary hb
  rw [h c hc] at this
  cases this

theorem oneLine_quoteChars (cs : List Char) : OneLine (quoteChars cs) :=
  oneLine_of_isPrintable fun _ => isPrintable_of_mem_quoteChars

end Abacus.Text
