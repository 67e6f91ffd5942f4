import Abacus.Proofs.Token.Stray

/-!
# The pieces of a text

A text that can be read is literals, operators and runs of blanks, one behind the other, with
each literal and each run as long as possible. Its tokens are those of the pieces. Every other
text has a stray character, and the first one is where the reading fails.

* `EndsBefore.longest`, `Longest.endsBefore`: where a literal ends.
* `lexFrom_eq_ok_iff`: the tokens are those of the pieces.
* `lex_stray_or_cut`: how the reading of a text ends.
-/

namespace Abacus

open Text

namespace Literal

/-- No other literal that the text begins with is longer. -/
def Longest (l : Literal) (rest : List Char) : Prop :=
  ∀ (l' : Literal) (rest' : List Char), l'.WellFormed → l'.chars ++ rest' = l.chars ++ rest →
    l'.chars.length ≤ l.chars.length

theorem count_point_of_isDigit {ds : List Char} (h : ∀ c ∈ ds, c.isDigit = true) :
    ds.count '.' = 0 :=
  List.count_eq_zero_of_not_mem fun hmem => absurd (h _ hmem) (by decide)

/-- A literal has a point if it has a fraction, and no other. -/
theorem count_point_chars {l : Literal} (hl : l.WellFormed) :
    l.chars.count '.' = if l.fraction.isSome then 1 else 0 := by
  obtain ⟨whole, fraction⟩ := l
  have hwhole := count_point_of_isDigit hl.whole_isDigit
  cases fraction with
  | none => exact hwhole
  | some fraction =>
    have hfraction := count_point_of_isDigit (hl.fraction_isDigit fraction rfl)
    show (whole ++ '.' :: fraction).count '.' = 1
    rw [List.count_append, List.count_cons_self, hwhole, hfraction]

/-- A literal that the text behind does not go on with is as long as can be. -/
theorem EndsBefore.longest {l : Literal} {rest : List Char} (h : l.EndsBefore rest)
    (hl : l.WellFormed) : l.Longest rest := by
  intro l' rest' hl' heq
  rcases List.append_eq_append_iff.mp heq with ⟨more, hmore, -⟩ | ⟨more, hmore, hrest⟩
  · rw [hmore, List.length_append]
    exact Nat.le_add_right ..
  cases more with
  | nil => rw [hmore, List.append_nil]
  | cons c more =>
    have hc : c ∈ rest.head? := by rw [hrest]; rfl
    have hnumeric : IsNumeric c := hl'.isNumeric (by rw [hmore]; simp)
    rcases hnumeric with hdigit | rfl
    · rw [h.1 c hc] at hdigit
      cases hdigit
    · -- the point would be the second one
      have hfraction : l.fraction.isSome := by
        rw [Option.isSome_iff_ne_none]
        exact fun hnone => h.2 hnone hc
      have hcount := count_point_chars hl'
      rw [hmore, List.count_append, List.count_cons_self, count_point_chars hl, if_pos hfraction]
        at hcount
      split at hcount <;> omega

/-- A literal that is as long as can be ends before the text behind. -/
theorem Longest.endsBefore {l : Literal} {rest : List Char} (h : l.Longest rest)
    (hl : l.WellFormed) : l.EndsBefore rest := by
  -- one more character would make a longer literal
  have hmore (l' : Literal) {c : Char} (hc : c ∈ rest.head?) (hl' : l'.WellFormed)
      (hchars : l'.chars = l.chars ++ [c]) : False := by
    obtain ⟨cs, rfl⟩ := List.head?_eq_some_iff.mp hc
    have := h l' cs hl' (by rw [hchars, List.append_assoc, List.singleton_append])
    rw [hchars, List.length_append, List.length_singleton] at this
    omega
  obtain ⟨whole, fraction⟩ := l
  refine ⟨fun c hc => ?_, fun hnone hc => ?_⟩
  · by_contra hdigit
    rw [Bool.not_eq_false] at hdigit
    have hconcat {ds : List Char} (hds : ∀ d ∈ ds, d.isDigit = true) :
        ∀ d ∈ ds ++ [c], d.isDigit = true := by
      simpa [or_imp, forall_and, hdigit] using hds
    cases fraction with
    | none =>
      refine hmore ⟨whole ++ [c], none⟩ hc ⟨hconcat hl.whole_isDigit, ?_, ?_⟩ rfl
      · rintro _ ⟨⟩
      · intro hnil
        simp at hnil
    | some fraction =>
      refine hmore ⟨whole, some (fraction ++ [c])⟩ hc ⟨hl.whole_isDigit, ?_, ?_⟩ ?_
      · rintro _ ⟨⟩
        exact hconcat (hl.fraction_isDigit fraction rfl)
      · intro hwhole
        obtain ⟨d, ds, hd⟩ := hl.ne_nil hwhole
        cases hd
        exact ⟨d, ds ++ [c], rfl⟩
      · simp [chars]
  · cases hnone
    refine hmore ⟨whole, some []⟩ hc ⟨hl.whole_isDigit, ?_, fun hwhole => ?_⟩ rfl
    · rintro _ ⟨⟩
      exact List.forall_mem_nil _
    · exact absurd hwhole hl.chars_ne_nil

end Literal

namespace Token

/-- A piece of a text: a literal, an operator, or a run of blanks. -/
inductive Piece
  | literal (l : Literal)
  | operator (op : Operator)
  | blanks (run : List Char)

/-- The token that a piece stands for. -/
def Piece.token? : Piece → Option Token
  | .literal l => some (.number l.value)
  | .operator op => some (.operator op)
  | .blanks _ => none

/-- The text is these pieces, one behind the other. -/
inductive Cut : List Piece → List Char → Prop
  | nil : Cut [] []
  | literal {l : Literal} {ps : List Piece} {cs : List Char} : l.WellFormed → l.Longest cs →
      Cut ps cs → Cut (.literal l :: ps) (l.chars ++ cs)
  | operator (op : Operator) {ps : List Piece} {cs : List Char} : Cut ps cs →
      Cut (.operator op :: ps) (op.symbol :: cs)
  | blanks {run : List Char} {ps : List Piece} {cs : List Char} : run ≠ [] →
      (∀ c ∈ run, isBlank c = true) → (∀ c ∈ cs.head?, isBlank c = false) →
      Cut ps cs → Cut (.blanks run :: ps) (run ++ cs)

theorem isBlank_of_isNumeric {c : Char} (h : IsNumeric c) : isBlank c = false := by
  by_contra hblank
  rw [Bool.not_eq_false] at hblank
  obtain ⟨hdigit, hpoint⟩ := not_numeric_of_isBlank hblank
  rcases h with h | h
  · rw [hdigit] at h
    cases h
  · exact hpoint h

/-- A blank lengthens the run that it stands in front of, or else is one by itself. -/
theorem Cut.exists_cons_blank {ps : List Piece} {cs : List Char} (h : Cut ps cs) {c : Char}
    (hc : isBlank c = true) :
    ∃ qs, Cut qs (c :: cs) ∧ qs.filterMap Piece.token? = ps.filterMap Piece.token? := by
  have halone (hcs : ∀ d ∈ cs.head?, isBlank d = false) :
      ∃ qs, Cut qs (c :: cs) ∧ qs.filterMap Piece.token? = ps.filterMap Piece.token? :=
    ⟨.blanks [c] :: ps, .blanks (by simp) (by simpa using hc) hcs h, rfl⟩
  cases h with
  | nil => exact halone (by rintro _ ⟨⟩)
  | @literal l ps cs hl hlongest h =>
    refine halone fun d hd => isBlank_of_isNumeric (hl.isNumeric ?_)
    rw [List.head?_append_of_ne_nil _ hl.chars_ne_nil] at hd
    exact List.mem_of_mem_head? hd
  | operator op h =>
    refine halone fun d hd => ?_
    cases hd
    cases op <;> decide
  | @blanks run ps cs hne hrun hcs h =>
    exact ⟨.blanks (c :: run) :: ps,
      .blanks (List.cons_ne_nil c run) (List.forall_mem_cons.mpr ⟨hc, hrun⟩) hcs h, rfl⟩

theorem exists_cut_of_lexFrom {pos : Nat} {cs : List Char} {ts : List Token}
    (h : lexFrom pos cs = .ok ts) : ∃ ps, Cut ps cs ∧ ts = ps.filterMap Piece.token? := by
  fun_induction lexFrom pos cs generalizing ts with
  | case1 pos cs l rest hs ih =>
    obtain ⟨us, hus, rfl⟩ := exists_of_map_eq_ok h
    obtain ⟨ps, hps, rfl⟩ := ih hus
    have hl := Literal.wellFormed_of_scan hs
    rw [← Literal.chars_append_of_scan hs]
    exact ⟨.literal l :: ps, .literal hl ((Literal.endsBefore_of_scan hs).longest hl) hps, rfl⟩
  | case2 pos =>
    cases h
    exact ⟨[], .nil, rfl⟩
  | case3 pos c rest _ op hop ih =>
    obtain ⟨us, hus, rfl⟩ := exists_of_map_eq_ok h
    obtain ⟨ps, hps, rfl⟩ := ih hus
    rw [← Operator.symbol_of_ofSymbol? hop]
    exact ⟨.operator op :: ps, .operator op hps, rfl⟩
  | case4 pos c rest _ _ hblank ih =>
    obtain ⟨ps, hps, rfl⟩ := ih h
    obtain ⟨qs, hqs, hts⟩ := hps.exists_cons_blank hblank
    exact ⟨qs, hqs, hts.symm⟩
  | case5 pos c rest _ _ _ => cases h

theorem Cut.lexFrom_eq {ps : List Piece} {cs : List Char} (h : Cut ps cs) (pos : Nat) :
    lexFrom pos cs = .ok (ps.filterMap Piece.token?) := by
  induction h generalizing pos with
  | nil => exact lexFrom_nil pos
  | literal hl hlongest _ ih =>
    rw [lexFrom_literal pos hl (hlongest.endsBefore hl), ih]
    rfl
  | operator op _ ih =>
    rw [lexFrom_symbol, ih]
    rfl
  | blanks _ hrun _ _ ih =>
    rw [lexFrom_separators pos fun c hc => .inr (hrun c hc), operatorsIn_of_blank hrun, ih]
    rfl

theorem lexFrom_eq_ok_iff (pos : Nat) (cs : List Char) (ts : List Token) :
    lexFrom pos cs = .ok ts ↔ ∃ ps, Cut ps cs ∧ ts = ps.filterMap Piece.token? := by
  refine ⟨exists_cut_of_lexFrom, ?_⟩
  rintro ⟨ps, hps, rfl⟩
  exact hps.lexFrom_eq pos

/-- The reading of a text fails just when the text has a stray character, and then at the first
    one, with its place and the character there. It succeeds just when the text is pieces, one
    behind the other, of which each literal is as long as possible, and gives the tokens of the
    literals and operators in their order. -/
theorem lex_stray_or_cut (s : String) :
    ((∃ f, lex s = .error f) ↔ ∃ i, StrayAt s.toList i) ∧
    (∀ f, lex s = .error f ↔
      ∃ (i : Nat) (c : Char), IsLeast {i | StrayAt s.toList i} i ∧ s.toList[i]? = some c ∧
        f = .unexpected (String.singleton c) i) ∧
    (∀ ts, lex s = .ok ts ↔ ∃ ps, Cut ps s.toList ∧ ts = ps.filterMap Piece.token?) := by
  have herror (f : Failure) : lex s = .error f ↔
      ∃ (i : Nat) (c : Char), IsLeast {i | StrayAt s.toList i} i ∧ s.toList[i]? = some c ∧
        f = .unexpected (String.singleton c) i := by
    rw [lex, lexFrom_eq_error_iff, FailsAt]
    simp only [Nat.zero_add]
  refine ⟨⟨?_, ?_⟩, herror, lexFrom_eq_ok_iff 0 s.toList⟩
  · rintro ⟨f, hf⟩
    obtain ⟨i, -, hi, -⟩ := (herror f).mp hf
    exact ⟨i, hi.1⟩
  · rintro ⟨i, hi⟩
    cases h : lex s with
    | error f => exact ⟨f, rfl⟩
    | ok ts => exact absurd hi (not_strayAt_of_lexFrom h i)

/-- The last point is stray, for the digits in front of it are a fraction. -/
example : lex "1..2 1.2.3." = .error (.unexpected "." 10) := by decide +kernel

end Token

end Abacus
