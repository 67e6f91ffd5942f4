import Abacus.Proofs.Outcome.Message
import Mathlib.Data.List.Basic
import Mathlib.Data.List.Infix

/-!
# Results lines decoded

The line of an outcome tells the text and what became of it, although the text may hold
anything, the marks of a line included. A mark cuts a line in two, and where it stands more
than once, its last place is meant. A text with a value holds no `=` and no `>`, for
the reader takes neither, and a message never holds the mark of an error, for it has no
word in capitals.

* `LastSplit.unique`: a line has one last cut.
* `lastSplit_append`: a mark that does not start again behind its first character.
* `onlySplit_append`: a mark with a character that stands nowhere else.
* `isReadable_of_lex`: what stands in a text that can be read.
* `lastSplit_resultsLine`, `onlySplit_resultsLine`: the cut of a line.
* `resultsLine_decodes`: every line can be decoded.
-/

namespace Abacus

/-! ## Marks in a line -/

namespace Text

/-- The mark stands in the line between `pre` and `post`, and nowhere later. -/
structure LastSplit (mark line pre post : String) : Prop where
  eq : line = pre ++ mark ++ post
  length_le : ∀ pre' post', line = pre' ++ mark ++ post' → pre'.length ≤ pre.length

/-- The mark stands in the line between `pre` and `post`, and nowhere else. -/
structure OnlySplit (mark line pre post : String) : Prop where
  eq : line = pre ++ mark ++ post
  unique : ∀ pre' post', line = pre' ++ mark ++ post' → pre' = pre ∧ post' = post

theorem LastSplit.unique {mark line pre post pre' post' : String}
    (h : LastSplit mark line pre post) (h' : LastSplit mark line pre' post') : pre = pre' := by
  have hlength : pre.toList.length = pre'.toList.length := by
    rw [String.length_toList, String.length_toList]
    exact Nat.le_antisymm (h'.length_le _ _ h.eq) (h.length_le _ _ h'.eq)
  have hline : (pre ++ mark ++ post).toList = (pre' ++ mark ++ post').toList := by
    rw [← h.eq, ← h'.eq]
  simp only [String.toList_append, List.append_assoc] at hline
  exact String.toList_inj.mp (List.append_inj_left hline hlength)

theorem infix_of_eq_append {mark line pre post : String} (h : line = pre ++ mark ++ post) :
    mark.toList <:+: line.toList := by
  subst h
  exact ⟨pre.toList, post.toList, by simp only [String.toList_append]⟩

theorem not_infix_of_not_mem {mark cs : List Char} {c : Char} (hc : c ∈ mark) (h : c ∉ cs) :
    ¬ mark <:+: cs :=
  fun hm => h (hm.subset hc)

theorem not_infix_of_count_lt {mark cs : List Char} {c : Char} (h : cs.count c < mark.count c) :
    ¬ mark <:+: cs :=
  fun hm => absurd (hm.sublist.count_le c) (Nat.not_le.mpr h)

/-- What stands before a mark is all that stands before its last place, if the mark does not
    start again behind its first character. -/
theorem lastSplit_append {mark post : String} (pre : String)
    (h : ¬ mark.toList <:+: (mark.toList ++ post.toList).tail) :
    LastSplit mark (pre ++ mark ++ post) pre post := by
  refine ⟨rfl, fun pre' post' heq => Nat.le_of_not_lt fun hlt => h ?_⟩
  have heq' := congrArg String.toList heq
  simp only [String.toList_append, List.append_assoc] at heq'
  rw [← String.length_toList, ← String.length_toList] at hlt
  rcases List.append_eq_append_iff.mp heq' with ⟨more, hpre, hmark⟩ | ⟨more, hpre, -⟩
  · cases more with
    | nil => simp [hpre] at hlt
    | cons c cs =>
      rw [hmark, List.cons_append, List.tail_cons]
      exact ⟨cs, post'.toList, by rw [List.append_assoc]⟩
  · rw [hpre, List.length_append] at hlt
    omega

/-- A mark around a character that stands nowhere else in the line has one place. -/
theorem onlySplit_append {mark pre post : String} {before after : List Char} {c : Char}
    (hmark : mark.toList = before ++ c :: after) (hpre : c ∉ pre.toList ++ before)
    (hpost : c ∉ after ++ post.toList) : OnlySplit mark (pre ++ mark ++ post) pre post := by
  refine ⟨rfl, fun pre' post' heq => ?_⟩
  have hcut (p q : String) :
      (p ++ mark ++ q).toList = (p.toList ++ before) ++ c :: (after ++ q.toList) := by
    simp only [String.toList_append, hmark, List.append_assoc, List.cons_append]
  have heq' := congrArg String.toList heq
  rw [hcut, hcut, List.append_cons_inj_of_notMem hpre hpost] at heq'
  obtain ⟨hbefore, -, hafter⟩ := heq'
  exact ⟨(String.toList_inj.mp (List.append_cancel_right hbefore)).symm,
    (String.toList_inj.mp (List.append_cancel_left hafter)).symm⟩

end Text

open Text

/-! ## Texts that can be read -/

namespace Token

/-- A character that the reader takes: one of a literal, an operator or a blank. -/
def IsReadable (c : Char) : Prop :=
  IsNumeric c ∨ (Operator.ofSymbol? c).isSome = true ∨ isBlank c = true

instance (c : Char) : Decidable (IsReadable c) := inferInstanceAs (Decidable (_ ∨ _))

theorem isReadable_of_lexFrom {pos : Nat} {cs : List Char} {ts : List Token}
    (h : lexFrom pos cs = .ok ts) : ∀ c ∈ cs, IsReadable c := by
  fun_induction lexFrom pos cs generalizing ts with
  | case1 pos cs l rest hs ih =>
    obtain ⟨us, hus, -⟩ := exists_of_map_eq_ok h
    rw [← Literal.chars_append_of_scan hs]
    intro c hc
    rcases List.mem_append.mp hc with hc | hc
    · exact .inl ((Literal.wellFormed_of_scan hs).isNumeric hc)
    · exact ih hus c hc
  | case2 pos => exact List.forall_mem_nil _
  | case3 pos c rest _ op hop ih =>
    obtain ⟨us, hus, -⟩ := exists_of_map_eq_ok h
    exact List.forall_mem_cons.mpr ⟨.inr (.inl (by rw [hop]; rfl)), ih hus⟩
  | case4 pos c rest _ _ hblank ih =>
    exact List.forall_mem_cons.mpr ⟨.inr (.inr hblank), ih h⟩
  | case5 pos c rest _ _ _ => cases h

theorem isReadable_of_lex {s : String} {ts : List Token} (h : lex s = .ok ts) {c : Char}
    (hc : c ∈ s.toList) : IsReadable c :=
  isReadable_of_lexFrom h c hc

/-- The text of a finite number is read as the number, with its sign as an operator. -/
theorem lex_text {v : Binary64} (hv : v.isFinite = true) :
    lex v.text = .ok (spelled (.number v)) := by
  have hfinite : ∀ t ∈ [number v], t.isFinite = true := List.forall_mem_singleton.mpr hv
  have hread := lexFrom_renderChars 0 hfinite
  rw [List.flatMap_singleton] at hread
  rw [lex, Binary64.text, String.toList_ofList]
  exact hread

end Token

theorem not_mem_of_evaluate {s : String} {v : Binary64} (h : evaluate s = .ok v) {c : Char}
    (hc : ¬ Token.IsReadable c) : c ∉ s.toList := by
  intro hm
  cases hlex : Token.lex s with
  | error f =>
    rw [evaluate_of_lex_error hlex] at h
    cases h
  | ok ts => exact hc (Token.isReadable_of_lex hlex hm)

/-! ## Cutting a line -/

theorem not_mem_text {c : Char} (hc : ¬ (IsNumeric c ∨ c = '-' ∨ c ∈ ['i', 'n', 'f', 'a']))
    (v : Binary64) : c ∉ v.text.toList := by
  rw [Binary64.text, String.toList_ofList]
  exact Binary64.not_mem_chars hc v

theorem resultsLine_of_ok {s : String} {v : Binary64} (h : report s = .ok v) :
    (interpret s).resultsLine = s ++ " = " ++ v.text := by
  rw [resultsLine_interpret, h]

theorem resultsLine_of_error {s : String} {f : Failure} (h : report s = .error f) :
    (interpret s).resultsLine = s ++ " -> ERROR: " ++ f.message := by
  rw [resultsLine_interpret, h]

/-- In front of a text with few letters `R`, the mark of an error does not start again behind
    its first character. -/
theorem not_infix_errorMark {cs : List Char} (h : cs.count 'R' ≤ 1) :
    ¬ " -> ERROR: ".toList <:+: (" -> ERROR: ".toList ++ cs).tail := by
  have hcs : ¬ " -> ERROR: ".toList <:+: cs :=
    not_infix_of_count_lt (c := 'R') (Nat.lt_of_le_of_lt h (by decide))
  have hstart : ¬ "-> ERROR: ".toList <+: cs := fun hm =>
    not_infix_of_count_lt (c := 'R') (Nat.lt_of_le_of_lt h (by decide)) hm.isInfix
  -- within the mark only the last space can start another one
  simpa [List.infix_cons_iff, List.cons_prefix_cons] using And.intro hstart hcs

/-- The line of a text with a failure ends with the last mark of an error and the message. -/
theorem lastSplit_resultsLine {s : String} {f : Failure} (h : report s = .error f) :
    LastSplit " -> ERROR: " (interpret s).resultsLine s f.message := by
  rw [resultsLine_of_error h]
  exact lastSplit_append s
    (not_infix_errorMark (Failure.count_message_le (reported_of_report h)))

/-- The line of a text with a finite value has one sign of equality. -/
theorem count_resultsLine {s : String} {v : Binary64} (h : report s = .ok v) :
    (interpret s).resultsLine.toList.count '=' = 1 := by
  have hs : s.toList.count '=' = 0 := List.count_eq_zero_of_not_mem
    (not_mem_of_evaluate ((report_eq_ok_iff s v).mp h).1 (by decide))
  have hv : v.text.toList.count '=' = 0 :=
    List.count_eq_zero_of_not_mem (not_mem_text (by decide) v)
  have hmark : " = ".toList.count '=' = 1 := by decide
  rw [resultsLine_of_ok h, String.toList_append, String.toList_append, List.count_append,
    List.count_append, hs, hv, hmark]

theorem onlySplit_resultsLine {s : String} {v : Binary64} (h : report s = .ok v) :
    OnlySplit " = " (interpret s).resultsLine s v.text := by
  have hs : '=' ∉ s.toList ++ [' '] := by
    simpa using not_mem_of_evaluate ((report_eq_ok_iff s v).mp h).1 (c := '=') (by decide)
  have hv : '=' ∉ [' '] ++ v.text.toList := by
    simpa using not_mem_text (c := '=') (by decide) v
  rw [resultsLine_of_ok h]
  exact onlySplit_append (by decide) hs hv

/-- The mark of an error stands in the line of a text just if there is a failure to report. -/
theorem errorMark_infix_resultsLine_iff (s : String) :
    " -> ERROR: ".toList <:+: (interpret s).resultsLine.toList ↔ ∃ f, report s = .error f := by
  cases h : report s with
  | error f => exact iff_of_true (infix_of_eq_append (resultsLine_of_error h)) ⟨f, rfl⟩
  | ok v =>
    have hs : '>' ∉ s.toList := not_mem_of_evaluate ((report_eq_ok_iff s v).mp h).1 (by decide)
    have hv : '>' ∉ v.text.toList := not_mem_text (by decide) v
    have hline : '>' ∉ (interpret s).resultsLine.toList := by
      rw [resultsLine_of_ok h, String.toList_append, String.toList_append]
      simp [hs, hv]
    have hmark : '>' ∈ " -> ERROR: ".toList := by decide
    exact iff_of_false (not_infix_of_not_mem hmark hline) (by rintro ⟨f, ⟨⟩⟩)

/-- A failure is reported just if the interpretation is an error or has a result that is not
    finite. -/
theorem exists_report_error_iff (s : String) :
    (∃ f, report s = .error f) ↔
      (∃ kind message, interpret s = .error s kind message) ∨
        ∃ v, interpret s = .ok s v ∧ v.isFinite = false := by
  simp only [report_eq_error_iff]
  cases he : evaluate s with
  | error f => simp [interpret_of_error he]
  | ok v => simp [interpret_of_ok he]

/-- Two texts with one line are the same text. -/
theorem resultsLine_injective {s t : String}
    (hline : (interpret t).resultsLine = (interpret s).resultsLine) : t = s := by
  have hmark := errorMark_infix_resultsLine_iff t
  rw [hline, errorMark_infix_resultsLine_iff] at hmark
  cases hs : report s with
  | error f =>
    obtain ⟨g, ht⟩ := hmark.mp ⟨f, hs⟩
    exact (hline ▸ lastSplit_resultsLine ht).unique (lastSplit_resultsLine hs)
  | ok v =>
    cases ht : report t with
    | error g =>
      obtain ⟨f, hf⟩ := hmark.mpr ⟨g, ht⟩
      rw [hs] at hf
      cases hf
    | ok w => exact ((onlySplit_resultsLine hs).unique t w.text (hline ▸ resultsLine_of_ok ht)).1

/-! ## Every line -/

/-- Every line can be decoded. It holds the mark of an error just if the interpretation is an
    error or has a result that is not finite. Without the mark it has one sign of equality, the
    text stands before it, and what stands behind it is read as the result. With the mark, the
    text stands before the last one. So the line gives the text back. -/
theorem resultsLine_decodes (s : String) :
    (" -> ERROR: ".toList <:+: (interpret s).resultsLine.toList ↔
      (∃ kind message, interpret s = .error s kind message) ∨
        ∃ v, interpret s = .ok s v ∧ v.isFinite = false) ∧
    (¬ " -> ERROR: ".toList <:+: (interpret s).resultsLine.toList →
      ∃ v d, interpret s = .ok s v ∧ (interpret s).resultsLine.toList.count '=' = 1 ∧
        OnlySplit " = " (interpret s).resultsLine s d ∧
        Token.lex d = .ok (if v.signBit then [.operator .subtract, .number v.abs]
          else [.number v])) ∧
    (" -> ERROR: ".toList <:+: (interpret s).resultsLine.toList →
      ∃ m, LastSplit " -> ERROR: " (interpret s).resultsLine s m) ∧
    ∀ t, (interpret t).resultsLine = (interpret s).resultsLine → t = s := by
  refine ⟨?_, fun hmark => ?_, fun hmark => ?_, fun t hline => ?_⟩
  · rw [errorMark_infix_resultsLine_iff, exists_report_error_iff]
  · rw [errorMark_infix_resultsLine_iff] at hmark
    cases h : report s with
    | error f => exact absurd ⟨f, h⟩ hmark
    | ok v =>
      obtain ⟨he, hv⟩ := (report_eq_ok_iff s v).mp h
      exact ⟨v, v.text, interpret_of_ok he, count_resultsLine h, onlySplit_resultsLine h,
        Token.lex_text hv⟩
  · obtain ⟨f, h⟩ := (errorMark_infix_resultsLine_iff s).mp hmark
    exact ⟨f.message, lastSplit_resultsLine h⟩
  · exact resultsLine_injective hline

/-- The mark of an error is itself a text, which stands before the last mark of its line, and
    the digit `0` stands before the sign of equality. -/
theorem resultsLine_decodes_errorMark :
    (∃ m, LastSplit " -> ERROR: " (interpret " -> ERROR: ").resultsLine " -> ERROR: " m) ∧
    ∃ d, OnlySplit " = " (interpret "0").resultsLine "0" d := by
  have hfail : evaluate " -> ERROR: " = .error (.unexpected ">" 2) := by
    refine evaluate_of_lex_error ?_
    have htext : " -> ERROR: ".toList =
        ' ' :: Operator.subtract.symbol :: '>' :: " ERROR: ".toList := by decide
    rw [Token.lex, htext, Token.lexFrom_space, Token.lexFrom_symbol,
      Token.lexFrom_stray _ (by decide) (by decide) (by decide) (by decide)]
    rfl
  have hzero : evaluate "0" = .ok .zero := by
    have htext : "0" = Binary64.text .zero := by decide
    rw [htext, evaluate_of_lex_ok (Token.lex_text rfl)]
    exact (Chain.parse_eq_ok_iff [.number .zero] .zero).mpr
      ⟨fun z h => by simp [Chain.DividesByZeroAt] at h,
        .number .zero, .product (.number .zero), rfl⟩
  obtain ⟨hmark, -, hlast, -⟩ := resultsLine_decodes " -> ERROR: "
  obtain ⟨hmark', hvalue, -⟩ := resultsLine_decodes "0"
  refine ⟨hlast (hmark.mpr (.inl ⟨_, _, interpret_of_error hfail⟩)), ?_⟩
  have hnot : ¬ " -> ERROR: ".toList <:+: (interpret "0").resultsLine.toList := by
    rw [hmark', interpret_of_ok hzero]
    rintro (⟨_, _, ⟨⟩⟩ | ⟨v, ⟨⟩, hv⟩)
    cases hv
  obtain ⟨-, d, -, -, hd, -⟩ := hvalue hnot
  exact ⟨d, hd⟩

end Abacus
