import Abacus.Proofs.Dialogue.Transcript
import Abacus.Proofs.Worksheet.Container
import Abacus.Proofs.Worksheet.Run

/-!
# Dialogues and worksheets agree

A text may be typed into a dialogue or stand in a file as a worksheet. If it has no line
boundary but line feeds, both take the same expressions from it, though the dialogue stops
at the first that ends it, and both show the same of each.

* `shows_ofLines`: a dialogue writes prompts and its answers in order.
* `evaluated_converse`: the expressions of a dialogue are the first ones of the worksheet.
* `showsSame`: what both show of an expression.
* `converse_agrees`: the whole agreement.
-/

namespace Abacus

open Text

namespace Dialogue

/-! ## Answers in a transcript -/

/-- The text is that of a dialogue that gives these answers: each has the prompt before it and
    a line end behind it, and there are prompts that have no answer, the last of them at the
    end. -/
inductive Shows (prompt : String) : List String → String → Prop
  | leave : Shows prompt [] prompt
  | over : Shows prompt [] (prompt ++ "\n")
  | pass {shown : List String} {text : String} :
      Shows prompt shown text → Shows prompt shown (prompt ++ text)
  | answer (line : String) {shown : List String} {text : String} :
      Shows prompt shown text → Shows prompt (line :: shown) (prompt ++ (line ++ "\n") ++ text)

/-- The answers of a dialogue. -/
def answers (d : Dialogue) : List String := d.evaluated.map fun e => (interpret e).displayLine

theorem shows_ofLines (prompt : String) (ls : List (List Char)) :
    Shows prompt (ofLines prompt ls).answers (ofLines prompt ls).output := by
  induction ls using turn_induction with
  | nil =>
    rw [ofLines_nil]
    exact .over
  | pass line ls hblank ih =>
    rw [ofLines_pass prompt hblank]
    exact .pass ih
  | leave line ls _ hexit =>
    rw [ofLines_leave prompt hexit]
    exact .leave
  | answer line ls hblank hexit ih =>
    rw [ofLines_answer prompt hblank hexit]
    exact .answer _ ih

/-! ## The expressions of a dialogue -/

theorem isExit_eq (line : List Char) :
    isExit line =
      !(String.ofList (strip line) ≠ "quit" && String.ofList (strip line) ≠ "exit") := by
  have hword (word : String) : strip line = word.toList ↔ String.ofList (strip line) = word := by
    rw [← String.toList_inj, String.toList_ofList]
  rw [Bool.eq_iff_iff]
  simp only [isExit, isExitWord, hword, ne_eq, decide_not, Bool.not_and, Bool.not_not]

/-- A dialogue answers the expressions up to the first word that ends it. -/
theorem evaluated_ofLines (prompt : String) (ls : List (List Char)) :
    (ofLines prompt ls).evaluated =
      (expressionsOn ls).takeWhile fun e => e ≠ "quit" && e ≠ "exit" := by
  induction ls using turn_induction with
  | nil => rw [ofLines_nil]; rfl
  | pass line ls hblank ih =>
    rw [ofLines_pass prompt hblank, expressionsOn_cons_of_blank hblank, ih]
  | leave line ls hblank hexit =>
    rw [ofLines_leave prompt hexit, expressionsOn_cons hblank, List.takeWhile_cons]
    rw [isExit_eq, Bool.not_eq_true'] at hexit
    rw [hexit]
    rfl
  | answer line ls hblank hexit ih =>
    rw [ofLines_answer prompt hblank hexit, ih, expressionsOn_cons hblank, List.takeWhile_cons]
    rw [isExit_eq, Bool.not_eq_false'] at hexit
    rw [hexit]
    rfl

/-- Without other line boundaries a dialogue and a worksheet have the same expressions. -/
theorem evaluated_converse (prompt : String) {text : List Char}
    (h : ∀ c ∈ text, isLineBoundary c = true → c = '\n') :
    (converse prompt text).evaluated =
      (Worksheet.expressions text).takeWhile fun e => e ≠ "quit" && e ≠ "exit" := by
  rw [converse_eq_ofLines, evaluated_ofLines, expressionsOn, map_strip_lines h]
  rfl

end Dialogue

/-! ## What is shown of an expression -/

/-- An answer and a line of results show the same of an expression: the text of its value, or
    one message. -/
inductive ShowsSame (e : String) : String → String → Prop
  | number {v : Binary64} : evaluate e = .ok v →
      ShowsSame e (" >> " ++ v.text) (e ++ " = " ++ v.text)
  | message (m : String) : ShowsSame e (" >> " ++ "Error: " ++ m) (e ++ " -> ERROR: " ++ m)

theorem showsSame (e : String) :
    ShowsSame e (interpret e).displayLine (interpret e).resultsLine := by
  rw [displayLine_interpret, resultsLine_interpret]
  cases h : report e with
  | ok v => exact .number ((report_eq_ok_iff e v).mp h).1
  | error f => exact .message f.message

theorem Worksheet.readExpressions_toUTF8 [Archive.SevenZipReader] {file : Path}
    (hfile : Archive.isTextPath file = true) (text : String) :
    readExpressions file text.toUTF8 = .ok (expressions text.toList) :=
  readExpressions_of_holds (holds_toUTF8 hfile text)

/-! ## The agreement -/

/-- A text without other line boundaries than line feeds is typed into a dialogue and stands in
    a file. The dialogue takes the expressions of the worksheet up to the first that is `quit`
    or `exit`, so it has the same outcomes one by one. It writes its answers in order, the run
    over the worksheet writes the results, and each answer shows the same number or the same
    message as the line of the results with its number. -/
theorem Dialogue.converse_agrees [Archive.SevenZipReader] {file : Path}
    (hfile : Archive.isTextPath file = true) {text : String}
    (htext : ∀ c ∈ text.toList, isLineBoundary c = true → c = '\n')
    (prompt : String) :
    ∃ (es : List String) (d : Dialogue),
      Worksheet.readExpressions file text.toUTF8 = .ok es ∧ converse prompt text.toList = d ∧
      (∀ (tree : FileTree) (output : Path) (place : Place), tree.outlet? output = some place →
        ∃ after, Worksheet.run tree file output text.toUTF8 = (.ok (es.map interpret), after) ∧
          after.file? place = some (Worksheet.results (es.map interpret)).toUTF8) ∧
      d.evaluated = es.takeWhile (fun e => e ≠ "quit" && e ≠ "exit") ∧
      d.evaluated.map interpret <+: es.map interpret ∧
      Shows prompt d.answers d.output ∧
      ∀ (k : Nat) (e : String), d.evaluated[k]? = some e → ∃ answer line : String,
        d.answers[k]? = some answer ∧
        (splitLines (Worksheet.results (es.map interpret)).toList)[k]? = some line.toList ∧
        ShowsSame e answer line := by
  have hread := Worksheet.readExpressions_toUTF8 hfile text
  have hevaluated := evaluated_converse prompt htext
  have hprefix : (converse prompt text.toList).evaluated <+: Worksheet.expressions text.toList := by
    rw [hevaluated]
    exact List.takeWhile_prefix _
  refine ⟨_, _, hread, rfl, fun tree output place hp => ?_, hevaluated, hprefix.map interpret, ?_,
    fun k e hk => ?_⟩
  · exact ⟨_, Worksheet.run_of_ok hread hp, FileTree.file?_write _ _ _⟩
  · rw [converse_eq_ofLines]
    exact shows_ofLines prompt _
  · obtain ⟨rest, hrest⟩ := hprefix
    have hes : (Worksheet.expressions text.toList)[k]? = some e := by
      have hlt := (List.getElem?_eq_some_iff.mp hk).1
      rw [← hrest, List.getElem?_append_left hlt, hk]
    refine ⟨_, _, by rw [answers, List.getElem?_map, hk]; rfl, ?_, showsSame e⟩
    have hlines := Worksheet.splitLines_results_outcomes text.toList
    rw [Worksheet.outcomes] at hlines
    rw [hlines, List.getElem?_map, hes]
    rfl

/-- Typed into a dialogue, a worksheet of four expressions ends it at the third. -/
theorem Dialogue.converse_agrees_quit :
    Worksheet.readExpressions ⟨[], [['a', '.', 't', 'x', 't']]⟩ "1+\n \n 2\nquit\n3".toUTF8 =
        .ok ["1+", "2", "quit", "3"] ∧
      (converse "> " "1+\n \n 2\nquit\n3".toList).evaluated = ["1+", "2"] ∧
      ∃ answer line : String,
        (converse "> " "1+\n \n 2\nquit\n3".toList).answers[1]? = some answer ∧
        ShowsSame "2" answer line := by
  have hes : Worksheet.readExpressions ⟨[], [['a', '.', 't', 'x', 't']]⟩
      "1+\n \n 2\nquit\n3".toUTF8 = .ok ["1+", "2", "quit", "3"] := by decide
  have hboundary : "1+\n \n 2\nquit\n3".toList.all
      (fun c => !isLineBoundary c || c = '\n') = true := by decide
  have htext : ∀ c ∈ "1+\n \n 2\nquit\n3".toList, isLineBoundary c = true → c = '\n' := by
    intro c hc hb
    simpa [hb] using List.all_eq_true.mp hboundary c hc
  obtain ⟨es, d, hread, rfl, -, hevaluated, -, -, hshown⟩ :=
    @converse_agrees _ ⟨[], [['a', '.', 't', 'x', 't']]⟩ (by decide) _ htext "> "
  obtain rfl := Except.ok.inj (hes.symm.trans hread)
  obtain ⟨answer, line, hanswer, -, hsame⟩ := hshown 1 "2" (by rw [hevaluated]; decide)
  exact ⟨hes, hevaluated, answer, line, hanswer, hsame⟩

end Abacus
