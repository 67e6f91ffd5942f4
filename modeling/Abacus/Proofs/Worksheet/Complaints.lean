import Abacus.Proofs.Outcome.Decoding
import Abacus.Proofs.Session.Turn

/-!
# Errors in the journal

A run records an error for each expression that has no value, in order. The number in the record
counts expressions: it is the number of lines that are not blank, up to the line of the
expression, and so the number of that line only where no blank line comes before. An expression
whose value is not finite has a line in the results that reports an error, and no record.

* `numbered`: the expressions of a text with the lines on which they stand.
* `complaints`: error records of numbered expressions.
* `errors_journalFrom`, `zipIdx_expressions`: what is recorded, and what the numbers count.
* `errors_of_run`: the error records of a run beside the lines of its results.
-/

namespace Abacus.Worksheet

open Text

/-! ## Error records -/

/-- The error records among what is said on the side. -/
def errors (notices : List Notice) : List Journal.Record :=
  notices.filterMap fun
    | .record r => if r.level = .error then some r else none
    | .line _ => none

theorem errors_append (ns ms : List Notice) : errors (ns ++ ms) = errors ns ++ errors ms :=
  List.filterMap_append

/-- The error record of the expression with some number. -/
def errorRecord (number : Nat) (s : String) (f : Failure) : Journal.Record :=
  ⟨.error, "🧮❌ Line " ++ toString number ++ ": " ++ f.message ++ " (" ++ Text.quote s ++ ")"⟩

/-- The error record of an expression that stands on a numbered line, if it fails. `eval` tells
    whether it does, and `number` what the line is called. -/
def complaintOf (eval : String → Except Failure Binary64) (number : Nat → Nat)
    (e : String × Nat) : Option Journal.Record :=
  match eval e.1 with
  | .ok _ => none
  | .error f => some (errorRecord (number e.2) e.1 f)

/-- The error records of expressions that stand on numbered lines. -/
def complaints (eval : String → Except Failure Binary64) (number : Nat → Nat)
    (es : List (String × Nat)) : List Journal.Record :=
  es.filterMap (complaintOf eval number)

theorem complaints_congr {eval eval' : String → Except Failure Binary64}
    {number number' : Nat → Nat} {es : List (String × Nat)}
    (h : ∀ e ∈ es, eval e.1 = eval' e.1 ∧ number e.2 = number' e.2) :
    complaints eval number es = complaints eval' number' es := by
  refine List.filterMap_congr fun e he => ?_
  rw [complaintOf, complaintOf, (h e he).1, (h e he).2]

/-- What is recorded of the evaluation of an expression is no error. -/
theorem errors_ofExpression (s : String) :
    errors ((Journal.ofExpression s).map .record) = [] := by
  rw [errors, List.filterMap_map, List.filterMap_eq_nil_iff]
  intro r hr
  have hdebug : r.level = .debug := by
    rcases List.mem_append.mp hr with htokens | hfailure
    · rw [Journal.ofEvaluation] at htokens
      split at htokens
      · rw [List.mem_singleton.mp htokens]
        rfl
      · cases htokens
    · split at hfailure
      · cases hfailure
      · rw [List.mem_singleton.mp hfailure]
        rfl
  simp [hdebug]

/-- The errors in a journal are those of the expressions without a value, with their numbers. -/
theorem errors_journalFrom (number : Nat) (es : List String) :
    errors ((journalFrom number es).map .record) = complaints evaluate id (es.zipIdx number) := by
  induction es generalizing number with
  | nil => rfl
  | cons s rest ih =>
    rw [journalFrom, List.map_append, List.map_append, errors_append, errors_append,
      errors_ofExpression, ih, List.nil_append, List.zipIdx_cons, complaints, complaints,
      List.filterMap_cons, complaintOf]
    cases h : evaluate s with
    | ok v => simp only [interpret_of_ok h]; rfl
    | error f => simp only [interpret_of_error h]; rfl

/-! ## Numbers of lines -/

/-- Is anything but blanks on a line? -/
def isInked (line : List Char) : Bool := strip line ≠ []

/-- The expression on a line, if the line is not blank, with the number of the line. -/
def onLine (l : List Char × Nat) : Option (String × Nat) :=
  if isInked l.1 then some (String.ofList (strip l.1), l.2) else none

/-- The expressions of a text, each with the number of the line on which it stands. -/
def numbered (text : List Char) : List (String × Nat) :=
  ((splitLines text).zipIdx 1).filterMap onLine

/-- How many of the first lines of a text are not blank. -/
def inked (text : List Char) (n : Nat) : Nat := ((splitLines text).take n).countP isInked

/-- The expressions of the lines of `rest`, which stand behind the lines of `before`: the number
    of an expression is that of the lines, up to its own, that are not blank. -/
theorem zipIdx_of_lines (before rest : List (List Char)) :
    (((rest.map strip).filter (· ≠ [])).map String.ofList).zipIdx (before.countP isInked + 1) =
      ((rest.zipIdx (before.length + 1)).filterMap onLine).map fun e =>
        (e.1, ((before ++ rest).take e.2).countP isInked) := by
  induction rest generalizing before with
  | nil => rfl
  | cons line rest ih =>
    have ih := ih (before ++ [line])
    rw [List.length_append, List.length_singleton, List.append_assoc, List.singleton_append,
      List.countP_append, List.countP_singleton] at ih
    rw [List.zipIdx_cons, List.filterMap_cons, List.map_cons, List.filter_cons]
    by_cases hblank : strip line = []
    · have hline : isInked line = false := by simp [isInked, hblank]
      rw [hline, if_neg Bool.false_ne_true] at ih
      simp only [onLine, hline, hblank, ne_eq, not_true_eq_false, decide_false]
      exact ih
    · have hline : isInked line = true := by simp [isInked, hblank]
      have htake : (before ++ line :: rest).take (before.length + 1) = before ++ [line] := by
        rw [List.take_append, List.take_of_length_le (Nat.le_succ _), Nat.add_sub_cancel_left]
        rfl
      rw [hline, if_pos rfl] at ih
      simp only [onLine, hline, hblank, ne_eq, not_false_eq_true, decide_true, if_true,
        List.map_cons, List.zipIdx_cons, htake, List.countP_append, List.countP_singleton]
      rw [← ih]

/-- The expressions are counted by the lines that are not blank. -/
theorem zipIdx_expressions (text : List Char) :
    (expressions text).zipIdx 1 = (numbered text).map fun e => (e.1, inked text e.2) :=
  zipIdx_of_lines [] (splitLines text)

theorem map_fst_numbered (text : List Char) : (numbered text).map (·.1) = expressions text := by
  have h := congrArg (List.map Prod.fst) (zipIdx_expressions text)
  rw [List.zipIdx_map_fst, List.map_map] at h
  exact h.symm

theorem le_length_of_numbered {text : List Char} {e : String × Nat} (he : e ∈ numbered text) :
    e.2 ≤ (splitLines text).length := by
  obtain ⟨⟨line, n⟩, hl, hon⟩ := List.mem_filterMap.mp he
  have hn := List.snd_lt_add_of_mem_zipIdx hl
  unfold onLine at hon
  split at hon
  · cases hon
    omega
  · cases hon

/-- The number of an expression is that of its line just when no line up to there is blank. -/
theorem inked_eq_iff {text : List Char} {e : String × Nat} (he : e ∈ numbered text) :
    inked text e.2 = e.2 ↔ ∀ line ∈ (splitLines text).take e.2, isInked line = true := by
  have hlength : ((splitLines text).take e.2).length = e.2 := by
    rw [List.length_take, Nat.min_eq_left (le_length_of_numbered he)]
  rw [inked, ← List.countP_eq_length, hlength]

/-! ## Runs -/

section Runs

variable [Archive.SevenZipReader]

/-- The expressions have their records between two that are no errors. -/
theorem errors_workThrough (input output : Path) (es : List String) :
    errors ((Task.workThrough input output es).opening ++
      (Task.workThrough input output es).notices) = complaints evaluate id (es.zipIdx 1) := by
  have hnotices : (Task.workThrough input output es).notices =
      (journalFrom 1 es).map .record ++ [.record (completion output)] := List.map_append
  rw [hnotices, errors_append, errors_append, errors_journalFrom]
  exact List.append_nil _

/-- The error records of a run whose results are written. The results have a line for each
    expression, and the line reports an error just when the expression has no value or its value
    is not finite. The journal has a record, in the same order, for each expression without a
    value, with the number of lines up to its own that are not blank; that is the number of the
    line itself just when none of those is blank. So where no line is blank and all values are
    finite, the journal has one record for each line that reports an error, with the number of
    the line on which the expression stands. -/
theorem errors_of_run {input : Path} {bytes : ByteArray} {text : List Char}
    (hread : read input bytes = .ok text) {tree : FileTree} {output : Path} {place : Place}
    (hplace : tree.outlet? output = some place) :
    let t := Session.settle tree (Task.workThroughFile input output bytes)
    (∃ file : String, t.tree.file? place = some file.toUTF8 ∧
      splitLines file.toList = (numbered text).map fun e => (interpret e.1).resultsLine.toList) ∧
    (∀ s, " -> ERROR: ".toList <:+: (interpret s).resultsLine.toList ↔
      (∃ f, evaluate s = .error f) ∨ ∃ v, evaluate s = .ok v ∧ v.isFinite = false) ∧
    errors t.notices = complaints evaluate (inked text) (numbered text) ∧
    (∀ e ∈ numbered text,
      inked text e.2 = e.2 ↔ ∀ line ∈ (splitLines text).take e.2, isInked line = true) ∧
    ((∀ line ∈ splitLines text, isInked line = true) →
      (∀ e ∈ numbered text, ∀ v, evaluate e.1 = .ok v → v.isFinite = true) →
      errors t.notices = complaints report id (numbered text)) := by
  have hes : readExpressions input bytes = .ok (expressions text) := by
    rw [readExpressions, hread]
    rfl
  have hsettle := settle_of_results hes hplace
  have hnotices : errors (Session.settle tree (Task.workThroughFile input output bytes)).notices =
      complaints evaluate (inked text) (numbered text) := by
    have hrecords := errors_workThrough input output (expressions text)
    rw [zipIdx_expressions, complaints, List.filterMap_map] at hrecords
    rw [hsettle]
    exact hrecords
  refine ⟨⟨results (outcomes (expressions text)), ?_, ?_⟩, fun s => ?_, hnotices,
    fun e he => inked_eq_iff he, fun hinked hfinite => ?_⟩
  · rw [hsettle, FileTree.file?_write]
  · rw [splitLines_results_outcomes, ← map_fst_numbered, List.map_map]
    rfl
  · simp only [errorMark_infix_resultsLine_iff, report_eq_error_iff]
    cases evaluate s with
    | error f => simp
    | ok v => simp
  · rw [hnotices]
    have hnumber (e : String × Nat) (he : e ∈ numbered text) : inked text e.2 = e.2 :=
      (inked_eq_iff he).mpr fun line hline => hinked line (List.mem_of_mem_take hline)
    refine complaints_congr fun e he => ⟨?_, hnumber e he⟩
    cases h : evaluate e.1 with
    | ok v => rw [report_of_ok h, checked_of_isFinite (hfinite e he v h)]
    | error f => rw [report_of_error h]

end Runs

/-- Behind a blank line `1/0` stands on the second line, and its record says the first; without
    the blank line both are the first. -/
theorem errors_of_run_blank_line :
    numbered "\n1/0".toList = [("1/0", 2)] ∧
    errors (Session.settle .empty (Task.workThroughFile ⟨[], [['a', '.', 't', 'x', 't']]⟩
      ⟨[], [['b']]⟩ (Bytes.ofList [0x0A, 0x31, 0x2F, 0x30]))).notices =
        [⟨.error, "🧮❌ Line 1: 1 / 0 ('1/0')"⟩] ∧
    errors (Session.settle .empty (Task.workThroughFile ⟨[], [['a', '.', 't', 'x', 't']]⟩
      ⟨[], [['b']]⟩ (Bytes.ofList [0x31, 0x2F, 0x30]))).notices =
        complaints report id [("1/0", 1)] := by
  have hplace : FileTree.empty.outlet? ⟨[], [['b']]⟩ = some [['b']] := by decide
  have hread : read ⟨[], [['a', '.', 't', 'x', 't']]⟩ (Bytes.ofList [0x0A, 0x31, 0x2F, 0x30]) =
      .ok "\n1/0".toList := by decide
  have hread' : read ⟨[], [['a', '.', 't', 'x', 't']]⟩ (Bytes.ofList [0x31, 0x2F, 0x30]) =
      .ok "1/0".toList := by decide
  have hfinite : ∀ e ∈ numbered "1/0".toList, ∀ v, evaluate e.1 = .ok v → v.isFinite = true := by
    intro e he v hv
    have hall : (numbered "1/0".toList).all (fun e => (evaluate e.1).toOption.isNone) = true := by
      decide +kernel
    have hnone := List.all_eq_true.mp hall e he
    rw [hv] at hnone
    cases hnone
  refine ⟨by decide, ?_, (errors_of_run hread' hplace).2.2.2.2 (by decide) hfinite⟩
  rw [(errors_of_run hread hplace).2.2.1]
  decide +kernel

end Abacus.Worksheet
