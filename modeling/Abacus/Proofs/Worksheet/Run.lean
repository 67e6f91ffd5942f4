import Abacus.Archive.SevenZip
import Abacus.Proofs.Outcome.Message
import Abacus.Session

/-!
# Runs over worksheets, all or nothing

A run whose worksheet cannot be read touches no file. Otherwise it ends, whatever the
expressions are, and every expression has one line in the results: after each of its
steps the file holds the lines of the outcomes so far, and no line holds a line boundary.

* `step_written`, `foldl_step`: one step of a run, and all of them.
* `oneLine_resultsLine`: an expression of one line has results of one line.
* `run_all_or_nothing`: how a run ends.
* `settle_of_fault`, `settle_of_no_outlet`, `settle_of_results`: what a command line comes to that
  asks for a run.
* `settle_workThroughFile`: it does what a run does.
-/

namespace Abacus.Worksheet

open Text

/-! ## Steps -/

theorem results_append (os ps : List Outcome) : results (os ++ ps) = results os ++ results ps := by
  rw [results, results, results, List.map_append, String.join_append]

/-- A run that has written the results of some outcomes, and nothing else. -/
def Run.written (tree : FileTree) (place : Place) (os : List Outcome) : Run :=
  ⟨os, tree.write place (results os).toUTF8⟩

theorem start_eq_written (tree : FileTree) (place : Place) :
    Run.start tree place = Run.written tree place [] := rfl

/-- A step adds an outcome and its line. -/
theorem step_written (tree : FileTree) (place : Place) (os : List Outcome) (expression : String) :
    Run.step place (.written tree place os) expression =
      .written tree place (os ++ [interpret expression]) := by
  have hline : results [interpret expression] = (interpret expression).resultsLine ++ "\n" := by
    rw [results, List.map_singleton, String.join_cons, String.join_nil, String.append_empty]
  have hbytes (s t : String) : (s ++ t).toUTF8 = s.toUTF8 ++ t.toUTF8 := String.toByteArray_append
  rw [Run.step, Run.written, Run.written, FileTree.append_write, results_append, hline,
    hbytes (results os)]

/-- The steps of a run leave the results of all expressions. -/
theorem foldl_step (tree : FileTree) (place : Place) (os : List Outcome)
    (expressions : List String) :
    expressions.foldl (Run.step place) (.written tree place os) =
      .written tree place (os ++ outcomes expressions) := by
  induction expressions generalizing os with
  | nil => rw [outcomes, List.map_nil, List.append_nil]; rfl
  | cons e rest ih =>
    rw [List.foldl_cons, step_written, ih, List.append_assoc]
    rfl

/-! ## Lines -/

/-- The line of an expression of one line. -/
theorem oneLine_resultsLine {s : String} (h : OneLine s.toList) :
    OneLine (interpret s).resultsLine.toList := by
  rw [resultsLine_interpret]
  cases hr : report s with
  | ok v =>
    simp only [String.toList_append]
    refine .append (.append h (by decide)) fun c hc => ?_
    rw [Binary64.text, String.toList_ofList] at hc
    exact Token.isLineBoundary_of_isWritten (Token.isWritten_of_mem_chars (t := .number v) hc)
  | error f =>
    simp only [String.toList_append]
    exact .append (.append h (by decide)) (Failure.oneLine_message (reported_of_report hr))

/-- An expression is what is left of a line without the blanks around it. -/
theorem exists_line_of_mem_expressions {text : List Char} {s : String}
    (h : s ∈ expressions text) :
    ∃ line ∈ splitLines text, strip line ≠ [] ∧ s = String.ofList (strip line) := by
  obtain ⟨ink, hink, rfl⟩ := List.mem_map.mp h
  obtain ⟨hstrip, hne⟩ := List.mem_filter.mp hink
  obtain ⟨line, hline, rfl⟩ := List.mem_map.mp hstrip
  exact ⟨line, hline, by simpa using hne, rfl⟩

theorem oneLine_of_mem_expressions {text : List Char} {s : String} (h : s ∈ expressions text) :
    OneLine s.toList := by
  obtain ⟨line, hline, -, rfl⟩ := exists_line_of_mem_expressions h
  rw [String.toList_ofList]
  exact (oneLine_of_mem_splitLines hline).of_subset (strip_subset line)

/-- The results are cut into lines as they were put together. -/
theorem splitLines_results {os : List Outcome} (h : ∀ o ∈ os, OneLine o.resultsLine.toList) :
    splitLines (results os).toList = os.map (·.resultsLine.toList) := by
  have hlines : (results os).toList =
      (os.map (·.resultsLine.toList)).flatMap (· ++ ['\n']) := by
    rw [results, String.toList_join, List.flatMap_map, List.flatMap_map]
    simp only [String.toList_append]
    rfl
  rw [hlines, splitLines_flatMap]
  simpa using h

/-- The results of a text have one line for each of its expressions. -/
theorem splitLines_results_outcomes (text : List Char) :
    splitLines (results (outcomes (expressions text))).toList =
      (expressions text).map fun e => (interpret e).resultsLine.toList := by
  rw [splitLines_results, outcomes, List.map_map]
  · rfl
  · intro o ho
    obtain ⟨e, he, rfl⟩ := List.mem_map.mp ho
    exact oneLine_resultsLine (oneLine_of_mem_expressions he)

/-! ## Whole runs -/

section Whole

variable [Archive.SevenZipReader]

theorem run_of_error {input : Path} {bytes : ByteArray} {f : Fault}
    (h : readExpressions input bytes = .error f) (tree : FileTree) (output : Path) :
    run tree input output bytes = (.error (.unread f), tree) := by
  rw [run, h]

theorem run_of_ok {input : Path} {bytes : ByteArray} {expressions : List String}
    (h : readExpressions input bytes = .ok expressions) {tree : FileTree} {output : Path}
    {place : Place} (hp : tree.outlet? output = some place) :
    run tree input output bytes =
      (.ok (outcomes expressions), tree.write place (results (outcomes expressions)).toUTF8) := by
  simp only [run, h, hp, start_eq_written, foldl_step, List.nil_append]
  rfl

theorem oneLine_of_readExpressions {input : Path} {bytes : ByteArray} {es : List String}
    (h : readExpressions input bytes = .ok es) {s : String} (hs : s ∈ es) : OneLine s.toList := by
  cases hr : read input bytes with
  | error f =>
    rw [readExpressions, hr] at h
    cases h
  | ok text =>
    rw [readExpressions, hr] at h
    cases h
    exact oneLine_of_mem_expressions hs

/-- A run is all or nothing. When the worksheet cannot be read, the run fails with the same
    fault and leaves the files as they are. Otherwise, if the results can be written at all, the
    run gives the outcome of every expression in order, writes their lines and nothing else, and
    the file has one line for each of them. -/
theorem run_all_or_nothing (tree : FileTree) (input output : Path) (bytes : ByteArray) :
    (∀ f, readExpressions input bytes = .error f →
      run tree input output bytes = (.error (.unread f), tree)) ∧
    (∀ es place, readExpressions input bytes = .ok es → tree.outlet? output = some place →
      ∃ after, run tree input output bytes = (.ok (es.map interpret), after) ∧
        after.file? place =
          some (String.join (es.map fun e => (interpret e).resultsLine ++ "\n")).toUTF8 ∧
        (∀ other, other ≠ place → after.file? other = tree.file? other) ∧
        splitLines (String.join (es.map fun e => (interpret e).resultsLine ++ "\n")).toList =
          es.map fun e => (interpret e).resultsLine.toList) := by
  refine ⟨fun f h => run_of_error h tree output, fun es place h hp => ?_⟩
  have htext : String.join (es.map fun e => (interpret e).resultsLine ++ "\n") =
      results (outcomes es) := by
    rw [results, outcomes, List.map_map]
    rfl
  rw [htext]
  refine ⟨_, run_of_ok h hp, FileTree.file?_write _ _ _,
    fun other ho => FileTree.file?_write_of_ne _ _ ho, ?_⟩
  rw [splitLines_results, outcomes, List.map_map]
  · rfl
  · intro o ho
    obtain ⟨e, he, rfl⟩ := List.mem_map.mp ho
    exact oneLine_resultsLine (oneLine_of_readExpressions h he)

end Whole

/-- The bytes `1+`, a carriage return, a line feed, a line separator and `2` hold two
    expressions, and their results two lines. -/
theorem run_two_expressions :
    ∃ after, run .empty ⟨[], [['a', '.', 't', 'x', 't']]⟩ ⟨[], [['b']]⟩
        (Bytes.ofList [0x31, 0x2B, 0x0D, 0x0A, 0xE2, 0x80, 0xA8, 0x32]) =
          (.ok [interpret "1+", interpret "2"], after) ∧
      ∃ text : String, after.file? [['b']] = some text.toUTF8 ∧
        splitLines text.toList =
          [(interpret "1+").resultsLine.toList, (interpret "2").resultsLine.toList] := by
  obtain ⟨after, hrun, hfile, -, hlines⟩ := (run_all_or_nothing .empty
    ⟨[], [['a', '.', 't', 'x', 't']]⟩ ⟨[], [['b']]⟩
    (Bytes.ofList [0x31, 0x2B, 0x0D, 0x0A, 0xE2, 0x80, 0xA8, 0x32])).2 ["1+", "2"] [['b']]
    (by decide) (by decide)
  exact ⟨after, hrun, _, hfile, hlines⟩

/-! ## Runs and the command line -/

variable [Archive.SevenZipReader]

section Settle

variable {tree : FileTree} {input output : Path} {bytes : ByteArray}

/-- A worksheet that cannot be read is refused, or its container is broken. -/
theorem settle_of_fault {f : Fault} (h : readExpressions input bytes = .error f) :
    Session.settle tree (Task.workThroughFile input output bytes) =
      if f.isRefusal then ⟨.done (.status 1), "", [.failure f.message], tree⟩
      else ⟨.done (.broken f), "", [], tree⟩ := by
  rw [Task.workThroughFile, h]
  by_cases hf : f.isRefusal = true
  · simp only [hf, if_true]
    exact Session.settle_of_none _ _ rfl
  · simp only [hf]
    exact Session.settle_of_none _ _ rfl

variable {es : List String} (h : readExpressions input bytes = .ok es)

include h

/-- With no place for the results, nothing is written. -/
theorem settle_of_no_outlet (hplace : tree.outlet? output = none) :
    Session.settle tree (Task.workThroughFile input output bytes) =
      ⟨.blocked output, "", (Task.workThrough input output es).opening, tree⟩ := by
  rw [Task.workThroughFile, h]
  exact Session.settle_of_blocked _ _ rfl hplace

/-- A worksheet that can be read has its results written, if they can go anywhere. -/
theorem settle_of_results {place : Place} (hplace : tree.outlet? output = some place) :
    Session.settle tree (Task.workThroughFile input output bytes) =
      ⟨.done (.status 0), output.text ++ "\n",
        (Task.workThrough input output es).opening ++ (Task.workThrough input output es).notices,
        tree.write place (results (outcomes es)).toUTF8⟩ := by
  rw [Task.workThroughFile, h]
  exact Session.settle_of_outlet _ _ rfl hplace

end Settle

/-- How a command line ends that asks for a run. -/
def ending : Except RunFault (List Outcome) → Session.End
  | .ok _ => .done (.status 0)
  | .error (.unread f) => .done (if f.isRefusal then .status 1 else .broken f)
  | .error (.blocked p) => .blocked p

/-- The command line does what a run does, and nothing else to the files. -/
theorem settle_workThroughFile (tree : FileTree) (input output : Path) (bytes : ByteArray) :
    (Session.settle tree (Task.workThroughFile input output bytes)).tree =
        (run tree input output bytes).2 ∧
      (Session.settle tree (Task.workThroughFile input output bytes)).ending =
        ending (run tree input output bytes).1 := by
  cases h : readExpressions input bytes with
  | error f =>
    rw [run_of_error h, ending, settle_of_fault h]
    cases f.isRefusal with
    | true => exact ⟨rfl, rfl⟩
    | false => exact ⟨rfl, rfl⟩
  | ok es =>
    cases hp : tree.outlet? output with
    | none =>
      have hrun : run tree input output bytes = (.error (.blocked output), tree) := by
        simp only [run, h, hp]
      rw [hrun, settle_of_no_outlet h hp]
      exact ⟨rfl, rfl⟩
    | some place =>
      rw [run_of_ok h hp, settle_of_results h hp]
      exact ⟨rfl, rfl⟩

end Abacus.Worksheet
