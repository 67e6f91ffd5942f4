import Abacus.Proofs.Worksheet.Run

/-!
# One call

A call is refused, or it asks for a task, which is carried out over the files as they are. Only
a worksheet that can be read has results.

* `ofWords_eq_worksheet_iff`: which command lines ask for a worksheet.
* `turn_of_requested`, `turn_of_refused`: what a call comes to.
* `tree_turn_of_expression`, `tree_turn_of_dialogue`: which calls leave the tree as it is.
-/

namespace Abacus

/-! ## Commands -/

theorem Task.ofFile_eq_ok_iff (isFile : Path → Bool) (text : String) (task : Task) :
    ofFile isFile text = .ok task ↔
      ∃ output, (Path.ofString text).results? = some output ∧
        isFile (Path.ofString text) = true ∧ task = .worksheet (Path.ofString text) output := by
  rw [ofFile]
  cases (Path.ofString text).results? with
  | none => simp
  | some output =>
    cases isFile (Path.ofString text) with
    | true => simp [eq_comm]
    | false => simp

/-- A command line asks for a worksheet when it names a file that is there. -/
theorem Command.ofWords_eq_worksheet_iff (isFile : Path → Bool) (words : List String)
    (input output : Path) (verbose : Bool) :
    ofWords isFile words = .ok ⟨.worksheet input output, verbose⟩ ↔
      (∃ text, Arguments.parse words = .ok ⟨some text, none, verbose⟩ ∧
        Path.ofString text = input) ∧
      input.results? = some output ∧ isFile input = true := by
  constructor
  · intro h
    rw [ofWords] at h
    cases hparse : Arguments.parse words with
    | error r => rw [hparse] at h; cases h
    | ok arguments =>
      obtain ⟨file, expression, loud⟩ := arguments
      rw [hparse] at h
      cases expression with
      | some s => cases h
      | none =>
        cases file with
        | none => cases h
        | some text =>
          cases hfile : Task.ofFile isFile text with
          | error r => simp [bind, Except.bind, hfile] at h
          | ok task =>
            obtain ⟨path, hpath, htrue, rfl⟩ := (Task.ofFile_eq_ok_iff ..).mp hfile
            simp only [bind, Except.bind, pure, Except.pure, hfile] at h
            cases h
            exact ⟨⟨text, rfl, rfl⟩, hpath, htrue⟩
  · rintro ⟨⟨text, hparse, rfl⟩, hpath, htrue⟩
    have hfile := (Task.ofFile_eq_ok_iff isFile text _).mpr ⟨output, hpath, htrue, rfl⟩
    simp only [ofWords, hparse, bind, Except.bind, hfile]
    rfl

namespace Session

/-- The command that a command line asks for over the files of a tree. -/
def requested (tree : FileTree) (words : List String) : Except Arguments.Refusal Command :=
  Command.ofWords (fun p => (tree.read? p).isSome) words

variable [Archive.SevenZipReader]

/-! ## One call -/

/-- What a task prints, says and leaves in the tree, before the records are picked. -/
theorem turn_of_requested {tree : FileTree} {words : List String} {command : Command}
    (h : requested tree words = .ok command) (typed : List Char) :
    turn tree words typed =
      let t := settle tree
        (command.task.perform (fun p => (tree.read? p).getD .empty) typed)
      { t with notices := t.notices.filter (·.isShown command.verbose) } := by
  rw [requested] at h
  simp only [turn, h]
  exact present_eq ..

theorem turn_of_refused {tree : FileTree} {words : List String} {r : Arguments.Refusal}
    (h : requested tree words = .error r) (typed : List Char) :
    turn tree words typed = ⟨.refused r, "", [], tree⟩ := by
  rw [requested] at h
  simp only [turn, h]

theorem tree_settle_of_none (tree : FileTree) {p : Performance} (h : p.results = none) :
    (settle tree p).tree = tree := by
  rw [settle_of_none _ _ h]

theorem tree_turn_of_expression {tree : FileTree} {words : List String} {s : String}
    {verbose : Bool} (h : requested tree words = .ok ⟨.expression s, verbose⟩)
    (typed : List Char) : (turn tree words typed).tree = tree := by
  rw [turn_of_requested h]
  refine tree_settle_of_none tree ?_
  show (Task.evaluate s).results = none
  unfold Task.evaluate
  cases display s with
  | ok line => rfl
  | error f => rfl

theorem tree_turn_of_dialogue {tree : FileTree} {words : List String} {verbose : Bool}
    (h : requested tree words = .ok ⟨.dialogue, verbose⟩) (typed : List Char) :
    (turn tree words typed).tree = tree := by
  rw [turn_of_requested h]
  exact tree_settle_of_none tree rfl

end Session

end Abacus
