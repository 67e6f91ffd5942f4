import Abacus.Proofs.Path.Results
import Abacus.Proofs.Session.Turn

/-!
# What a session leaves alone

Only a worksheet has results, and they go to one place, which is never that of the worksheet
and whose name tells what it holds. So whatever the calls of a session are, and however they
end, they neither make nor change a file with another name, and a worksheet that cannot be read
leaves every file as it is.

* `tree_turn`: what one call can do to the files.
* `file?_after`: the files that a session leaves alone.
* `turn_turn`: a call that is repeated at once.
* `session_frame`: every call of every session.
-/

namespace Abacus.Session

/-! ## Places -/

/-- A place whose name says that results are there. -/
def IsForResults (place : Place) : Prop :=
  ∃ name, place.getLast? = some name ∧ "_results.txt".toList <:+ name

/-- A worksheet that is asked for is there, and its results go to another place, whose name says
    what they are. -/
theorem exists_places {tree : FileTree} {words : List String} {input output : Path}
    {verbose : Bool} (h : requested tree words = .ok ⟨.worksheet input output, verbose⟩) :
    ∃ place outlet, tree.place? input = some place ∧ (tree.file? place).isSome = true ∧
      tree.place? output = some outlet ∧ outlet ≠ place ∧ IsForResults outlet := by
  obtain ⟨-, hout, hfile⟩ := (Command.ofWords_eq_worksheet_iff ..).mp h
  obtain ⟨bytes, hread⟩ := Option.isSome_iff_exists.mp hfile
  obtain ⟨place, hplace, hbytes⟩ := Option.bind_eq_some_iff.mp hread
  obtain ⟨dir, houtlet, hne⟩ := FileTree.place?_results hplace hout
  exact ⟨place, _, hplace, Option.isSome_iff_exists.mpr ⟨bytes, hbytes⟩, houtlet, hne.symm,
    _, List.getLast?_concat, Path.resultsEnding_suffix _⟩

theorem outlet?_eq_some_iff {tree : FileTree} {p : Path} {place : Place} :
    tree.outlet? p = some place ↔ tree.place? p = some place ∧ tree.isDirectory place = false := by
  simp [FileTree.outlet?, Option.filter_eq_some_iff]

/-- Results that are written do not change the worksheet. -/
theorem read?_write_of_requested {tree : FileTree} {words : List String} {input output : Path}
    {verbose : Bool} (h : requested tree words = .ok ⟨.worksheet input output, verbose⟩)
    {outlet : Place} (ho : tree.place? output = some outlet) (bytes : ByteArray) :
    (tree.write outlet bytes).read? input = tree.read? input := by
  obtain ⟨place, outlet', hplace, -, houtlet, hne, -⟩ := exists_places h
  cases houtlet.symm.trans ho
  rw [FileTree.read?, FileTree.read?, FileTree.place?_write, hplace]
  exact FileTree.file?_write_of_ne _ _ hne.symm

theorem requested_of_read? {tree tree' : FileTree} {words : List String} {input output : Path}
    {verbose : Bool} (h : requested tree words = .ok ⟨.worksheet input output, verbose⟩)
    (hread : tree'.read? input = tree.read? input) :
    requested tree' words = .ok ⟨.worksheet input output, verbose⟩ := by
  obtain ⟨htext, hout, hfile⟩ := (Command.ofWords_eq_worksheet_iff ..).mp h
  refine (Command.ofWords_eq_worksheet_iff ..).mpr ⟨htext, hout, ?_⟩
  rw [hread]
  exact hfile

section Calls

variable [Archive.SevenZipReader]

/-! ## What a call does to the files -/

/-- The only change that a call can make: the results of a worksheet are written where they
    belong. -/
def Writes (tree : FileTree) (words : List String) (new : FileTree) : Prop :=
  ∃ input output verbose outlet es,
    requested tree words = .ok ⟨.worksheet input output, verbose⟩ ∧
    Worksheet.readExpressions input ((tree.read? input).getD .empty) = .ok es ∧
    tree.outlet? output = some outlet ∧
    new = tree.write outlet (Worksheet.results (Worksheet.outcomes es)).toUTF8

theorem tree_turn (tree : FileTree) (words : List String) (typed : List Char) :
    (turn tree words typed).tree = tree ∨ Writes tree words (turn tree words typed).tree := by
  cases h : requested tree words with
  | error r =>
    rw [turn_of_refused h]
    exact .inl rfl
  | ok command =>
    obtain ⟨task, verbose⟩ := command
    cases task with
    | expression s => exact .inl (tree_turn_of_expression h typed)
    | dialogue => exact .inl (tree_turn_of_dialogue h typed)
    | worksheet input output =>
      have htree : (turn tree words typed).tree = (settle tree (Task.workThroughFile input output
          ((tree.read? input).getD .empty))).tree := by
        rw [turn_of_requested h]
        rfl
      rw [htree]
      cases hread : Worksheet.readExpressions input ((tree.read? input).getD .empty) with
      | error f =>
        rw [Worksheet.settle_of_fault hread]
        left
        split
        · rfl
        · rfl
      | ok es =>
        cases houtlet : tree.outlet? output with
        | none =>
          rw [Worksheet.settle_of_no_outlet hread houtlet]
          exact .inl rfl
        | some outlet =>
          rw [Worksheet.settle_of_results hread houtlet]
          exact .inr ⟨input, output, verbose, outlet, es, h, hread, houtlet, rfl⟩

/-- Where the results go, other files are left alone. -/
theorem file?_turn (tree : FileTree) (words : List String) (typed : List Char) {place : Place}
    (h : ∀ input output verbose, requested tree words = .ok ⟨.worksheet input output, verbose⟩ →
      tree.place? output ≠ some place) :
    (turn tree words typed).tree.file? place = tree.file? place := by
  rcases tree_turn tree words typed with heq | ⟨input, output, verbose, outlet, es, hr, -, ho, heq⟩
  · rw [heq]
  · rw [heq]
    refine FileTree.file?_write_of_ne _ _ fun hplace => h input output verbose hr ?_
    rw [hplace]
    exact (outlet?_eq_some_iff.mp ho).1

theorem file?_turn_of_not_isForResults (tree : FileTree) (words : List String)
    (typed : List Char) {place : Place} (h : ¬ IsForResults place) :
    (turn tree words typed).tree.file? place = tree.file? place := by
  refine file?_turn tree words typed fun input output verbose hr ho => ?_
  obtain ⟨-, outlet, -, -, houtlet, -, hresults⟩ := exists_places hr
  cases houtlet.symm.trans ho
  exact h hresults

/-- A session leaves alone all files but results. -/
theorem file?_after (tree : FileTree) (calls : List Call) {place : Place}
    (h : ¬ IsForResults place) : (after tree calls).file? place = tree.file? place := by
  induction calls generalizing tree with
  | nil => rfl
  | cons call calls ih =>
    exact (ih _).trans (file?_turn_of_not_isForResults tree call.words call.typed h)

/-! ## A call that is repeated -/

/-- A call that is repeated at once leaves every file as it is. -/
theorem turn_turn (tree : FileTree) (words : List String) (typed : List Char) :
    (turn (turn tree words typed).tree words typed).tree = (turn tree words typed).tree := by
  rcases tree_turn tree words typed with heq | ⟨input, output, verbose, outlet, es, hr, he, ho, heq⟩
  · rw [heq, heq]
  · obtain ⟨hplace, hdir⟩ := outlet?_eq_some_iff.mp ho
    have hread (bytes : ByteArray) := read?_write_of_requested hr hplace bytes
    have houtlet (bytes : ByteArray) : (tree.write outlet bytes).outlet? output = some outlet :=
      outlet?_eq_some_iff.mpr ⟨hplace, hdir⟩
    rw [heq, turn_of_requested (requested_of_read? hr (hread _))]
    dsimp only [Task.perform]
    rw [hread]
    rw [Worksheet.settle_of_results he (houtlet _), FileTree.write_write]

/-! ## Sessions -/

/-- How a call ends that names a worksheet with some bytes, and what it does to the files. Its
    results go to a place of their own, and nothing else changes. If the worksheet cannot be read,
    nothing changes at all and nothing is printed: it is refused with the reason, or its broken
    container ends the call. If it can, the call prints the path of the results, and when it is
    repeated it changes nothing. -/
structure WorksheetTurn (tree : FileTree) (call : Call) (input output : Path)
    (bytes : ByteArray) : Prop where
  results_eq : input.results? = some output
  place_ne : ∀ place, tree.place? input = some place → tree.place? output ≠ some place
  file_eq : ∀ place, tree.place? output ≠ some place →
    (turn tree call.words call.typed).tree.file? place = tree.file? place
  refused : ∀ f, Worksheet.readExpressions input bytes = .error f → f.isRefusal = true →
    turn tree call.words call.typed =
      ⟨.done (.status 1), "", [.line ("Error: " ++ f.message)], tree⟩
  broken : ∀ f, Worksheet.readExpressions input bytes = .error f → f.isRefusal = false →
    turn tree call.words call.typed = ⟨.done (.broken f), "", [], tree⟩
  done : ∀ es, Worksheet.readExpressions input bytes = .ok es →
    (∀ outlet, tree.place? output = some outlet → tree.isDirectory outlet = false) →
    (turn tree call.words call.typed).ending = .done (.status 0) ∧
      (turn tree call.words call.typed).output = output.text ++ "\n" ∧
      (turn (turn tree call.words call.typed).tree call.words call.typed).tree =
        (turn tree call.words call.typed).tree

theorem worksheetTurn_of_requested {tree : FileTree} {call : Call} {input output : Path}
    {verbose : Bool} (h : requested tree call.words = .ok ⟨.worksheet input output, verbose⟩)
    {bytes : ByteArray} (hread : tree.read? input = some bytes) :
    WorksheetTurn tree call input output bytes := by
  obtain ⟨place, outlet, hplace, -, houtlet, hne, -⟩ := exists_places h
  have hturn : turn tree call.words call.typed =
      let t := settle tree (Task.workThroughFile input output bytes)
      { t with notices := t.notices.filter (·.isShown verbose) } := by
    rw [turn_of_requested h]
    simp only [Task.perform, hread, Option.getD_some]
  refine ⟨((Command.ofWords_eq_worksheet_iff ..).mp h).2.1, fun p hp ho => ?_, fun p hp => ?_,
    fun f hf hrefusal => ?_, fun f hf hrefusal => ?_, fun es hes hdir => ?_⟩
  · cases hplace.symm.trans hp
    cases houtlet.symm.trans ho
    exact hne rfl
  · refine file?_turn tree call.words call.typed fun input' output' verbose' h' => ?_
    cases h.symm.trans h'
    exact hp
  · rw [hturn, Worksheet.settle_of_fault hf, if_pos hrefusal]
    rfl
  · rw [hturn, Worksheet.settle_of_fault hf, hrefusal]
    rfl
  · have houtlet' := outlet?_eq_some_iff.mpr ⟨houtlet, hdir outlet houtlet⟩
    refine ⟨?_, ?_, turn_turn tree call.words call.typed⟩
    · rw [hturn, Worksheet.settle_of_results hes houtlet']
    · rw [hturn, Worksheet.settle_of_results hes houtlet']

/-- No session makes or changes a file whose name does not end in `_results.txt`. A call of it
    that asks for an expression or a dialogue, or is refused, changes no file, and one that names
    a worksheet changes at most its results. -/
theorem session_frame (start : FileTree) (calls : List Call) :
    (∀ place, ¬ IsForResults place → (after start calls).file? place = start.file? place) ∧
    (∀ before call rest, calls = before ++ call :: rest →
      (∀ r, requested (after start before) call.words = .error r →
        (turn (after start before) call.words call.typed).tree = after start before) ∧
      (∀ s verbose, requested (after start before) call.words = .ok ⟨.expression s, verbose⟩ →
        (turn (after start before) call.words call.typed).tree = after start before) ∧
      (∀ verbose, requested (after start before) call.words = .ok ⟨.dialogue, verbose⟩ →
        (turn (after start before) call.words call.typed).tree = after start before) ∧
      (∀ input output verbose,
        requested (after start before) call.words = .ok ⟨.worksheet input output, verbose⟩ →
        ∃ bytes, (after start before).read? input = some bytes ∧
          WorksheetTurn (after start before) call input output bytes)) ∧
    ∀ p u, Worksheet.Fault.isRefusal (.unsupported p) = true ∧
      Worksheet.Fault.isRefusal (.noText p) = true ∧
      Worksheet.Fault.isRefusal (.undecodable u) = true := by
  refine ⟨fun place hplace => file?_after start calls hplace, fun before call rest _ => ?_,
    fun p u => ⟨rfl, rfl, rfl⟩⟩
  refine ⟨fun r h => ?_, fun s verbose h => tree_turn_of_expression h call.typed,
    fun verbose h => tree_turn_of_dialogue h call.typed, fun input output verbose h => ?_⟩
  · rw [turn_of_refused h]
  · obtain ⟨bytes, hread⟩ := Option.isSome_iff_exists.mp
      ((Command.ofWords_eq_worksheet_iff ..).mp h).2.2
    exact ⟨bytes, hread, worksheetTurn_of_requested h hread⟩

end Calls

/-- A tree with one worksheet, `a.txt`, which holds `1+1`. -/
def oneWorksheet : FileTree :=
  FileTree.empty.write [['a', '.', 't', 'x', 't']] (Bytes.ofList [0x31, 0x2B, 0x31])

/-- The worksheet is worked through, and then its results are taken for another. -/
theorem session_frame_results_of_results :
    (after oneWorksheet [⟨["a.txt"], []⟩, ⟨["a_txt_results.txt"], []⟩]).file?
        [['a', '.', 't', 'x', 't']] = some (Bytes.ofList [0x31, 0x2B, 0x31]) ∧
      (turn oneWorksheet ["a.txt"] []).ending = .done (.status 0) ∧
      (turn oneWorksheet ["a.txt"] []).output = "a_txt_results.txt\n" := by
  obtain ⟨hother, hcalls, -⟩ := session_frame oneWorksheet
    [⟨["a.txt"], []⟩, ⟨["a_txt_results.txt"], []⟩]
  have hname : ¬ IsForResults [['a', '.', 't', 'x', 't']] := by
    rintro ⟨_, ⟨⟩, h⟩
    revert h
    decide
  obtain ⟨-, -, -, hworksheet⟩ := hcalls [] ⟨["a.txt"], []⟩ _ rfl
  have hrequested : requested oneWorksheet ["a.txt"] =
      .ok ⟨.worksheet (.ofString "a.txt") (.ofString "a_txt_results.txt"), false⟩ := by
    decide +kernel
  obtain ⟨bytes, hbytes, hturn⟩ := hworksheet _ _ _ hrequested
  have hfile : oneWorksheet.read? (.ofString "a.txt") = some (Bytes.ofList [0x31, 0x2B, 0x31]) := by
    decide +kernel
  cases hfile.symm.trans hbytes
  have hread : Worksheet.readExpressions (.ofString "a.txt") (Bytes.ofList [0x31, 0x2B, 0x31]) =
      .ok ["1+1"] := by
    decide +kernel
  have hplace : oneWorksheet.place? (.ofString "a_txt_results.txt") =
      some ["a_txt_results.txt".toList] := by
    decide +kernel
  have hfree : ∀ outlet, oneWorksheet.place? (.ofString "a_txt_results.txt") = some outlet →
      oneWorksheet.isDirectory outlet = false := by
    intro outlet houtlet
    cases hplace.symm.trans houtlet
    decide +kernel
  obtain ⟨hending, houtput, -⟩ := hturn.done _ hread hfree
  exact ⟨(hother _ hname).trans rfl, hending, houtput.trans (by decide +kernel)⟩

end Abacus.Session
