import Abacus.Session

/-!
# One report for all front ends

The terminal, the dialogue, the results file and the command line find out in different
ways what became of a text: some stop at a failure, others carry it on as data, and each
refuses a result that is not finite at a place of its own. All of them say the same.

* `report`: what there is to say about a text.
* `display_eq`, `displayLine_interpret`, `resultsLine_interpret`, `evaluate_eq`: each front
  end says just that.
* `turn_of_expression`: a command line that asks for an expression.
* `front_ends_agree`: every text has one number text or one message for all of them.
-/

namespace Abacus

/-- What there is to say about a text: a finite number, or why there is none. -/
def report (s : String) : Except Failure Binary64 := do
  checked (← evaluate s)

theorem interpret_of_ok {s : String} {v : Binary64} (h : evaluate s = .ok v) :
    interpret s = .ok s v := by
  rw [interpret, h]

theorem interpret_of_error {s : String} {f : Failure} (h : evaluate s = .error f) :
    interpret s = .error s f.kind f.message := by
  rw [interpret, h]

theorem checked_of_isFinite {v : Binary64} (h : v.isFinite = true) : checked v = .ok v :=
  if_pos h

theorem checked_of_not_isFinite {v : Binary64} (h : v.isFinite = false) :
    checked v = .error .undefined :=
  if_neg (by simp [h])

theorem report_of_error {s : String} {f : Failure} (h : evaluate s = .error f) :
    report s = .error f := by
  simp only [report, h, bind, Except.bind]

theorem report_of_ok {s : String} {v : Binary64} (h : evaluate s = .ok v) :
    report s = checked v := by
  simp only [report, h, bind, Except.bind]

/-- A report of a number is the value of the text, and that is finite. -/
theorem report_eq_ok_iff (s : String) (v : Binary64) :
    report s = .ok v ↔ evaluate s = .ok v ∧ v.isFinite = true := by
  cases he : evaluate s with
  | error f => simp [report_of_error he]
  | ok w =>
    rw [report_of_ok he]
    cases hw : w.isFinite with
    | true =>
      rw [checked_of_isFinite hw, Except.ok.injEq]
      exact ⟨fun h => ⟨h, h ▸ hw⟩, And.left⟩
    | false =>
      rw [checked_of_not_isFinite hw, Except.ok.injEq]
      refine ⟨by rintro ⟨⟩, ?_⟩
      rintro ⟨rfl, h⟩
      rw [hw] at h
      cases h

/-- A report of a failure is that of the evaluation, or says that the value is not finite. -/
theorem report_eq_error_iff (s : String) (f : Failure) :
    report s = .error f ↔
      evaluate s = .error f ∨ f = .undefined ∧ ∃ v, evaluate s = .ok v ∧ v.isFinite = false := by
  cases he : evaluate s with
  | error g => simp [report_of_error he]
  | ok w =>
    rw [report_of_ok he]
    cases hw : w.isFinite with
    | true => simp [checked_of_isFinite hw, hw]
    | false =>
      rw [checked_of_not_isFinite hw, Except.error.injEq]
      constructor
      · rintro rfl
        exact .inr ⟨rfl, w, rfl, hw⟩
      · rintro (h | ⟨rfl, -⟩)
        · cases h
        · rfl

/-! ## The lines -/

theorem display_eq (s : String) : display s = (report s).map fun v => " >> " ++ v.text := by
  unfold display report resultLine
  cases evaluate s with
  | error f => rfl
  | ok v => rfl

theorem displayLine_interpret (s : String) :
    (interpret s).displayLine =
      match report s with
      | .ok v => " >> " ++ v.text
      | .error f => " >> " ++ "Error: " ++ f.message := by
  cases he : evaluate s with
  | error f =>
    rw [report_of_error he, interpret_of_error he]
    rfl
  | ok v =>
    rw [report_of_ok he, interpret_of_ok he, Outcome.displayLine, resultLine]
    cases checked v with
    | error f => rfl
    | ok w => rfl

theorem resultsLine_interpret (s : String) :
    (interpret s).resultsLine =
      match report s with
      | .ok v => s ++ " = " ++ v.text
      | .error f => s ++ " -> ERROR: " ++ f.message := by
  cases he : evaluate s with
  | error f =>
    rw [report_of_error he, interpret_of_error he]
    rfl
  | ok v =>
    rw [report_of_ok he, interpret_of_ok he]
    rfl

/-! ## The command line -/

/-- The records that are shown of an evaluation. -/
def shownRecords (verbose : Bool) (s : String) : List Notice :=
  (Journal.shown verbose (Journal.ofEvaluation s)).map .record

theorem filter_isShown_records (verbose : Bool) (records : List Journal.Record) :
    (records.map Notice.record).filter (·.isShown verbose) =
      (Journal.shown verbose records).map .record :=
  List.filter_map

/-- Every text but the divider can be handed over as an expression. -/
theorem ofWords_attached (isFile : Path → Bool) {s : String} (h : s ≠ "--") :
    Command.ofWords isFile ["-e=" ++ s] = .ok ⟨.expression s, false⟩ := by
  have hwords : Arguments.classifyAll ["-e=" ++ s] =
      .ok [.switch .expression (.tail s.toList)] := by
    have hword : Arguments.classify ("-e=" ++ s) = .ok (.switch .expression (.tail s.toList)) := by
      rw [Arguments.classify, String.toList_append]
      rfl
    rw [Arguments.classifyAll, hword]
    rfl
  have hrequest : Arguments.requestOf .expression (.tail s.toList) =
      .ok ⟨[], some (some s.toList)⟩ := by
    rw [Arguments.requestOf]
    cases s.toList with
    | nil => rfl
    | cons c cs => rfl
  have htake : Arguments.Progress.start.takeExpression (String.ofList s.toList) =
      .ok { Arguments.Progress.start with expression := some (some s) } := by
    rw [String.ofList_toList, Arguments.Progress.takeExpression, Arguments.divider, if_neg h]
    rfl
  have hfollow : Arguments.follow .start [.switch .expression (.tail s.toList)] =
      .ok { Arguments.Progress.start with expression := some (some s) } := by
    simp only [Arguments.follow, hrequest, Arguments.Progress.takeFlags, htake, bind, Except.bind]
  have hparse : Arguments.parse ["-e=" ++ s] = .ok ⟨none, some s, false⟩ := by
    simp only [Arguments.parse, hwords, hfollow, bind, Except.bind]
    rfl
  rw [Command.ofWords, hparse]
  rfl

variable [Archive.SevenZipReader]

/-- What carrying out an expression gives. -/
theorem evaluate_eq (s : String) :
    Task.evaluate s =
      match report s with
      | .ok v =>
        ⟨.status 0, " >> " ++ v.text ++ "\n", [], (Journal.ofEvaluation s).map .record, none⟩
      | .error f =>
        ⟨.status 1, "", [], (Journal.ofEvaluation s).map .record ++ [.failure f.message],
          none⟩ := by
  rw [Task.evaluate, display_eq]
  cases report s with
  | error f => rfl
  | ok v => rfl

/-- A command line that asks for an expression leaves the files as they are, and says what
    carrying out the expression gives. -/
theorem turn_of_expression {tree : FileTree} {words : List String} {s : String} {verbose : Bool}
    (h : Command.ofWords (fun p => (tree.read? p).isSome) words = .ok ⟨.expression s, verbose⟩)
    (typed : List Char) :
    Session.turn tree words typed =
      match report s with
      | .ok v => ⟨.done (.status 0), " >> " ++ v.text ++ "\n", shownRecords verbose s, tree⟩
      | .error f =>
        ⟨.done (.status 1), "", shownRecords verbose s ++ [.failure f.message], tree⟩ := by
  simp only [Session.turn, h, Task.perform, evaluate_eq, Session.present_eq]
  cases report s with
  | error f =>
    rw [Session.settle_of_none _ _ rfl]
    simp only [Session.Turn.shown, List.nil_append, List.filter_append, filter_isShown_records]
    rfl
  | ok v =>
    rw [Session.settle_of_none _ _ rfl]
    simp only [Session.Turn.shown, List.nil_append, filter_isShown_records]
    rfl

theorem turn_attached (tree : FileTree) {s : String} (h : s ≠ "--") (typed : List Char) :
    Session.turn tree ["-e=" ++ s] typed =
      match report s with
      | .ok v => ⟨.done (.status 0), " >> " ++ v.text ++ "\n", shownRecords false s, tree⟩
      | .error f =>
        ⟨.done (.status 1), "", shownRecords false s ++ [.failure f.message], tree⟩ :=
  turn_of_expression (ofWords_attached _ h) typed

/-! ## Agreement -/

/-- Every front end shows the number text `d` for the text `s`. -/
structure ShowsNumber (s d : String) : Prop where
  display_eq : display s = .ok (" >> " ++ d)
  displayLine_eq : (interpret s).displayLine = " >> " ++ d
  resultsLine_eq : (interpret s).resultsLine = s ++ " = " ++ d
  turn_eq : ∀ (tree : FileTree) (words : List String) (typed : List Char) (verbose : Bool),
    Command.ofWords (fun p => (tree.read? p).isSome) words = .ok ⟨.expression s, verbose⟩ →
    Session.turn tree words typed =
      ⟨.done (.status 0), " >> " ++ d ++ "\n", shownRecords verbose s, tree⟩

/-- Every front end shows the message `m` for the text `s`. -/
structure ShowsMessage (s m : String) : Prop where
  display_eq : ∃ f, display s = .error f ∧ f.message = m
  displayLine_eq : (interpret s).displayLine = " >> " ++ "Error: " ++ m
  resultsLine_eq : (interpret s).resultsLine = s ++ " -> ERROR: " ++ m
  turn_eq : ∀ (tree : FileTree) (words : List String) (typed : List Char) (verbose : Bool),
    Command.ofWords (fun p => (tree.read? p).isSome) words = .ok ⟨.expression s, verbose⟩ →
    Session.turn tree words typed =
      ⟨.done (.status 1), "", shownRecords verbose s ++ [.line ("Error: " ++ m)], tree⟩

theorem showsNumber_of_report {s : String} {v : Binary64} (h : report s = .ok v) :
    ShowsNumber s v.text where
  display_eq := by rw [display_eq, h]; rfl
  displayLine_eq := by rw [displayLine_interpret, h]
  resultsLine_eq := by rw [resultsLine_interpret, h]
  turn_eq tree words typed verbose hw := by rw [turn_of_expression hw, h]

theorem showsMessage_of_report {s : String} {f : Failure} (h : report s = .error f) :
    ShowsMessage s f.message where
  display_eq := ⟨f, by rw [display_eq, h]; rfl, rfl⟩
  displayLine_eq := by rw [displayLine_interpret, h]
  resultsLine_eq := by rw [resultsLine_interpret, h]
  turn_eq tree words typed verbose hw := by rw [turn_of_expression hw, h]; rfl

/-- All front ends agree on a text. Either it has a finite value, and all show the text of that
    number, or all show one message: that of the failure which the interpretation reports, or
    that the value is undefined where it reports one that is not finite. -/
theorem front_ends_agree (s : String) :
    (∃ v, evaluate s = .ok v ∧ v.isFinite = true ∧ ShowsNumber s v.text) ∨
    (∃ m, ShowsMessage s m ∧
      (∀ v, interpret s = .ok s v → v.isFinite = false ∧ m = "Undefined value") ∧
      ∀ kind message, interpret s = .error s kind message → m = message) := by
  cases h : report s with
  | ok v =>
    obtain ⟨he, hv⟩ := (report_eq_ok_iff s v).mp h
    exact .inl ⟨v, he, hv, showsNumber_of_report h⟩
  | error f =>
    refine .inr ⟨f.message, showsMessage_of_report h, ?_⟩
    rcases (report_eq_error_iff s f).mp h with he | ⟨rfl, v, he, hv⟩
    · simp [interpret_of_error he]
    · rw [interpret_of_ok he]
      refine ⟨fun w hw => ?_, by rintro _ _ ⟨⟩⟩
      cases hw
      exact ⟨hv, rfl⟩

end Abacus
