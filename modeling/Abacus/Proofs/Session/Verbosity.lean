import Abacus.Proofs.Session.Turn

/-!
# Quiet and verbose runs

Whether all records are shown is told by the command line and used where records are shown, and
nowhere else. So of two runs that differ in it alone, both end in the same way, print the same
and leave the same files, and the quiet one shows the records of the other but for details. The
help text and the texts for a refused command line are left out of the model, so nothing is said
of them here.

* `follow_aloud`, `parse_verbose`: a command line that asks for all records.
* `isShown_false`: what a quiet run shows.
* `verbosity_noninterference`: two runs that differ in what they show.
-/

namespace Abacus

/-! ## Command lines -/

namespace Arguments

/-- The same, with all records shown. -/
def aloud (a : Arguments) : Arguments := { a with verbose := true }

namespace Progress

/-- The same progress, with all records to be shown. -/
def aloud (p : Progress) : Progress := { p with verbose := true }

theorem takeFile_aloud (p : Progress) (text : String) :
    p.aloud.takeFile text = (p.takeFile text).map aloud := by
  unfold takeFile aloud
  cases p.expression.isSome with
  | true => rfl
  | false => rfl

theorem takeExpression_aloud (p : Progress) (text : String) :
    p.aloud.takeExpression text = (p.takeExpression text).map aloud := by
  unfold takeExpression aloud
  cases p.file.isSome with
  | true => rfl
  | false => rfl

theorem takeFlags_aloud (p : Progress) (flags : List Switch) :
    p.aloud.takeFlags flags = (p.takeFlags flags).map aloud := by
  induction flags generalizing p with
  | nil => rfl
  | cons s rest ih =>
    cases s with
    | help => rfl
    | expression => exact ih _
    | verbose => exact ih _

end Progress

open Progress

theorem bind_map_aloud (x : Except Refusal Progress) {k : Progress → Except Refusal Progress}
    (h : ∀ q, k q.aloud = (k q).map Progress.aloud) :
    (x.map Progress.aloud >>= k) = (x >>= k).map Progress.aloud := by
  cases x with
  | error r => rfl
  | ok q => exact h q

theorem follow_plain_aloud (p : Progress) (text : String) {rest : List Word}
    (h : ∀ q, follow q.aloud rest = (follow q rest).map Progress.aloud) :
    (if p.aloud.wantsFile then do follow (← p.aloud.takeFile text) rest
      else follow (p.aloud.addSurplus true) rest) =
    Except.map Progress.aloud
      (if p.wantsFile then do follow (← p.takeFile text) rest
        else follow (p.addSurplus true) rest) := by
  cases hwants : p.wantsFile with
  | true =>
    have hwants' : p.aloud.wantsFile = true := hwants
    rw [if_pos rfl, if_pos hwants', takeFile_aloud]
    exact bind_map_aloud _ h
  | false =>
    have hwants' : p.aloud.wantsFile = false := hwants
    rw [hwants', if_neg Bool.false_ne_true, if_neg Bool.false_ne_true]
    exact h (p.addSurplus true)

theorem take_aloud (p : Progress) (flags : List Switch) (text : String) {rest : List Word}
    (h : ∀ q, follow q.aloud rest = (follow q rest).map Progress.aloud) :
    (do follow (← (← p.aloud.takeFlags flags).takeExpression text) rest) =
      Except.map Progress.aloud
        (do follow (← (← p.takeFlags flags).takeExpression text) rest) := by
  rw [takeFlags_aloud]
  refine bind_map_aloud _ fun q => ?_
  rw [takeExpression_aloud]
  exact bind_map_aloud _ h

/-- Following a command line goes the same way, whether or not all records are to be shown. -/
theorem follow_aloud : ∀ (p : Progress) (ws : List Word),
    follow p.aloud ws = (follow p ws).map Progress.aloud
  | _, [] => rfl
  | p, .plain text :: .divider :: rest => follow_plain_aloud p text fun q => follow_aloud q rest
  | p, [.plain text] => follow_plain_aloud p text fun q => follow_aloud q []
  | p, .plain text :: .plain next :: rest =>
    follow_plain_aloud p text fun q => follow_aloud q (.plain next :: rest)
  | p, .plain text :: .unknown :: rest =>
    follow_plain_aloud p text fun q => follow_aloud q (.unknown :: rest)
  | p, .plain text :: .switch s a :: rest =>
    follow_plain_aloud p text fun q => follow_aloud q (.switch s a :: rest)
  | p, .divider :: .plain text :: rest => follow_plain_aloud p text fun q => follow_aloud q rest
  | _, [.divider] => rfl
  | p, .divider :: .divider :: rest =>
    follow_aloud { p.addSurplus (!p.wantsFile) with wantsFile := false } (.divider :: rest)
  | p, .divider :: .unknown :: rest =>
    follow_aloud { p.addSurplus (!p.wantsFile) with wantsFile := false } (.unknown :: rest)
  | p, .divider :: .switch s a :: rest =>
    follow_aloud { p.addSurplus (!p.wantsFile) with wantsFile := false } (.switch s a :: rest)
  | p, .unknown :: rest => follow_aloud (p.addSurplus true) rest
  | p, .switch s a :: rest => by
    have hrest (q : Progress) := follow_aloud q rest
    rw [follow, follow]
    cases requestOf s a with
    | error r => rfl
    | ok request =>
      obtain ⟨flags, expression⟩ := request
      rcases expression with _ | _ | text
      · show (do follow (← p.aloud.takeFlags flags) rest) = _
        rw [takeFlags_aloud]
        exact bind_map_aloud _ hrest
      · -- the expression is the next word
        cases rest with
        | nil => rfl
        | cons next rest =>
          cases next with
          | plain text => exact take_aloud p flags text fun q => follow_aloud q rest
          | divider => rfl
          | unknown => rfl
          | switch _ _ => rfl
      · exact take_aloud p flags _ hrest

/-- A word that asks for all records, in front of a command line, asks for nothing else. -/
theorem parse_verbose (words : List String) :
    parse ("-v" :: words) = (parse words).map aloud := by
  have hwords : classifyAll ("-v" :: words) =
      (classifyAll words).map (.switch .verbose .none :: ·) := by
    have hword : classify "-v" = .ok (.switch .verbose .none) := by decide
    rw [classifyAll, hword]
    cases classifyAll words with
    | error r => rfl
    | ok ws => rfl
  rw [parse, parse, hwords]
  cases classifyAll words with
  | error r => rfl
  | ok ws =>
    have hfollow : follow .start (.switch .verbose .none :: ws) =
        (follow .start ws).map Progress.aloud := by
      rw [follow]
      exact follow_aloud .start ws
    simp only [Except.map, bind, Except.bind, hfollow]
    cases follow .start ws with
    | error r => rfl
    | ok p =>
      obtain ⟨file, expression, verbose, wantsFile, surplus⟩ := p
      cases surplus with
      | true => rfl
      | false =>
        rcases expression with _ | _ | text
        · rfl
        · rfl
        · rfl

end Arguments

/-! ## Commands -/

/-- The same command, with all records shown. -/
def Command.aloud (c : Command) : Command := { c with verbose := true }

theorem Command.ofWords_aloud (isFile : Path → Bool) {quiet loud : List String}
    (h : Arguments.parse loud = (Arguments.parse quiet).map Arguments.aloud) :
    ofWords isFile loud = (ofWords isFile quiet).map Command.aloud := by
  rw [ofWords, ofWords, h]
  cases Arguments.parse quiet with
  | error r => rfl
  | ok arguments =>
    obtain ⟨file, expression, verbose⟩ := arguments
    cases expression with
    | some s => rfl
    | none =>
      cases file with
      | none => rfl
      | some text =>
        simp only [Except.map, bind, Except.bind, Arguments.aloud]
        cases Task.ofFile isFile text with
        | error r => rfl
        | ok task => rfl

theorem Command.verbose_ofWords {isFile : Path → Bool} {words : List String} {c : Command}
    (h : ofWords isFile words = .ok c) :
    ∃ a, Arguments.parse words = .ok a ∧ c.verbose = a.verbose := by
  rw [ofWords] at h
  cases hparse : Arguments.parse words with
  | error r => rw [hparse] at h; cases h
  | ok arguments =>
    refine ⟨arguments, rfl, ?_⟩
    obtain ⟨file, expression, verbose⟩ := arguments
    rw [hparse] at h
    cases expression with
    | some s =>
      cases h
      rfl
    | none =>
      cases file with
      | none =>
        cases h
        rfl
      | some text =>
        cases hfile : Task.ofFile isFile text with
        | error r => simp [bind, Except.bind, hfile] at h
        | ok task =>
          simp only [bind, Except.bind, pure, Except.pure, hfile] at h
          cases h
          rfl

/-! ## Two runs -/

/-- A record of the two levels that are shown to those alone who ask for them. -/
def Notice.isDetail : Notice → Bool
  | .record r => r.level = .debug || r.level = .info
  | .line _ => false

theorem Notice.isShown_true (n : Notice) : n.isShown true = true := by
  cases n with
  | record r => rfl
  | line text => rfl

theorem Notice.isShown_false (n : Notice) : n.isShown false = !n.isDetail := by
  cases n with
  | record r =>
    obtain ⟨level, text⟩ := r
    cases level <;> rfl
  | line text => rfl

namespace Session

/-- Two command lines say the same, but that only the second asks for all records. -/
structure DifferInVerbosity (quiet loud : List String) : Prop where
  parse_eq : Arguments.parse loud = (Arguments.parse quiet).map Arguments.aloud
  not_verbose : ∀ a, Arguments.parse quiet = .ok a → a.verbose = false

theorem requested_aloud {quiet loud : List String} (h : DifferInVerbosity quiet loud)
    (tree : FileTree) : requested tree loud = (requested tree quiet).map Command.aloud :=
  Command.ofWords_aloud _ h.parse_eq

/-- Verbosity does not interfere. A word that asks for all records, in front of a command line,
    changes nothing else in what the command line says; and two runs, over the same files and
    with the same input, whose command lines differ in that alone end in the same way, print the
    same and leave the same files. What the quiet run says on the side is what the verbose run
    says, less the records of the two lower levels. -/
theorem verbosity_noninterference [Archive.SevenZipReader] :
    (∀ words, (∀ a, Arguments.parse words = .ok a → a.verbose = false) →
      DifferInVerbosity words ("-v" :: words)) ∧
    ∀ (tree : FileTree) (quiet loud : List String) (typed : List Char),
      DifferInVerbosity quiet loud →
      (turn tree quiet typed).ending = (turn tree loud typed).ending ∧
      (turn tree quiet typed).output = (turn tree loud typed).output ∧
      (turn tree quiet typed).tree = (turn tree loud typed).tree ∧
      (turn tree quiet typed).notices = (turn tree loud typed).notices.filter (!·.isDetail) := by
  refine ⟨fun words h => ⟨Arguments.parse_verbose words, h⟩, fun tree quiet loud typed h => ?_⟩
  have hloud := requested_aloud h tree
  cases hquiet : requested tree quiet with
  | error r =>
    rw [hquiet] at hloud
    rw [turn_of_refused hquiet, turn_of_refused hloud]
    exact ⟨rfl, rfl, rfl, rfl⟩
  | ok command =>
    obtain ⟨a, ha, hverbose⟩ := Command.verbose_ofWords hquiet
    rw [h.not_verbose a ha] at hverbose
    rw [hquiet] at hloud
    rw [turn_of_requested hquiet, turn_of_requested hloud]
    refine ⟨rfl, rfl, rfl, ?_⟩
    simp [hverbose, Command.aloud, Notice.isShown_true, Notice.isShown_false]

/-- An expression without a value: the quiet run says why, and the verbose run says before that
    what was read. -/
theorem verbosity_noninterference_division :
    (turn .empty ["-e", "1/0"] []).ending = (turn .empty ["-v", "-e", "1/0"] []).ending ∧
      (turn .empty ["-e", "1/0"] []).notices =
        (turn .empty ["-v", "-e", "1/0"] []).notices.filter (!·.isDetail) ∧
      (turn .empty ["-v", "-e", "1/0"] []).notices.length = 2 := by
  have hquiet : Arguments.parse ["-e", "1/0"] = .ok ⟨none, some "1/0", false⟩ := by decide +kernel
  obtain ⟨hcons, hruns⟩ := verbosity_noninterference
  have hdiffer : DifferInVerbosity ["-e", "1/0"] ["-v", "-e", "1/0"] := hcons _ fun a ha => by
    cases hquiet.symm.trans ha
    rfl
  obtain ⟨hending, -, -, hnotices⟩ := hruns .empty _ _ [] hdiffer
  exact ⟨hending, hnotices, by decide +kernel⟩

end Session

end Abacus
