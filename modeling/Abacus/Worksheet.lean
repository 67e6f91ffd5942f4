import Abacus.Archive
import Abacus.FileTree
import Abacus.Journal
import Abacus.Text.Lines

/-!
# Worksheets

A worksheet is what the program calls an operations file (`BatchRunner`): a text with
one expression on each line that is not blank. Its results are one line per expression,
in the same order. In the journal each expression is recorded when it is evaluated, and
a failed one again as an error, with its number among the expressions. A result that is
not finite is no failure there.

A worksheet is read from a text file or from the first text in an archive; the name
of the file tells which. The line ends of a text file are unified, those of a member
of an archive are left alone. A run reads a worksheet, opens the file for its results,
which empties it, and then takes one expression after the other: it finds the outcome
and writes its line before it goes on to the next.

* `Worksheet.expressions`: the expressions of a text.
* `Worksheet.results`: the text of the results.
* `Worksheet.journal`: what is recorded from the first expression to the last.
* `Worksheet.read`: the text of a worksheet.
* `Worksheet.Fault.isRefusal`: is the file refused, or is its container broken?
* `Run.step`: one expression.
* `Worksheet.run`: a whole run.
-/

namespace Abacus.Worksheet

/-- The lines of a text that are not blank, without the blanks around them
    (`BatchRunner.read_expressions`). -/
def expressions (text : List Char) : List String :=
  (((Text.splitLines text).map Text.strip).filter (· ≠ [])).map String.ofList

/-- The outcomes of a list of expressions (what `BatchRunner.run` returns). -/
def outcomes (expressions : List String) : List Outcome := expressions.map interpret

/-- The text of the results, one line for each outcome (what `BatchRunner.run` writes). -/
def results (outcomes : List Outcome) : String :=
  String.join (outcomes.map fun o => o.resultsLine ++ "\n")

/-! ## The journal -/

/-- What is recorded before the first expression. -/
def announcement (input : Path) (count : Nat) : Journal.Record :=
  ⟨.info, "📄 Evaluating " ++ toString count ++ " expressions from " ++ input.text⟩

/-- What is recorded when all results have been written. -/
def completion (output : Path) : Journal.Record := ⟨.info, "✅ Results written to " ++ output.text⟩

/-- The error that is recorded for the expression with some number. -/
def complaint (number : Nat) : Outcome → List Journal.Record
  | .ok .. => []
  | .error s _ message =>
    [⟨.error, "🧮❌ Line " ++ toString number ++ ": " ++ message ++ " (" ++ Text.quote s ++ ")"⟩]

/-- What is recorded for expressions that are numbered from `number` on. -/
def journalFrom (number : Nat) : List String → List Journal.Record
  | [] => []
  | s :: rest =>
    Journal.ofExpression s ++ complaint number (interpret s) ++ journalFrom (number + 1) rest

/-- What is recorded for the expressions of a worksheet. -/
def journal (expressions : List String) : List Journal.Record := journalFrom 1 expressions

/-! ## Reading -/

variable [Archive.SevenZipReader]

/-- Why no worksheet could be read. -/
inductive Fault
  | unsupported (p : Path)
  | noText (p : Path)
  | undecodable (f : Text.Utf8.Fault)
  | archive (f : Archive.Fault)
deriving DecidableEq

/-- What stands before every refusal of a file. -/
def refusalMark : String := "📦❌ "

/-- What is said of the extension of a path: all suffixes, or the name without any. -/
def extensionShown (p : Path) : String :=
  if p.suffixes = [] then String.ofList p.name else String.ofList p.suffixes.flatten

/-- The words for a fault. -/
def Fault.message : Fault → String
  | .unsupported p => refusalMark ++ "Unsupported input format: " ++ extensionShown p
  | .noText p => refusalMark ++ String.ofList p.name ++ " contains no .txt member"
  | .undecodable f => f.message
  | .archive f => f.message

/-- Is it the file that is refused, for its format, for want of a text, or for a value
    in it that makes no sense? Otherwise its container is broken. -/
def Fault.isRefusal : Fault → Bool
  | .unsupported _ => true
  | .noText _ => true
  | .undecodable _ => true
  | .archive f => f.isOfValue

/-- The text that bytes encode. -/
def decode (bytes : List UInt8) : Except Fault (List Char) :=
  (Text.Utf8.decode bytes).mapError Fault.undecodable

/-- The text of the worksheet that a file of some name holds (`read_operations_text`). -/
def read (p : Path) (bytes : ByteArray) : Except Fault (List Char) :=
  if Archive.isTextPath p then (decode (Bytes.toList bytes)).map Text.unifyNewlines
  else
    match Archive.Format.ofPath? p with
    | none => .error (.unsupported p)
    | some format =>
      match Archive.textBytes? format p.name bytes with
      | .error f => .error (.archive f)
      | .ok none => .error (.noText p)
      | .ok (some text) => decode text

/-- The expressions of the worksheet that a file holds (`BatchRunner.read_expressions`). -/
def readExpressions (p : Path) (bytes : ByteArray) : Except Fault (List String) :=
  (read p bytes).map expressions

/-! ## Working through -/

/-- Why a run fails: its worksheet cannot be read, or its results cannot be written. -/
inductive RunFault
  | unread (f : Fault)
  | blocked (output : Path)
deriving DecidableEq

/-- A run at work: the outcomes so far, and the files as they stand. -/
structure Run where
  outcomes : List Outcome
  tree : FileTree

/-- The start of a run, with an empty file for the results. -/
def Run.start (tree : FileTree) (place : Place) : Run := ⟨[], tree.write place .empty⟩

/-- Takes one expression (one turn of the loop in `BatchRunner.run`). Its line is written before
    the next one is taken. -/
def Run.step (place : Place) (r : Run) (expression : String) : Run :=
  let outcome := interpret expression
  ⟨r.outcomes ++ [outcome], r.tree.append place (outcome.resultsLine ++ "\n").toUTF8⟩

/-- Reads the worksheet in a file and works through it, with the results under another path:
    the outcomes or why there are none, and the files that are left (`BatchRunner.run`). -/
def run (tree : FileTree) (input output : Path) (bytes : ByteArray) :
    Except RunFault (List Outcome) × FileTree :=
  match readExpressions input bytes with
  | .error f => (.error (.unread f), tree)
  | .ok expressions =>
    match tree.outlet? output with
    | none => (.error (.blocked output), tree)
    | some place =>
      let r := expressions.foldl (Run.step place) (Run.start tree place)
      (.ok r.outcomes, r.tree)

end Abacus.Worksheet
