import Abacus.Arguments
import Abacus.Dialogue
import Abacus.Worksheet

/-!
# Commands

A command line asks for one of three things: to evaluate an expression, to work
through a worksheet, or to lead a dialogue. Carrying it out gives what is printed,
what is said on the side, and at most one file to be written.

* `Command.ofWords`: the command that a command line asks for.
* `Task.perform`: what carrying out a task gives.
* `Performance.acts`: what is done, one thing after the other, to present it.
-/

namespace Abacus

/-- What is to be done. A worksheet comes with the path of its results. -/
inductive Task
  | expression (s : String)
  | worksheet (input output : Path)
  | dialogue
deriving DecidableEq

/-- A task, and whether all records are shown. -/
structure Command where
  task : Task
  verbose : Bool
deriving DecidableEq

/-- The task of working through the file that a text names. It must be there, which
    `isFile` tells; a path without a name is no file's. -/
def Task.ofFile (isFile : Path → Bool) (text : String) : Except Arguments.Refusal Task :=
  let input := Path.ofString text
  match input.results? with
  | some output => if isFile input then .ok (.worksheet input output) else .error .misuse
  | none => .error .misuse

/-- The command that a command line asks for (`main`, up to where it branches). -/
def Command.ofWords (isFile : Path → Bool) (words : List String) :
    Except Arguments.Refusal Command := do
  let arguments ← Arguments.parse words
  match arguments.expression, arguments.file with
  | some s, _ => return ⟨.expression s, arguments.verbose⟩
  | none, some text => return ⟨← Task.ofFile isFile text, arguments.verbose⟩
  | none, none => return ⟨.dialogue, arguments.verbose⟩

/-- What is said on the side: records of the journal, and plain lines. -/
inductive Notice
  | record (r : Journal.Record)
  | line (text : String)
deriving DecidableEq

/-- The text of a notice, records with the time. -/
def Notice.text (time : String) : Notice → String
  | .record r => r.line time
  | .line s => s ++ "\n"

/-- Is the notice shown? Plain lines are. -/
def Notice.isShown (verbose : Bool) : Notice → Bool
  | .record r => r.isShown verbose
  | .line _ => true

/-- The line that reports a failure. -/
def Notice.failure (message : String) : Notice := .line ("Error: " ++ message)

variable [Archive.SevenZipReader]

/-- How a task ends: with a status, or because a file's container is broken. -/
inductive Ending
  | status (n : Nat)
  | broken (f : Worksheet.Fault)
deriving DecidableEq

/-- What carrying out a task gives: how it ends, what it prints, what is said on the
    side before a file is written and after that, and the file. -/
structure Performance where
  ending : Ending
  output : String
  opening : List Notice
  notices : List Notice
  results : Option (Path × String)

/-- Something that can be seen from outside: something is said on the side, results are written
    under a path, or something is printed. -/
inductive Act
  | say (n : Notice)
  | write (output : Path) (text : String)
  | print (text : String)
deriving DecidableEq

/-- Is the act to be done? Only what is said may be left out. -/
def Act.isShown (verbose : Bool) : Act → Bool
  | .say n => n.isShown verbose
  | .write .. => true
  | .print _ => true

/-- What is done to present a performance, one thing after the other. -/
def Performance.acts (p : Performance) : List Act :=
  p.opening.map .say ++ p.results.toList.map (fun r => .write r.1 r.2) ++ p.notices.map .say ++
    [.print p.output]

namespace Task

/-- Evaluates an expression and prints its result (`main` with an expression). -/
def evaluate (s : String) : Performance :=
  let records := (Journal.ofEvaluation s).map Notice.record
  match display s with
  | .ok line => ⟨.status 0, line ++ "\n", [], records, none⟩
  | .error f => ⟨.status 1, "", [], records ++ [.failure f.message], none⟩

/-- Works through a worksheet and prints where its results are. -/
def workThrough (input output : Path) (expressions : List String) : Performance :=
  let records := Worksheet.journal expressions ++ [Worksheet.completion output]
  { ending := .status 0
    output := output.text ++ "\n"
    opening := [.record (Worksheet.announcement input expressions.length)]
    notices := records.map Notice.record
    results := some (output, Worksheet.results (Worksheet.outcomes expressions)) }

/-- Reads a worksheet and works through it (`main` with a file). Nothing is written unless it can
    be read. -/
def workThroughFile (input output : Path) (bytes : ByteArray) : Performance :=
  match Worksheet.readExpressions input bytes with
  | .ok expressions => workThrough input output expressions
  | .error f =>
    if f.isRefusal then ⟨.status 1, "", [], [.failure f.message], none⟩
    else ⟨.broken f, "", [], [], none⟩

/-- Leads a dialogue (`main` without arguments). -/
def converse (input : List Char) : Performance :=
  let d := Dialogue.converse Dialogue.defaultPrompt (Text.unifyNewlines input)
  ⟨.status 0, d.output, [], d.journal.map Notice.record, none⟩

/-- Carries out a task. `contents` gives the bytes of a file; `typed` is what is typed
    in. -/
def perform (contents : Path → ByteArray) (typed : List Char) : Task → Performance
  | .expression s => evaluate s
  | .worksheet input output => workThroughFile input output (contents input)
  | .dialogue => converse typed

end Task

end Abacus
