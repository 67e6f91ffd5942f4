import Abacus.Chain
import Abacus.Numeral
import Abacus.Token.Lexer

/-!
# Outcomes

Evaluating an expression gives a number or a failure. An outcome records which,
with the expression, as plain data. Each front end turns an outcome into a line:
the terminal shows ` >> 14`, a results file holds `2 + 3 * 4 = 14`. In both, a
result that is infinite or no number counts as a failure.

An outcome that comes from elsewhere is a record of named, loosely typed fields.
The field `kind` tells which of the two outcomes it is; then every field of that
outcome is checked, and all faults are reported in the order of the fields.
Numbers may be given as integers, as truth values or as text.

* `evaluate`, `interpret`: from a text to its number, and to its outcome.
* `Outcome.displayLine`: the line for a terminal.
* `Outcome.resultsLine`: the line of a results file.
* `Outcome.ofRecord`: the outcome that a record holds, or the faults of the record.
-/

namespace Abacus

/-- What became of an expression (`OperationResult`, `OperationError`). -/
inductive Outcome
  | ok (expression : String) (result : Binary64)
  | error (expression : String) (kind : FailureKind) (message : String)
deriving DecidableEq

/-- The value of a text, read and reduced (`ExpressionParser.evaluate`). -/
def evaluate (s : String) : Except Failure Binary64 := do
  let ts ← Token.lex s
  Chain.parse ts

/-- The outcome of a text (`ExpressionParser.interpret`). -/
def interpret (s : String) : Outcome :=
  match evaluate s with
  | .ok v => .ok s v
  | .error f => .error s f.kind f.message

/-- A finite result, as it is (`check_float`). -/
def checked (v : Binary64) : Except Failure Binary64 :=
  if v.isFinite then .ok v else .error .undefined

/-! ## Lines for a terminal -/

/-- What stands before everything that a terminal shows (`DISPLAY_PREFIX`). -/
def displayMark : String := " >> "

/-- The line for a finite result (`format_result`). -/
def resultLine (v : Binary64) : Except Failure String :=
  (checked v).map fun v => displayMark ++ v.text

/-- Evaluates a text and gives the line for its result (`display`). -/
def display (s : String) : Except Failure String := do
  resultLine (← evaluate s)

namespace Outcome

/-- The line for an outcome, failures included (`render_outcome`). -/
def displayLine : Outcome → String
  | .ok _ v =>
    match resultLine v with
    | .ok line => line
    | .error f => displayMark ++ "Error: " ++ f.message
  | .error _ _ message => displayMark ++ "Error: " ++ message

/-! ## Lines of a results file -/

/-- What separates an expression from the message that explains its failure. -/
def errorMark : String := " -> ERROR: "

/-- The line for an outcome in a results file (`BatchRunner.format_line`). -/
def resultsLine : Outcome → String
  | .ok s v =>
    match checked v with
    | .ok v => s ++ " = " ++ v.text
    | .error f => s ++ errorMark ++ f.message
  | .error s _ message => s ++ errorMark ++ message

end Outcome

/-! ## Outcomes as records -/

/-- A loosely typed value. -/
inductive Field
  | null
  | bool (b : Bool)
  | integer (n : Int)
  | real (v : Binary64)
  | text (s : String)
  | list
  | record
deriving DecidableEq

/-- What is wrong with a field. -/
inductive FieldFault
  | missing
  | notText
  | notNumber
  | unreadableNumber
  | notKind
deriving DecidableEq

/-- What is wrong with a record. -/
inductive RecordFault
  /-- There is no field `kind`. -/
  | untagged
  /-- The field `kind` names no outcome. -/
  | unknownTag
  /-- These fields of the outcome with that tag are at fault. -/
  | fields (tag : String) (faults : List (String × FieldFault))
deriving DecidableEq

namespace Field

/-- A field that must hold a text. -/
def asText : Option Field → Except FieldFault String
  | none => .error .missing
  | some (.text s) => .ok s
  | some _ => .error .notText

/-- A field that must hold a number. -/
def asNumber : Option Field → Except FieldFault Binary64
  | none => .error .missing
  | some (.real v) => .ok v
  | some (.bool b) => .ok (.ofDecimal false ⟨b.toNat, 0⟩)
  | some (.integer n) =>
    match Numeral.ofInt? n with
    | some v => .ok v
    | none => .error .notNumber
  | some (.text s) =>
    match Numeral.read? s with
    | some v => .ok v
    | none => .error .unreadableNumber
  | some _ => .error .notNumber

/-- A field that must name a kind of failure. -/
def asKind : Option Field → Except FieldFault FailureKind
  | none => .error .missing
  | some (.text s) =>
    match FailureKind.ofName? s with
    | some kind => .ok kind
    | none => .error .notKind
  | some _ => .error .notKind

end Field

/-- The fault of a field under its name, if there is one. -/
def FieldFault.named (name : String) : Except FieldFault α → List (String × FieldFault)
  | .ok _ => []
  | .error f => [(name, f)]

namespace Outcome

/-- Reads an outcome from the fields that `get` finds (`OperationOutcome`, told apart by
    `kind`). -/
def ofRecord (get : String → Option Field) : Except RecordFault Outcome :=
  let expression := Field.asText (get "expression")
  match get "kind" with
  | none => .error .untagged
  | some (.text "ok") =>
    let result := Field.asNumber (get "result")
    match expression, result with
    | .ok s, .ok v => .ok (.ok s v)
    | _, _ =>
      .error (.fields "ok"
        (FieldFault.named "expression" expression ++ FieldFault.named "result" result))
  | some (.text "error") =>
    let kind := Field.asKind (get "error_kind")
    let message := Field.asText (get "message")
    match expression, kind, message with
    | .ok s, .ok k, .ok m => .ok (.error s k m)
    | _, _, _ =>
      .error (.fields "error"
        (FieldFault.named "expression" expression ++ FieldFault.named "error_kind" kind ++
          FieldFault.named "message" message))
  | some _ => .error .unknownTag

end Outcome

end Abacus
