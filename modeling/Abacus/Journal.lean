import Abacus.Outcome
import Abacus.Text.Character

/-!
# The journal

What the program does is recorded as it goes (`logger`), each record with a level. A quiet
run shows warnings and errors only, a verbose run everything.

* `Journal.ofExpression`: what is recorded when an expression is evaluated.
* `Journal.shown`: the records that are shown.
-/

namespace Abacus.Journal

/-- How much a record matters, from the least up. -/
inductive Level
  | debug
  | info
  | warning
  | error
deriving DecidableEq

/-- The name of a level. -/
def Level.name : Level → String
  | .debug => "DEBUG"
  | .info => "INFO"
  | .warning => "WARNING"
  | .error => "ERROR"

/-- A record. -/
structure Record where
  level : Level
  text : String
deriving DecidableEq

/-- Who writes the journal (`LOGGER_NAME`). -/
def writer : String := "arithmetic_evaluator"

/-- The line of a record that was made at some time (`LOG_FORMAT`). -/
def Record.line (time : String) (r : Record) : String :=
  time ++ " [" ++ r.level.name ++ "] " ++ writer ++ ": " ++ r.text ++ "\n"

/-- Is the record shown in a run without details (`configure_logger` with `WARNING`)? -/
def Record.isUrgent (r : Record) : Bool := r.level = .warning || r.level = .error

/-- Is the record shown (`configure_logger` with `DEBUG` or `WARNING`)? -/
def Record.isShown (verbose : Bool) (r : Record) : Bool := verbose || r.isUrgent

/-- The records that are shown. -/
def shown (verbose : Bool) (records : List Record) : List Record :=
  records.filter (·.isShown verbose)

/-! ## Expressions -/

/-- What is recorded when the tokens of an expression have been read. -/
def ofTokens (s : String) (tokens : List Token) : Record :=
  ⟨.debug, "🔤 Lexed " ++ Text.quote s ++ " into " ++ Text.quote (Token.render tokens)⟩

/-- What is recorded while an expression is reduced to its value (`ExpressionParser.evaluate`). -/
def ofEvaluation (s : String) : List Record :=
  match Token.lex s with
  | .ok tokens => [ofTokens s tokens]
  | .error _ => []

/-- What is recorded of an expression that has no value (`ExpressionParser.interpret`). -/
def ofFailure (s : String) (f : Failure) : Record :=
  ⟨.debug, "🧮❌ " ++ f.kind.name ++ " error for " ++ Text.quote s ++ ": " ++ f.message⟩

/-- What is recorded while the outcome of an expression is found
    (`ExpressionParser.interpret`, which goes by `evaluate`). -/
def ofExpression (s : String) : List Record :=
  ofEvaluation s ++
    match evaluate s with
    | .ok _ => []
    | .error f => [ofFailure s f]

end Abacus.Journal
