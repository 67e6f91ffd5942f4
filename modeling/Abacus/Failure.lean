import Abacus.Text.Character

/-!
# Failures of an evaluation

Why an expression has no value, and what is said about it. The messages of the
first two kinds quote text, so they are one line whatever the expression holds.
-/

namespace Abacus

/-- The stage of an evaluation that failed (`ErrorKind`). -/
inductive FailureKind
  | lexical
  | parse
  | arithmetic
deriving DecidableEq

namespace FailureKind

/-- The word for a kind. -/
def name : FailureKind → String
  | .lexical => "lexical"
  | .parse => "parse"
  | .arithmetic => "arithmetic"

/-- The kind that a word stands for. -/
def ofName? (s : String) : Option FailureKind :=
  if s = "lexical" then some .lexical
  else if s = "parse" then some .parse
  else if s = "arithmetic" then some .arithmetic
  else none

end FailureKind

/-- Why an expression has no value (`ExpressionError`). -/
inductive Failure
  /-- The text at a position begins no token (`LexicalError`). -/
  | unexpected (text : String) (position : Int)
  /-- The tokens do not alternate number and operator; a reduction stage met `tokens`
      (`ParsingError`). -/
  | malformed (stage tokens : String)
  /-- A division by a literal zero, written out (`ArithmeticEvaluationError`). -/
  | zeroDivisor (quotient : String)
  /-- The result is infinite or no number (`ArithmeticEvaluationError` with
      `UNDEFINED_VALUE`). -/
  | undefined
deriving DecidableEq

namespace Failure

/-- The stage that failed. -/
def kind : Failure → FailureKind
  | .unexpected _ _ => .lexical
  | .malformed _ _ => .parse
  | .zeroDivisor _ => .arithmetic
  | .undefined => .arithmetic

/-- What is said about a failure. -/
def message : Failure → String
  | .unexpected text position =>
    "Unexpected character " ++ Text.quote text ++ " at position " ++ toString position
  | .malformed stage tokens => "Parsing error in " ++ stage ++ ": " ++ Text.quote tokens
  | .zeroDivisor quotient => quotient
  | .undefined => "Undefined value"

end Failure

end Abacus
