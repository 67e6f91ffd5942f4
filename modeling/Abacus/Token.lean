import Abacus.Binary64.Decimal
import Abacus.Text.Character

/-!
# Tokens

An expression is read as a list of numbers and operators. There are four binary
operators. Multiplication and division bind tighter than addition and subtraction,
which is all that a level says. Written back, tokens are separated by single spaces.

The function, class or table of the program that a definition models stands in
parentheses in its docstring, here and in the other modules.

* `ofSymbol?_symbol`, `symbol_of_ofSymbol?`: an operator is read from its own
  symbol and from nothing else.
* `renderChars_cons_cons`: the text of a token list, one token at a time.
* `renderChars_append`: a space stands between the texts of two token lists.
-/

namespace Abacus

/-! ## Operators -/

/-- A binary operator (`Operator`). -/
inductive Operator
  | add
  | subtract
  | multiply
  | divide
deriving DecidableEq

namespace Operator

/-- The character that stands for an operator. -/
def symbol : Operator → Char
  | .add => '+'
  | .subtract => '-'
  | .multiply => '*'
  | .divide => '/'

/-- The operator that a character stands for (`OPERATOR` in `TOKEN_SPECIFICATION`). -/
def ofSymbol? (c : Char) : Option Operator :=
  if c = '+' then some .add
  else if c = '-' then some .subtract
  else if c = '*' then some .multiply
  else if c = '/' then some .divide
  else none

@[simp] theorem ofSymbol?_symbol (op : Operator) : ofSymbol? op.symbol = some op := by
  cases op <;> rfl

theorem symbol_of_ofSymbol? {c : Char} {op : Operator} (h : ofSymbol? c = some op) :
    op.symbol = c := by
  unfold ofSymbol? at h
  split at h
  · cases h; subst_vars; rfl
  split at h
  · cases h; subst_vars; rfl
  split at h
  · cases h; subst_vars; rfl
  split at h
  · cases h; subst_vars; rfl
  · cases h

/-- The operator that a whole text names (`Operator` called on a text). -/
def named? (s : String) : Option Operator :=
  match s.toList with
  | [c] => ofSymbol? c
  | _ => none

/-- What is said of a text that names no operator. -/
def unknownMessage (s : String) : String := Text.quote s ++ " is not a valid Operator"

/-- How tightly an operator binds (`precedence`, `PRECEDENCE`). -/
def level : Operator → Nat
  | .add => 0
  | .subtract => 0
  | .multiply => 1
  | .divide => 1

/-- The function that an operator stands for (`OPERATIONS`). -/
def apply : Operator → Binary64 → Binary64 → Binary64
  | .add, a, b => a + b
  | .subtract, a, b => a - b
  | .multiply, a, b => a * b
  | .divide, a, b => a / b

end Operator

/-! ## Token lists -/

/-- A number or an operator (`NumberToken`, `OperatorToken`). -/
inductive Token
  | number (value : Binary64)
  | operator (op : Operator)
deriving DecidableEq

namespace Token

/-- The characters of a token. -/
def chars : Token → List Char
  | .number v => v.chars
  | .operator op => [op.symbol]

/-- The text of a token. -/
def text (t : Token) : String := String.ofList t.chars

/-- The characters of a token list, with a space between neighbours. -/
def renderChars : List Token → List Char
  | [] => []
  | [t] => t.chars
  | t :: u :: rest => t.chars ++ ' ' :: renderChars (u :: rest)

theorem renderChars_cons_cons (t u : Token) (rest : List Token) :
    renderChars (t :: u :: rest) = t.chars ++ ' ' :: renderChars (u :: rest) := rfl

theorem renderChars_append (t : Token) (ts : List Token) (u : Token) (us : List Token) :
    renderChars (t :: ts ++ u :: us) = renderChars (t :: ts) ++ ' ' :: renderChars (u :: us) := by
  induction ts generalizing t with
  | nil => rfl
  | cons w ws ih =>
    rw [List.cons_append, List.cons_append, renderChars_cons_cons, ← List.cons_append, ih w,
      renderChars_cons_cons, List.append_assoc, List.cons_append]

/-- The text of a token list (`render_tokens`). -/
def render (ts : List Token) : String := String.ofList (renderChars ts)

end Token

end Abacus
