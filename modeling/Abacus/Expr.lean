import Abacus.Failure
import Abacus.Token

/-!
# Expression trees

A tree of numbers and operators, its value and its text. The text is infix, with
parentheses only around a child that would otherwise be read differently: a left
child that binds looser than its parent, or a right child that binds no tighter.

`Expr.combine` joins two trees and refuses a division by a literal zero before
anything is evaluated. A divisor that only evaluates to zero is not refused.

A sketch is a tree with gaps: an operand may still be missing. Only a sketch without
gaps has a value and a text, but operands can be joined and compared before the gaps
are filled.

* `Expr.eval`, `Expr.render`, `Expr.combine`: the value and the text of a tree, and two
  trees joined.
* `Sketch.expr?`: the expression, if no operand is missing.
* `Sketch.eval_ofExpr`, `Sketch.render_ofExpr`, `Sketch.combine_ofExpr`: without gaps
  nothing else happens than with expressions.
-/

namespace Abacus

/-- An arithmetic expression (`Number`, and `Add`, `Subtract`, `Multiply`, `Divide`). -/
inductive Expr
  | number (value : Binary64)
  | binary (op : Operator) (left right : Expr)
deriving DecidableEq

namespace Expr

/-- The value of an expression (`evaluate`). The program recurses over the tree and gives up on one
    that is deeper than its recursion limit, which by default is reached by a single run of about
    1000 operators. The limit is left out of the model: a tree of any depth has a value. -/
def eval : Expr → Binary64
  | .number v => v
  | .binary op l r => op.apply l.eval r.eval

/-- A literal zero, of either sign. -/
def isZeroLiteral : Expr → Bool
  | .number v => v.isZero
  | .binary .. => false

/-- The operator at the root, if there is one. -/
def rootLevel? : Expr → Option Nat
  | .number _ => none
  | .binary op _ _ => some op.level

/-- Puts parentheses around a text if asked to. -/
def parenthesize (wanted : Bool) (cs : List Char) : List Char :=
  if wanted then '(' :: cs ++ [')'] else cs

/-- A left child needs parentheses when it binds looser than its parent. -/
def leftNeeds (level : Nat) (child : Expr) : Bool := child.rootLevel?.any (· < level)

/-- A right child needs parentheses when it binds no tighter than its parent. -/
def rightNeeds (level : Nat) (child : Expr) : Bool := child.rootLevel?.any (· ≤ level)

/-- The characters of an expression in infix form (`render`). As in `eval`, the recursion limit,
    by default reached by a single run of about 1000 operators, is left out of the model: a tree
    of any depth has a text. -/
def renderChars : Expr → List Char
  | .number v => v.chars
  | .binary op l r =>
    parenthesize (leftNeeds op.level l) l.renderChars ++ ' ' :: op.symbol :: ' ' ::
      parenthesize (rightNeeds op.level r) r.renderChars

/-- The text of an expression in infix form (`render`). -/
def render (e : Expr) : String := String.ofList e.renderChars

/-- Joins two expressions, unless the second is the literal zero and divides (`combine`). -/
def combine (op : Operator) (left right : Expr) : Except Failure Expr :=
  if op = .divide ∧ right.isZeroLiteral then .error (.zeroDivisor (render (.binary op left right)))
  else .ok (.binary op left right)

end Expr

/-! ## Trees with gaps -/

/-- An expression in which operands may be missing (`Expression`, which alone is a gap). -/
inductive Sketch
  | gap
  | number (value : Binary64)
  | binary (op : Operator) (left right : Sketch)
deriving DecidableEq

namespace Sketch

/-- Why a sketch cannot be used as an expression. -/
inductive Fault
  /-- An operand is missing. -/
  | unfinished
  /-- The expression itself is refused. -/
  | failure (f : Failure)
deriving DecidableEq

/-- What is said about a fault (by `evaluate` and `render`, or by `combine`). -/
def Fault.message : Fault → String
  | .unfinished => "Not an expression node: Expression()"
  | .failure f => f.message

/-- The expression that a sketch without gaps is. -/
def expr? : Sketch → Option Expr
  | .gap => none
  | .number v => some (.number v)
  | .binary op l r =>
    match l.expr?, r.expr? with
    | some l, some r => some (.binary op l r)
    | _, _ => none

/-- An expression, as a sketch without gaps. -/
def ofExpr : Expr → Sketch
  | .number v => .number v
  | .binary op l r => .binary op (ofExpr l) (ofExpr r)

@[simp] theorem expr?_ofExpr (e : Expr) : (ofExpr e).expr? = some e := by
  induction e with
  | number v => rfl
  | binary op l r ihl ihr => simp [ofExpr, expr?, ihl, ihr]

/-- The expression, or the fault that an operand is missing. -/
def finish (s : Sketch) : Except Fault Expr :=
  match s.expr? with
  | some e => .ok e
  | none => .error .unfinished

/-- The value of a finished sketch (`evaluate`). -/
def eval (s : Sketch) : Except Fault Binary64 := s.finish.map Expr.eval

/-- The text of a finished sketch (`render`). -/
def render (s : Sketch) : Except Fault String := s.finish.map Expr.render

/-- Joins two sketches (`combine`). A division by the literal zero is refused, and then the
    whole division has to be written out. -/
def combine (op : Operator) (left right : Sketch) : Except Fault Sketch :=
  match op, right with
  | .divide, .number v =>
    if v.isZero then
      match (Sketch.binary .divide left right).render with
      | .ok text => .error (.failure (.zeroDivisor text))
      | .error f => .error f
    else .ok (.binary .divide left right)
  | op, right => .ok (.binary op left right)

section OfExpr

variable (e l r : Expr) (op : Operator)

@[simp] theorem finish_ofExpr : (ofExpr e).finish = .ok e := by
  rw [finish, expr?_ofExpr]

theorem eval_ofExpr : (ofExpr e).eval = .ok e.eval := by
  rw [eval, finish_ofExpr]
  rfl

theorem render_ofExpr : (ofExpr e).render = .ok e.render := by
  rw [render, finish_ofExpr]
  rfl

/-- Two expressions are joined as sketches just when they are as expressions, and refused with
    the same failure. -/
theorem combine_ofExpr :
    combine op (ofExpr l) (ofExpr r) =
      ((Expr.combine op l r).map ofExpr).mapError Fault.failure := by
  by_cases hop : op = .divide
  · subst hop
    cases r with
    | binary p a b => rfl
    | number v =>
      have hrender := render_ofExpr (.binary .divide l (.number v))
      rw [ofExpr, ofExpr] at hrender
      cases hv : v.isZero with
      | true =>
        simp only [ofExpr, combine, hv, hrender, Expr.combine, Expr.isZeroLiteral]
        rfl
      | false =>
        simp only [ofExpr, combine, hv, Expr.combine, Expr.isZeroLiteral]
        rfl
  · rw [Expr.combine, if_neg fun h => hop h.1]
    cases op with
    | divide => exact absurd rfl hop
    | add => rfl
    | subtract => rfl
    | multiply => rfl

end OfExpr

/-- The same shape and the same operators, and numerically equal numbers. -/
def same : Sketch → Sketch → Bool
  | .gap, .gap => true
  | .number v, .number w => v.same w
  | .binary o l r, .binary p l' r' => o == p && l.same l' && r.same r'
  | _, _ => false

end Sketch

end Abacus
