import Abacus.Expr

/-!
# Chains of numbers and operators

Precedence is resolved by staged reduction of the token list (`ExpressionParser`): first
every run of multiplications and divisions is folded into its value, then every run of
additions and subtractions, and what is left is one number.

* `foldRun`: folds a run of operators of one level, left to right.
* `reduce`: the value of the leading run, and the tokens after it.
* `collapse`: replaces every run of one level by its value.
* `parse`: the value of a whole chain.
* `length_of_reduce`: a run that starts with an operator gets shorter.
-/

namespace Abacus.Chain

/-- The failure of a stage that met tokens it cannot go on with (`ParsingError`). -/
def malformed (stage : String) (ts : List Token) : Failure := .malformed stage (Token.render ts)

/-- Folds operator and number pairs onto `acc` for as long as the operators are
    of the given level (the loop of `reduce`). -/
def foldRun (level : Nat) (acc : Expr) : List Token → Except Failure (Expr × List Token)
  | [] => .ok (acc, [])
  | .number v :: rest => .error (malformed "reduce" (.number v :: rest))
  | .operator op :: rest =>
    if op.level ≠ level then .ok (acc, .operator op :: rest)
    else
      match rest with
      | .number v :: rest =>
        match acc.combine op (.number v) with
        | .ok acc => foldRun level acc rest
        | .error f => .error f
      | rest => .error (malformed "reduce" (.operator op :: rest))

/-- The value of the leading run of operators of one level, the level of the
    first of them, and the tokens that the run leaves (`ExpressionParser.reduce`). -/
def reduce : List Token → Except Failure (Binary64 × List Token)
  | [.number v] => .ok (v, [])
  | .number v :: .operator op :: rest =>
    (foldRun op.level (.number v) (.operator op :: rest)).map fun r => (r.1.eval, r.2)
  | ts => .error (malformed "reduce" ts)

/-! ## Runs get shorter -/

theorem length_of_foldRun {level : Nat} {acc e : Expr} {ts rest : List Token}
    (h : foldRun level acc ts = .ok (e, rest)) : rest.length ≤ ts.length := by
  fun_induction foldRun level acc ts with
  | case1 => cases h; simp
  | case2 => cases h
  | case3 => cases h; simp
  | case4 acc op hl v rest' acc' hc ih => have := ih h; simp only [List.length_cons]; omega
  | case5 => cases h
  | case6 => cases h

theorem length_of_reduce {v w : Binary64} {op : Operator} {ts rest : List Token}
    (h : reduce (.number v :: .operator op :: ts) = .ok (w, rest)) : rest.length < ts.length := by
  simp only [reduce] at h
  unfold foldRun at h
  simp only [ne_eq, not_true_eq_false, ↓reduceIte] at h
  split at h
  · next u ts' =>
    split at h
    · next acc hc =>
      cases hf : foldRun op.level acc ts' with
      | error f => rw [hf] at h; cases h
      | ok r =>
        rw [hf] at h
        obtain ⟨-, rfl⟩ := Prod.mk.inj (Except.ok.inj h)
        have := length_of_foldRun hf
        simp only [List.length_cons]
        omega
    · cases h
  · cases h

/-! ## Stages -/

/-- Replaces every run of operators of a level by its value, and leaves the
    other operators and their left operands as they are
    (`ExpressionParser.parse_by_prec`). -/
def collapse (level : Int) (ts : List Token) : Except Failure (List Token) :=
  match ts with
  | .number v :: .operator op :: rest =>
    if (op.level : Int) = level then
      match _h : reduce (.number v :: .operator op :: rest) with
      | .ok (w, rest) => collapse level (.number w :: rest)
      | .error f => .error f
    else (collapse level rest).map fun out => .number v :: .operator op :: out
  | [.number v] => .ok [.number v]
  | ts => .error (malformed "parse_by_prec" ts)
termination_by ts.length
decreasing_by
  · have := length_of_reduce _h
    simp only [List.length_cons]
    omega
  · simp only [List.length_cons]
    omega

/-- The value of a chain: both levels collapsed, the tighter one first
    (`ExpressionParser.parse`). -/
def parse (ts : List Token) : Except Failure Binary64 := do
  let products ← collapse 1 ts
  let sums ← collapse 0 products
  let (value, rest) ← reduce sums
  if rest.isEmpty then pure value else throw (malformed "parse" rest)

end Abacus.Chain
