import Abacus.Proofs.Expr.Grouping

/-!
# Collapsing in one scan

`collapse` puts the value of a run back in front of the tokens that are left and
starts again. The scan here reads the tokens once, with the tree of the run
that is being read at hand, and gives the same result, so that facts about a
stage follow by one induction on the tokens.

* `scan_eq_pending`: the scan behind a run does what is left to a stage there.
* `collapse_eq_scan`: a stage is the scan.
-/

namespace Abacus.Chain

/-! ## The equations of a stage -/

theorem collapse_single (level : Int) (v : Binary64) :
    collapse level [.number v] = .ok [.number v] := by
  rw [collapse]

theorem collapse_nil (level : Int) : collapse level [] = .error (malformed "parse_by_prec" []) := by
  rw [collapse]
  all_goals simp

theorem collapse_operator (level : Int) (op : Operator) (ts : List Token) :
    collapse level (.operator op :: ts) =
      .error (malformed "parse_by_prec" (.operator op :: ts)) := by
  rw [collapse]
  all_goals simp

theorem collapse_adjacent (level : Int) (v u : Binary64) (ts : List Token) :
    collapse level (.number v :: .number u :: ts) =
      .error (malformed "parse_by_prec" (.number v :: .number u :: ts)) := by
  rw [collapse]
  all_goals simp

theorem collapse_skip {level : Int} {op : Operator} (h : (op.level : Int) ≠ level) (v : Binary64)
    (ts : List Token) :
    collapse level (.number v :: .operator op :: ts) =
      (collapse level ts).map fun out => .number v :: .operator op :: out := by
  rw [collapse, if_neg h]

theorem reduce_cons_cons (v : Binary64) (op : Operator) (ts : List Token) :
    reduce (.number v :: .operator op :: ts) =
      (foldRun op.level (.number v) (.operator op :: ts)).map fun r => (r.1.eval, r.2) := by
  rw [reduce]

/-- Goes on with the value of a run in front of the tokens that the run leaves. -/
def resume (level : Int) : Except Failure (Expr × List Token) → Except Failure (List Token)
  | .ok (e, rest) => collapse level (.number e.eval :: rest)
  | .error f => .error f

theorem collapse_run {level : Int} {op : Operator} (h : (op.level : Int) = level) (v : Binary64)
    (ts : List Token) :
    collapse level (.number v :: .operator op :: ts) =
      resume level (foldRun op.level (.number v) (.operator op :: ts)) := by
  rw [collapse, if_pos h]
  have hr := reduce_cons_cons v op ts
  cases hf : foldRun op.level (.number v) (.operator op :: ts) with
  | ok r =>
    rw [hf] at hr
    split <;> simp_all [resume, Except.map]
  | error f =>
    rw [hf] at hr
    split <;> simp_all [resume, Except.map]

/-! ## The scan -/

/-- Reads the tokens behind the run that `acc` folds, in one pass. -/
def scan (level : Int) (acc : Expr) : List Token → Except Failure (List Token)
  | [] => .ok [.number acc.eval]
  | .number u :: rest =>
    match acc with
    | .number v => .error (malformed "parse_by_prec" (.number v :: .number u :: rest))
    | .binary .. => .error (malformed "reduce" (.number u :: rest))
  | .operator op :: .number v :: rest =>
    if (op.level : Int) = level then
      match acc.combine op (.number v) with
      | .ok acc => scan level acc rest
      | .error f => .error f
    else (scan level (.number v) rest).map fun out => .number acc.eval :: .operator op :: out
  | .operator op :: rest =>
    if (op.level : Int) = level then .error (malformed "reduce" (.operator op :: rest))
    else .error (malformed "parse_by_prec" rest)

theorem combine_zero {op : Operator} {v : Binary64} (h : op = .divide ∧ v.isZero = true)
    (acc : Expr) :
    acc.combine op (.number v) = .error (.zeroDivisor (Expr.render (.binary op acc (.number v)))) :=
  if_pos h

theorem combine_of_not_zero {op : Operator} {v : Binary64}
    (h : ¬ (op = .divide ∧ v.isZero = true)) (acc : Expr) :
    acc.combine op (.number v) = .ok (.binary op acc (.number v)) :=
  if_neg h

/-- The tree is a number or has an operator of the level at its root. -/
def AtLevel (level : Int) (e : Expr) : Prop :=
  ∀ op l r, e = .binary op l r → (op.level : Int) = level

theorem atLevel_number (level : Int) (v : Binary64) : AtLevel level (.number v) := by
  rintro _ _ _ ⟨⟩

theorem atLevel_binary {level : Int} {op : Operator} (h : (op.level : Int) = level) (l r : Expr) :
    AtLevel level (.binary op l r) := by
  rintro _ _ _ ⟨⟩
  exact h

/-- What a stage still has to do when it has read a run up to `ts`. -/
def pending (level : Int) (acc : Expr) (ts : List Token) : Except Failure (List Token) :=
  match acc with
  | .number v => collapse level (.number v :: ts)
  | .binary op l r => resume level (foldRun op.level (.binary op l r) ts)

theorem pending_of_level {level : Int} {acc : Expr} (hacc : AtLevel level acc) {op : Operator}
    (h : (op.level : Int) = level) (ts : List Token) :
    pending level acc (.operator op :: ts) =
      resume level (foldRun op.level acc (.operator op :: ts)) := by
  cases acc with
  | number v => exact collapse_run h v ts
  | binary o l r =>
    have ho := hacc o l r rfl
    rw [pending, show o.level = op.level by omega]

theorem foldRun_of_ne {level : Nat} {op : Operator} (h : op.level ≠ level) (acc : Expr)
    (ts : List Token) :
    foldRun level acc (.operator op :: ts) = .ok (acc, .operator op :: ts) := by
  unfold foldRun
  exact if_pos h

theorem pending_of_ne {level : Int} {acc : Expr} (hacc : AtLevel level acc) {op : Operator}
    (h : (op.level : Int) ≠ level) (ts : List Token) :
    pending level acc (.operator op :: ts) =
      (collapse level ts).map fun out => .number acc.eval :: .operator op :: out := by
  cases acc with
  | number v => exact collapse_skip h v ts
  | binary o l r =>
    have ho := hacc o l r rfl
    rw [pending, foldRun_of_ne (show op.level ≠ o.level by omega)]
    exact collapse_skip h _ ts

theorem collapse_of_not_number {level : Int} {ts : List Token}
    (h : ∀ v rest, ts = .number v :: rest → False) :
    collapse level ts = .error (malformed "parse_by_prec" ts) := by
  match ts with
  | [] => exact collapse_nil level
  | .operator op :: ts => exact collapse_operator level op ts
  | .number v :: rest => exact (h v rest rfl).elim

/-- The scan gives what a stage gives that has read as far. -/
theorem scan_eq_pending {level : Int} {acc : Expr} (hacc : AtLevel level acc) (ts : List Token) :
    scan level acc ts = pending level acc ts := by
  fun_induction scan level acc ts with
  | case1 acc => cases acc <;> simp [pending, foldRun, resume, collapse_single, Expr.eval]
  | case2 u rest v => exact (collapse_adjacent level v u rest).symm
  | case3 u rest op l r => rfl
  | case4 acc op v rest h acc' hc ih =>
    rw [pending_of_level hacc h, foldRun, if_neg (by simp)]
    by_cases hz : op = .divide ∧ v.isZero = true
    · simp [combine_zero hz] at hc
    · rw [combine_of_not_zero hz] at hc ⊢
      cases hc
      exact ih (atLevel_binary h _ _)
  | case5 acc op v rest h f hc =>
    rw [pending_of_level hacc h, foldRun, if_neg (by simp), hc]
    rfl
  | case6 acc op v rest h ih =>
    rw [pending_of_ne hacc h, ih (atLevel_number level v)]
    rfl
  | case7 acc op rest hr h =>
    rw [pending_of_level hacc h, foldRun, if_neg (by simp)]
    · rfl
    · exact hr
  | case8 acc op rest hr h =>
    rw [pending_of_ne hacc h, collapse_of_not_number hr]
    rfl

/-- A stage is one scan from the first number on. -/
theorem collapse_eq_scan (level : Int) (v : Binary64) (ts : List Token) :
    collapse level (.number v :: ts) = scan level (.number v) ts :=
  (scan_eq_pending (atLevel_number level v) ts).symm

end Abacus.Chain
