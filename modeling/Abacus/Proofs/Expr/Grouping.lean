import Abacus.Proofs.Chain.Alternation
import Mathlib.Logic.ExistsUnique

/-!
# The grouping of a chain

The tree that a chain stands for, as a grammar: multiplications and divisions
bind tighter than additions and subtractions, and operators of one level group
to the left.

* `existsUnique_grouped`: every chain has exactly one such tree.
* `Grouped.tokens_eq`: the tokens of the tree, in order, are the chain.
-/

namespace Abacus

/-- The numbers and operators of an expression from left to right. -/
def Expr.tokens : Expr → List Token
  | .number v => [.number v]
  | .binary op l r => l.tokens ++ .operator op :: r.tokens

namespace Chain

/-- The tree `e` groups the tokens `ts` to the left, and all operators in them are of one
    level. -/
inductive Run (level : Int) : List Token → Expr → Prop
  | number (v : Binary64) : Run level [.number v] (.number v)
  | step (op : Operator) (v : Binary64) {ts : List Token} {e : Expr} :
      (op.level : Int) = level → Run level ts e →
      Run level (ts ++ [.operator op, .number v]) (.binary op e (.number v))

/-- The tree `e` groups the tokens `ts` to the left into additions and subtractions of
    runs of multiplications and divisions. -/
inductive Grouped : List Token → Expr → Prop
  | product {ts : List Token} {e : Expr} : Run 1 ts e → Grouped ts e
  | sum (op : Operator) {ts us : List Token} {l r : Expr} :
      op.level = 0 → Grouped ts l → Run 1 us r →
      Grouped (ts ++ .operator op :: us) (.binary op l r)

/-! ## Runs -/

theorem Run.isChain {level : Int} {ts : List Token} {e : Expr} (h : Run level ts e) :
    IsChain ts := by
  induction h with
  | number v => exact .single v
  | step op v _ _ ih => exact ih.concat op v

theorem Run.tokens_eq {level : Int} {ts : List Token} {e : Expr} (h : Run level ts e) :
    e.tokens = ts := by
  induction h with
  | number v => rfl
  | step op v _ _ ih => simp [Expr.tokens, ih]

theorem Run.level_eq {level : Int} {ts : List Token} {e : Expr} (h : Run level ts e)
    {op : Operator} (hop : Token.operator op ∈ ts) : (op.level : Int) = level := by
  induction h with
  | number v => simp at hop
  | step o v ho _ ih =>
    simp only [List.mem_append, List.mem_cons, Token.operator.injEq, reduceCtorEq,
      List.not_mem_nil, or_false] at hop
    rcases hop with hop | rfl
    · exact ih hop
    · exact ho

theorem Run.unique {level : Int} {ts : List Token} {e e' : Expr} (h : Run level ts e)
    (h' : Run level ts e') : e = e' := by
  induction h generalizing e' with
  | number v =>
    generalize hts : [Token.number v] = us at h'
    cases h' with
    | number u => cases hts; rfl
    | @step op u vs e _ hr =>
      have := hr.isChain.length_odd
      have := congrArg List.length hts
      simp at this
  | @step op v us e _ hr ih =>
    generalize hts : us ++ [Token.operator op, Token.number v] = ws at h'
    cases h' with
    | number u =>
      have := congrArg List.length hts
      simp at this
    | @step op' v' us' e' _ hr' =>
      obtain ⟨rfl, hlast⟩ := List.append_inj' hts rfl
      cases hlast
      rw [ih hr']

/-! ## Groupings -/

theorem Grouped.isChain {ts : List Token} {e : Expr} (h : Grouped ts e) : IsChain ts := by
  induction h with
  | product hr => exact hr.isChain
  | sum op _ _ hr ih => exact ih.append op hr.isChain

theorem Grouped.tokens_eq {ts : List Token} {e : Expr} (h : Grouped ts e) : e.tokens = ts := by
  induction h with
  | product hr => exact hr.tokens_eq
  | sum op _ _ hr ih => rw [Expr.tokens, ih, hr.tokens_eq]

/-- The last addition or subtraction of a chain, and what stands on its two sides, is
    determined by the chain. -/
theorem split_at_sum {ts ts' us us' : List Token} {op op' : Operator} {e e' : Expr}
    (hop : op.level = 0) (hop' : op'.level = 0) (hu : Run 1 us e) (hu' : Run 1 us' e')
    (h : ts ++ .operator op :: us = ts' ++ .operator op' :: us') :
    ts = ts' ∧ op = op' ∧ us = us' := by
  rcases List.append_eq_append_iff.mp h with ⟨a, rfl, ha⟩ | ⟨a, rfl, ha⟩
  · cases a with
    | nil => simpa using ha
    | cons t a =>
      have hmem : Token.operator op' ∈ us := by simp [(List.cons.inj ha).2]
      have := hu.level_eq hmem
      omega
  · cases a with
    | nil => simpa [eq_comm] using ha
    | cons t a =>
      have hmem : Token.operator op ∈ us' := by simp [(List.cons.inj ha).2]
      have := hu'.level_eq hmem
      omega

theorem Grouped.unique {ts : List Token} {e e' : Expr} (h : Grouped ts e)
    (h' : Grouped ts e') : e = e' := by
  induction h generalizing e' with
  | product hr =>
    cases h' with
    | product hr' => exact hr.unique hr'
    | sum op hop _ _ =>
      have := hr.level_eq (show Token.operator op ∈ _ by simp)
      omega
  | @sum op vs us l r hop _ hr ih =>
    generalize hts : vs ++ Token.operator op :: us = ws at h'
    cases h' with
    | product hr' =>
      have := hr'.level_eq (show Token.operator op ∈ ws by simp [← hts])
      omega
    | @sum op' vs' us' l' r' hop' hl' hr' =>
      obtain ⟨rfl, rfl, rfl⟩ := split_at_sum hop hop' hr hr' hts
      rw [ih hl', hr.unique hr']

/-- One more operator and number extend the last run or start a new one. -/
theorem Grouped.exists_concat {ts : List Token} {e : Expr} (h : Grouped ts e) (op : Operator)
    (v : Binary64) : ∃ e', Grouped (ts ++ [.operator op, .number v]) e' := by
  rcases (show op.level = 0 ∨ op.level = 1 by cases op <;> decide) with hop | hop
  · exact ⟨_, .sum op hop h (.number v)⟩
  · cases h with
    | product hr => exact ⟨_, .product (.step op v (by omega) hr)⟩
    | sum o ho hl hr =>
      rw [List.append_assoc, List.cons_append]
      exact ⟨_, .sum o ho hl (.step op v (by omega) hr)⟩

theorem exists_grouped_append {us ts : List Token} {e : Expr} (hu : Grouped us e)
    (op : Operator) (ht : IsChain ts) : ∃ e', Grouped (us ++ .operator op :: ts) e' := by
  induction ht generalizing us e op with
  | single v => exact hu.exists_concat op v
  | cons v o _ ih =>
    obtain ⟨e', he'⟩ := hu.exists_concat op v
    simpa using ih he' o

theorem exists_grouped {ts : List Token} (h : IsChain ts) : ∃ e, Grouped ts e := by
  cases h with
  | single v => exact ⟨_, .product (.number v)⟩
  | cons v op ht => exact exists_grouped_append (.product (.number v)) op ht

/-- Every chain has exactly one grouping. -/
theorem existsUnique_grouped {ts : List Token} (h : IsChain ts) : ∃! e, Grouped ts e := by
  obtain ⟨e, he⟩ := exists_grouped h
  exact ⟨e, he, fun e' he' => he'.unique he⟩

end Chain

end Abacus
