import Abacus.Proofs.Chain.Verdict

/-!
# The leading run

`reduce` builds the tree of the leading run, which groups to the left, and evaluates it. The
value is the left fold of the operations over the run, a literal zero divisor is reported with
the tokens up to it, and what stands behind the run is handed back as it is.

* `Series.eval_tree`: the tree of a series has the value of its left fold.
* `foldRun_append`: a run is folded up to the place where it stops.
* `reduce_eq_iff`: the six ways in which `reduce` ends.
* `reduce_ending`: the same, by result.
-/

namespace Abacus.Chain

/-! ## Series -/

/-- A number, and operators with the numbers behind them. -/
structure Series where
  head : Binary64
  steps : List (Operator × Binary64)

/-- The tokens of operators with the numbers behind them. -/
def stepTokens (steps : List (Operator × Binary64)) : List Token :=
  steps.flatMap fun p => [.operator p.1, .number p.2]

theorem stepTokens_cons (op : Operator) (v : Binary64) (steps : List (Operator × Binary64)) :
    stepTokens ((op, v) :: steps) = .operator op :: .number v :: stepTokens steps := rfl

/-- The tree that applies operators to a tree and the numbers behind them, one after the other. -/
def graft (e : Expr) (steps : List (Operator × Binary64)) : Expr :=
  steps.foldl (fun e p => .binary p.1 e (.number p.2)) e

theorem eval_graft (e : Expr) (steps : List (Operator × Binary64)) :
    (graft e steps).eval = steps.foldl (fun acc p => p.1.apply acc p.2) e.eval := by
  unfold graft
  induction steps generalizing e with
  | nil => rfl
  | cons p steps ih =>
    rw [List.foldl_cons, List.foldl_cons, ih]
    rfl

theorem Run.graft {level : Int} {us : List Token} {e : Expr} (h : Run level us e)
    {steps : List (Operator × Binary64)} (hsteps : ∀ p ∈ steps, (p.1.level : Int) = level) :
    Run level (us ++ stepTokens steps) (Chain.graft e steps) := by
  induction steps generalizing us e with
  | nil => rwa [stepTokens, List.flatMap_nil, List.append_nil]
  | cons p steps ih =>
    obtain ⟨op, v⟩ := p
    have hop := hsteps (op, v) List.mem_cons_self
    have hrun := ih (h.step op v hop) fun p hp => hsteps p (List.mem_cons_of_mem _ hp)
    rwa [List.append_assoc] at hrun

namespace Series

/-- The tokens of a series. -/
def tokens (s : Series) : List Token := .number s.head :: stepTokens s.steps

/-- The left fold of the operations over the numbers of a series. -/
def fold (s : Series) : Binary64 := s.steps.foldl (fun acc p => p.1.apply acc p.2) s.head

/-- The tree that groups a series to the left. -/
def tree (s : Series) : Expr := graft (.number s.head) s.steps

/-- A series with one more operator and number. -/
def concat (s : Series) (op : Operator) (v : Binary64) : Series := ⟨s.head, s.steps ++ [(op, v)]⟩

theorem tokens_concat (s : Series) (op : Operator) (v : Binary64) :
    (s.concat op v).tokens = s.tokens ++ [.operator op, .number v] := by
  simp [concat, tokens, stepTokens]

/-- The tree of a series has the value of its left fold. -/
theorem eval_tree (s : Series) : s.tree.eval = s.fold := eval_graft _ _

theorem run_tree {level : Int} {s : Series} (h : ∀ p ∈ s.steps, (p.1.level : Int) = level) :
    Run level s.tokens s.tree :=
  (Run.number s.head).graft h

/-- The operators of the series are all of one level, and none of them divides by a literal
    zero. -/
structure Foldable (level : Nat) (s : Series) : Prop where
  level_eq : ∀ p ∈ s.steps, p.1.level = level
  divisor_ne_zero : ∀ p ∈ s.steps, ¬ (p.1 = .divide ∧ p.2.isZero = true)

theorem foldable_single (level : Nat) (v : Binary64) : Foldable level ⟨v, []⟩ :=
  ⟨List.forall_mem_nil _, List.forall_mem_nil _⟩

theorem Foldable.concat {s : Series} {op : Operator} (h : s.Foldable op.level) {v : Binary64}
    (hv : ¬ (op = .divide ∧ v.isZero = true)) : (s.concat op v).Foldable op.level := by
  constructor
  · intro p hp
    rcases List.mem_append.mp hp with hp | hp
    · exact h.level_eq p hp
    · rw [List.mem_singleton.mp hp]
  · intro p hp
    rcases List.mem_append.mp hp with hp | hp
    · exact h.divisor_ne_zero p hp
    · rwa [List.mem_singleton.mp hp]

end Series

/-! ## Folding -/

/-- A fold goes through operators of its level, as long as none divides by a literal zero. -/
theorem foldRun_append {level : Nat} {steps : List (Operator × Binary64)}
    (hlevel : ∀ p ∈ steps, p.1.level = level)
    (hzero : ∀ p ∈ steps, ¬ (p.1 = .divide ∧ p.2.isZero = true)) (acc : Expr)
    (rest : List Token) :
    foldRun level acc (stepTokens steps ++ rest) = foldRun level (graft acc steps) rest := by
  induction steps generalizing acc with
  | nil => rfl
  | cons p steps ih =>
    obtain ⟨op, v⟩ := p
    have hop := hlevel (op, v) List.mem_cons_self
    have hv := hzero (op, v) List.mem_cons_self
    rw [stepTokens_cons, List.cons_append, List.cons_append, foldRun, if_neg (by simpa using hop)]
    simp only [combine_of_not_zero hv]
    exact ih (fun p hp => hlevel p (List.mem_cons_of_mem _ hp))
      (fun p hp => hzero p (List.mem_cons_of_mem _ hp)) _

theorem foldRun_of_stray (op : Operator) (acc : Expr) {rest : List Token}
    (hrest : ∀ v tail, rest ≠ .number v :: tail) :
    foldRun op.level acc (.operator op :: rest) =
      .error (malformed "reduce" (.operator op :: rest)) := by
  rw [foldRun, if_neg (by simp)]
  exact hrest

theorem foldRun_of_zero {v : Binary64} (hv : v.isZero = true) (acc : Expr) (rest : List Token) :
    foldRun 1 acc (.operator .divide :: .number v :: rest) =
      .error (.zeroDivisor (Expr.render (.binary .divide acc (.number v)))) := by
  rw [foldRun, if_neg (by decide)]
  simp only [combine_zero ⟨rfl, hv⟩]

/-! ## The ways to end -/

/-- The ways in which `reduce` can end on tokens. -/
inductive Reduces : List Token → Except Failure (Binary64 × List Token) → Prop
  | single (v : Binary64) : Reduces [.number v] (.ok (v, []))
  | run {level : Nat} {s : Series} {rest : List Token} : s.steps ≠ [] → s.Foldable level →
      (∀ t ∈ rest.head?, ∃ op, t = .operator op ∧ op.level ≠ level) →
      Reduces (s.tokens ++ rest) (.ok (s.fold, rest))
  | headless {ts : List Token} : (∀ v, ts ≠ [.number v]) →
      (∀ v op rest, ts ≠ .number v :: .operator op :: rest) →
      Reduces ts (.error (malformed "reduce" ts))
  | zeroDivisor {s : Series} {v : Binary64} (rest : List Token) : s.Foldable 1 →
      v.isZero = true →
      Reduces (s.tokens ++ .operator .divide :: .number v :: rest)
        (.error (.zeroDivisor (Token.render (s.tokens ++ [.operator .divide, .number v]))))
  | stray {s : Series} {op : Operator} {rest : List Token} : s.Foldable op.level →
      (∀ v tail, rest ≠ .number v :: tail) →
      Reduces (s.tokens ++ .operator op :: rest)
        (.error (malformed "reduce" (.operator op :: rest)))
  | adjacent {level : Nat} {s : Series} (u : Binary64) (rest : List Token) : s.steps ≠ [] →
      s.Foldable level →
      Reduces (s.tokens ++ .number u :: rest) (.error (malformed "reduce" (.number u :: rest)))

namespace Series.Foldable

/-- Behind a series that an operator of the level begins, `reduce` goes on with its tree. -/
theorem reduce_of_lead {level : Nat} {s : Series} (h : s.Foldable level) {op : Operator}
    (hop : op.level = level) {rest tail : List Token}
    (hlead : stepTokens s.steps ++ rest = .operator op :: tail) :
    reduce (s.tokens ++ rest) = (foldRun level s.tree rest).map fun r => (r.1.eval, r.2) := by
  rw [tokens, List.cons_append, hlead, reduce_cons_cons, ← hlead, hop,
    foldRun_append h.level_eq h.divisor_ne_zero]
  rfl

theorem reduce_of_steps {level : Nat} {s : Series} (h : s.Foldable level) (hs : s.steps ≠ [])
    (rest : List Token) :
    reduce (s.tokens ++ rest) = (foldRun level s.tree rest).map fun r => (r.1.eval, r.2) := by
  obtain ⟨⟨op, v⟩, steps, hsteps⟩ := List.exists_cons_of_ne_nil hs
  have hop := h.level_eq (op, v) (by rw [hsteps]; exact List.mem_cons_self)
  have hlead : stepTokens s.steps ++ rest =
      .operator op :: .number v :: (stepTokens steps ++ rest) := by
    rw [hsteps, stepTokens_cons]
    rfl
  exact h.reduce_of_lead hop hlead

theorem reduce_of_operator {s : Series} {op : Operator} (h : s.Foldable op.level)
    (rest : List Token) :
    reduce (s.tokens ++ .operator op :: rest) =
      (foldRun op.level s.tree (.operator op :: rest)).map fun r => (r.1.eval, r.2) := by
  by_cases hs : s.steps = []
  · have hlead : stepTokens s.steps ++ .operator op :: rest = .operator op :: rest := by
      rw [hs]
      rfl
    exact h.reduce_of_lead rfl hlead
  · exact h.reduce_of_steps hs _

end Series.Foldable

theorem Reduces.reduce_eq {ts : List Token} {r : Except Failure (Binary64 × List Token)}
    (h : Reduces ts r) : reduce ts = r := by
  cases h with
  | single v => rfl
  | @run level s rest hne hs hrest =>
    rw [hs.reduce_of_steps hne]
    have hfold : foldRun level s.tree rest = .ok (s.tree, rest) := by
      match rest with
      | [] => rfl
      | t :: rest =>
        obtain ⟨op, rfl, hop⟩ := hrest t rfl
        exact foldRun_of_ne hop _ _
    rw [hfold, ← s.eval_tree]
    rfl
  | headless hsingle hpair =>
    unfold reduce
    split
    · exact absurd rfl (hsingle _)
    · exact absurd rfl (hpair _ _ _)
    · rfl
  | @zeroDivisor s v rest hs hv =>
    -- the tree that is refused groups the tokens up to the zero, and is written as they are
    have hrun := (Series.run_tree fun p hp => by rw [hs.level_eq p hp]; rfl).step .divide v rfl
    have hop : s.Foldable Operator.divide.level := hs
    rw [hop.reduce_of_operator, show Operator.divide.level = 1 from rfl, foldRun_of_zero hv,
      Expr.render, hrun.renderChars_eq]
    rfl
  | @stray s op rest hs hrest =>
    rw [hs.reduce_of_operator, foldRun_of_stray op _ hrest]
    rfl
  | @adjacent level s u rest hne hs =>
    rw [hs.reduce_of_steps hne]
    rfl

/-- Every token list that begins with a series ends in one of the ways, as soon as the level of
    the series is settled. -/
theorem exists_reduces_append {level : Nat} {s : Series} (hs : s.Foldable level)
    (ts : List Token)
    (hlead : s.steps ≠ [] ∨ ∃ op tail, ts = .operator op :: tail ∧ op.level = level) :
    ∃ r, Reduces (s.tokens ++ ts) r := by
  match ts with
  | [] =>
    have hne := hlead.resolve_right (by simp)
    exact ⟨_, .run hne hs (by simp)⟩
  | .number u :: rest =>
    have hne := hlead.resolve_right (by simp)
    exact ⟨_, .adjacent u rest hne hs⟩
  | .operator op :: rest =>
    by_cases hop : op.level = level
    · subst hop
      match rest with
      | [] => exact ⟨_, .stray hs (by simp)⟩
      | .operator op' :: tail => exact ⟨_, .stray hs (by simp)⟩
      | .number v :: tail =>
        by_cases hv : op = .divide ∧ v.isZero = true
        · obtain ⟨rfl, hv⟩ := hv
          exact ⟨_, .zeroDivisor tail hs hv⟩
        · have h := exists_reduces_append (hs.concat hv) tail (.inl (by simp [Series.concat]))
          rwa [Series.tokens_concat, List.append_assoc] at h
    · have hne := hlead.resolve_right (by simpa using hop)
      exact ⟨_, .run hne hs (by simpa using hop)⟩

theorem exists_reduces (ts : List Token) : ∃ r, Reduces ts r := by
  match ts with
  | [] => exact ⟨_, .headless (by simp) (by simp)⟩
  | .operator op :: rest => exact ⟨_, .headless (by simp) (by simp)⟩
  | [.number v] => exact ⟨_, .single v⟩
  | .number v :: .number u :: rest => exact ⟨_, .headless (by simp) (by simp)⟩
  | .number v :: .operator op :: rest =>
    exact exists_reduces_append (Series.foldable_single op.level v) _ (.inr ⟨op, rest, rfl, rfl⟩)

/-- `reduce` ends in exactly one way on all tokens. -/
theorem reduce_eq_iff (ts : List Token) (r : Except Failure (Binary64 × List Token)) :
    reduce ts = r ↔ Reduces ts r := by
  refine ⟨?_, Reduces.reduce_eq⟩
  rintro rfl
  obtain ⟨r, hr⟩ := exists_reduces ts
  rwa [hr.reduce_eq]

/-- What `reduce` gives. It has a value just on a single number and on a run of one level that
    divides by no literal zero and that the end or an operator of another level follows. The
    value is the left fold of the run, and the rest is what stands behind it. A failure quotes
    all tokens if they do not start with a number and an operator. Behind a run that could be
    folded it quotes the run with the zero divisor after it, the tokens from an operator of the
    level on that no number follows, or the tokens from a number on that stands where an
    operator should. -/
theorem reduce_ending (ts : List Token) :
    (∀ v rest, reduce ts = .ok (v, rest) ↔
      (ts = [.number v] ∧ rest = []) ∨
      ∃ (s : Series) (level : Nat), s.steps ≠ [] ∧ s.Foldable level ∧ ts = s.tokens ++ rest ∧
        v = s.fold ∧ ∀ t ∈ rest.head?, ∃ op, t = .operator op ∧ op.level ≠ level) ∧
    (∀ f, reduce ts = .error f ↔
      ((∀ v, ts ≠ [.number v]) ∧ (∀ v op rest, ts ≠ .number v :: .operator op :: rest) ∧
        f = .malformed "reduce" (Token.render ts)) ∨
      (∃ (s : Series) (z : Binary64) (rest : List Token), s.Foldable 1 ∧ z.isZero = true ∧
        ts = s.tokens ++ .operator .divide :: .number z :: rest ∧
        f = .zeroDivisor (Token.render (s.tokens ++ [.operator .divide, .number z]))) ∨
      (∃ (s : Series) (op : Operator) (rest : List Token), s.Foldable op.level ∧
        (∀ v tail, rest ≠ .number v :: tail) ∧ ts = s.tokens ++ .operator op :: rest ∧
        f = .malformed "reduce" (Token.render (.operator op :: rest))) ∨
      (∃ (s : Series) (level : Nat) (u : Binary64) (rest : List Token), s.steps ≠ [] ∧
        s.Foldable level ∧ ts = s.tokens ++ .number u :: rest ∧
        f = .malformed "reduce" (Token.render (.number u :: rest)))) := by
  refine ⟨fun v rest => ?_, fun f => ?_⟩
  all_goals rw [reduce_eq_iff]
  · constructor
    · intro h
      cases h with
      | single => exact .inl ⟨rfl, rfl⟩
      | run hne hs hrest => exact .inr ⟨_, _, hne, hs, rfl, rfl, hrest⟩
    · rintro (⟨rfl, rfl⟩ | ⟨s, level, hne, hs, rfl, rfl, hrest⟩)
      · exact .single v
      · exact .run hne hs hrest
  · constructor
    · intro h
      cases h with
      | headless hsingle hpair => exact .inl ⟨hsingle, hpair, rfl⟩
      | zeroDivisor rest hs hv => exact .inr (.inl ⟨_, _, rest, hs, hv, rfl, rfl⟩)
      | stray hs hrest => exact .inr (.inr (.inl ⟨_, _, _, hs, hrest, rfl, rfl⟩))
      | adjacent u rest hne hs => exact .inr (.inr (.inr ⟨_, _, u, rest, hne, hs, rfl, rfl⟩))
    · rintro (⟨hsingle, hpair, rfl⟩ | ⟨s, z, rest, hs, hz, rfl, rfl⟩ |
        ⟨s, op, rest, hs, hrest, rfl, rfl⟩ | ⟨s, level, u, rest, hne, hs, rfl, rfl⟩)
      · exact .headless hsingle hpair
      · exact .zeroDivisor rest hs hz
      · exact .stray hs hrest
      · exact .adjacent u rest hne hs

end Abacus.Chain
