import Abacus.Proofs.Chain.Parse
import Abacus.Proofs.Chain.Reduction

/-!
# What a stage leaves of a chain

A stage cuts a chain at the operators of other levels. These stay, and each piece between them
is replaced by one number, the left fold of the operations over it.

* `Collapsed.pieces`: the numbers that are left are the folds of the pieces.
* `Collapsed.operators_eq`: the operators that are left are those of other levels.
* `Collapsed.length_add`: each operator of the level takes two tokens with it.
* `collapse_replaces_runs`: all of it, and the stage done again.
-/

namespace Abacus

namespace Token

/-- The number that a token is. -/
def number? : Token → Option Binary64
  | .number v => some v
  | .operator _ => none

/-- The operator that a token is. -/
def operator? : Token → Option Operator
  | .number _ => none
  | .operator op => some op

end Token

namespace Chain

/-- The numbers among the tokens. -/
def numbers (ts : List Token) : List Binary64 := ts.filterMap Token.number?

/-- The operators among the tokens. -/
def operators (ts : List Token) : List Operator := ts.filterMap Token.operator?

/-- An operator of another level, at which a stage cuts. -/
def separates (level : Int) : Token → Bool
  | .number _ => false
  | .operator op => (op.level : Int) ≠ level

@[simp] theorem operators_nil : operators [] = [] := rfl

@[simp] theorem operators_number (v : Binary64) (ts : List Token) :
    operators (.number v :: ts) = operators ts := rfl

@[simp] theorem operators_operator (op : Operator) (ts : List Token) :
    operators (.operator op :: ts) = op :: operators ts := rfl

@[simp] theorem operators_append (ts us : List Token) :
    operators (ts ++ us) = operators ts ++ operators us := List.filterMap_append

theorem mem_operators {op : Operator} {ts : List Token} :
    op ∈ operators ts ↔ .operator op ∈ ts := by
  induction ts with
  | nil => simp
  | cons t ts ih => cases t <;> simp [ih]

/-! ## One run -/

/-- A run is the tokens of a series, and its tree has the value of the left fold. -/
theorem Run.exists_series {level : Int} {ts : List Token} {e : Expr} (h : Run level ts e) :
    ∃ s : Series, s.tokens = ts ∧ s.fold = e.eval := by
  induction h with
  | number v => exact ⟨⟨v, []⟩, rfl, rfl⟩
  | step op v _ _ ih =>
    obtain ⟨s, rfl, hfold⟩ := ih
    refine ⟨s.concat op v, s.tokens_concat op v, ?_⟩
    rw [Expr.eval, ← hfold, Series.fold, Series.concat, List.foldl_append]
    rfl

theorem Run.not_separates {level : Int} {ts : List Token} {e : Expr} (h : Run level ts e) :
    ∀ t ∈ ts, separates level t = false := by
  intro t ht
  cases t with
  | number v => simp [separates]
  | operator op => simpa [separates] using h.level_eq ht

theorem Run.filter_operators {level : Int} {ts : List Token} {e : Expr} (h : Run level ts e) :
    (operators ts).filter (fun op => (op.level : Int) ≠ level) = [] := by
  refine List.filter_eq_nil_iff.mpr fun op hop => ?_
  simpa using h.level_eq (mem_operators.mp hop)

/-- A run has two tokens for each of its operators and one for its first number. -/
theorem Run.length_eq {level : Int} {ts : List Token} {e : Expr} (h : Run level ts e) :
    ts.length = 2 * (operators ts).countP (fun op => (op.level : Int) = level) + 1 := by
  induction h with
  | number v => rfl
  | step op v hop _ ih =>
    simp only [List.length_append, ih, operators_append, operators_operator, operators_number,
      operators_nil, List.countP_append, List.countP_singleton, hop, decide_true, if_true,
      List.length_cons, List.length_nil]
    omega

/-- A run without an operator of its level is a number. -/
theorem Run.eq_single {level : Int} {ts : List Token} {e : Expr} (h : Run level ts e)
    (hts : ∀ op, .operator op ∈ ts → (op.level : Int) ≠ level) : ts = [.number e.eval] := by
  cases h with
  | number v => rfl
  | step op v hop _ => exact absurd hop (hts op (by simp))

/-! ## All runs -/

namespace Collapsed

variable {level : Int} {ts out : List Token}

theorem isChain (h : Collapsed level ts out) : IsChain out := by
  induction h with
  | last _ => exact .single _
  | cons op _ _ _ ih => exact .cons _ op ih

/-- The operators of other levels stay as they are. -/
theorem operators_eq (h : Collapsed level ts out) :
    operators out = (operators ts).filter fun op => (op.level : Int) ≠ level := by
  induction h with
  | last hr => exact hr.filter_operators.symm
  | cons op hop hr _ ih =>
    rw [operators_append, List.filter_append, hr.filter_operators, operators_number,
      operators_operator, operators_operator, List.filter_cons_of_pos (by simpa using hop), ih]
    rfl

/-- Between two operators of other levels stands one number, the left fold of the tokens that
    stood there. -/
theorem pieces (h : Collapsed level ts out) :
    ∃ runs : List Series, ts.splitOnP (separates level) = runs.map Series.tokens ∧
      numbers out = runs.map Series.fold := by
  induction h with
  | @last ts e hr =>
    obtain ⟨s, hs, hfold⟩ := hr.exists_series
    refine ⟨[s], ?_, ?_⟩
    · rw [List.splitOnP_eq_singleton hr.not_separates, ← hs]
      rfl
    · rw [List.map_singleton, hfold]
      rfl
  | @cons op us ts out e hop hr _ ih =>
    obtain ⟨s, hs, hfold⟩ := hr.exists_series
    obtain ⟨runs, hruns, hnumbers⟩ := ih
    refine ⟨s :: runs, ?_, ?_⟩
    · rw [List.splitOnP_append_cons_of_forall_mem hr.not_separates _
        (by simpa [separates] using hop), hruns, ← hs]
      rfl
    · rw [List.map_cons, ← hnumbers, hfold]
      rfl

theorem length_add (h : Collapsed level ts out) :
    out.length + 2 * (operators ts).countP (fun op => (op.level : Int) = level) = ts.length := by
  induction h with
  | last hr =>
    rw [hr.length_eq, List.length_singleton]
    omega
  | cons op hop hr _ ih =>
    simp only [List.length_append, List.length_cons, hr.length_eq, ← ih, operators_append,
      operators_operator, List.countP_append, List.countP_cons, hop, decide_false,
      Bool.false_eq_true, if_false]
    omega

/-- Nothing changes where there is no operator of the level. -/
theorem eq_of_forall_ne (h : Collapsed level ts out)
    (hts : ∀ op, .operator op ∈ ts → (op.level : Int) ≠ level) : out = ts := by
  induction h with
  | last hr => exact (hr.eq_single hts).symm
  | cons op _ hr _ ih =>
    have hus := hr.eq_single fun o ho => hts o (List.mem_append_left _ ho)
    rw [ih fun o ho => hts o (List.mem_append_right _ (List.mem_cons_of_mem _ ho)), hus]
    rfl

end Collapsed

/-- What a stage leaves: a chain with the operators of other levels, in order, and for each
    piece between them its left fold. So the chain gets shorter by two tokens for each operator
    of the level and stays as it is if there is none, the stage done again changes nothing, and
    what the first stage leaves has the value of the whole. -/
theorem collapse_replaces_runs {level : Int} {ts out : List Token}
    (h : collapse level ts = .ok out) :
    IsChain out ∧
    (∀ op, .operator op ∈ out → (op.level : Int) ≠ level) ∧
    operators out = (operators ts).filter (fun op => (op.level : Int) ≠ level) ∧
    (∃ runs : List Series, ts.splitOnP (separates level) = runs.map Series.tokens ∧
      numbers out = runs.map Series.fold) ∧
    out.length + 2 * (operators ts).countP (fun op => (op.level : Int) = level) = ts.length ∧
    ((∀ op, .operator op ∈ ts → (op.level : Int) ≠ level) → out = ts) ∧
    collapse level out = .ok out ∧
    (level = 1 → parse out = parse ts) := by
  have hc := collapsed_of_collapse h
  refine ⟨hc.isChain, fun op hop => ?_, hc.operators_eq, hc.pieces, hc.length_add,
    hc.eq_of_forall_ne, hc.collapse_eq, ?_⟩
  · rw [← mem_operators, hc.operators_eq] at hop
    simpa using (List.mem_filter.mp hop).2
  · rintro rfl
    exact parse_of_collapse h

/-- In `7 + 3 * 2 - 4 / 2` the first stage leaves `7 + 6 - 2`. -/
theorem collapse_replaces_product_and_quotient :
    let seven := Binary64.ofBits 0x401C000000000000
    let two := Binary64.ofBits 0x4000000000000000
    let three := Binary64.ofBits 0x4008000000000000
    let four := Binary64.ofBits 0x4010000000000000
    let six := Binary64.ofBits 0x4018000000000000
    let ts := [.number seven, .operator .add, .number three, .operator .multiply, .number two,
      .operator .subtract, .number four, .operator .divide, .number two]
    let out := [.number seven, .operator .add, .number six, .operator .subtract, .number two]
    collapse 1 ts = .ok out ∧ collapse 1 out = .ok out ∧ parse out = parse ts ∧
      operators out = [.add, .subtract] ∧ out.length + 2 * 2 = ts.length := by
  intro seven two three four six ts out
  have h : collapse 1 ts = .ok out := by
    rw [collapse_eq_scan]
    decide +kernel
  obtain ⟨-, -, hop, -, hlen, -, hagain, hparse⟩ := collapse_replaces_runs h
  exact ⟨h, hagain, hparse rfl, hop, hlen⟩

end Chain

end Abacus
