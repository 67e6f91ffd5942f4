import Abacus.Chain
import Mathlib.Order.Bounds.Basic
import Mathlib.Tactic.ByContra
import Mathlib.Tactic.Tauto

/-!
# Alternation of numbers and operators

A chain is a number followed by any number of operator and number pairs. Here is
where a token list stops being one, by places: numbers belong to the even
places and operators to the odd ones.

* `IsChain.not_breaks`, `isChain_of_forall_not_breaks`: a token list is a chain exactly
  when no place of it breaks the alternation.
* `breaks_append_iff`, `dividesByZeroAt_append_iff`: behind a chain and an
  operator, a token list has the places of the rest, moved on.
-/

namespace Abacus.Chain

/-! ## Places -/

/-- `Number (Operator Number)*`. -/
inductive IsChain : List Token → Prop
  | single (v : Binary64) : IsChain [.number v]
  | cons (v : Binary64) (op : Operator) {ts : List Token} :
      IsChain ts → IsChain (.number v :: .operator op :: ts)

/-- A number stands at place `i`. -/
def NumberAt (ts : List Token) (i : Nat) : Prop := ∃ v, ts[i]? = some (.number v)

/-- Alternation breaks at place `k`: an even place without a number, which may be
    the end of the tokens, or an odd place with one. -/
def Breaks (ts : List Token) (k : Nat) : Prop :=
  k ≤ ts.length ∧ (NumberAt ts k ↔ k % 2 = 1)

/-- A division stands at place `z` and a literal zero of either sign after it. -/
def DividesByZeroAt (ts : List Token) (z : Nat) : Prop :=
  ts[z]? = some (.operator .divide) ∧ ∃ v, ts[z + 1]? = some (.number v) ∧ v.isZero = true

/-- A division by a literal zero that lies before every break. -/
def ZeroDivisorAt (ts : List Token) (z : Nat) : Prop :=
  DividesByZeroAt ts z ∧ ∀ k, Breaks ts k → z + 1 < k

/-- The level of the operator at place `i`, if there is one. -/
def levelAt? (ts : List Token) (i : Nat) : Option Int :=
  match ts[i]? with
  | some (.operator op) => some op.level
  | _ => none

/-- The place after the last addition or subtraction among the first `n` tokens. -/
def runStart (ts : List Token) : Nat → Nat
  | 0 => 0
  | n + 1 => if levelAt? ts n = some 0 then n + 1 else runStart ts n

/-! ## Chains and breaks -/

theorem breaks_cons_cons (v : Binary64) (op : Operator) (ts : List Token) (k : Nat) :
    Breaks (.number v :: .operator op :: ts) (k + 2) ↔ Breaks ts k := by
  simp [Breaks, NumberAt]

theorem not_breaks_zero (v : Binary64) (ts : List Token) : ¬ Breaks (.number v :: ts) 0 := by
  simp [Breaks, NumberAt]

theorem not_breaks_one (v : Binary64) (op : Operator) (ts : List Token) :
    ¬ Breaks (.number v :: .operator op :: ts) 1 := by
  simp [Breaks, NumberAt]

theorem breaks_cons_cons_iff (v : Binary64) (op : Operator) (ts : List Token) (k : Nat) :
    Breaks (.number v :: .operator op :: ts) k ↔ ∃ j, k = j + 2 ∧ Breaks ts j := by
  constructor
  · intro h
    match k with
    | 0 => exact absurd h (not_breaks_zero v _)
    | 1 => exact absurd h (not_breaks_one v op ts)
    | j + 2 => exact ⟨j, rfl, (breaks_cons_cons v op ts j).mp h⟩
  · rintro ⟨j, rfl, h⟩
    exact (breaks_cons_cons v op ts j).mpr h

theorem IsChain.length_odd {ts : List Token} (h : IsChain ts) : ts.length % 2 = 1 := by
  induction h with
  | single v => rfl
  | cons v op _ ih => simp only [List.length_cons]; omega

theorem IsChain.not_breaks {ts : List Token} (h : IsChain ts) (k : Nat) : ¬ Breaks ts k := by
  induction h generalizing k with
  | single v =>
    rintro ⟨hk, hn⟩
    simp only [List.length_singleton] at hk
    rcases Nat.le_one_iff_eq_zero_or_eq_one.mp hk with rfl | rfl <;> simp [NumberAt] at hn
  | cons v op _ ih =>
    rw [breaks_cons_cons_iff]
    rintro ⟨j, -, hj⟩
    exact ih j hj

/-- A token list without a break is a chain. -/
theorem isChain_of_forall_not_breaks {ts : List Token} (h : ∀ k, ¬ Breaks ts k) :
    IsChain ts := by
  match ts with
  | [] => exact absurd (h 0) (by simp [Breaks, NumberAt])
  | .operator op :: ts => exact absurd (h 0) (by simp [Breaks, NumberAt])
  | [.number v] => exact .single v
  | .number v :: .number u :: ts => exact absurd (h 1) (by simp [Breaks, NumberAt])
  | .number v :: .operator op :: ts =>
    exact .cons v op (isChain_of_forall_not_breaks fun k hk =>
      h (k + 2) ((breaks_cons_cons v op ts k).mpr hk))

/-! ## Tokens behind a chain -/

theorem IsChain.concat {us : List Token} (h : IsChain us) (op : Operator) (v : Binary64) :
    IsChain (us ++ [.operator op, .number v]) := by
  induction h with
  | single u => exact .cons u op (.single v)
  | cons u o _ ih => exact .cons u o ih

theorem IsChain.append {us ts : List Token} (hu : IsChain us) (op : Operator) (ht : IsChain ts) :
    IsChain (us ++ .operator op :: ts) := by
  induction hu with
  | single u => exact .cons u op ht
  | cons u o _ ih => exact .cons u o ih

/-- A break of a token list that starts with a chain lies at the end of the
    chain or behind it. -/
theorem IsChain.length_le_of_breaks {us ts : List Token} (h : IsChain us) {k : Nat}
    (hk : Breaks (us ++ ts) k) : us.length ≤ k := by
  induction h generalizing k with
  | single v =>
    rcases Nat.eq_zero_or_pos k with rfl | hpos
    · exact absurd hk (not_breaks_zero v ts)
    · exact hpos
  | cons v op _ ih =>
    obtain ⟨j, rfl, hj⟩ := (breaks_cons_cons_iff v op _ k).mp hk
    have := ih hj
    simp only [List.length_cons]
    omega

/-- Behind a chain and an operator the breaks are those of the rest. -/
theorem breaks_append_iff {us : List Token} (h : IsChain us) (op : Operator) (ts : List Token)
    (k : Nat) :
    Breaks (us ++ .operator op :: ts) k ↔ ∃ j, k = us.length + 1 + j ∧ Breaks ts j := by
  induction h generalizing k with
  | single v => rw [List.singleton_append, breaks_cons_cons_iff]; simp [Nat.add_comm]
  | @cons v o us _ ih =>
    rw [List.cons_append, List.cons_append, breaks_cons_cons_iff]
    constructor
    · rintro ⟨i, rfl, hi⟩
      obtain ⟨j, rfl, hj⟩ := (ih i).mp hi
      exact ⟨j, by simp only [List.length_cons]; omega, hj⟩
    · rintro ⟨j, rfl, hj⟩
      exact ⟨us.length + 1 + j, by simp only [List.length_cons]; omega, (ih _).mpr ⟨j, rfl, hj⟩⟩

/-! ## Zero divisors -/

theorem dividesByZeroAt_of_append {us ts : List Token} {z : Nat}
    (h : DividesByZeroAt (us ++ ts) z) (hz : z + 1 < us.length) : DividesByZeroAt us z := by
  unfold DividesByZeroAt at h ⊢
  rwa [List.getElem?_append_left (by omega), List.getElem?_append_left hz] at h

/-- A division by zero ahead of a break stands at an odd place. -/
theorem ZeroDivisorAt.odd {ts : List Token} {z : Nat} (h : ZeroDivisorAt ts z) : z % 2 = 1 := by
  obtain ⟨⟨hz, -⟩, hk⟩ := h
  by_contra hodd
  have hlen : z < ts.length := List.getElem?_eq_some_iff.mp hz |>.choose
  have hn : ¬ NumberAt ts z := by rintro ⟨v, hv⟩; simp [hz] at hv
  have := hk z ⟨by omega, by tauto⟩
  omega

/-- A division by zero around an operator: before it, at it, or behind it. -/
theorem dividesByZeroAt_append_iff (us : List Token) (op : Operator) (ts : List Token) (z : Nat) :
    DividesByZeroAt (us ++ .operator op :: ts) z ↔
      DividesByZeroAt us z ∨
      (z = us.length ∧ op = .divide ∧ ∃ v, ts[0]? = some (.number v) ∧ v.isZero = true) ∨
      ∃ y, z = us.length + 1 + y ∧ DividesByZeroAt ts y := by
  unfold DividesByZeroAt
  rcases Nat.lt_trichotomy z us.length with hlt | rfl | hgt
  · rw [List.getElem?_append_left hlt]
    rcases Nat.lt_or_ge (z + 1) us.length with hlt' | hge
    · rw [List.getElem?_append_left hlt']
      constructor
      · exact .inl
      · rintro (h | ⟨rfl, -⟩ | ⟨y, rfl, -⟩)
        · exact h
        · omega
        · omega
    · -- the last token of `us` is followed by an operator, not by a number
      rw [show z + 1 = us.length by omega]
      simp only [List.getElem?_append_right (Nat.le_refl _), Nat.sub_self, List.getElem?_cons_zero,
        Option.some.injEq, reduceCtorEq, false_and, exists_false, and_false, false_iff]
      rintro (⟨-, v, hv, -⟩ | ⟨rfl, -⟩ | ⟨y, rfl, -⟩)
      · simp at hv
      · omega
      · omega
  · rw [List.getElem?_append_right (Nat.le_refl _), List.getElem?_append_right (by omega),
      Nat.sub_self, Nat.add_sub_cancel_left]
    constructor
    · exact fun h => .inr (.inl ⟨rfl, by simpa using h⟩)
    · rintro (⟨h, -⟩ | ⟨-, h⟩ | ⟨y, hy, -⟩)
      · simp at h
      · simpa using h
      · omega
  · rw [List.getElem?_append_right (by omega), List.getElem?_append_right (by omega),
      show z - us.length = z - (us.length + 1) + 1 by omega,
      show z + 1 - us.length = z - (us.length + 1) + 1 + 1 by omega, List.getElem?_cons_succ,
      List.getElem?_cons_succ]
    constructor
    · exact fun h => .inr (.inr ⟨z - (us.length + 1), by omega, h⟩)
    · rintro (⟨h, -⟩ | ⟨rfl, -⟩ | ⟨y, rfl, h⟩)
      · have := (List.getElem?_eq_some_iff.mp h).choose
        omega
      · omega
      · rwa [Nat.add_sub_cancel_left]

theorem zeroDivisorAt_append_iff {us : List Token} (hu : IsChain us)
    (hz : ∀ z, ¬ DividesByZeroAt us z) {op : Operator} (hop : op ≠ .divide) (ts : List Token)
    (z : Nat) :
    ZeroDivisorAt (us ++ .operator op :: ts) z ↔
      ∃ y, z = us.length + 1 + y ∧ ZeroDivisorAt ts y := by
  unfold ZeroDivisorAt
  simp only [dividesByZeroAt_append_iff, hz, hop, false_and, and_false, false_or]
  constructor
  · rintro ⟨⟨y, rfl, hy⟩, hk⟩
    refine ⟨y, rfl, hy, fun j hj => ?_⟩
    have := hk (us.length + 1 + j) ((breaks_append_iff hu op ts _).mpr ⟨j, rfl, hj⟩)
    omega
  · rintro ⟨y, rfl, hy, hk⟩
    refine ⟨⟨y, rfl, hy⟩, fun k hb => ?_⟩
    obtain ⟨j, rfl, hj⟩ := (breaks_append_iff hu op ts k).mp hb
    have := hk j hj
    omega

/-- In a chain all divisions by zero are ahead of every break. -/
theorem IsChain.zeroDivisorAt_iff {ts : List Token} (h : IsChain ts) (z : Nat) :
    ZeroDivisorAt ts z ↔ DividesByZeroAt ts z :=
  ⟨And.left, fun hz => ⟨hz, fun k hk => absurd hk (h.not_breaks k)⟩⟩

/-! ## Levels and the start of a run -/

theorem levelAt?_append_right (us : List Token) (op : Operator) (ts : List Token) (i : Nat) :
    levelAt? (us ++ .operator op :: ts) (us.length + 1 + i) = levelAt? ts i := by
  unfold levelAt?
  rw [List.getElem?_append_right (by omega),
    show us.length + 1 + i - us.length = i + 1 by omega, List.getElem?_cons_succ]

theorem levelAt?_append_left {us : List Token} {i : Nat} (h : i < us.length) (ts : List Token) :
    levelAt? (us ++ ts) i = levelAt? us i := by
  unfold levelAt?
  rw [List.getElem?_append_left h]

theorem levelAt?_eq_some_iff (ts : List Token) (i : Nat) (n : Int) :
    levelAt? ts i = some n ↔ ∃ op, ts[i]? = some (.operator op) ∧ (op.level : Int) = n := by
  unfold levelAt?
  split
  · next op hop => simp [hop]
  · next h => simpa using fun op hop => absurd hop (h op)

@[simp] theorem levelAt?_append_length (us : List Token) (op : Operator) (ts : List Token) :
    levelAt? (us ++ .operator op :: ts) us.length = some (op.level : Int) := by
  simp [levelAt?]

theorem runStart_eq_zero {ts : List Token} {n : Nat} (h : ∀ i < n, levelAt? ts i ≠ some 0) :
    runStart ts n = 0 := by
  induction n with
  | zero => rfl
  | succ n ih =>
    rw [runStart, if_neg (h n (by omega))]
    exact ih fun i hi => h i (by omega)

/-- Behind an addition or subtraction a run starts where it starts in the rest. -/
theorem runStart_append (us : List Token) {op : Operator} (hop : op.level = 0) (ts : List Token)
    (n : Nat) :
    runStart (us ++ .operator op :: ts) (us.length + 1 + n) = us.length + 1 + runStart ts n := by
  induction n with
  | zero => simp [runStart, hop]
  | succ n ih =>
    rw [← Nat.add_assoc, runStart, runStart, levelAt?_append_right, ih]
    split <;> omega

end Abacus.Chain
