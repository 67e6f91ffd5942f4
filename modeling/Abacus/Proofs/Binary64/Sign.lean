import Abacus.Binary64.Decimal
import Abacus.Token

/-!
# Signs of results

Rounding keeps the sign it is given, and does not lose a whole number of units. So a product
or a quotient that is no NaN has the sign that the signs of its operands make, even where it
underflows or overflows, and a sum is the negative zero only if both terms are.

* `round_ne_zero`: at least one unit is not rounded to a zero.
* `signBit_ofDecimal`: what is read from a decimal.
* `signBit_mul`, `signBit_div`: products and quotients.
* `add_eq_negative_zero_iff`, `sub_eq_negative_zero_iff`: the sums that are `-0`.
-/

namespace Abacus

theorem Magnitude.eq_zero_of_mant {m : Magnitude} (h : m.mant = 0) : m = .zero := by
  obtain ⟨mant, exp, _, _, hnormal⟩ := m
  subst h
  have hexp : exp = 0 := by omega
  subst hexp
  rfl

theorem Magnitude.eq_zero_of_units {m : Magnitude} (h : m.units = 0) : m = .zero := by
  rw [units, Nat.pow_eq, Nat.mul_eq_zero] at h
  exact eq_zero_of_mant (h.resolve_right (Nat.ne_of_gt (Nat.two_pow_pos m.exp)))

namespace Binary64

/-! ## Rounding -/

/-- What is built from parts has the given sign and is no NaN. -/
theorem ofParts_cases (neg : Bool) (mant exp : Nat) :
    (∃ m : Magnitude, m.mant = mant ∧ ofParts neg mant exp = .finite neg m) ∨
      ofParts neg mant exp = .infinite neg := by
  rw [ofParts]
  cases h : Magnitude.ofParts? mant exp with
  | none => exact .inr rfl
  | some m =>
    rw [Magnitude.ofParts?] at h
    split at h
    · cases h
      exact .inl ⟨_, rfl, rfl⟩
    · cases h

theorem ofParts_ne_zero (neg s : Bool) {mant : Nat} (h : 0 < mant) (exp : Nat) :
    ofParts neg mant exp ≠ .finite s .zero := by
  rcases ofParts_cases neg mant exp with ⟨m, hm, heq⟩ | heq
  · rw [heq]
    rintro ⟨⟩
    exact Nat.ne_of_lt h hm
  · rw [heq]
    rintro ⟨⟩

/-- Rounding gives a number of the given sign. -/
theorem round_cases (neg : Bool) (num den : Nat) :
    (∃ m, round neg num den = .finite neg m) ∨ round neg num den = .infinite neg := by
  have hparts (mant exp : Nat) : (∃ m, ofParts neg mant exp = .finite neg m) ∨
      ofParts neg mant exp = .infinite neg :=
    (ofParts_cases neg mant exp).imp_left fun ⟨m, _, h⟩ => ⟨m, h⟩
  unfold round
  dsimp only
  split
  · exact hparts _ _
  · exact hparts _ _

theorem signBit_round (neg : Bool) (num den : Nat) : (round neg num den).signBit = neg := by
  rcases round_cases neg num den with ⟨m, h⟩ | h
  · rw [h]; rfl
  · rw [h]; rfl

theorem round_ne_nan (neg : Bool) (num den : Nat) : round neg num den ≠ .nan := by
  rcases round_cases neg num den with ⟨m, h⟩ | h
  · rw [h]; rintro ⟨⟩
  · rw [h]; rintro ⟨⟩

theorem le_roundDiv (num den : Nat) : num / den ≤ roundDiv num den := by
  rcases roundDiv_cases num den with ⟨h, -⟩ | ⟨h, -⟩
  · exact Nat.le_of_eq h.symm
  · omega

/-- A whole number of units has a leading bit, which no rounding takes away. -/
theorem round_ne_zero (neg s : Bool) {num : Nat} (h : 0 < num) :
    round neg num 1 ≠ .finite s .zero := by
  have hlog : 2 ^ (Nat.log2 num - 52) ≤ num :=
    Nat.le_trans (Nat.pow_le_pow_right (by omega) (Nat.sub_le ..))
      (Nat.log2_self_le (Nat.ne_of_gt h))
  have hmant : 0 < roundDiv num (1 * Nat.pow 2 (Nat.log2 (num / 1) - 52)) := by
    rw [Nat.div_one, Nat.one_mul]
    exact Nat.lt_of_lt_of_le (Nat.div_pos hlog (Nat.two_pow_pos _)) (le_roundDiv ..)
  unfold round
  dsimp only
  split
  · exact ofParts_ne_zero neg s (by omega) _
  · exact ofParts_ne_zero neg s hmant _

/-! ## Decimals -/

theorem signBit_ofDecimal (neg : Bool) (d : Decimal) : (ofDecimal neg d).signBit = neg := by
  rw [ofDecimal]
  split
  · exact signBit_round ..
  · exact signBit_round ..

theorem ofDecimal_ne_nan (neg : Bool) (d : Decimal) : ofDecimal neg d ≠ .nan := by
  rw [ofDecimal]
  split
  · exact round_ne_nan _ _ _
  · exact round_ne_nan _ _ _

/-! ## Products and quotients -/

theorem signBit_mul (a b : Binary64) :
    a * b = .nan ∨ (a * b).signBit = (a.signBit != b.signBit) := by
  change mul a b = .nan ∨ (mul a b).signBit = _
  fun_cases mul a b with
  | case1 => exact .inl rfl
  | case2 => exact .inl rfl
  | case3 => exact .inr rfl
  | case4 => exact .inl rfl
  | case5 => exact .inr rfl
  | case6 => exact .inl rfl
  | case7 => exact .inr rfl
  | case8 => exact .inr (signBit_round ..)

theorem signBit_div (a b : Binary64) :
    a / b = .nan ∨ (a / b).signBit = (a.signBit != b.signBit) := by
  change div a b = .nan ∨ (div a b).signBit = _
  fun_cases div a b with
  | case1 => exact .inl rfl
  | case2 => exact .inl rfl
  | case3 => exact .inl rfl
  | case4 => exact .inr rfl
  | case5 => exact .inr rfl
  | case6 => exact .inl rfl
  | case7 => exact .inr rfl
  | case8 => exact .inr (signBit_round ..)

/-- A product or a quotient has the sign that those of its operands make, or is a NaN. -/
theorem signBit_apply {op : Operator} (hop : op.level = 1) (a b : Binary64) :
    op.apply a b = .nan ∨ (op.apply a b).signBit = (a.signBit != b.signBit) := by
  cases op with
  | add => cases hop
  | subtract => cases hop
  | multiply => exact signBit_mul a b
  | divide => exact signBit_div a b

/-! ## Sums and differences -/

theorem add_eq_negative_zero_iff (a b : Binary64) :
    a + b = .finite true .zero ↔ a = .finite true .zero ∧ b = .finite true .zero := by
  refine ⟨?_, by rintro ⟨rfl, rfl⟩; rfl⟩
  change add a b = .finite true .zero → _
  fun_cases add a b with
  | case1 => rintro ⟨⟩
  | case2 => rintro ⟨⟩
  | case3 => rintro ⟨⟩
  | case4 => rintro ⟨⟩
  | case5 => rintro ⟨⟩
  | case6 => rintro ⟨⟩
  | case7 s m t n sum hsum =>
    intro h
    -- both terms are negative, so neither has a unit
    simp only [finite.injEq, Bool.and_eq_true, and_true] at h
    obtain ⟨rfl, rfl⟩ := h
    simp only [sum, signedUnits, if_true] at hsum
    have hm : m = .zero := Magnitude.eq_zero_of_units (by omega)
    have hn : n = .zero := Magnitude.eq_zero_of_units (by omega)
    rw [hm, hn]
    exact ⟨rfl, rfl⟩
  | case8 s m t n sum hsum =>
    intro h
    exact absurd h (round_ne_zero _ _ (Int.natAbs_pos.mpr hsum))

theorem neg_eq_negative_zero_iff (a : Binary64) : neg a = .finite true .zero ↔ a = .zero := by
  rcases a with ⟨s, m⟩ | s | _
  · cases s <;> simp [neg, zero]
  · simp [neg, zero]
  · simp [neg, zero]

theorem sub_eq_negative_zero_iff (a b : Binary64) :
    a - b = .finite true .zero ↔ a = .finite true .zero ∧ b = .zero := by
  rw [← neg_eq_negative_zero_iff b]
  exact add_eq_negative_zero_iff a (neg b)

/-- A sum or a difference is the negative zero only if it starts with it. -/
theorem apply_ne_negative_zero {op : Operator} (hop : op.level = 0) {a : Binary64}
    (ha : a ≠ .finite true .zero) (b : Binary64) : op.apply a b ≠ .finite true .zero := by
  cases op with
  | add => exact fun h => ha ((add_eq_negative_zero_iff a b).mp h).1
  | subtract => exact fun h => ha ((sub_eq_negative_zero_iff a b).mp h).1
  | multiply => cases hop
  | divide => cases hop

end Binary64

end Abacus
