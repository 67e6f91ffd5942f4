import Abacus.Token.Lexer
import Abacus.Proofs.Binary64.Nearest
import Mathlib.Algebra.Order.Field.Power

/-!
# Decimals are read as the nearest double

Reading rounds the exact value of a decimal once, so the double that is read depends on the
value alone, and how many digits write it does not matter.

* `Binary64.ofDecimal_eq_iff`: a decimal is read as its nearest double.
* `Binary64.rounds_zero_iff`: what is too small for any other double than zero.
* `Literal.toRat_decimal`: the value of a literal, digit by digit.
-/

namespace Abacus

/-- The exact value of a decimal. -/
def Decimal.toRat (d : Decimal) : ℚ := d.digits * 10 ^ d.exponent

theorem Decimal.toRat_nonneg (d : Decimal) : 0 ≤ d.toRat := by
  unfold Decimal.toRat
  positivity

namespace Binary64

/-- A decimal is read as the double that is nearest to its value. -/
theorem rounds_ofDecimal (neg : Bool) (d : Decimal) : Rounds neg d.toRat (ofDecimal neg d) := by
  unfold ofDecimal Decimal.toRat
  split
  · next he =>
    obtain ⟨n, hn⟩ := Int.eq_ofNat_of_zero_le he
    refine rounds_round neg Nat.one_pos ?_
    rw [hn, Int.toNat_natCast, zpow_natCast, Nat.pow_eq]
    push_cast
    ring
  · next he =>
    obtain ⟨n, hn⟩ := Int.eq_ofNat_of_zero_le (show 0 ≤ -d.exponent by omega)
    have hexp : d.exponent = -(n : Int) := by omega
    refine rounds_round neg (Nat.pow_pos (by decide)) ?_
    rw [hexp, Int.neg_neg, Int.toNat_natCast, zpow_neg, zpow_natCast, Nat.cast_mul]
    generalize (unitsOfOne : ℚ) = one
    push_cast
    field_simp

theorem ofDecimal_eq_iff (neg : Bool) (d : Decimal) (v : Binary64) :
    ofDecimal neg d = v ↔ Rounds neg d.toRat v := by
  constructor
  · rintro rfl
    exact rounds_ofDecimal neg d
  · exact (rounds_ofDecimal neg d).unique

/-! ## The two ends -/

theorem rounds_infinite_iff (x : ℚ) : Rounds false x (.infinite false) ↔ overflow ≤ x :=
  ⟨And.right, fun h => ⟨rfl, h⟩⟩

/-- The smallest magnitude above zero. -/
def tiny : Magnitude := ⟨1, 0, by decide, Magnitude.zero.exp_le, .inl rfl⟩

theorem le_half_unit_iff (x : ℚ) : x ≤ 1 / 2 ^ 1075 ↔ x * Magnitude.quartersOfOne ≤ 2 := by
  have hpow : (2 : ℚ) ^ 1075 = 2 * unitsOfOne := by rw [cast_unitsOfOne, ← pow_succ']
  have hpos : (0 : ℚ) < 2 * unitsOfOne := mul_pos two_pos unitsOfOne_pos
  rw [hpow, Magnitude.cast_quartersOfOne, le_div_iff₀ hpos]
  constructor
  · intro h
    linarith
  · intro h
    linarith

/-- What lies no farther up than half way to the smallest magnitude is nearest to zero. -/
theorem rounds_zero_iff {x : ℚ} (hx : 0 ≤ x) : Rounds false x .zero ↔ x ≤ 1 / 2 ^ 1075 := by
  rw [le_half_unit_iff]
  constructor
  · rintro ⟨-, -, hnear⟩
    have hlt : Magnitude.zero.units < tiny.units := by decide
    have h := (Magnitude.abs_sub_toRat_le_iff_of_lt hlt x).mp (hnear.abs_sub_le tiny)
    have hquarters : ((Magnitude.zero.quarters : ℚ) + tiny.quarters) = 4 := by
      exact_mod_cast (by decide : Magnitude.zero.quarters + tiny.quarters = 4)
    linarith
  · intro h
    have hlower : Magnitude.zero.lower = 0 := by decide
    have hupper : Magnitude.zero.upper = 2 := by decide
    have hcovers : Magnitude.zero.Covers x := by
      refine ⟨?_, ?_, fun hodd => absurd hodd (by decide)⟩
      · rw [hlower, Nat.cast_zero]
        exact mul_nonneg hx Magnitude.quartersOfOne_pos.le
      · rw [hupper]
        exact_mod_cast h
    exact ⟨rfl, hcovers.lt_overflow, hcovers.isNearest⟩

end Binary64

/-! ## Literals -/

namespace Literal

/-- The exact value of a literal: the digits before the point, and those after it divided by ten
    for each of them. -/
def toRat (l : Literal) : ℚ :=
  Nat.ofDigitChars 10 l.whole 0 +
    Nat.ofDigitChars 10 (l.fraction.getD []) 0 / 10 ^ (l.fraction.getD []).length

theorem toRat_decimal (l : Literal) : l.decimal.toRat = l.toRat := by
  unfold decimal toRat Decimal.toRat
  dsimp only
  rw [Nat.ofDigitChars_append, Nat.ofDigitChars_eq_ofDigitChars_zero, zpow_neg, zpow_natCast]
  push_cast
  field_simp

theorem toRat_nonneg (l : Literal) : 0 ≤ l.toRat := by
  rw [← toRat_decimal]
  exact l.decimal.toRat_nonneg

theorem rounds_value (l : Literal) : Binary64.Rounds false l.toRat l.value := by
  rw [← toRat_decimal]
  exact Binary64.rounds_ofDecimal false l.decimal

end Literal

end Abacus
