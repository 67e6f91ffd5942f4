import Abacus.Binary64.Arithmetic
import Abacus.Proofs.Binary64.Spacing
import Mathlib.Algebra.Order.Field.Basic
import Mathlib.Algebra.Order.Ring.Rat
import Mathlib.Data.Rat.Cast.Order
import Mathlib.Tactic.FieldSimp
import Mathlib.Tactic.Linarith
import Mathlib.Tactic.Positivity

/-!
# The nearest double

What it means for a double to be the nearest to a rational number, with ties to even, said
without the algorithm: no magnitude is nearer, and the nearest one is even if another is as
near. From half a unit in the last place above the greatest magnitude on there is only an
infinity. Every rational number has exactly one nearest double, and `round` finds it.

* `Magnitude.Covers.isNearest`: the magnitude in whose interval a number lies is the nearest.
* `Magnitude.IsNearest.unique`: there is only one.
* `Binary64.rounds_round`: rounding a quotient gives its nearest double.
* `Binary64.Rounds.mono`: a greater number has no smaller nearest double.
-/

namespace Abacus

/-- The exact value of a magnitude. -/
def Magnitude.toRat (m : Magnitude) : ℚ := m.units / Binary64.unitsOfOne

/-- No magnitude is nearer to `x` than this one, and if another is as near, this one has the even
    significand. -/
structure Magnitude.IsNearest (m : Magnitude) (x : ℚ) : Prop where
  abs_sub_le : ∀ n : Magnitude, |x - m.toRat| ≤ |x - n.toRat|
  even_of_tie : ∀ n : Magnitude, n ≠ m → |x - n.toRat| = |x - m.toRat| → m.mant % 2 = 0

namespace Binary64

/-- The least number that no finite double is the nearest to. -/
def overflow : ℚ := 2 ^ 1024 - 2 ^ 970

/-- The double is the one nearest to `x`, or to `-x` if `neg` is set, with ties to even. -/
def Rounds (neg : Bool) (x : ℚ) : Binary64 → Prop
  | .finite s m => s = neg ∧ x < overflow ∧ m.IsNearest x
  | .infinite s => s = neg ∧ overflow ≤ x
  | .nan => False

/-- The numeric order; a NaN is not comparable. -/
def le : Binary64 → Binary64 → Prop
  | .finite s m, .finite t n => signedUnits s m ≤ signedUnits t n
  | .finite _ _, .infinite t => t = false
  | .infinite s, .finite _ _ => s = true
  | .infinite s, .infinite t => s = true ∨ t = false
  | _, _ => False

instance : LE Binary64 := ⟨le⟩

theorem cast_two_pow (n : Nat) : ((Nat.pow 2 n : Nat) : ℚ) = 2 ^ n := by
  rw [Nat.pow_eq, Nat.cast_pow, Nat.cast_ofNat]

theorem cast_unitsOfOne : (unitsOfOne : ℚ) = 2 ^ 1074 := by
  delta unitsOfOne
  simp only [cast_two_pow]

theorem unitsOfOne_pos : (0 : ℚ) < unitsOfOne := by
  rw [cast_unitsOfOne]
  positivity

theorem two_pow_sub_mul {a b c : Nat} (h : a + c = b + c + 54) :
    2 * (((2 : ℚ) ^ a - 2 ^ b) * 2 ^ c) = 0x3FFFFFFFFFFFFF * 2 ^ (b + c + 1) := by
  rw [sub_mul, ← pow_add, ← pow_add, h]
  ring

/-- The overflow begins half a unit in the last place above the greatest magnitude. -/
theorem two_mul_overflow : 2 * (overflow * unitsOfOne) = 0x3FFFFFFFFFFFFF * 2 ^ 2045 := by
  rw [overflow, cast_unitsOfOne, two_pow_sub_mul (by omega)]

end Binary64

namespace Magnitude

open Binary64 (overflow unitsOfOne unitsOfOne_pos)

/-! ## Distances -/

theorem cast_quartersOfOne : (quartersOfOne : ℚ) = 4 * unitsOfOne := by
  rw [quartersOfOne, Nat.cast_mul, Nat.cast_ofNat]

theorem quartersOfOne_pos : (0 : ℚ) < quartersOfOne := by
  rw [cast_quartersOfOne]
  linarith [unitsOfOne_pos]

theorem toRat_eq (m : Magnitude) : m.toRat = m.quarters / quartersOfOne := by
  rw [toRat, cast_quartersOfOne, quarters, Nat.cast_mul, Nat.cast_ofNat,
    mul_div_mul_left _ _ (by norm_num)]

/-- The distance to a magnitude, counted in quarter units. -/
theorem abs_sub_toRat (m : Magnitude) (x : ℚ) :
    |x - m.toRat| = |x * quartersOfOne - m.quarters| / quartersOfOne := by
  have h := quartersOfOne_pos
  rw [toRat_eq, ← abs_of_pos h, ← abs_div, abs_of_pos h, sub_div, mul_div_cancel_right₀ _ h.ne']

theorem abs_sub_le_iff (a b y : ℚ) : |y - a| ≤ |y - b| ↔ 0 ≤ (b - a) * (a + b - 2 * y) := by
  rw [← sq_le_sq, ← sub_nonneg,
    show (y - b) ^ 2 - (y - a) ^ 2 = (b - a) * (a + b - 2 * y) by ring]

/-- What is nearer to the lower of two places lies no higher than their middle. -/
theorem abs_sub_le_iff_of_lt {a b y : ℚ} (hab : a < b) : |y - a| ≤ |y - b| ↔ 2 * y ≤ a + b := by
  rw [abs_sub_le_iff, mul_nonneg_iff_of_pos_left (sub_pos.mpr hab), sub_nonneg]

theorem abs_sub_le_iff_of_gt {a b y : ℚ} (hab : b < a) : |y - a| ≤ |y - b| ↔ a + b ≤ 2 * y := by
  rw [abs_sub_le_iff, ← neg_mul_neg, neg_sub, neg_sub,
    mul_nonneg_iff_of_pos_left (sub_pos.mpr hab), sub_nonneg]

theorem cast_quarters_lt {m n : Magnitude} (h : m.units < n.units) :
    (m.quarters : ℚ) < n.quarters := by
  rw [Nat.cast_lt, quarters, quarters]
  omega

theorem abs_sub_toRat_le_iff_of_lt {m n : Magnitude} (h : m.units < n.units) (x : ℚ) :
    |x - m.toRat| ≤ |x - n.toRat| ↔ 2 * (x * quartersOfOne) ≤ m.quarters + n.quarters := by
  rw [abs_sub_toRat, abs_sub_toRat, div_le_div_iff_of_pos_right quartersOfOne_pos,
    abs_sub_le_iff_of_lt (cast_quarters_lt h)]

theorem abs_sub_toRat_le_iff_of_gt {m n : Magnitude} (h : n.units < m.units) (x : ℚ) :
    |x - m.toRat| ≤ |x - n.toRat| ↔ n.quarters + m.quarters ≤ 2 * (x * quartersOfOne) := by
  rw [abs_sub_toRat, abs_sub_toRat, div_le_div_iff_of_pos_right quartersOfOne_pos,
    abs_sub_le_iff_of_gt (cast_quarters_lt h), add_comm]

/-! ## Intervals -/

/-- The number lies in the interval of the magnitude. -/
structure Covers (m : Magnitude) (x : ℚ) : Prop where
  lower_le : m.lower ≤ x * quartersOfOne
  le_upper : x * quartersOfOne ≤ m.upper
  lt_of_odd : m.mant % 2 = 1 → m.lower < x * quartersOfOne ∧ x * quartersOfOne < m.upper

theorem covers_iff_covers (m : Magnitude) {num den : Nat} (hd : 0 < den) {x : ℚ}
    (hx : x * quartersOfOne * den = num) : m.covers num den = true ↔ m.Covers x := by
  have hpos : (0 : ℚ) < den := Nat.cast_pos.mpr hd
  have hle (k : Nat) : k * den ≤ num ↔ (k : ℚ) ≤ x * quartersOfOne := by
    rw [← Nat.cast_le (α := ℚ), Nat.cast_mul, ← hx, mul_le_mul_iff_of_pos_right hpos]
  have hge (k : Nat) : num ≤ k * den ↔ x * quartersOfOne ≤ (k : ℚ) := by
    rw [← Nat.cast_le (α := ℚ), Nat.cast_mul, ← hx, mul_le_mul_iff_of_pos_right hpos]
  rw [covers_iff, hle, hge, ← not_le, ← not_le, hge, hle, not_le, not_le]
  exact ⟨fun ⟨h1, h2, h3⟩ => ⟨h1, h2, h3⟩, fun ⟨h1, h2, h3⟩ => ⟨h1, h2, h3⟩⟩

/-- The magnitude in whose interval a number lies is the one nearest to it. -/
theorem Covers.isNearest {m : Magnitude} {x : ℚ} (h : m.Covers x) : m.IsNearest x := by
  obtain ⟨hlo, hhi, hodd⟩ := h
  -- the ends of the interval, as bounds on the middles to other magnitudes
  have hup {n : Magnitude} (hn : m.units < n.units) :
      (2 * m.upper : ℚ) ≤ m.quarters + n.quarters := by
    exact_mod_cast two_mul_upper_le hn
  have hdown {n : Magnitude} (hn : n.units < m.units) :
      (n.quarters + m.quarters : ℚ) ≤ 2 * m.lower := by
    exact_mod_cast le_two_mul_lower hn
  constructor
  · intro n
    rcases Nat.lt_trichotomy m.units n.units with hn | hn | hn
    · rw [abs_sub_toRat_le_iff_of_lt hn]
      linarith [hup hn]
    · rw [units_injective hn]
    · rw [abs_sub_toRat_le_iff_of_gt hn]
      linarith [hdown hn]
  · intro n hne htie
    by_contra hm
    obtain ⟨hlo', hhi'⟩ := hodd (by omega)
    rcases Nat.lt_trichotomy m.units n.units with hn | hn | hn
    · have := (abs_sub_toRat_le_iff_of_gt hn x).mp htie.le
      linarith [hup hn]
    · exact hne (units_injective hn.symm)
    · have := (abs_sub_toRat_le_iff_of_lt hn x).mp htie.le
      linarith [hdown hn]

/-! ## There is only one -/

/-- Two nearest magnitudes are even, and a third between them would be nearer. -/
theorem IsNearest.not_lt {m n : Magnitude} {x : ℚ} (hm : m.IsNearest x) (hn : n.IsNearest x) :
    ¬ m.units < n.units := by
  intro hlt
  have hne : n ≠ m := by rintro rfl; exact Nat.lt_irrefl _ hlt
  have htie : |x - n.toRat| = |x - m.toRat| := le_antisymm (hn.abs_sub_le m) (hm.abs_sub_le n)
  have heven := hm.even_of_tie n hne htie
  have heven' := hn.even_of_tie m hne.symm htie.symm
  obtain ⟨k, hmk, hkn⟩ := exists_between heven heven' hlt
  have h1 := (abs_sub_toRat_le_iff_of_lt hmk x).mp (hm.abs_sub_le k)
  have h2 := (abs_sub_toRat_le_iff_of_gt hkn x).mp (hn.abs_sub_le k)
  linarith [cast_quarters_lt hlt]

theorem IsNearest.unique {m n : Magnitude} {x : ℚ} (hm : m.IsNearest x) (hn : n.IsNearest x) :
    m = n := by
  have := hm.not_lt hn
  have := hn.not_lt hm
  exact units_injective (by omega)

/-- A greater number has no smaller nearest magnitude. -/
theorem IsNearest.mono {m n : Magnitude} {x y : ℚ} (hm : m.IsNearest x) (hn : n.IsNearest y)
    (hxy : x ≤ y) : m.units ≤ n.units := by
  by_contra hlt
  rw [Nat.not_le] at hlt
  have h1 := (abs_sub_toRat_le_iff_of_gt hlt x).mp (hm.abs_sub_le n)
  have h2 := (abs_sub_toRat_le_iff_of_lt hlt y).mp (hn.abs_sub_le m)
  have hscaled := mul_le_mul_of_nonneg_right hxy quartersOfOne_pos.le
  -- both numbers are the middle, and so are one
  have heq : x = y := mul_right_cancel₀ quartersOfOne_pos.ne' (by linarith)
  subst heq
  exact Nat.lt_irrefl _ (hm.unique hn ▸ hlt)

/-! ## Overflow -/

theorem upper_le (m : Magnitude) : m.upper ≤ 0x7FFFFFFFFFFFFE * 2 ^ 2045 ∧
    (m.mant % 2 = 0 → m.upper < 0x7FFFFFFFFFFFFE * 2 ^ 2045) := by
  have hmant := m.mant_lt
  have hpow : 2 ^ m.exp ≤ 2 ^ 2045 := by
    gcongr
    · decide
    · exact m.exp_le
  have hpos := Nat.two_pow_pos m.exp
  have hupper : m.upper = (4 * m.mant + 2) * 2 ^ m.exp := by
    rw [upper_eq, units_eq]
    ring
  rw [hupper]
  generalize 2 ^ 2045 = top at *
  refine ⟨Nat.mul_le_mul (by omega) hpow, fun heven => ?_⟩
  have := Nat.mul_le_mul_right (2 ^ m.exp) (show 4 * m.mant + 2 ≤ 0x7FFFFFFFFFFFFA by omega)
  omega

theorem Covers.lt_overflow {m : Magnitude} {x : ℚ} (h : m.Covers x) : x < overflow := by
  obtain ⟨hle, hlt⟩ := m.upper_le
  have htop := Binary64.two_mul_overflow
  have hcast : ((0x7FFFFFFFFFFFFE * 2 ^ 2045 : Nat) : ℚ) = overflow * quartersOfOne := by
    rw [cast_quartersOfOne, Nat.cast_mul, Nat.cast_pow, Nat.cast_ofNat, Nat.cast_ofNat]
    generalize (2 : ℚ) ^ 2045 = top at *
    linarith
  refine lt_of_mul_lt_mul_right ?_ quartersOfOne_pos.le
  rw [← hcast]
  rcases Nat.mod_two_eq_zero_or_one m.mant with heven | hodd
  · exact lt_of_le_of_lt h.le_upper (Nat.cast_lt.mpr (hlt heven))
  · exact lt_of_lt_of_le (h.lt_of_odd hodd).2 (Nat.cast_le.mpr hle)

end Magnitude

namespace Binary64

/-! ## Rounding -/

/-- Rounding a quotient gives the double that is nearest to it. -/
theorem rounds_round (neg : Bool) {num den : Nat} (hd : 0 < den) {x : ℚ}
    (hx : x * unitsOfOne * den = num) : Rounds neg x (round neg num den) := by
  rcases round_covers neg num hd with ⟨m, hround, hcovers⟩ | ⟨hround, hover⟩
  · have hx4 : x * Magnitude.quartersOfOne * den = (4 * num : Nat) := by
      rw [Magnitude.cast_quartersOfOne]
      push_cast
      linarith
    have h := (m.covers_iff_covers hd hx4).mp hcovers
    rw [hround]
    exact ⟨rfl, h.lt_overflow, h.isNearest⟩
  · rw [hround]
    refine ⟨rfl, ?_⟩
    have hpos : (0 : ℚ) < unitsOfOne * den := mul_pos unitsOfOne_pos (Nat.cast_pos.mpr hd)
    have hcast : (0x3FFFFFFFFFFFFF * (den * 2 ^ 2045) : ℚ) ≤ 2 * num := by exact_mod_cast hover
    have htop := two_mul_overflow
    generalize (2 : ℚ) ^ 2045 = top at *
    refine le_of_mul_le_mul_right ?_ hpos
    calc overflow * (unitsOfOne * den) = 2 * (overflow * unitsOfOne) * den / 2 := by ring
      _ = 0x3FFFFFFFFFFFFF * (den * top) / 2 := by rw [htop]; ring
      _ ≤ num := by linarith
      _ = x * (unitsOfOne * den) := by rw [← hx]; ring

end Binary64

namespace Magnitude

open Binary64 (overflow unitsOfOne unitsOfOne_pos)

/-- What a magnitude is the nearest to lies in its interval. -/
theorem IsNearest.covers {m : Magnitude} {x : ℚ} (h : m.IsNearest x) (hx : 0 ≤ x)
    (hlt : x < overflow) : m.Covers x := by
  -- a magnitude that covers `x` is found by rounding, and is the nearest one as well
  have hnum : ((x * unitsOfOne).num.toNat : ℚ) = (x * unitsOfOne).num := by
    rw [← Int.cast_natCast, Int.toNat_of_nonneg]
    exact Rat.num_nonneg.mpr (mul_nonneg hx unitsOfOne_pos.le)
  have hquot : x * unitsOfOne * (x * unitsOfOne).den = (x * unitsOfOne).num.toNat := by
    rw [hnum]
    exact Rat.mul_den_eq_num _
  have hround := Binary64.rounds_round false (x * unitsOfOne).den_pos hquot
  rcases Binary64.round_covers false (x * unitsOfOne).num.toNat (x * unitsOfOne).den_pos with
    ⟨n, hn, hcovers⟩ | ⟨hinf, -⟩
  · have hquot4 : x * quartersOfOne * (x * unitsOfOne).den =
        (4 * (x * unitsOfOne).num.toNat : Nat) := by
      rw [cast_quartersOfOne, Nat.cast_mul, ← hquot]
      ring
    have hnx := (n.covers_iff_covers (x * unitsOfOne).den_pos hquot4).mp hcovers
    rwa [h.unique hnx.isNearest]
  · rw [hinf] at hround
    exact absurd hround.2 (not_le.mpr hlt)

end Magnitude

namespace Binary64

theorem Rounds.unique {neg : Bool} {x : ℚ} {v w : Binary64} (hv : Rounds neg x v)
    (hw : Rounds neg x w) : v = w := by
  match v, w with
  | .finite s m, .finite t n =>
    obtain ⟨rfl, -, hm⟩ := hv
    obtain ⟨rfl, -, hn⟩ := hw
    rw [hm.unique hn]
  | .finite s m, .infinite t => exact absurd hw.2 (not_le.mpr hv.2.1)
  | .infinite s, .finite t n => exact absurd hv.2 (not_le.mpr hw.2.1)
  | .infinite s, .infinite t => rw [hv.1, hw.1]
  | .nan, _ => exact hv.elim
  | _, .nan => exact hw.elim

/-- A greater number has no smaller nearest double. -/
theorem Rounds.mono {x y : ℚ} {v w : Binary64} (hv : Rounds false x v) (hw : Rounds false y w)
    (hxy : x ≤ y) : v ≤ w := by
  match v, w with
  | .finite s m, .finite t n =>
    obtain ⟨rfl, -, hm⟩ := hv
    obtain ⟨rfl, -, hn⟩ := hw
    exact Int.ofNat_le.mpr (hm.mono hn hxy)
  | .finite s m, .infinite t => exact hw.1
  | .infinite s, .finite t n => exact absurd (hv.2.trans hxy) (not_le.mpr hw.2.1)
  | .infinite s, .infinite t => exact .inr hw.1
  | .nan, _ => exact hv.elim
  | _, .nan => exact hw.elim

end Binary64

end Abacus
