import Abacus.Proofs.Binary64.Reading

/-!
# The shortest decimal

The search for the digits of a magnitude stops on the coarsest grid `10^p` that meets its
interval, at a point that is the nearest one there. A decimal with fewer digits would lie on a
coarser grid, or below a power of ten that does; and one with as many digits but on a finer
grid has a single digit, which happens for one magnitude only, twice the smallest one.

* `onGrid_eq_none`, `nearestOnGrid_of_onGrid`: what is found on one grid.
* `coarsest_shortest`: no coarser grid meets the interval, and none has a nearer point.
* `isShortest_shortest`: no decimal that reads back has fewer digits, and none with as many is
  nearer.
-/

namespace Abacus

/-- The number is a decimal of at most `n` significant digits; zero has none. -/
def HasDigits (n : Nat) (x : ℚ) : Prop := ∃ (k : Nat) (p : ℤ), k < 10 ^ n ∧ x = k * 10 ^ p

theorem HasDigits.nonneg {n : Nat} {x : ℚ} (h : HasDigits n x) : 0 ≤ x := by
  obtain ⟨k, p, -, rfl⟩ := h
  positivity

namespace Magnitude

theorem toRat_mul_quartersOfOne (m : Magnitude) : m.toRat * quartersOfOne = m.quarters := by
  rw [toRat_eq, div_mul_cancel₀ _ quartersOfOne_pos.ne']

/-! ## Intervals -/

theorem Covers.of_between {m : Magnitude} {x y z : ℚ} (hx : m.Covers x) (hz : m.Covers z)
    (hxy : x ≤ y) (hyz : y ≤ z) : m.Covers y := by
  have hlo := mul_le_mul_of_nonneg_right hxy quartersOfOne_pos.le
  have hhi := mul_le_mul_of_nonneg_right hyz quartersOfOne_pos.le
  exact ⟨hx.lower_le.trans hlo, hhi.trans hz.le_upper, fun hodd =>
    ⟨(hx.lt_of_odd hodd).1.trans_le hlo, hhi.trans_lt (hz.lt_of_odd hodd).2⟩⟩

theorem covers_toRat (m : Magnitude) : m.Covers m.toRat := by
  refine (m.covers_iff_covers Nat.one_pos ?_).mp (m.covers_quarters Nat.one_pos)
  rw [toRat_mul_quartersOfOne, Nat.cast_mul]

theorem four_mul_units_le (m : Magnitude) : 4 * m.units ≤ m.lower + 2 * 2 ^ m.exp := by
  unfold lower quarters
  dsimp only
  rw [Nat.pow_eq]
  split
  · omega
  · omega

theorem two_pow_le_units {m : Magnitude} (hm : m.mant ≠ 0) : 2 ^ m.exp ≤ m.units := by
  rw [units_eq]
  exact Nat.le_mul_of_pos_left _ (by omega)

/-- What lies in the interval of a magnitude above zero lies above zero, and is at most twice the
    magnitude. -/
theorem Covers.pos {m : Magnitude} (hm : m.mant ≠ 0) {x : ℚ} (h : m.Covers x) : 0 < x := by
  have hpow := two_pow_le_units hm
  have hpos := Nat.two_pow_pos m.exp
  have hlower := m.four_mul_units_le
  have hlt : (0 : ℚ) < m.lower := Nat.cast_pos.mpr (by omega)
  refine lt_of_mul_lt_mul_right ?_ quartersOfOne_pos.le
  rw [zero_mul]
  exact hlt.trans_le h.lower_le

theorem Covers.le_two_mul {m : Magnitude} (hm : m.mant ≠ 0) {x : ℚ} (h : m.Covers x) :
    x ≤ 2 * m.toRat := by
  have hpow := two_pow_le_units hm
  have hle : (m.upper : ℚ) ≤ 2 * m.quarters := by
    have : m.upper ≤ 2 * m.quarters := by
      rw [upper_eq, quarters]
      omega
    exact_mod_cast this
  refine le_of_mul_le_mul_right ?_ quartersOfOne_pos
  rw [mul_assoc, toRat_mul_quartersOfOne]
  exact h.le_upper.trans hle

/-! ## Grids -/

theorem ten_zpow_mul (p : ℤ) : (10 : ℚ) ^ p * (10 ^ (-p).toNat : Nat) = (10 ^ p.toNat : Nat) := by
  rw [Nat.cast_pow, Nat.cast_pow, Nat.cast_ofNat, ← zpow_natCast, ← zpow_natCast,
    ← zpow_add₀ (by norm_num)]
  congr 1
  omega

theorem ten_zpow_pos (p : ℤ) : (0 : ℚ) < 10 ^ p := zpow_pos (by norm_num) p

theorem coversDecimal_iff (m : Magnitude) (d : Decimal) : m.CoversDecimal d ↔ m.Covers d.toRat := by
  refine m.covers_iff_covers (Nat.pow_pos (by decide)) ?_
  rw [Decimal.toRat, gridPoint, Nat.pow_eq, Nat.pow_eq, Nat.cast_mul, Nat.cast_mul,
    ← ten_zpow_mul d.exponent]
  ring

/-- A point of the grid `10^p` that reads back, and as near as any of these. -/
structure NearestOnGrid (m : Magnitude) (p : ℤ) (k : Nat) : Prop where
  covers : m.Covers (k * 10 ^ p)
  abs_sub_le : ∀ j : Nat, m.Covers (j * 10 ^ p) → |k * 10 ^ p - m.toRat| ≤ |j * 10 ^ p - m.toRat|

/-- The last point of the grid `10^p` that does not lie above the magnitude. -/
def floorOn (m : Magnitude) (p : ℤ) : Nat :=
  m.quarters * 10 ^ (-p).toNat / (10 ^ p.toNat * quartersOfOne)

section OnGrid
variable {m : Magnitude} {p : ℤ}

/-- The scale on which the points of a grid and the magnitude are whole numbers is positive. -/
theorem scale_pos (p : ℤ) : (0 : ℚ) < quartersOfOne * (10 ^ (-p).toNat : Nat) :=
  mul_pos quartersOfOne_pos (Nat.cast_pos.mpr (Nat.pow_pos (by decide)))

theorem mul_zpow_mul_scale (p : ℤ) (k : Nat) :
    (k : ℚ) * 10 ^ p * (quartersOfOne * (10 ^ (-p).toNat : Nat)) =
      (k * (10 ^ p.toNat * quartersOfOne) : Nat) := by
  rw [Nat.cast_mul, Nat.cast_mul, ← ten_zpow_mul p]
  ring

theorem toRat_mul_scale (m : Magnitude) (p : ℤ) :
    m.toRat * (quartersOfOne * (10 ^ (-p).toNat : Nat)) = (m.quarters * 10 ^ (-p).toNat : Nat) := by
  rw [← mul_assoc, toRat_mul_quartersOfOne, Nat.cast_mul]

theorem step_pos (p : ℤ) : 0 < 10 ^ p.toNat * quartersOfOne :=
  Nat.mul_pos (Nat.pow_pos (by decide)) (by exact_mod_cast quartersOfOne_pos)

theorem le_floorOn_iff {k : Nat} : k ≤ m.floorOn p ↔ (k : ℚ) * 10 ^ p ≤ m.toRat := by
  rw [floorOn, Nat.le_div_iff_mul_le (step_pos p), ← mul_le_mul_iff_of_pos_right (scale_pos p),
    mul_zpow_mul_scale, toRat_mul_scale, Nat.cast_le]

theorem floorOn_le : (m.floorOn p : ℚ) * 10 ^ p ≤ m.toRat := le_floorOn_iff.mp le_rfl

theorem toRat_lt_floorOn_add_one : m.toRat < (m.floorOn p + 1 : Nat) * 10 ^ p := by
  rw [← not_le, ← le_floorOn_iff]
  omega

theorem mul_zpow_le {j k : Nat} (h : j ≤ k) : (j : ℚ) * 10 ^ p ≤ k * 10 ^ p :=
  mul_le_mul_of_nonneg_right (Nat.cast_le.mpr h) (ten_zpow_pos p).le

/-- If the first point above the magnitude is not read back, none there is. -/
theorem Covers.le_floorOn {j : Nat} (hj : m.Covers (j * 10 ^ p))
    (h : m.covers (gridPoint p (m.floorOn p + 1)).1 (gridPoint p (m.floorOn p + 1)).2 = false) :
    j ≤ m.floorOn p := by
  by_contra hlt
  rw [← Bool.not_eq_true] at h
  exact h ((m.coversDecimal_iff ⟨_, p⟩).mpr
    (m.covers_toRat.of_between hj toRat_lt_floorOn_add_one.le
      (mul_zpow_le (Nat.lt_of_not_le hlt))))

/-- If the last point below the magnitude is not read back, none there is. -/
theorem Covers.floorOn_lt {j : Nat} (hj : m.Covers (j * 10 ^ p))
    (h : m.covers (gridPoint p (m.floorOn p)).1 (gridPoint p (m.floorOn p)).2 = false) :
    m.floorOn p < j := by
  by_contra hle
  rw [← Bool.not_eq_true] at h
  exact h ((m.coversDecimal_iff ⟨_, p⟩).mpr
    (hj.of_between m.covers_toRat (mul_zpow_le (Nat.le_of_not_lt hle)) floorOn_le))

/-- What lies within half a step of a grid is nearest to that point of it. -/
theorem abs_sub_le_of_near {g v : ℚ} {k : Nat} (hg : 0 < g) (h : 2 * |k * g - v| ≤ g) (j : Nat) :
    |k * g - v| ≤ |j * g - v| := by
  rcases eq_or_ne j k with rfl | hne
  · exact le_rfl
  · have hone : (1 : ℚ) ≤ |(j : ℚ) - k| := by
      exact_mod_cast Int.one_le_abs (show (j : ℤ) - k ≠ 0 by omega)
    have hstep : g ≤ |j * g - k * g| := by
      rw [← sub_mul, abs_mul, abs_of_pos hg]
      exact le_mul_of_one_le_left hg.le hone
    have htriangle : |j * g - k * g| ≤ |j * g - v| + |k * g - v| := by
      rw [abs_sub_comm (k * g) v]
      exact abs_sub_le _ _ _
    linarith

/-- On the scale where a grid and the magnitude are whole numbers, `roundDiv` finds the nearest
    point. -/
theorem abs_roundDiv_sub_le :
    2 * |(roundDiv (m.quarters * 10 ^ (-p).toNat) (10 ^ p.toNat * quartersOfOne) : ℚ) * 10 ^ p -
      m.toRat| ≤ 10 ^ p := by
  obtain ⟨hlo, hhi, -⟩ := roundDiv_near (m.quarters * 10 ^ (-p).toNat) (step_pos p)
  have hscale := scale_pos p
  have hstep := mul_zpow_mul_scale p 1
  have hpoint := mul_zpow_mul_scale p
    (roundDiv (m.quarters * 10 ^ (-p).toNat) (10 ^ p.toNat * quartersOfOne))
  have hvalue := m.toRat_mul_scale p
  generalize roundDiv _ _ = k at *
  generalize 10 ^ p.toNat * quartersOfOne = step at *
  generalize m.quarters * 10 ^ (-p).toNat = value at *
  generalize (quartersOfOne : ℚ) * (10 ^ (-p).toNat : Nat) = scale at *
  rw [Nat.cast_one, one_mul, Nat.one_mul] at hstep
  have hlo' : (2 * (k * step : Nat) : ℚ) ≤ 2 * value + step := by exact_mod_cast hlo
  have hhi' : (2 * value : ℚ) ≤ 2 * (k * step : Nat) + step := by exact_mod_cast hhi
  rw [← hpoint, ← hvalue, ← hstep] at hlo' hhi'
  have hlo2 : 2 * (k * 10 ^ p - m.toRat) ≤ 10 ^ p := by
    refine le_of_mul_le_mul_right ?_ hscale
    linarith
  have hhi2 : -(10 ^ p) ≤ 2 * (k * 10 ^ p - m.toRat) := by
    refine le_of_mul_le_mul_right ?_ hscale
    linarith
  have habs : |2 * (k * 10 ^ p - m.toRat)| ≤ 10 ^ p := abs_le.mpr ⟨hhi2, hlo2⟩
  rwa [abs_mul, abs_two] at habs

theorem onGrid_eq_none (h : m.onGrid p = none) (k : Nat) : ¬ m.Covers (k * 10 ^ p) := by
  intro hk
  unfold onGrid at h
  dsimp only at h
  split at h
  · cases h
  · cases h
  · cases h
  · next hbelow habove => exact (hk.floorOn_lt hbelow).not_ge (hk.le_floorOn habove)

theorem nearestOnGrid_of_onGrid {k : Nat} (h : m.onGrid p = some k) : m.NearestOnGrid p k := by
  refine ⟨(m.coversDecimal_iff ⟨k, p⟩).mp (coversDecimal_of_onGrid h), fun j hj => ?_⟩
  have hfloor : (m.floorOn p : ℚ) * 10 ^ p ≤ m.toRat := floorOn_le
  have hceil : m.toRat < (m.floorOn p + 1 : Nat) * 10 ^ p := toRat_lt_floorOn_add_one
  unfold onGrid at h
  dsimp only at h
  split at h
  · rw [← Option.some.inj h]
    exact abs_sub_le_of_near (ten_zpow_pos p) abs_roundDiv_sub_le j
  · next habove =>
    have hjk : (j : ℚ) * 10 ^ p ≤ m.floorOn p * 10 ^ p := mul_zpow_le (hj.le_floorOn habove)
    rw [← show m.floorOn p = k from Option.some.inj h, abs_of_nonpos (by linarith),
      abs_of_nonpos (by linarith)]
    linarith
  · next hbelow _ =>
    have hjk : ((m.floorOn p + 1 : Nat) : ℚ) * 10 ^ p ≤ j * 10 ^ p :=
      mul_zpow_le (hj.floorOn_lt hbelow)
    rw [← show m.floorOn p + 1 = k from Option.some.inj h, abs_of_nonneg (by linarith),
      abs_of_nonneg (by linarith)]
    linarith
  · cases h

end OnGrid

/-! ## The coarsest grid -/

/-- The decimal is a nearest point of its grid, and no point of a coarser grid reads back. -/
structure Coarsest (m : Magnitude) (d : Decimal) : Prop where
  nearest : m.NearestOnGrid d.exponent d.digits
  not_covers : ∀ q > d.exponent, ∀ k : Nat, ¬ m.Covers (k * 10 ^ q)

theorem nearestOnGrid_of_eq {m : Magnitude} {p : ℤ} {k : Nat} (h : (k : ℚ) * 10 ^ p = m.toRat) :
    m.NearestOnGrid p k := by
  refine ⟨?_, fun j _ => ?_⟩
  · rw [h]
    exact m.covers_toRat
  · rw [h, sub_self, abs_zero]
    exact abs_nonneg _

/-- Where one is `2^n` units, every magnitude is a point of the grid `10^-n`. -/
theorem units_mul_zpow (m : Magnitude) {n : Nat} (h : Binary64.unitsOfOne = Nat.pow 2 n) :
    ((m.units * Nat.pow 5 n : Nat) : ℚ) * 10 ^ (-(n : ℤ)) = m.toRat := by
  rw [toRat, h, Nat.pow_eq, Nat.pow_eq, zpow_neg, zpow_natCast,
    show (10 : ℚ) = 2 * 5 by norm_num, mul_pow]
  push_cast
  field_simp

/-- The search stops on the coarsest grid, if it starts on one that is coarse enough. -/
theorem coarsest_shortestFrom {m : Magnitude} {n : Nat}
    (h : ∀ q > (n : ℤ) - 1074, ∀ k : Nat, ¬ m.Covers (k * 10 ^ q)) :
    m.Coarsest (m.shortestFrom n) := by
  induction n with
  | zero =>
    have hone : Binary64.unitsOfOne = Nat.pow 2 1074 := by unfold Binary64.unitsOfOne; rfl
    have hpoint := nearestOnGrid_of_eq (m.units_mul_zpow hone)
    rw [shortestFrom]
    exact ⟨hpoint, fun q hq => h q (by simpa using hq)⟩
  | succ n ih =>
    rw [shortestFrom]
    split
    · next k hk => exact ⟨nearestOnGrid_of_onGrid hk, h⟩
    · next hk =>
      refine ih fun q hq => ?_
      rcases eq_or_lt_of_le (show ((n + 1 : Nat) : ℤ) - 1074 ≤ q by push_cast; omega) with rfl | hlt
      · exact onGrid_eq_none hk
      · exact h q hlt

/-- A magnitude lies below ten to the number of its integer digits. -/
theorem toRat_lt_pow (m : Magnitude) :
    m.toRat < 10 ^ (Nat.toDigits 10 (m.units / Binary64.unitsOfOne)).length := by
  have hpos : 0 < Binary64.unitsOfOne := by exact_mod_cast Binary64.unitsOfOne_pos
  have hlt := (Nat.length_toDigits_le_iff (by decide) Nat.length_toDigits_pos).mp
    (le_refl (Nat.toDigits 10 (m.units / Binary64.unitsOfOne)).length)
  rw [Nat.div_lt_iff_lt_mul hpos] at hlt
  rw [toRat, div_lt_iff₀ Binary64.unitsOfOne_pos]
  exact_mod_cast hlt

/-- No grid coarser than ten to the number of integer digits meets the interval. -/
theorem not_covers_of_lt {m : Magnitude} (hm : m.mant ≠ 0) {q : ℤ}
    (hq : (Nat.toDigits 10 (m.units / Binary64.unitsOfOne)).length < q) (k : Nat) :
    ¬ m.Covers (k * 10 ^ q) := by
  intro h
  have hk : 1 ≤ k := by
    by_contra hk
    obtain rfl : k = 0 := by omega
    have := h.pos hm
    simp at this
  have hle := h.le_two_mul hm
  have hlt := m.toRat_lt_pow
  generalize (Nat.toDigits 10 (m.units / Binary64.unitsOfOne)).length = n at *
  have hten : (10 : ℚ) * 10 ^ n ≤ 10 ^ q := by
    rw [← pow_succ', ← zpow_natCast]
    exact zpow_le_zpow_right₀ (by norm_num) (by push_cast; omega)
  have hpoint : (1 : ℚ) * 10 ^ q ≤ k * 10 ^ q := by
    have := mul_zpow_le (p := q) hk
    rwa [Nat.cast_one] at this
  have hpos : (0 : ℚ) < 10 ^ n := by positivity
  linarith

theorem coarsest_shortest {m : Magnitude} (hm : m.mant ≠ 0) : m.Coarsest m.shortest := by
  rw [shortest, if_neg hm]
  refine coarsest_shortestFrom fun q hq => not_covers_of_lt hm ?_
  push_cast at hq
  omega

/-! ## The fewest digits -/

/-- A decimal that reads back, with no more digits than any other, and as near as any with as
    many. -/
structure IsShortest (m : Magnitude) (x : ℚ) (n : Nat) : Prop where
  covers : m.Covers x
  hasDigits : HasDigits n x
  le_of_hasDigits : ∀ y k, m.Covers y → HasDigits k y → n ≤ k
  abs_sub_le : ∀ y, m.Covers y → HasDigits n y → |x - m.toRat| ≤ |y - m.toRat|

theorem mul_zpow_lt {k n : Nat} (h : k < 10 ^ n) (p : ℤ) : (k : ℚ) * 10 ^ p < 10 ^ (n + p) := by
  rw [zpow_add₀ (by norm_num), zpow_natCast]
  exact mul_lt_mul_of_pos_right (by exact_mod_cast h) (ten_zpow_pos p)

theorem pow_mul_zpow_le {k n : Nat} (h : 10 ^ n ≤ k) (p : ℤ) : (10 : ℚ) ^ (n + p) ≤ k * 10 ^ p := by
  rw [zpow_add₀ (by norm_num), zpow_natCast]
  exact mul_le_mul_of_nonneg_right (by exact_mod_cast h) (ten_zpow_pos p).le

section Coarsest
variable {m : Magnitude} {d : Decimal}

theorem Coarsest.covers (hd : m.Coarsest d) : m.Covers d.toRat := hd.nearest.covers

theorem Coarsest.exponent_le (hd : m.Coarsest d) {p : ℤ} {k : Nat} (h : m.Covers (k * 10 ^ p)) :
    p ≤ d.exponent := by
  by_contra hlt
  exact hd.not_covers p (by omega) k h

theorem Coarsest.digits_pos (hd : m.Coarsest d) (hm : m.mant ≠ 0) : 0 < d.digits := by
  have h := hd.covers.pos hm
  rw [Decimal.toRat] at h
  exact_mod_cast pos_of_mul_pos_left h (ten_zpow_pos d.exponent).le

/-- The last digit is not a zero, for the same number lies on the next coarser grid else. -/
theorem Coarsest.digits_mod_ten (hd : m.Coarsest d) : d.digits % 10 ≠ 0 := by
  intro h
  obtain ⟨k, hk⟩ := Nat.dvd_of_mod_eq_zero h
  refine hd.not_covers (d.exponent + 1) (by omega) k ?_
  have heq : (k : ℚ) * 10 ^ (d.exponent + 1) = d.toRat := by
    rw [Decimal.toRat, hk, zpow_add₀ (by norm_num), zpow_one]
    push_cast
    ring
  rw [heq]
  exact hd.covers

/-- What reads back and does not reach the decade of the digits is there only if there is one
    digit, for the power of ten where the decade starts reads back as well. -/
theorem Coarsest.of_le (hd : m.Coarsest d) {n : Nat} (hn : 10 ^ n ≤ d.digits) {x : ℚ}
    (hx : m.Covers x) (hle : x ≤ 10 ^ (n + d.exponent)) : n = 0 ∧ m.Covers (10 ^ d.exponent) := by
  have hcovers := hx.of_between hd.covers hle (pow_mul_zpow_le hn d.exponent)
  have hone := hd.exponent_le (p := n + d.exponent) (k := 1) (by rwa [Nat.cast_one, one_mul])
  obtain rfl : n = 0 := by omega
  exact ⟨rfl, by simpa using hcovers⟩

end Coarsest

/-! ## A single digit on a finer grid -/

/-- An interval that reaches from nine tenths of a number to that number is one of the first few
    above zero. -/
theorem Covers.mant_le {m : Magnitude} {x y : ℚ} (hx : m.Covers x) (hy : m.Covers y)
    (hle : 10 * (x * quartersOfOne) ≤ 9 * (y * quartersOfOne)) : m.mant ≤ 9 ∧ m.exp = 0 := by
  have hends : 10 * m.lower ≤ 9 * m.upper := by
    have : (10 : ℚ) * m.lower ≤ 9 * m.upper := by linarith [hx.lower_le, hy.le_upper]
    exact_mod_cast this
  have hlower := m.four_mul_units_le
  rw [upper_eq] at hends
  rw [units_eq] at hends hlower
  have hmant : m.mant ≤ 9 := by
    by_contra hlt
    have := Nat.mul_le_mul_right (2 ^ m.exp) (show 10 ≤ m.mant by omega)
    have := Nat.two_pow_pos m.exp
    omega
  exact ⟨hmant, m.normal.resolve_right (by omega)⟩

/-- A power of ten between a half and ten units lies just above two units. -/
theorem zpow_bounds {p : ℤ} (hlo : (2 : ℚ) ≤ 10 ^ p * quartersOfOne)
    (hhi : (10 : ℚ) ^ p * quartersOfOne < 80) :
    8 ≤ (10 : ℚ) ^ p * quartersOfOne ∧ 5 * ((10 : ℚ) ^ p * quartersOfOne) ≤ 42 := by
  obtain ⟨n, hn, hn'⟩ : ∃ n, 8 * 10 ^ n ≤ quartersOfOne ∧ 5 * quartersOfOne ≤ 42 * 10 ^ n :=
    ⟨323, by decide +kernel⟩
  have hpow : (10 : ℚ) ^ (-(n : ℤ)) * 10 ^ n = 1 := by
    rw [← zpow_natCast, ← zpow_add₀ (by norm_num), neg_add_cancel, zpow_zero]
  have hpos := ten_zpow_pos (-(n : ℤ))
  have height : 8 ≤ (10 : ℚ) ^ (-(n : ℤ)) * quartersOfOne := by
    have : (8 * 10 ^ n : ℚ) ≤ quartersOfOne := by exact_mod_cast hn
    have := mul_le_mul_of_nonneg_left this hpos.le
    linarith
  have hfive : 5 * ((10 : ℚ) ^ (-(n : ℤ)) * quartersOfOne) ≤ 42 := by
    have : (5 * quartersOfOne : ℚ) ≤ 42 * 10 ^ n := by exact_mod_cast hn'
    have := mul_le_mul_of_nonneg_left this hpos.le
    linarith
  have hmono {a b : ℤ} (h : a + 1 ≤ b) :
      10 * ((10 : ℚ) ^ a * quartersOfOne) ≤ 10 ^ b * quartersOfOne := by
    rw [← mul_assoc, ← zpow_one_add₀ (by norm_num)]
    exact mul_le_mul_of_nonneg_right (zpow_le_zpow_right₀ (by norm_num) (by omega))
      quartersOfOne_pos.le
  rcases lt_trichotomy p (-(n : ℤ)) with hlt | rfl | hgt
  · have := hmono (show p + 1 ≤ -(n : ℤ) by omega)
    linarith
  · exact ⟨height, hfive⟩
  · have := hmono (show -(n : ℤ) + 1 ≤ p by omega)
    linarith

/-- A digit on a finer grid reads back together with a power of ten only in the interval of
    `2 · 2^-1074`, and there `10^-323` is nearer than `9 · 10^-324`. -/
theorem Covers.abs_sub_le_of_le {m : Magnitude} (hm : m.mant ≠ 0) {p : ℤ} {x : ℚ}
    (hp : m.Covers (10 ^ p)) (hx : m.Covers x) (hle : 10 * x ≤ 9 * 10 ^ p) :
    |10 ^ p - m.toRat| ≤ |x - m.toRat| := by
  have hscaled : 10 * (x * quartersOfOne) ≤ 9 * (10 ^ p * quartersOfOne) := by
    have := mul_le_mul_of_nonneg_right hle quartersOfOne_pos.le
    linarith
  obtain ⟨hmant, hexp⟩ := hx.mant_le hp hscaled
  have hquarters : m.quarters = 4 * m.mant := by rw [quarters, units_eq, hexp, pow_zero, mul_one]
  have hlower := m.four_mul_units_le
  have hupper := m.upper_eq
  rw [units_eq, hexp, pow_zero, mul_one] at hlower hupper
  have hlo : (4 * m.mant : ℚ) ≤ 10 ^ p * quartersOfOne + 2 := by
    have : (4 * m.mant : ℚ) ≤ m.lower + 2 := by exact_mod_cast hlower
    linarith [hp.lower_le]
  have hhi : (10 : ℚ) ^ p * quartersOfOne ≤ 4 * m.mant + 2 := by
    have : (m.upper : ℚ) = 4 * m.mant + 2 := by exact_mod_cast hupper
    linarith [hp.le_upper]
  have hone : (1 : ℚ) ≤ m.mant := by exact_mod_cast Nat.pos_of_ne_zero hm
  have hnine : (m.mant : ℚ) ≤ 9 := by exact_mod_cast hmant
  obtain ⟨height, hfive⟩ := zpow_bounds (by linarith) (by linarith)
  have htwo : m.mant = 2 := by
    have h1 : (4 * m.mant : ℚ) ≤ 11 := by linarith
    have h2 : (6 : ℚ) ≤ 4 * m.mant := by linarith
    have h1' : 4 * m.mant ≤ 11 := by exact_mod_cast h1
    have h2' : 6 ≤ 4 * m.mant := by exact_mod_cast h2
    omega
  rw [abs_sub_toRat, abs_sub_toRat, div_le_div_iff_of_pos_right quartersOfOne_pos, hquarters, htwo]
  push_cast
  rw [abs_of_nonneg (by linarith), abs_of_nonpos (by linarith)]
  linarith

/-! ## The shortest decimal -/

theorem isShortest_of_coarsest {m : Magnitude} (hm : m.mant ≠ 0) {d : Decimal} (hd : m.Coarsest d) :
    m.IsShortest d.toRat (Nat.toDigits 10 d.digits).length := by
  obtain ⟨n, hn⟩ : ∃ n, (Nat.toDigits 10 d.digits).length = n + 1 :=
    ⟨_, (Nat.succ_pred_eq_of_pos Nat.length_toDigits_pos).symm⟩
  have hlt : d.digits < 10 ^ (n + 1) :=
    (Nat.length_toDigits_le_iff (by decide) (by omega)).mp hn.le
  have hge : 10 ^ n ≤ d.digits := by
    rcases Nat.eq_zero_or_pos n with rfl | hpos
    · exact hd.digits_pos hm
    · rw [← not_lt, ← Nat.length_toDigits_le_iff (by decide) hpos, hn]
      omega
  rw [hn]
  refine ⟨hd.covers, ⟨_, _, hlt, rfl⟩, ?_, ?_⟩
  · rintro y k hy ⟨j, p, hj, rfl⟩
    by_contra hk
    have hp := hd.exponent_le hy
    have hle : (j : ℚ) * 10 ^ p ≤ 10 ^ (n + d.exponent) :=
      (mul_zpow_lt hj p).le.trans (zpow_le_zpow_right₀ (by norm_num) (by omega))
    obtain ⟨rfl, -⟩ := hd.of_le hge hy hle
    -- fewer digits than one are those of zero
    obtain rfl : k = 0 := by omega
    obtain rfl : j = 0 := by omega
    simpa using hy.pos hm
  · rintro y hy ⟨j, p, hj, rfl⟩
    rcases eq_or_lt_of_le (hd.exponent_le hy) with rfl | hp
    · exact hd.nearest.abs_sub_le j hy
    have hle : (j : ℚ) * 10 ^ p ≤ 10 ^ (n + d.exponent) :=
      (mul_zpow_lt hj p).le.trans (zpow_le_zpow_right₀ (by norm_num) (by push_cast; omega))
    obtain ⟨rfl, hpow⟩ := hd.of_le hge hy hle
    have hj9 : (j : ℚ) ≤ 9 := by
      exact_mod_cast (show j ≤ 9 by omega)
    have hfiner : 10 * ((j : ℚ) * 10 ^ p) ≤ 9 * 10 ^ d.exponent := by
      have hstep : (10 : ℚ) * 10 ^ p ≤ 10 ^ d.exponent := by
        rw [← zpow_one_add₀ (by norm_num)]
        exact zpow_le_zpow_right₀ (by norm_num) (by omega)
      calc 10 * ((j : ℚ) * 10 ^ p) = j * (10 * 10 ^ p) := by ring
        _ ≤ 9 * 10 ^ d.exponent := mul_le_mul hj9 hstep (by positivity) (by norm_num)
    have hnear := hd.nearest.abs_sub_le 1 (by rwa [Nat.cast_one, one_mul])
    rw [Nat.cast_one, one_mul] at hnear
    exact hnear.trans (hpow.abs_sub_le_of_le hm hy hfiner)

theorem isShortest_zero {m : Magnitude} (hm : m.mant = 0) : m.IsShortest m.shortest.toRat 0 := by
  have hzero : m.shortest.toRat = 0 := by
    rw [shortest, if_pos hm, Decimal.toRat, Nat.cast_zero, zero_mul]
  refine ⟨(m.coversDecimal_iff _).mp m.coversDecimal_shortest, ⟨0, 0, by decide, ?_⟩,
    fun _ k _ _ => k.zero_le, fun y _ _ => ?_⟩
  · rw [hzero, Nat.cast_zero, zero_mul]
  · have hvalue : m.toRat = 0 := by rw [toRat, units, hm, Nat.zero_mul, Nat.cast_zero, zero_div]
    rw [hzero, hvalue, sub_self, abs_zero]
    exact abs_nonneg _

theorem isShortest_shortest (m : Magnitude) : ∃ n, m.IsShortest m.shortest.toRat n := by
  rcases eq_or_ne m.mant 0 with hm | hm
  · exact ⟨0, isShortest_zero hm⟩
  · exact ⟨_, isShortest_of_coarsest hm (coarsest_shortest hm)⟩

/-- Twice the smallest magnitude, which `10^-323` and `9 · 10^-324` both round to. -/
example : shortest ⟨2, 0, by decide, by decide, .inl rfl⟩ = ⟨1, -323⟩ := by decide +kernel

end Magnitude

end Abacus
