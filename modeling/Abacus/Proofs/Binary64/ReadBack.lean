import Abacus.Binary64.Decimal
import Mathlib.Tactic.ByContra
import Mathlib.Tactic.Ring

/-!
# Shortest decimals read back

A decimal in the interval of a double rounds to that double, and the search for
the shortest decimal only stops inside the interval. So what is written for a
finite double is read as the same double.

* `roundDiv_eq_of_near`: the integer within half a unit is the nearest one.
* `round_of_covers`: every quotient that a magnitude covers rounds to it.
* `coversDecimal_shortest`: the shortest decimal lies in the interval.
* `ofDecimal_shortest`: reading the shortest decimal gives the magnitude.
-/

namespace Abacus

/-- An integer within half a unit of a quotient, and closer than that when it is odd, is the
    one that the quotient rounds to. -/
theorem roundDiv_eq_of_near {num den k : Nat} (hd : 0 < den) (hlo : 2 * (k * den) ≤ 2 * num + den)
    (hhi : 2 * num ≤ 2 * (k * den) + den)
    (hodd : k % 2 = 1 → 2 * (k * den) < 2 * num + den ∧ 2 * num < 2 * (k * den) + den) :
    roundDiv num den = k := by
  have hnum : num = num / den * den + num % den := by
    rw [Nat.mul_comm]; exact (Nat.div_add_mod num den).symm
  have hrest : num % den < den := Nat.mod_lt num hd
  unfold roundDiv
  dsimp only
  generalize num / den = f at *
  generalize num % den = r at *
  rcases Nat.lt_or_ge k f with hlt | hge
  · have := Nat.mul_le_mul_right den (show k + 1 ≤ f from hlt)
    rw [Nat.add_mul] at this
    omega
  rcases Nat.eq_or_lt_of_le hge with rfl | hgt
  · split
    · rfl
    · split
      · omega
      · rw [if_pos]
        by_contra h
        have := (hodd (by omega)).2
        omega
  rcases Nat.eq_or_lt_of_le (show f + 1 ≤ k from hgt) with rfl | hgt
  · rw [Nat.add_mul] at *
    split
    · omega
    · split
      · rfl
      · split
        · have := (hodd (by omega)).1
          omega
        · rfl
  · have := Nat.mul_le_mul_right den (show f + 2 ≤ k from hgt)
    rw [Nat.add_mul] at this
    omega

/-! ## The interval of a magnitude -/

namespace Magnitude

theorem covers_iff (m : Magnitude) (num den : Nat) :
    m.covers num den = true ↔
      m.lower * den ≤ num ∧ num ≤ m.upper * den ∧
        (m.mant % 2 = 1 → m.lower * den < num ∧ num < m.upper * den) := by
  unfold covers
  split
  · simp only [Bool.and_eq_true, decide_eq_true_eq]
    constructor
    · exact fun h => ⟨h.1, h.2, fun hodd => by omega⟩
    · exact fun h => ⟨h.1, h.2.1⟩
  · simp only [Bool.and_eq_true, decide_eq_true_eq]
    constructor
    · exact fun h => ⟨by omega, by omega, fun _ => h⟩
    · exact fun h => h.2.2 (by omega)

/-- The interval of a magnitude with the unit in its last place, `w`, scaled by a divisor: it
    reaches half a unit to both sides, and a quarter below a power of two. -/
theorem near_of_covers {m : Magnitude} {num den : Nat} (h : m.covers (4 * num) den = true) {w : Nat}
    (hw : w = den * 2 ^ m.exp) :
    2 * (m.mant * w) ≤ 2 * num + w ∧ 2 * num ≤ 2 * (m.mant * w) + w ∧
      (m.mant % 2 = 1 → 2 * (m.mant * w) < 2 * num + w ∧ 2 * num < 2 * (m.mant * w) + w) ∧
      (m.mant = 0x10000000000000 → 0 < m.exp → 4 * (m.mant * w) ≤ 4 * num + w) := by
  obtain ⟨hlo, hhi, hodd⟩ := (m.covers_iff _ _).mp h
  have hmid : 4 * (m.mant * 2 ^ m.exp) * den = 4 * (m.mant * w) := by rw [hw]; ring
  have hgap : 2 ^ m.exp * den = w := by rw [hw]; ring
  have hupper : m.upper * den = 4 * (m.mant * w) + 2 * w := by
    rw [upper, quarters, units, Nat.pow_eq, Nat.add_mul, hmid, Nat.mul_assoc, hgap]
  have hlower : 4 * (m.mant * w) ≤ m.lower * den + 2 * w ∧
      (m.mant = 0x10000000000000 → 0 < m.exp → 4 * (m.mant * w) ≤ m.lower * den + w) := by
    rw [lower, quarters, units, Nat.pow_eq, Nat.sub_mul, hmid]
    split
    · rw [hgap]
      exact ⟨by omega, fun _ _ => by omega⟩
    · next hne =>
      rw [Nat.mul_assoc, hgap]
      exact ⟨by omega, fun h1 h2 => absurd ⟨h1, h2⟩ hne⟩
  rw [hupper] at hhi hodd
  refine ⟨by omega, by omega, fun ho => ?_, fun h1 h2 => ?_⟩
  · have := hodd ho
    omega
  · have := hlower.2 h1 h2
    omega

/-! ## Rounding -/

theorem ofParts?_eq_some (m : Magnitude) : ofParts? m.mant m.exp = some m :=
  dif_pos ⟨m.mant_lt, m.exp_le, m.normal⟩

end Magnitude

namespace Binary64

theorem ofParts_eq_finite (neg : Bool) (m : Magnitude) :
    ofParts neg m.mant m.exp = .finite neg m := by
  rw [ofParts, m.ofParts?_eq_some]

/-- The exponent that leaves 53 bits of a quotient between two powers of two. -/
theorem log2_sub_eq {q e : Nat} (hlo : 0x10000000000000 * 2 ^ e ≤ q)
    (hhi : q < 0x20000000000000 * 2 ^ e) : Nat.log2 q - 52 = e := by
  have hpos : 0 < 2 ^ e := Nat.two_pow_pos e
  have hne : q ≠ 0 := by omega
  have h1 : 52 + e ≤ Nat.log2 q := by
    rw [Nat.le_log2 hne, Nat.pow_add]
    exact hlo
  have h2 : Nat.log2 q < 53 + e := by
    rw [Nat.log2_lt hne, Nat.pow_add]
    exact hhi
  omega

theorem log2_sub_eq_zero {q : Nat} (h : q < 0x20000000000000) : Nat.log2 q - 52 = 0 := by
  rcases Nat.eq_zero_or_pos q with rfl | hpos
  · rfl
  · have : Nat.log2 q < 53 := (Nat.log2_lt (by omega)).mpr h
    omega

/-- Rounding with a given exponent, when that is the one that leaves 53 bits. -/
theorem round_of_exp {num den e : Nat} (he : Nat.log2 (num / den) - 52 = e) {k : Nat}
    (hk : roundDiv num (den * 2 ^ e) = k) (neg : Bool) :
    round neg num den =
      if k = 0x20000000000000 then ofParts neg 0x10000000000000 (e + 1) else ofParts neg k e := by
  unfold round
  rw [he]
  dsimp only
  rw [Nat.pow_eq, hk]

/-- Every quotient in the interval of a magnitude rounds to it. -/
theorem round_of_covers {m : Magnitude} {num den : Nat} (hd : 0 < den)
    (h : m.covers (4 * num) den = true) (neg : Bool) : round neg num den = .finite neg m := by
  obtain ⟨hlo, hhi, hodd, hpow⟩ := Magnitude.near_of_covers h rfl
  have hmant := m.mant_lt
  have hw : 0 < den * 2 ^ m.exp := Nat.mul_pos hd (Nat.two_pow_pos _)
  have hround := roundDiv_eq_of_near hw hlo hhi hodd
  have hdone (he : Nat.log2 (num / den) - 52 = m.exp) : round neg num den = .finite neg m := by
    rw [round_of_exp he hround, if_neg (by omega), ofParts_eq_finite]
  have hassoc (c e : Nat) : c * 2 ^ e * den = c * (den * 2 ^ e) := by ring
  rcases Nat.eq_zero_or_pos m.exp with he | he
  · -- a subnormal or one of the first normal magnitudes, whose exponent is the least
    rw [he, Nat.pow_zero, Nat.mul_one] at hhi
    have := Nat.mul_le_mul_right den (show m.mant ≤ 0x1FFFFFFFFFFFFF by omega)
    refine hdone ?_
    rw [he]
    exact log2_sub_eq_zero ((Nat.div_lt_iff_lt_mul hd).mpr (by omega))
  have hnormal : 0x10000000000000 ≤ m.mant := by
    have := m.normal
    omega
  rcases Nat.lt_or_ge num (0x10000000000000 * (den * 2 ^ m.exp)) with hlt | hge
  · -- just below a power of two the quotient has the exponent before, and rounds up
    have hm : m.mant = 0x10000000000000 := by
      by_contra hne
      have := Nat.mul_le_mul_right (den * 2 ^ m.exp) (show 0x10000000000001 ≤ m.mant by omega)
      omega
    obtain ⟨e, hexp⟩ : ∃ e, m.exp = e + 1 := ⟨m.exp - 1, by omega⟩
    have hv : 0 < den * 2 ^ e := Nat.mul_pos hd (Nat.two_pow_pos e)
    have hdouble : den * 2 ^ m.exp = 2 * (den * 2 ^ e) := by rw [hexp]; ring
    have hquarter := hpow hm he
    rw [hm, hdouble] at hquarter
    rw [hdouble] at hlt
    have hr : roundDiv num (den * 2 ^ e) = 0x20000000000000 :=
      roundDiv_eq_of_near hv (by omega) (by omega) (by omega)
    have hlog : Nat.log2 (num / den) - 52 = e := by
      refine log2_sub_eq ((Nat.le_div_iff_mul_le hd).mpr ?_) ((Nat.div_lt_iff_lt_mul hd).mpr ?_)
      · rw [hassoc]; omega
      · rw [hassoc]; omega
    rw [round_of_exp hlog hr, if_pos rfl, ← hexp, ← hm, ofParts_eq_finite]
  · have := Nat.mul_le_mul_right (den * 2 ^ m.exp) (show m.mant ≤ 0x1FFFFFFFFFFFFF by omega)
    refine hdone (log2_sub_eq ((Nat.le_div_iff_mul_le hd).mpr ?_)
      ((Nat.div_lt_iff_lt_mul hd).mpr ?_))
    · rw [hassoc]; exact hge
    · rw [hassoc]; omega

end Binary64

/-! ## The shortest decimal -/

namespace Magnitude

/-- A magnitude lies in its own interval. -/
theorem covers_quarters (m : Magnitude) {den : Nat} (hd : 0 < den) :
    m.covers (m.quarters * den) den = true := by
  have hpow : 0 < 2 ^ m.exp := Nat.two_pow_pos _
  have hup : m.quarters < m.upper := by
    rw [upper, Nat.pow_eq]
    omega
  rw [covers_iff]
  refine ⟨Nat.mul_le_mul_right den (Nat.sub_le _ _), Nat.mul_le_mul_right den hup.le,
    fun hodd => ⟨Nat.mul_lt_mul_of_pos_right ?_ hd, Nat.mul_lt_mul_of_pos_right hup hd⟩⟩
  have hm : 0 < m.mant := by omega
  have hq : 0 < m.quarters := by
    rw [quarters, units, Nat.pow_eq]
    exact Nat.mul_pos (by omega) (Nat.mul_pos hm hpow)
  rw [lower, Nat.pow_eq]
  split <;> omega

/-- The decimal lies in the interval of the magnitude. -/
def CoversDecimal (m : Magnitude) (d : Decimal) : Prop :=
  m.covers (gridPoint d.exponent d.digits).1 (gridPoint d.exponent d.digits).2 = true

/-- The search keeps a point of a grid only if it lies in the interval. -/
theorem coversDecimal_of_onGrid {m : Magnitude} {p : Int} {k : Nat} (h : m.onGrid p = some k) :
    m.CoversDecimal ⟨k, p⟩ := by
  unfold CoversDecimal
  unfold onGrid at h
  dsimp only at h ⊢
  split at h
  · next hb ha =>
    rw [← Option.some.inj h]
    rcases roundDiv_cases (m.quarters * Nat.pow 10 (-p).toNat)
      (Nat.pow 10 p.toNat * quartersOfOne) with ⟨hk, -⟩ | ⟨hk, -⟩
    · rw [hk]; exact hb
    · rw [hk]; exact ha
  · next hb _ => rw [← Option.some.inj h]; exact hb
  · next _ ha => rw [← Option.some.inj h]; exact ha
  · exact absurd h (Option.some_ne_none k).symm

/-- Where one is `2^n` units, every magnitude is a point of the grid `10^-n`. -/
theorem coversDecimal_of_unitsOfOne (m : Magnitude) {n : Nat} {p : Int} (hp : p = -(n : Int))
    (h : Binary64.unitsOfOne = Nat.pow 2 n) : m.CoversDecimal ⟨m.units * Nat.pow 5 n, p⟩ := by
  have hten : (10 : Nat) ^ n = 2 ^ n * 5 ^ n := by rw [← Nat.mul_pow]
  have hpoint : gridPoint p (m.units * Nat.pow 5 n) = (m.quarters * 10 ^ n, 10 ^ n) := by
    rw [hp, gridPoint, Int.neg_neg, Int.toNat_neg_natCast, Int.toNat_natCast, quartersOfOne, h,
      quarters, Nat.pow_eq, Nat.pow_eq, Nat.pow_eq, Nat.pow_eq, hten]
    refine Prod.ext ?_ rfl
    ring
  unfold CoversDecimal
  dsimp only
  rw [hpoint]
  exact m.covers_quarters (Nat.pow_pos (by omega))

theorem coversDecimal_shortestFrom (m : Magnitude) (n : Nat) :
    m.CoversDecimal (m.shortestFrom n) := by
  induction n with
  | zero =>
    have hone : Binary64.unitsOfOne = Nat.pow 2 1074 := by unfold Binary64.unitsOfOne; rfl
    have h := coversDecimal_of_unitsOfOne m rfl hone
    rwa [shortestFrom]
  | succ n ih =>
    rw [shortestFrom]
    split
    · next k hk => exact coversDecimal_of_onGrid hk
    · exact ih

theorem coversDecimal_shortest (m : Magnitude) : m.CoversDecimal m.shortest := by
  unfold shortest
  split
  · next h0 =>
    have h := m.covers_quarters Nat.one_pos
    rw [quarters, units, h0, Nat.zero_mul, Nat.mul_zero, Nat.zero_mul] at h
    rw [CoversDecimal, gridPoint]
    dsimp only
    rw [Nat.zero_mul]
    exact h
  · exact m.coversDecimal_shortestFrom _

/-- A decimal in the interval of a magnitude is read as it. -/
theorem ofDecimal_of_covers {m : Magnitude} {d : Decimal} (h : m.CoversDecimal d) (neg : Bool) :
    Binary64.ofDecimal neg d = .finite neg m := by
  unfold CoversDecimal gridPoint quartersOfOne at h
  unfold Binary64.ofDecimal
  dsimp only at h
  generalize Binary64.unitsOfOne = u at *
  split
  · next hexp =>
    rw [show (-d.exponent).toNat = 0 by omega] at h
    refine Binary64.round_of_covers Nat.one_pos ?_ neg
    rw [← h]
    congr 1
    ring
  · next hexp =>
    rw [show d.exponent.toNat = 0 by omega] at h
    refine Binary64.round_of_covers (Nat.pow_pos (by omega)) ?_ neg
    rw [← h]
    congr 1
    rw [Nat.pow_eq, Nat.pow_zero]
    ring

theorem ofDecimal_shortest (m : Magnitude) (neg : Bool) :
    Binary64.ofDecimal neg m.shortest = .finite neg m :=
  ofDecimal_of_covers m.coversDecimal_shortest neg

end Magnitude

end Abacus
