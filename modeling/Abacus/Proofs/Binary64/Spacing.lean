import Abacus.Proofs.Binary64.ReadBack
import Abacus.Proofs.Binary64.Sign

/-!
# The spacing of magnitudes

Between a magnitude and the next one lies a unit in its last place, and half of that below a
power of two. So the ends of the interval of a magnitude are the midpoints to its neighbours,
the intervals leave nothing out, and a rounding always lands in the interval that its quotient
lies in.

* `units_injective`: magnitudes of one value are one.
* `two_mul_upper_le`, `le_two_mul_lower`: the ends of an interval.
* `exists_between`: two even magnitudes are not neighbours.
* `round_covers`: every quotient is rounded into its interval, or overflows.
-/

namespace Abacus

namespace Magnitude

theorem units_eq (m : Magnitude) : m.units = m.mant * 2 ^ m.exp := by
  rw [units, Nat.pow_eq]

theorem upper_eq (m : Magnitude) : m.upper = 4 * m.units + 2 * 2 ^ m.exp := by
  rw [upper, quarters, Nat.pow_eq]

theorem mant_ge_of_exp_pos {m : Magnitude} (h : 0 < m.exp) : 0x10000000000000 ≤ m.mant :=
  m.normal.resolve_left (by omega)

/-! ## Order -/

/-- A magnitude of a greater exponent lies at least a unit in the last place above. -/
theorem units_add_le_of_exp_lt {m n : Magnitude} (h : m.exp < n.exp) :
    m.units + 2 ^ m.exp ≤ n.units := by
  have hn := mant_ge_of_exp_pos (show 0 < n.exp by omega)
  calc m.units + 2 ^ m.exp = (m.mant + 1) * 2 ^ m.exp := by rw [units_eq]; ring
    _ ≤ 0x20000000000000 * 2 ^ m.exp := Nat.mul_le_mul_right _ m.mant_lt
    _ = 0x10000000000000 * 2 ^ (m.exp + 1) := by ring
    _ ≤ n.mant * 2 ^ n.exp := Nat.mul_le_mul hn (Nat.pow_le_pow_right (by omega) h)
    _ = n.units := n.units_eq.symm

theorem units_add_le {m n : Magnitude} (h : m.units < n.units) :
    m.units + 2 ^ m.exp ≤ n.units := by
  rcases Nat.lt_trichotomy m.exp n.exp with hlt | heq | hgt
  · exact units_add_le_of_exp_lt hlt
  · rw [units_eq, units_eq, ← heq] at h
    have hmant : m.mant < n.mant := Nat.lt_of_mul_lt_mul_right h
    rw [units_eq, units_eq, ← heq, ← Nat.succ_mul]
    exact Nat.mul_le_mul_right _ hmant
  · have := units_add_le_of_exp_lt hgt
    have := Nat.two_pow_pos n.exp
    omega

theorem units_injective {m n : Magnitude} (h : m.units = n.units) : m = n := by
  have hm := Nat.two_pow_pos m.exp
  have hn := Nat.two_pow_pos n.exp
  have hexp : m.exp = n.exp := by
    rcases Nat.lt_trichotomy m.exp n.exp with hlt | heq | hgt
    · have := units_add_le_of_exp_lt hlt
      omega
    · exact heq
    · have := units_add_le_of_exp_lt hgt
      omega
  rw [units_eq, units_eq, ← hexp] at h
  have hmant : m.mant = n.mant := Nat.eq_of_mul_eq_mul_right hm h
  obtain ⟨mant, exp, _, _, _⟩ := m
  obtain ⟨mant', exp', _, _, _⟩ := n
  subst hmant hexp
  rfl

/-- A magnitude of a smaller exponent lies at least half a unit in the last place below. -/
theorem two_mul_units_add_le {m n : Magnitude} (h : n.exp < m.exp) :
    2 * n.units + 2 ^ m.exp ≤ 0x20000000000000 * 2 ^ m.exp := by
  have hn := n.mant_lt
  obtain ⟨e, he⟩ : ∃ e, m.exp = e + 1 := ⟨m.exp - 1, by omega⟩
  have hpow : (2 : Nat) ^ n.exp ≤ 2 ^ e := Nat.pow_le_pow_right (by omega) (by omega)
  have hunits : n.units ≤ 0x1FFFFFFFFFFFFF * 2 ^ e := by
    rw [units_eq]
    exact Nat.mul_le_mul (by omega) hpow
  rw [he, Nat.pow_succ]
  omega

/-- The upper end of an interval is no higher than the midpoint to a magnitude above. -/
theorem two_mul_upper_le {m n : Magnitude} (h : m.units < n.units) :
    2 * m.upper ≤ m.quarters + n.quarters := by
  have := units_add_le h
  rw [upper_eq, quarters, quarters]
  omega

/-- The lower end of an interval is no lower than the midpoint to a magnitude below. -/
theorem le_two_mul_lower {m n : Magnitude} (h : n.units < m.units) :
    n.quarters + m.quarters ≤ 2 * m.lower := by
  have hadd := units_add_le h
  have hspace : (m.mant = 0x10000000000000 ∧ 0 < m.exp → 2 * n.units + 2 ^ m.exp ≤ 2 * m.units) ∧
      (¬ (m.mant = 0x10000000000000 ∧ 0 < m.exp) → n.units + 2 ^ m.exp ≤ m.units) := by
    rcases Nat.lt_trichotomy n.exp m.exp with hlt | heq | hgt
    · have hhalf := two_mul_units_add_le hlt
      have hmant := mant_ge_of_exp_pos (show 0 < m.exp by omega)
      rw [m.units_eq]
      refine ⟨fun ⟨hm, _⟩ => ?_, fun hne => ?_⟩
      · rw [hm]
        omega
      · have := Nat.mul_le_mul_right (2 ^ m.exp) (show 0x10000000000001 ≤ m.mant by omega)
        omega
    · rw [← heq]
      exact ⟨fun _ => by omega, fun _ => hadd⟩
    · have := units_add_le_of_exp_lt hgt
      have := Nat.two_pow_pos m.exp
      omega
  unfold lower quarters
  dsimp only
  rw [Nat.pow_eq]
  split
  · next hm =>
    have := hspace.1 hm
    omega
  · next hm =>
    have := hspace.2 hm
    omega

/-- Between two magnitudes with even significands lies a third. -/
theorem exists_between {m n : Magnitude} (hm : m.mant % 2 = 0) (hn : n.mant % 2 = 0)
    (h : m.units < n.units) : ∃ k : Magnitude, m.units < k.units ∧ k.units < n.units := by
  have hlt := m.mant_lt
  let k : Magnitude := ⟨m.mant + 1, m.exp, by omega, m.exp_le, m.normal.imp_right (by omega)⟩
  have hpos := Nat.two_pow_pos m.exp
  have hk : k.units = m.units + 2 ^ m.exp := by
    rw [k.units_eq, m.units_eq]
    exact Nat.succ_mul m.mant (2 ^ m.exp)
  refine ⟨k, by omega, Nat.lt_of_le_of_ne (by rw [hk]; exact units_add_le h) fun heq => ?_⟩
  -- the next magnitude is odd, so it is not `n`
  have : m.mant + 1 = n.mant := congrArg mant (units_injective heq)
  omega

/-! ## Intervals -/

/-- What lies near enough to a magnitude, counted in units in the last place `w`, lies in its
    interval. -/
theorem covers_of_near {m : Magnitude} {num den w : Nat} (hw : w = den * 2 ^ m.exp)
    (hlo : 2 * (m.mant * w) ≤ 2 * num + w) (hhi : 2 * num ≤ 2 * (m.mant * w) + w)
    (hodd : m.mant % 2 = 1 → 2 * (m.mant * w) < 2 * num + w ∧ 2 * num < 2 * (m.mant * w) + w)
    (hpow : m.mant = 0x10000000000000 → 0 < m.exp → 4 * (m.mant * w) ≤ 4 * num + w) :
    m.covers (4 * num) den = true := by
  have hmid : 4 * (m.mant * 2 ^ m.exp) * den = 4 * (m.mant * w) := by rw [hw]; ring
  have hgap : 2 ^ m.exp * den = w := by rw [hw]; ring
  have hupper : m.upper * den = 4 * (m.mant * w) + 2 * w := by
    rw [upper_eq, units_eq, Nat.add_mul, hmid, Nat.mul_assoc, hgap]
  have hlower : m.lower * den ≤ 4 * num ∧ (m.mant % 2 = 1 → m.lower * den < 4 * num) := by
    rw [lower, quarters, units_eq, Nat.pow_eq, Nat.sub_mul, hmid]
    split
    · next h =>
      have := hpow h.1 h.2
      rw [hgap]
      exact ⟨by omega, fun _ => by omega⟩
    · rw [Nat.mul_assoc, hgap]
      refine ⟨by omega, fun ho => ?_⟩
      have := hodd ho
      have := Nat.le_mul_of_pos_left w (show 0 < m.mant by omega)
      omega
  rw [covers_iff, hupper]
  refine ⟨hlower.1, by omega, fun ho => ⟨hlower.2 ho, ?_⟩⟩
  have := hodd ho
  omega

end Magnitude

/-! ## Rounding -/

/-- A quotient lies within half a unit of the integer it is rounded to, and closer than that
    when the integer is odd. -/
theorem roundDiv_near (num : Nat) {den : Nat} (hd : 0 < den) :
    2 * (roundDiv num den * den) ≤ 2 * num + den ∧
    2 * num ≤ 2 * (roundDiv num den * den) + den ∧
    (roundDiv num den % 2 = 1 → 2 * (roundDiv num den * den) < 2 * num + den ∧
      2 * num < 2 * (roundDiv num den * den) + den) := by
  have hnum : num = num / den * den + num % den := by
    rw [Nat.mul_comm]; exact (Nat.div_add_mod num den).symm
  have hrest : num % den < den := Nat.mod_lt num hd
  unfold roundDiv
  dsimp only
  generalize num / den = f at *
  generalize num % den = r at *
  split
  · exact ⟨by omega, by omega, fun _ => by omega⟩
  split
  · rw [Nat.add_mul]
    exact ⟨by omega, by omega, fun _ => by omega⟩
  split
  · exact ⟨by omega, by omega, fun _ => by omega⟩
  · rw [Nat.add_mul]
    exact ⟨by omega, by omega, fun _ => by omega⟩

theorem roundDiv_le {num den c : Nat} (h : num < c * den) : roundDiv num den ≤ c := by
  have hdiv : num / den < c := Nat.div_lt_of_lt_mul (by rwa [Nat.mul_comm])
  rcases roundDiv_cases num den with ⟨hr, -⟩ | ⟨hr, -⟩
  · omega
  · omega

namespace Binary64

/-- The exponent of a rounding leaves 53 bits of the quotient, or is the least one. -/
theorem exp_bounds (num : Nat) {den e : Nat} (hd : 0 < den)
    (he : e = Nat.log2 (num / den) - 52) :
    num < 0x20000000000000 * (den * 2 ^ e) ∧
      (0 < e → 0x10000000000000 * (den * 2 ^ e) ≤ num) := by
  have hassoc (c : Nat) : c * (den * 2 ^ e) = c * 2 ^ e * den := by ring
  rw [hassoc, hassoc]
  rcases Nat.eq_zero_or_pos (num / den) with hq | hq
  · rw [hq] at he
    have he0 : e = 0 := by rw [he]; decide
    refine ⟨(Nat.div_lt_iff_lt_mul hd).mp ?_, fun hpos => by omega⟩
    rw [hq, he0]
    decide
  · have hne : num / den ≠ 0 := by omega
    refine ⟨(Nat.div_lt_iff_lt_mul hd).mp ?_, fun hpos => (Nat.le_div_iff_mul_le hd).mp ?_⟩
    · have hlog : Nat.log2 (num / den) < 53 + e := by omega
      rw [Nat.log2_lt hne, Nat.pow_add] at hlog
      exact hlog
    · have hlog : 52 + e ≤ Nat.log2 (num / den) := by omega
      rw [Nat.le_log2 hne, Nat.pow_add] at hlog
      exact hlog

theorem ofParts_of_le (neg : Bool) {mant e : Nat} (hmant : mant < 0x20000000000000)
    (hnormal : e = 0 ∨ 0x10000000000000 ≤ mant) (he : e ≤ 2045) :
    ofParts neg mant e = .finite neg ⟨mant, e, hmant, he, hnormal⟩ :=
  ofParts_eq_finite neg ⟨mant, e, hmant, he, hnormal⟩

theorem ofParts_of_lt (neg : Bool) (mant : Nat) {e : Nat} (he : 2045 < e) :
    ofParts neg mant e = .infinite neg := by
  rw [ofParts, Magnitude.ofParts?, dif_neg (by omega)]

/-- A quotient is rounded to the magnitude in whose interval it lies, or to an infinity if it is
    at least half a unit in the last place above the greatest magnitude. -/
theorem round_covers (neg : Bool) (num : Nat) {den : Nat} (hd : 0 < den) :
    (∃ m, round neg num den = .finite neg m ∧ m.covers (4 * num) den = true) ∨
      (round neg num den = .infinite neg ∧ 0x3FFFFFFFFFFFFF * (den * 2 ^ 2045) ≤ 2 * num) := by
  obtain ⟨e, he⟩ : ∃ e, e = Nat.log2 (num / den) - 52 := ⟨_, rfl⟩
  obtain ⟨hlt, hge⟩ := exp_bounds num hd he
  have hw : 0 < den * 2 ^ e := Nat.mul_pos hd (Nat.two_pow_pos e)
  obtain ⟨hlo, hhi, hodd⟩ := roundDiv_near num hw
  have hk : roundDiv num (den * 2 ^ e) ≤ 0x20000000000000 := roundDiv_le hlt
  have hnormal : e = 0 ∨ 0x10000000000000 ≤ roundDiv num (den * 2 ^ e) :=
    e.eq_zero_or_pos.imp_right fun hpos =>
      ((Nat.le_div_iff_mul_le hw).mpr (hge hpos)).trans (le_roundDiv ..)
  rw [round_of_exp he.symm rfl]
  generalize roundDiv num (den * 2 ^ e) = k at *
  have hover {f : Nat} (hf : 2045 ≤ f) : den * 2 ^ 2045 ≤ den * 2 ^ f := by
    gcongr
    decide
  split
  · next hk =>
    rw [hk] at hlo
    rcases Nat.lt_or_ge e 2045 with hle | hgt
    · -- the significand has become a power of two, so the unit doubles
      rw [ofParts_of_le neg (by decide) (.inr (by decide)) hle]
      refine .inl ⟨_, rfl, Magnitude.covers_of_near (w := 2 * (den * 2 ^ e)) ?_ ?_ ?_ ?_ ?_⟩
      all_goals dsimp only
      · rw [Nat.pow_succ]
        ring
      · omega
      · omega
      · omega
      · omega
    · rw [ofParts_of_lt neg _ (by omega)]
      have := hover hgt
      exact .inr ⟨rfl, by omega⟩
  · rcases Nat.lt_or_ge 2045 e with hgt | hle
    · rw [ofParts_of_lt neg _ hgt]
      obtain ⟨f, rfl⟩ : ∃ f, e = f + 1 := ⟨e - 1, by omega⟩
      have hdouble : den * 2 ^ (f + 1) = 2 * (den * 2 ^ f) := by rw [Nat.pow_succ]; ring
      have := hover (show 2045 ≤ f by omega)
      have := hge (by omega)
      exact .inr ⟨rfl, by omega⟩
    · rw [ofParts_of_le neg (by omega) hnormal hle]
      refine .inl ⟨_, rfl, Magnitude.covers_of_near (w := den * 2 ^ e) rfl hlo hhi hodd ?_⟩
      dsimp only
      intro hm hpos
      have := hge hpos
      rw [hm]
      omega

end Binary64

end Abacus
