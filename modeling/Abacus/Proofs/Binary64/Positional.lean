import Abacus.Proofs.Binary64.Shortest
import Abacus.Proofs.Token.Lexing

/-!
# The text of a finite number

A decimal without a zero at its end is written plainly: no zero stands at the front of the
whole part, unless it is the whole of it, and none at the end of the fraction. So the text of a
finite number is a plain literal with a sign, and its value is the shortest decimal that is
read back.

* `exists_toDigits_eq_cons`, `exists_toDigits_eq_append`: the ends of a row of digits.
* `Decimal.plain_literal`: how a decimal is written.
* `Binary64.text_shortest`: what the text of a finite number says.
-/

namespace Abacus

/-! ## Digits -/

theorem digitChar_ne_zero : ∀ d < 10, 0 < d → d.digitChar ≠ '0' := by decide

/-- The first digit of a number other than zero is not a zero. -/
theorem exists_toDigits_eq_cons {n : Nat} (h : 0 < n) :
    ∃ c cs, Nat.toDigits 10 n = c :: cs ∧ c ≠ '0' := by
  induction n using Nat.strongRecOn with
  | ind n ih =>
    rcases Nat.lt_or_ge n 10 with hlt | hge
    · exact ⟨_, _, Nat.toDigits_of_lt_base hlt, digitChar_ne_zero n hlt h⟩
    · obtain ⟨c, cs, hcs, hc⟩ := ih (n / 10) (by omega) (by omega)
      exact ⟨c, _, by rw [Nat.toDigits_of_base_le (by decide) hge, hcs, List.cons_append], hc⟩

/-- The last digit of a number is its remainder. -/
theorem exists_toDigits_eq_append (n : Nat) :
    ∃ cs, Nat.toDigits 10 n = cs ++ [(n % 10).digitChar] := by
  rcases Nat.lt_or_ge n 10 with hlt | hge
  · exact ⟨[], by rw [Nat.toDigits_of_lt_base hlt, Nat.mod_eq_of_lt hlt, List.nil_append]⟩
  · exact ⟨_, Nat.toDigits_of_base_le (by decide) hge⟩

/-! ## Plain literals -/

/-- A literal with digits in front of its point, no zero in front of another of these, and no zero
    at the end of its fraction. -/
structure Literal.Plain (l : Literal) : Prop extends l.WellFormed where
  whole_eq : l.whole = ['0'] ∨ ∃ c cs, l.whole = c :: cs ∧ c ≠ '0'
  fraction_eq : ∀ ds, l.fraction = some ds → ∃ cs c, ds = cs ++ [c] ∧ c ≠ '0'

namespace Decimal

theorem plain_literal {d : Decimal} (h : d.digits % 10 ≠ 0) : d.literal.Plain := by
  refine ⟨d.wellFormed_literal, ?_, ?_⟩
  · obtain ⟨c, cs, hcs, hc⟩ := exists_toDigits_eq_cons (show 0 < d.digits by omega)
    unfold literal
    dsimp only
    rw [hcs]
    split
    · exact .inr ⟨c, _, rfl, hc⟩
    · split
      · next hlt =>
        obtain ⟨j, hj⟩ : ∃ j, (c :: cs).length - (-d.exponent).toNat = j + 1 :=
          ⟨_, (Nat.succ_pred_eq_of_pos (by omega)).symm⟩
        rw [hj]
        exact .inr ⟨c, _, rfl, hc⟩
      · exact .inl rfl
  · obtain ⟨cs, hcs⟩ := exists_toDigits_eq_append d.digits
    have hc : (d.digits % 10).digitChar ≠ '0' :=
      digitChar_ne_zero _ (Nat.mod_lt _ (by decide)) (by omega)
    unfold literal
    dsimp only
    rw [hcs]
    split
    · rintro _ ⟨⟩
    · split
      · next hlt =>
        rintro _ ⟨⟩
        refine ⟨_, _, List.drop_append_of_le_length ?_, hc⟩
        rw [List.length_append, List.length_singleton]
        omega
      · rintro _ ⟨⟩
        exact ⟨_, _, (List.append_assoc _ _ _).symm, hc⟩

theorem plain_literal_zero : (⟨0, 0⟩ : Decimal).literal.Plain :=
  ⟨wellFormed_literal _, .inl rfl, by rintro _ ⟨⟩⟩

/-- A decimal is written as a literal of its value. -/
theorem toRat_literal (d : Decimal) : d.literal.toRat = d.toRat := by
  rw [← Literal.toRat_decimal]
  by_cases he : 0 ≤ d.exponent
  · obtain ⟨n, hn⟩ := Int.eq_ofNat_of_zero_le he
    rw [decimal_literal_of_nonneg he, toRat, toRat, hn, Nat.pow_eq]
    push_cast
    rw [Int.toNat_natCast, mul_one, zpow_natCast]
  · rw [decimal_literal_of_neg he]

end Decimal

theorem Magnitude.plain_shortest (m : Magnitude) : m.shortest.literal.Plain := by
  rcases eq_or_ne m.mant 0 with hm | hm
  · rw [shortest, if_pos hm]
    exact Decimal.plain_literal_zero
  · exact Decimal.plain_literal (coarsest_shortest hm).digits_mod_ten

namespace Binary64

/-- The decimals that round to a magnitude are those in its interval. -/
theorem rounds_finite_iff (neg : Bool) {x : ℚ} (hx : 0 ≤ x) (m : Magnitude) :
    Rounds neg x (.finite neg m) ↔ m.Covers x :=
  ⟨fun h => h.2.2.covers hx h.2.1, fun h => ⟨rfl, h.lt_overflow, h.isNearest⟩⟩

/-- The text of a finite number is a plain literal behind its sign, and the value of that literal
    rounds to the number. No decimal that rounds to the number has fewer digits, and none with as
    many is nearer. -/
theorem text_shortest (neg : Bool) (m : Magnitude) :
    ∃ (l : Literal) (n : Nat),
      (finite neg m).text.toList = (if neg then ['-'] else []) ++ l.chars ∧ l.Plain ∧
      Rounds neg l.toRat (.finite neg m) ∧ IsLeast {k | HasDigits k l.toRat} n ∧
      IsLeast {k | ∃ x, HasDigits k x ∧ Rounds neg x (.finite neg m)} n ∧
      ∀ x, HasDigits n x → Rounds neg x (.finite neg m) →
        |l.toRat - m.toRat| ≤ |x - m.toRat| := by
  obtain ⟨n, h⟩ := m.isShortest_shortest
  refine ⟨m.shortest.literal, n, ?_, m.plain_shortest, ?_⟩
  · rw [text, String.toList_ofList, chars, Decimal.chars_literal]
  rw [Decimal.toRat_literal]
  have hrounds := (rounds_finite_iff neg m.shortest.toRat_nonneg m).mpr h.covers
  refine ⟨hrounds, ⟨h.hasDigits, ?_⟩, ⟨⟨_, h.hasDigits, hrounds⟩, ?_⟩, ?_⟩
  · intro k hk
    exact h.le_of_hasDigits _ k h.covers hk
  · rintro k ⟨x, hk, hx⟩
    exact h.le_of_hasDigits x k ((rounds_finite_iff neg hk.nonneg m).mp hx) hk
  · intro x hx hround
    exact h.abs_sub_le x ((rounds_finite_iff neg hx.nonneg m).mp hround) hx

end Binary64

end Abacus
