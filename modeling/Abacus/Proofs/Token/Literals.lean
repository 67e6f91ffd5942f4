import Abacus.Proofs.Binary64.Reading
import Abacus.Proofs.Interpretation
import Abacus.Proofs.Token.RoundTrip

/-!
# The value of a literal

A text that is a literal is read as one number, the double nearest to the value of the
literal, however many digits it has. A literal that is too small for a double is a zero, also
as a divisor.

* `lex_literal`, `lex_quotient`: a literal alone, and one divided by another.
* `value_eq_infinite_iff`, `value_eq_zero_iff`: where a literal overflows and underflows.
* `lex_literal_nearest`: what a literal is read as.
-/

namespace Abacus

open Binary64 (Rounds rounds_zero_iff rounds_infinite_iff)

namespace Literal

/-- The text of a literal. -/
def text (l : Literal) : String := String.ofList l.chars

/-! ## The value -/

theorem value_eq_iff (l : Literal) (v : Binary64) : l.value = v ↔ Rounds false l.toRat v := by
  rw [value, Binary64.ofDecimal_eq_iff, toRat_decimal]

theorem value_eq_infinite_iff (l : Literal) :
    l.value = .infinite false ↔ 2 ^ 1024 - 2 ^ 970 ≤ l.toRat :=
  (l.value_eq_iff _).trans (rounds_infinite_iff l.toRat)

theorem value_eq_zero_iff (l : Literal) : l.value = .finite false .zero ↔ l.toRat ≤ 1 / 2 ^ 1075 :=
  (l.value_eq_iff _).trans (rounds_zero_iff l.toRat_nonneg)

/-- Literals of one value are read as one double. -/
theorem value_congr {l l' : Literal} (h : l.toRat = l'.toRat) : l.value = l'.value := by
  rw [value_eq_iff, h]
  exact l'.rounds_value

end Literal

namespace Token

theorem lex_literal {l : Literal} (hl : l.WellFormed) : lex l.text = .ok [.number l.value] := by
  have h := lexFrom_literal 0 hl (endsNumber_nil.endsBefore l)
  rw [List.append_nil, lexFrom_nil] at h
  rw [lex, Literal.text, String.toList_ofList, h]
  rfl

theorem lex_quotient {l l' : Literal} (hl : l.WellFormed) (hl' : l'.WellFormed) :
    lex (l.text ++ " / " ++ l'.text) =
      .ok [.number l.value, .operator .divide, .number l'.value] := by
  have hchars : (l.text ++ " / " ++ l'.text).toList =
      l.chars ++ ' ' :: Operator.divide.symbol :: ' ' :: (l'.chars ++ []) := by
    simp [Literal.text, Operator.symbol]
  rw [lex, hchars, lexFrom_literal 0 hl ((endsNumber_space _).endsBefore l), lexFrom_space,
    lexFrom_symbol, lexFrom_space, lexFrom_literal _ hl' (endsNumber_nil.endsBefore l'),
    lexFrom_nil]
  rfl

end Token

open Token Chain

/-- A quotient of a number and a zero is refused, and written out. -/
theorem Chain.parse_quotient_of_zero (v : Binary64) :
    parse [.number v, .operator .divide, .number .zero] =
      .error (.zeroDivisor (Token.render [.number v, .operator .divide, .number .zero])) := by
  refine parse_of_collapse_error ?_
  rw [collapse_eq_scan]
  rfl

/-- A literal is read as one number, the double nearest to its exact value with ties to even. So
    it is an infinity just from `2^1024 - 2^970` on and a zero just up to `2^-1075`; literals of
    one value are read alike, and a greater one not as a smaller number. Division by a literal
    that is too small for a double is refused as that by zero is. -/
theorem lex_literal_nearest {l l' : Literal} (hl : l.WellFormed) (hl' : l'.WellFormed) :
    lex l.text = .ok [.number l.value] ∧ Rounds false l.toRat l.value ∧
    (l.value = .infinite false ↔ 2 ^ 1024 - 2 ^ 970 ≤ l.toRat) ∧
    (l.value = .finite false .zero ↔ l.toRat ≤ 1 / 2 ^ 1075) ∧
    (l.toRat = l'.toRat → lex l.text = lex l'.text) ∧
    (l.toRat ≤ l'.toRat → l.value ≤ l'.value) ∧
    (l.toRat ≤ 1 / 2 ^ 1075 →
      (∀ e : Expr, e.combine .divide (.number l.value) =
        .error (.zeroDivisor (Expr.render (.binary .divide e (.number .zero))))) ∧
      evaluate (l'.text ++ " / " ++ l.text) =
        .error (.zeroDivisor
          (Token.render [.number l'.value, .operator .divide, .number .zero]))) := by
  refine ⟨lex_literal hl, l.rounds_value, l.value_eq_infinite_iff, l.value_eq_zero_iff,
    fun heq => ?_, l.rounds_value.mono l'.rounds_value, fun htiny => ?_⟩
  · rw [lex_literal hl, lex_literal hl', Literal.value_congr heq]
  · have hzero : l.value = .zero := l.value_eq_zero_iff.mpr htiny
    rw [evaluate_of_lex_ok (lex_quotient hl' hl), hzero]
    exact ⟨fun e => combine_zero ⟨rfl, rfl⟩ e, parse_quotient_of_zero _⟩

/-- `0.00…01` with `n` zeros behind the point. -/
def Literal.oneAfterZeros (n : Nat) : Literal := ⟨['0'], some (List.replicate n '0' ++ ['1'])⟩

theorem Literal.wellFormed_oneAfterZeros (n : Nat) : (oneAfterZeros n).WellFormed := by
  refine ⟨by simp [oneAfterZeros], ?_, by simp [oneAfterZeros]⟩
  rintro _ ⟨⟩ c hc
  rcases List.mem_append.mp hc with h | h
  · exact Decimal.isDigit_of_mem_replicate h
  · rw [List.mem_singleton.mp h]
    rfl

theorem Literal.toRat_oneAfterZeros (n : Nat) : (oneAfterZeros n).toRat = 1 / 10 ^ (n + 1) := by
  simp [oneAfterZeros, toRat, Nat.ofDigitChars_append, Nat.ofDigitChars_replicate_zero,
    Nat.ofDigitChars_cons]

/-- Five is not divided by a one in the 359th place behind the point. -/
theorem lex_literal_nearest_tiny :
    let five : Literal := ⟨['5'], none⟩
    let small := Literal.oneAfterZeros 358
    0 < small.toRat ∧ lex small.text = .ok [.number .zero] ∧
      evaluate (five.text ++ " / " ++ small.text) =
        .error (.zeroDivisor
          (Token.render [.number five.value, .operator .divide, .number .zero])) := by
  intro five small
  have hfive : five.WellFormed := ⟨by simp [five], by simp [five], by simp [five]⟩
  have hvalue : small.toRat = 1 / 10 ^ 359 := Literal.toRat_oneAfterZeros 358
  have htiny : small.toRat ≤ 1 / 2 ^ 1075 := by
    rw [hvalue]
    refine one_div_le_one_div_of_le (by positivity) ?_
    calc (2 : ℚ) ^ 1075 ≤ (2 ^ 3) ^ 359 := by
          rw [← pow_mul]
          exact pow_le_pow_right₀ (by norm_num) (by norm_num)
      _ ≤ 10 ^ 359 := pow_le_pow_left₀ (by norm_num) (by norm_num) _
  obtain ⟨hlex, -, -, hzero, -, -, hdivide⟩ :=
    lex_literal_nearest (Literal.wellFormed_oneAfterZeros 358) hfive
  rw [hzero.mpr htiny] at hlex
  refine ⟨?_, hlex, (hdivide htiny).2⟩
  rw [hvalue]
  positivity

end Abacus
