import Abacus.Proofs.Binary64.Sign
import Abacus.Proofs.Interpretation
import Abacus.Proofs.Outcome.Report
import Abacus.Proofs.Token.RoundTrip

/-!
# No value is a negative zero

No literal has a sign, so no product of literals has one, and a sum that does not start with
the negative zero does not come to it. What the first stage leaves of a text therefore has no
sign either, and if it is finite, it can be typed back in and has the value of the text.

* `unsigned_of_lex`: the numbers that are read.
* `Unsigned.collapse`: the numbers that the first stage leaves.
* `Grouped.eval_ne_negative_zero`: the value of a chain.
* `evaluate_signs`: all of them, and the text of the products.
-/

namespace Abacus

open Chain

/-- No number among the tokens has its sign bit set. -/
def Unsigned (ts : List Token) : Prop := ∀ v, .number v ∈ ts → v.signBit = false

theorem Unsigned.of_subset {ts us : List Token} (h : Unsigned us) (hsub : ts ⊆ us) : Unsigned ts :=
  fun v hv => h v (hsub hv)

theorem unsigned_singleton {v : Binary64} (h : v.signBit = false) : Unsigned [.number v] := by
  intro u hu
  cases List.mem_singleton.mp hu
  exact h

/-! ## Numbers that are read -/

theorem Literal.signBit_value (l : Literal) : l.value.signBit = false :=
  Binary64.signBit_ofDecimal false l.decimal

theorem Literal.value_ne_nan (l : Literal) : l.value ≠ .nan :=
  Binary64.ofDecimal_ne_nan false l.decimal

/-- Every number that is read is the value of a literal. -/
theorem Token.exists_literal_of_lexFrom {pos : Nat} {cs : List Char} {ts : List Token}
    (h : lexFrom pos cs = .ok ts) {v : Binary64} (hv : number v ∈ ts) :
    ∃ l : Literal, l.value = v := by
  fun_induction lexFrom pos cs generalizing ts with
  | case1 pos cs l rest hs ih =>
    obtain ⟨us, hus, rfl⟩ := exists_of_map_eq_ok h
    rcases List.mem_cons.mp hv with hv | hv
    · cases hv
      exact ⟨l, rfl⟩
    · exact ih hus hv
  | case2 pos => cases h; cases hv
  | case3 pos c rest _ op _ ih =>
    obtain ⟨us, hus, rfl⟩ := exists_of_map_eq_ok h
    rcases List.mem_cons.mp hv with hv | hv
    · cases hv
    · exact ih hus hv
  | case4 pos c rest _ _ _ ih => exact ih h hv
  | case5 pos c rest _ _ _ => cases h

theorem unsigned_of_lex {s : String} {ts : List Token} (h : Token.lex s = .ok ts) :
    Unsigned ts := by
  intro v hv
  obtain ⟨l, rfl⟩ := Token.exists_literal_of_lexFrom h hv
  exact l.signBit_value

theorem not_nan_of_lex {s : String} {ts : List Token} (h : Token.lex s = .ok ts) :
    Token.number .nan ∉ ts := by
  intro hv
  obtain ⟨l, hl⟩ := Token.exists_literal_of_lexFrom h hv
  exact l.value_ne_nan hl

/-! ## Numbers that are computed -/

namespace Chain

/-- A product of numbers without a sign has none. -/
theorem Run.signBit_eval {ts : List Token} {e : Expr} (h : Run 1 ts e) (hts : Unsigned ts) :
    e.eval.signBit = false := by
  induction h with
  | number v => exact hts v (List.mem_singleton_self _)
  | @step op v ts e hop hr ih =>
    have he := ih (hts.of_subset (List.subset_append_left ..))
    have hv := hts v (List.mem_append_right _ (by simp))
    have hlevel : op.level = 1 := by omega
    rcases Binary64.signBit_apply hlevel e.eval v with hnan | hsign
    · rw [Expr.eval, Expr.eval, hnan]
      rfl
    · rw [Expr.eval, Expr.eval, hsign, he, hv]
      rfl

theorem Collapsed.unsigned {ts out : List Token} (h : Collapsed 1 ts out) (hts : Unsigned ts) :
    Unsigned out := by
  induction h with
  | last hr => exact unsigned_singleton (hr.signBit_eval hts)
  | @cons op us ts out e hop hr hc ih =>
    intro v hv
    rcases List.mem_cons.mp hv with hv | hv
    · cases hv
      exact hr.signBit_eval (hts.of_subset (List.subset_append_left ..))
    · have hrest : Unsigned ts := hts.of_subset fun t ht =>
        List.mem_append_right _ (List.mem_cons_of_mem _ ht)
      exact ih hrest v (by simpa using hv)

/-- The sum of products without a sign is not the negative zero. -/
theorem Grouped.eval_ne_negative_zero {ts : List Token} {e : Expr} (h : Grouped ts e)
    (hts : Unsigned ts) : e.eval ≠ .finite true .zero := by
  induction h with
  | product hr =>
    intro he
    have hsign := hr.signBit_eval hts
    rw [he] at hsign
    cases hsign
  | sum op hop hl hr ih =>
    exact Binary64.apply_ne_negative_zero hop (ih (hts.of_subset (List.subset_append_left ..))) _

end Chain

/-! ## What is shown -/

theorem Binary64.text_ne_negative_zero {v : Binary64} (h : v ≠ .finite true .zero) :
    v.text ≠ "-0" := by
  have hzero : "-0" = (Binary64.finite true .zero).text := by decide
  rw [hzero]
  exact fun htext => h (chars_injective (String.ofList_injective htext))

theorem displayLine_ne_negative_zero {s : String} {v : Binary64} (h : evaluate s = .ok v)
    (hv : v ≠ .finite true .zero) : (interpret s).displayLine ≠ " >> -0" := by
  rw [displayLine_interpret, report_of_ok h]
  cases hfinite : v.isFinite with
  | true =>
    rw [checked_of_isFinite hfinite]
    have hline : " >> -0" = " >> " ++ "-0" := by decide
    rw [hline]
    exact fun htext => Binary64.text_ne_negative_zero hv (String.append_right_inj _ |>.mp htext)
  | false =>
    rw [checked_of_not_isFinite hfinite]
    decide

/-! ## Values and products of a text -/

/-- The tokens of a text with a value have no sign and no NaN, the numbers that the first stage
    leaves of them are NaNs or have no sign, and the value is not the negative zero, nor is it
    ever shown so. If what the first stage leaves is finite, its text is read as just that, and
    has the same value. -/
theorem evaluate_signs {s : String} {v : Binary64} (h : evaluate s = .ok v) :
    ∃ ts c, Token.lex s = .ok ts ∧ collapse 1 ts = .ok c ∧
      (∀ u, .number u ∈ ts → u.signBit = false ∧ u ≠ .nan) ∧
      (∀ u, .number u ∈ c → u = .nan ∨ u.signBit = false) ∧
      v ≠ .finite true .zero ∧ v.text ≠ "-0" ∧ (interpret s).displayLine ≠ " >> -0" ∧
      ((∀ u, .number u ∈ c → u.isFinite = true) →
        Token.lex (Token.render c) = .ok c ∧ evaluate (Token.render c) = .ok v) := by
  cases hlex : Token.lex s with
  | error f =>
    rw [evaluate_of_lex_error hlex] at h
    cases h
  | ok ts =>
    have hparse : parse ts = .ok v := (evaluate_of_lex_ok hlex).symm.trans h
    cases hc : collapse 1 ts with
    | error f =>
      rw [parse_of_collapse_error hc] at hparse
      cases hparse
    | ok c =>
      have hts := unsigned_of_lex hlex
      have hout := (collapsed_of_collapse hc).unsigned hts
      have hv : v ≠ .finite true .zero := by
        obtain ⟨-, e, he, rfl⟩ := (parse_eq_ok_iff ts v).mp hparse
        exact he.eval_ne_negative_zero hts
      refine ⟨ts, c, rfl, hc, fun u hu => ⟨hts u hu, ?_⟩, fun u hu => .inr (hout u hu), hv,
        Binary64.text_ne_negative_zero hv, displayLine_ne_negative_zero h hv, fun hfinite => ?_⟩
      · rintro rfl
        exact not_nan_of_lex hlex hu
      · have hread : Token.lex (Token.render c) = .ok c := by
          rw [Token.lex, Token.render, String.toList_ofList,
            Token.lexFrom_renderChars 0 (Token.isFinite_iff_forall_number.mpr hfinite),
            Token.flatMap_spelled_of_signBit hout]
        exact ⟨hread, by rw [evaluate_of_lex_ok hread, parse_of_collapse hc, hparse]⟩

/-- The product in `0 * 0 - 0` leaves `0 - 0`, which has the same value. -/
theorem evaluate_signs_product :
    evaluate "0 * 0 - 0" = .ok .zero ∧
      Token.lex "0 - 0" = .ok [.number .zero, .operator .subtract, .number .zero] ∧
      evaluate "0 - 0" = .ok .zero := by
  have htext : "0 * 0 - 0" = Token.render [.number .zero, .operator .multiply, .number .zero,
      .operator .subtract, .number .zero] := by decide
  have hlex : Token.lex "0 * 0 - 0" = .ok [.number .zero, .operator .multiply, .number .zero,
      .operator .subtract, .number .zero] := by
    rw [htext, Token.lex, Token.render, String.toList_ofList,
      Token.lexFrom_renderChars 0 (by decide)]
    decide
  have hc : collapse 1 [.number .zero, .operator .multiply, .number .zero, .operator .subtract,
      .number .zero] = .ok [.number .zero, .operator .subtract, .number .zero] := by
    rw [collapse_eq_scan]
    decide +kernel
  have hvalue : evaluate "0 * 0 - 0" = .ok .zero := by
    obtain ⟨e, he, hparse⟩ := parse_of_collapse_ok hc
    have hgrouped : Grouped [.number .zero, .operator .multiply, .number .zero, .operator .subtract,
        .number .zero] (.binary .subtract (.binary .multiply (.number .zero) (.number .zero))
          (.number .zero)) :=
      .sum .subtract rfl (.product (.step .multiply .zero rfl (.number .zero))) (.number .zero)
    rw [evaluate_of_lex_ok hlex, hparse, he.unique hgrouped]
    decide +kernel
  obtain ⟨ts, c, hlex', hc', -, -, -, -, -, hagain⟩ := evaluate_signs hvalue
  rw [hlex] at hlex'
  cases hlex'
  rw [hc] at hc'
  cases hc'
  exact ⟨hvalue, hagain (Token.isFinite_iff_forall_number.mp (by decide))⟩

end Abacus
