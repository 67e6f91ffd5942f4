import Abacus.Proofs.Chain.Parse
import Abacus.Proofs.Token.RoundTrip

/-!
# Trees read back

The text of a tree has no parentheses just when the tree is the grouping of its own
tokens. Such a text is read as these tokens, and their value is that of the tree. At a
parenthesis the reading stops.

* `bare_iff_grouped`: where no child needs parentheses.
* `exists_paren`: the tokens ahead of the first parenthesis.
* `not_dividesByZeroAt_of_built`: `Expr.combine` builds no tree whose text divides by a literal
  zero.
* `lex_render_expr`: the text of a tree read back.
-/

namespace Abacus

open Chain Token

namespace Expr

/-! ## Trees without parentheses -/

/-- No child in the tree needs parentheses. -/
def Bare : Expr → Prop
  | .number _ => True
  | .binary op l r =>
    leftNeeds op.level l = false ∧ rightNeeds op.level r = false ∧ l.Bare ∧ r.Bare

theorem leftNeeds_zero (e : Expr) : leftNeeds 0 e = false := by
  cases e <;> simp [leftNeeds, rootLevel?]

theorem leftNeeds_one_eq_false_iff (e : Expr) : leftNeeds 1 e = false ↔ AtLevel 1 e := by
  rcases e with v | ⟨_ | _ | _ | _, l, r⟩ <;> simp [leftNeeds, rootLevel?, AtLevel, Operator.level]

theorem rightNeeds_zero_eq_false_iff (e : Expr) : rightNeeds 0 e = false ↔ AtLevel 1 e := by
  rcases e with v | ⟨_ | _ | _ | _, l, r⟩ <;> simp [rightNeeds, rootLevel?, AtLevel, Operator.level]

theorem rightNeeds_one_eq_false_iff (e : Expr) :
    rightNeeds 1 e = false ↔ ∃ v, e = .number v := by
  rcases e with v | ⟨_ | _ | _ | _, l, r⟩ <;> simp [rightNeeds, rootLevel?, Operator.level]

/-- A bare tree that is no sum is a run of products: its right children are numbers. -/
theorem Bare.run {e : Expr} (h : e.Bare) (hroot : AtLevel 1 e) : Run 1 e.tokens e := by
  induction e with
  | number v => exact .number v
  | binary op l r ihl _ =>
    obtain ⟨hl, hr, hbl, -⟩ := h
    have hop := hroot op l r rfl
    rw [show op.level = 1 by omega] at hl hr
    obtain ⟨v, rfl⟩ := (rightNeeds_one_eq_false_iff r).mp hr
    exact .step op v hop (ihl hbl ((leftNeeds_one_eq_false_iff l).mp hl))

theorem Bare.grouped {e : Expr} (h : e.Bare) : Grouped e.tokens e := by
  induction e with
  | number v => exact .product (.number v)
  | binary op l r ihl _ =>
    rcases (show op.level = 0 ∨ op.level = 1 by cases op <;> decide) with hop | hop
    · obtain ⟨-, hr, hbl, hbr⟩ := h
      rw [hop] at hr
      exact .sum op hop (ihl hbl) (hbr.run ((rightNeeds_zero_eq_false_iff r).mp hr))
    · exact .product (h.run (atLevel_binary (by omega) l r))

end Expr

theorem Chain.Run.bare {ts : List Token} {e : Expr} (h : Run 1 ts e) : e.Bare := by
  induction h with
  | number v => trivial
  | step op v hop hr ih =>
    refine ⟨leftNeeds_of_atLevel hr.rootLevel hop, rfl, ih, trivial⟩

theorem Chain.Grouped.bare {ts : List Token} {e : Expr} (h : Grouped ts e) : e.Bare := by
  induction h with
  | product hr => exact hr.bare
  | sum op hop _ hr ih =>
    refine ⟨?_, ?_, ih, hr.bare⟩
    · rw [hop, Expr.leftNeeds_zero]
    · rw [hop, Expr.rightNeeds_zero_eq_false_iff]
      exact hr.rootLevel

namespace Expr

/-- No child needs parentheses just when the tree is the grouping of its tokens. -/
theorem bare_iff_grouped (e : Expr) : e.Bare ↔ Grouped e.tokens e :=
  ⟨Bare.grouped, Grouped.bare⟩

/-! ## The text of a tree -/

theorem tokens_binary (op : Operator) (l r : Expr) :
    (binary op l r).tokens = (l.tokens ++ [.operator op]) ++ r.tokens := by
  rw [tokens, List.append_assoc]
  rfl

theorem tokens_ne_nil (e : Expr) : e.tokens ≠ [] := by
  cases e <;> simp [tokens]

/-- The text of a node whose left child is written as its tokens are. -/
theorem renderChars_binary {op : Operator} {l : Expr} (r : Expr)
    (hl : leftNeeds op.level l = false) (htext : l.renderChars = Token.renderChars l.tokens) :
    (binary op l r).renderChars = spacedChars (l.tokens ++ [.operator op]) ++
      parenthesize (rightNeeds op.level r) r.renderChars := by
  rw [renderChars, hl, htext]
  show Token.renderChars l.tokens ++ ' ' :: _ = _
  rw [renderChars_append_space l.tokens_ne_nil, spacedChars_append, List.append_assoc]
  rfl

theorem Bare.renderChars_eq {e : Expr} (h : e.Bare) :
    e.renderChars = Token.renderChars e.tokens := by
  induction e with
  | number v => rfl
  | binary op l r ihl ihr =>
    obtain ⟨hl, hr, hbl, hbr⟩ := h
    obtain ⟨t, ts, hts⟩ := List.exists_cons_of_ne_nil r.tokens_ne_nil
    rw [renderChars_binary r hl (ihl hbl), hr, tokens_binary, hts,
      Token.renderChars_append_cons, ← hts, ← ihr hbr]
    rfl

/-- Ahead of the first parenthesis stand tokens of the tree. -/
theorem exists_paren {e : Expr} (h : ¬ e.Bare) :
    ∃ pre rest, pre ⊆ e.tokens ∧ e.renderChars = spacedChars pre ++ '(' :: rest := by
  induction e with
  | number v => exact absurd trivial h
  | binary op l r ihl ihr =>
    by_cases hl : leftNeeds op.level l = true
    · rw [renderChars, hl]
      exact ⟨[], _, List.nil_subset _, rfl⟩
    rw [Bool.not_eq_true] at hl
    by_cases hbl : l.Bare
    · have htext := renderChars_binary r hl hbl.renderChars_eq
      by_cases hr : rightNeeds op.level r = true
      · rw [hr] at htext
        refine ⟨l.tokens ++ [.operator op], _, ?_, htext⟩
        rw [tokens_binary]
        exact List.subset_append_left _ _
      rw [Bool.not_eq_true] at hr
      obtain ⟨pre, rest, hpre, hrest⟩ := ihr fun hbr => h ⟨hl, hr, hbl, hbr⟩
      refine ⟨(l.tokens ++ [.operator op]) ++ pre, rest, ?_, ?_⟩
      · rw [tokens_binary]
        exact List.append_subset.mpr ⟨List.subset_append_left _ _,
          List.Subset.trans hpre (List.subset_append_right _ _)⟩
      · rw [htext, hr, spacedChars_append _ pre, List.append_assoc]
        exact congrArg _ hrest
    · obtain ⟨pre, rest, hpre, hrest⟩ := ihl hbl
      rw [renderChars, hl, hrest, parenthesize, if_neg Bool.false_ne_true, List.append_assoc]
      exact ⟨pre, _, List.Subset.trans hpre (List.subset_append_left _ _), rfl⟩

/-! ## Trees built by joining -/

/-- Trees that are made of numbers by `Expr.combine` alone. -/
inductive Built : Expr → Prop
  | number (v : Binary64) : Built (.number v)
  | combine (op : Operator) {l r e : Expr} :
      Built l → Built r → Expr.combine op l r = .ok e → Built e

theorem Built.binary {op : Operator} {l r : Expr} (h : Built (.binary op l r)) :
    Built l ∧ Built r ∧ ¬ (op = .divide ∧ r.isZeroLiteral = true) := by
  cases h with
  | combine _ hl hr hc =>
    unfold Expr.combine at hc
    split at hc
    · cases hc
    · next hz =>
      cases hc
      exact ⟨hl, hr, hz⟩

theorem not_dividesByZeroAt_of_run {ts : List Token} {e : Expr} (h : Run 1 ts e) (hb : Built e)
    (z : Nat) : ¬ DividesByZeroAt ts z := by
  induction h generalizing z with
  | number v => simp [DividesByZeroAt]
  | step op v _ _ ih =>
    obtain ⟨hl, -, hzero⟩ := hb.binary
    exact not_dividesByZeroAt_concat (ih hl) hzero z

/-- No tree built by joining divides by a literal zero in its text: in a product the divisor is
    the right child, and a sum divides nothing. -/
theorem not_dividesByZeroAt_of_built {ts : List Token} {e : Expr} (h : Grouped ts e)
    (hb : Built e) (z : Nat) : ¬ DividesByZeroAt ts z := by
  induction h generalizing z with
  | product hr => exact not_dividesByZeroAt_of_run hr hb z
  | sum op hop _ hr ih =>
    obtain ⟨hbl, hbr, -⟩ := hb.binary
    rw [dividesByZeroAt_append_iff]
    rintro (h | ⟨-, rfl, -⟩ | ⟨y, rfl, h⟩)
    · exact ih hbl z h
    · cases hop
    · exact not_dividesByZeroAt_of_run hr hbr y h

/-! ## Reading a tree back -/

/-- A parenthesis of either kind stands in the text. -/
def HasParen (s : String) : Prop := '(' ∈ s.toList ∨ ')' ∈ s.toList

theorem hasParen_render_iff {e : Expr} (hfinite : ∀ t ∈ e.tokens, t.isFinite = true) :
    HasParen e.render ↔ ¬ e.Bare := by
  unfold HasParen
  rw [render, String.toList_ofList]
  constructor
  · rintro h hb
    rw [hb.renderChars_eq] at h
    rcases h with h | h
    · exact absurd (isPlain_renderChars hfinite h) (by decide)
    · exact absurd (isPlain_renderChars hfinite h) (by decide)
  · intro hb
    obtain ⟨pre, rest, -, h⟩ := exists_paren hb
    exact .inl (by simp [h])

/-- A tree with finite leaves and no sign is written with parentheses just when it is not the
    grouping of its tokens. Without any, its text is read as these tokens, and reduced to its
    value if it was built by joining. With one, the reading stops at the first. -/
theorem lex_render_expr (e : Expr)
    (hleaves : ∀ v, Token.number v ∈ e.tokens → v.isFinite = true ∧ v.signBit = false) :
    (HasParen e.render ↔ ¬ Grouped e.tokens e) ∧
    (¬ HasParen e.render →
      lex e.render = .ok e.tokens ∧ Token.render e.tokens = e.render ∧
        (Built e → parse e.tokens = .ok e.eval)) ∧
    (HasParen e.render →
      ∃ pre post, e.render.toList = pre ++ '(' :: post ∧ '(' ∉ pre ∧
        lex e.render = .error (.unexpected "(" pre.length)) := by
  have htext : e.render.toList = e.renderChars := String.toList_ofList
  have hfinite : ∀ t ∈ e.tokens, t.isFinite = true :=
    isFinite_iff_forall_number.mpr fun v hv => (hleaves v hv).1
  have hspelled : e.tokens.flatMap spelled = e.tokens :=
    flatMap_spelled_of_signBit fun v hv => (hleaves v hv).2
  have hparen := hasParen_render_iff hfinite
  refine ⟨by rw [hparen, bare_iff_grouped], fun hp => ?_, fun hp => ?_⟩
  · have hb : e.Bare := not_not.mp fun hb => hp (hparen.mpr hb)
    refine ⟨?_, ?_, fun hbuilt => ?_⟩
    · rw [lex, htext, hb.renderChars_eq, lexFrom_renderChars 0 hfinite, hspelled]
    · rw [Token.render, render, hb.renderChars_eq]
    · exact (parse_eq_ok_iff _ _).mpr
        ⟨not_dividesByZeroAt_of_built hb.grouped hbuilt, e, hb.grouped, rfl⟩
  · obtain ⟨pre, rest, hpre, h⟩ := exists_paren (hparen.mp hp)
    have hpre' : ∀ t ∈ pre, t.isFinite = true := fun t ht => hfinite t (hpre ht)
    refine ⟨spacedChars pre, rest, by rw [htext, h], fun hmem => ?_, ?_⟩
    · exact absurd (isPlain_spacedChars hpre' hmem) (by decide)
    · rw [lex, htext, h, lexFrom_spacedChars 0 hpre', lexFrom_stray _ (by decide) (by decide)
        (by decide) (by decide), Nat.zero_add]
      rfl

/-- The text `0 + 0 * 0` is read back and has the value of its tree; `(0 + 0) * 0` cannot be
    read. -/
theorem lex_sum_and_product :
    parse [.number .zero, .operator .add, .number .zero, .operator .multiply, .number .zero] =
      .ok (.zero + .zero * .zero) ∧
    ∃ pre post,
      (render (.binary .multiply (.binary .add (.number .zero) (.number .zero))
        (.number .zero))).toList = pre ++ '(' :: post ∧ '(' ∉ pre ∧
      lex (render (.binary .multiply (.binary .add (.number .zero) (.number .zero))
        (.number .zero))) = .error (.unexpected "(" pre.length) := by
  have hzero (op₁ op₂ : Operator) (v : Binary64)
      (hv : Token.number v ∈ [.number .zero, .operator op₁, .number .zero, .operator op₂,
        .number .zero]) : v.isFinite = true ∧ v.signBit = false := by
    have hv' : v = .zero := by simpa using hv
    rw [hv']
    exact ⟨rfl, rfl⟩
  obtain ⟨hbare, hread, -⟩ := lex_render_expr
    (.binary .add (.number .zero) (.binary .multiply (.number .zero) (.number .zero)))
    (hzero .add .multiply)
  obtain ⟨hparen, -, hstop⟩ := lex_render_expr
    (.binary .multiply (.binary .add (.number .zero) (.number .zero)) (.number .zero))
    (hzero .add .multiply)
  constructor
  · have hp : ¬ HasParen _ := fun h => hbare.mp h
      (.sum .add rfl (.product (.number .zero)) (.step .multiply .zero rfl (.number .zero)))
    exact (hread hp).2.2 (.combine .add (.number .zero)
      (.combine .multiply (.number .zero) (.number .zero) rfl) rfl)
  · exact hstop (hparen.mpr fun h => absurd h.bare.1 (by decide))

end Expr

end Abacus
