import Abacus.Expr
import Abacus.Proofs.Binary64.Text

/-!
# Trees told apart by their texts

The parentheses that are left out of the text of a tree are never needed. The text is
read from its end: the last operand of a level is cut off where an operator of a lower
level, a parenthesis or the start of the text stands before it, and what is left is the
text of the operand before it.

* `operand`: the text of a child, with parentheses where its level asks for them.
* `determined`: an operand and what leads up to it are determined by their text.
* `render_inj`: two trees with one text are the same tree.
-/

namespace Abacus.Expr

/-! ## Operands -/

/-- The text of an operand among operators of level `n`: an operator at its root that binds
    looser has parentheses around it. -/
def operand (n : Nat) (e : Expr) : List Char :=
  parenthesize (e.rootLevel?.any (· < n)) e.renderChars

theorem operand_number (n : Nat) (v : Binary64) : operand n (.number v) = v.chars := rfl

theorem operand_of_le {n : Nat} {op : Operator} (h : n ≤ op.level) (l r : Expr) :
    operand n (.binary op l r) = (binary op l r).renderChars := by
  have hlevel : ¬ op.level < n := by omega
  simp [operand, rootLevel?, parenthesize, hlevel]

theorem operand_of_lt {n : Nat} {op : Operator} (h : op.level < n) (l r : Expr) :
    operand n (.binary op l r) = '(' :: (binary op l r).renderChars ++ [')'] := by
  simp [operand, rootLevel?, parenthesize, h]

/-- The left operand is of the level of the operator, and the right one of the next. -/
theorem renderChars_eq_operands (op : Operator) (l r : Expr) :
    (binary op l r).renderChars =
      operand op.level l ++ [' ', op.symbol, ' '] ++ operand (op.level + 1) r := by
  have hright : rightNeeds op.level r = r.rootLevel?.any (· < op.level + 1) := by
    simp only [rightNeeds, Nat.lt_succ_iff]
  rw [renderChars, hright, List.append_assoc]
  rfl

/-! ## What leads up to an operand -/

/-- The text before an operand among operators of level `n`: it is empty, or ends with a
    parenthesis or with an operator of a lower level. -/
def Leads (n : Nat) (p : List Char) : Prop :=
  p = [] ∨ (∃ q, p = q ++ ['(']) ∨
    ∃ q, ∃ op : Operator, op.level < n ∧ p = q ++ [' ', op.symbol, ' ']

theorem leads_nil (n : Nat) : Leads n [] := .inl rfl

theorem leads_paren (n : Nat) (q : List Char) : Leads n (q ++ ['(']) := .inr (.inl ⟨q, rfl⟩)

theorem leads_operator {n : Nat} {op : Operator} (h : op.level < n) (q : List Char) :
    Leads n (q ++ [' ', op.symbol, ' ']) :=
  .inr (.inr ⟨q, op, h, rfl⟩)

theorem Leads.mono {n m : Nat} {p : List Char} (h : Leads n p) (hnm : n ≤ m) : Leads m p := by
  rcases h with rfl | ⟨q, rfl⟩ | ⟨q, op, hop, rfl⟩
  · exact leads_nil m
  · exact leads_paren m q
  · exact leads_operator (by omega) q

theorem Leads.getLast? {n : Nat} {p : List Char} (h : Leads n p) {c : Char}
    (hc : c ∈ p.getLast?) : c = '(' ∨ c = ' ' := by
  rcases h with rfl | ⟨q, rfl⟩ | ⟨q, op, -, rfl⟩
  · cases hc
  · rw [List.getLast?_append] at hc
    exact .inl (Option.some.inj hc).symm
  · rw [List.getLast?_append] at hc
    exact .inr (Option.some.inj hc).symm

theorem append_operator_inj {p q : List Char} {op op' : Operator}
    (h : p ++ [' ', op.symbol, ' '] = q ++ [' ', op'.symbol, ' ']) : p = q ∧ op = op' := by
  obtain ⟨rfl, hlast⟩ := List.append_inj' h rfl
  have hsymbol : op.symbol = op'.symbol := by simpa using hlast
  have hop := Operator.ofSymbol?_symbol op
  rw [hsymbol, Operator.ofSymbol?_symbol] at hop
  exact ⟨rfl, (Option.some.inj hop).symm⟩

/-- No operator of the level or a higher one leads up to an operand. -/
theorem not_leads_operator {n : Nat} {op : Operator} (h : n ≤ op.level) (q : List Char) :
    ¬ Leads n (q ++ [' ', op.symbol, ' ']) := by
  rintro (h0 | ⟨q', hq⟩ | ⟨q', op', hop, hq⟩)
  · simp at h0
  · have := congrArg List.getLast? hq
    simp at this
  · obtain ⟨-, rfl⟩ := append_operator_inj hq
    omega

/-! ## Cutting off the last operand -/

/-- The last operand of a text is determined if it is one of the two trees, and so is what
    leads up to it. -/
def Determined (a b : Expr) : Prop :=
  ∀ n p q, Leads n p → Leads n q → p ++ operand n a = q ++ operand n b → p = q ∧ a = b

theorem Determined.symm {a b : Expr} (h : Determined a b) : Determined b a := by
  intro n p q hp hq heq
  obtain ⟨hpq, hab⟩ := h n q p hq hp heq.symm
  exact ⟨hpq.symm, hab.symm⟩

/-- No character of a number ends what leads up to an operand. -/
theorem eq_nil_of_leads_append {n : Nat} {q x : List Char} (h : Leads n (q ++ x)) {v : Binary64}
    (hx : x ⊆ v.chars) : x = [] := by
  rcases List.eq_nil_or_concat x with rfl | ⟨y, c, rfl⟩
  · rfl
  · have hc : c ∈ v.chars := hx (by simp)
    rcases h.getLast? (show c ∈ (q ++ y.concat c).getLast? by simp) with rfl | rfl
    · exact absurd hc (Binary64.not_mem_chars (by decide) v)
    · exact absurd hc (Binary64.not_mem_chars (by decide) v)

/-- A number reaches back to the last space or parenthesis. -/
theorem eq_of_append_chars {n : Nat} {p q : List Char} (hp : Leads n p) (hq : Leads n q)
    {v w : Binary64} (h : p ++ v.chars = q ++ w.chars) : p = q := by
  rcases List.append_eq_append_iff.mp h with ⟨x, rfl, hx⟩ | ⟨x, rfl, hx⟩
  · rw [eq_nil_of_leads_append hq (hx ▸ List.subset_append_left x _), List.append_nil]
  · rw [eq_nil_of_leads_append hp (hx ▸ List.subset_append_left x _), List.append_nil]

theorem determined_number (v w : Binary64) : Determined (.number v) (.number w) := by
  intro n p q hp hq h
  rw [operand_number, operand_number] at h
  have hpq := eq_of_append_chars hp hq h
  rw [hpq] at h
  exact ⟨hpq, by rw [Binary64.chars_injective (List.append_cancel_left h)]⟩

/-- The last operand of a text is not one of an operator that stands in front of it. -/
theorem append_operand_ne {n : Nat} {op : Operator} (hn : n ≤ op.level) {a r : Expr}
    (h : Determined a r) {p : List Char} (hp : Leads n p) (q : List Char) (l : Expr) :
    p ++ operand (op.level + 1) a ≠ q ++ (binary op l r).renderChars := by
  intro heq
  rw [renderChars_eq_operands, ← List.append_assoc, ← List.append_assoc] at heq
  have hq := leads_operator (Nat.lt_succ_self op.level) (q ++ operand op.level l)
  obtain ⟨rfl, -⟩ := h _ _ _ (hp.mono (by omega)) hq heq
  exact not_leads_operator hn _ hp

/-- Two trees without parentheses around them are determined if their children are. -/
theorem binary_inj {n : Nat} {p q : List Char} {op op' : Operator} {l r l' r' : Expr}
    (hp : Leads n p) (hq : Leads n q) (hop : n ≤ op.level) (hop' : n ≤ op'.level)
    (hl : Determined l l') (hr : Determined r r') (har : Determined (.binary op l r) r')
    (hbr : Determined (.binary op' l' r') r)
    (h : p ++ (binary op l r).renderChars = q ++ (binary op' l' r').renderChars) :
    p = q ∧ binary op l r = binary op' l' r' := by
  rcases Nat.lt_trichotomy op.level op'.level with hlt | heq | hgt
  · -- the second tree would be the right operand of the first operator
    rw [← operand_of_le hlt] at h
    exact absurd h.symm (append_operand_ne hop hbr hq p l)
  · rw [renderChars_eq_operands, renderChars_eq_operands, ← heq, ← List.append_assoc,
      ← List.append_assoc, ← List.append_assoc, ← List.append_assoc] at h
    obtain ⟨hfront, rfl⟩ := hr _ _ _ (leads_operator (Nat.lt_succ_self _) _)
      (leads_operator (by omega) _) h
    obtain ⟨hleft, rfl⟩ := append_operator_inj hfront
    obtain ⟨rfl, rfl⟩ := hl _ _ _ (hp.mono hop) (hq.mono hop) hleft
    exact ⟨rfl, rfl⟩
  · rw [← operand_of_le hgt] at h
    exact absurd h (append_operand_ne hop' har hp q l')

/-- A text that ends with a parenthesis does not end with a number. -/
theorem append_chars_ne (p q : List Char) (v : Binary64) : p ++ v.chars ≠ q ++ [')'] := by
  intro h
  obtain ⟨cs, c, hv⟩ := List.eq_nil_or_concat v.chars |>.resolve_left v.chars_ne_nil
  rw [hv, List.concat_eq_append, ← List.append_assoc] at h
  obtain ⟨-, hc⟩ := List.append_inj' h rfl
  refine Binary64.not_mem_chars (c := ')') (by decide) v ?_
  rw [hv, List.concat_eq_append, hc]
  exact List.mem_append_right _ (List.mem_singleton_self _)

/-- A number is told from a tree with an operator. -/
theorem determined_number_binary (v : Binary64) (op : Operator) (l : Expr) {r : Expr}
    (hr : Determined (.number v) r) : Determined (.number v) (.binary op l r) := by
  intro n p q hp _ h
  rcases Nat.lt_or_ge op.level n with hlt | hge
  · rw [operand_of_lt hlt, operand_number, ← List.append_assoc] at h
    exact absurd h (append_chars_ne p _ v)
  · rw [operand_of_le hge] at h
    exact absurd h (append_operand_ne hge hr hp q l)

/-- Two trees with operators are determined if their children are. -/
theorem determined_binary {op op' : Operator} {l r l' r' : Expr} (hl : Determined l l')
    (hr : Determined r r') (har : Determined (.binary op l r) r')
    (hbr : Determined (.binary op' l' r') r) :
    Determined (.binary op l r) (.binary op' l' r') := by
  intro n p q hp hq h
  rcases Nat.lt_or_ge op.level n with hlt | hge
  · rcases Nat.lt_or_ge op'.level n with hlt' | hge'
    · -- inside the parentheses no operator is too loose
      have hinside : p ++ ['('] ++ (binary op l r).renderChars ++ [')'] =
          q ++ ['('] ++ (binary op' l' r').renderChars ++ [')'] := by
        simpa [operand_of_lt hlt, operand_of_lt hlt'] using h
      obtain ⟨hfront, hab⟩ := binary_inj (leads_paren 0 p) (leads_paren 0 q) (Nat.zero_le _)
        (Nat.zero_le _) hl hr har hbr (List.append_cancel_right hinside)
      exact ⟨List.append_cancel_right hfront, hab⟩
    · have hnext : op.level < op'.level + 1 := by omega
      rw [operand_of_lt hlt, operand_of_le hge', ← operand_of_lt hnext] at h
      exact absurd h (append_operand_ne hge' har hp q l')
  · rcases Nat.lt_or_ge op'.level n with hlt' | hge'
    · have hnext : op'.level < op.level + 1 := by omega
      rw [operand_of_le hge, operand_of_lt hlt', ← operand_of_lt hnext] at h
      exact absurd h.symm (append_operand_ne hge hbr hq p l)
    · rw [operand_of_le hge, operand_of_le hge'] at h
      exact binary_inj hp hq hge hge' hl hr har hbr h

/-- Every operand is determined by its text and what leads up to it. The recursion takes a
    child from one tree and keeps the other, or takes one from both. -/
theorem determined (a b : Expr) : Determined a b :=
  match a, b with
  | .number v, .number w => determined_number v w
  | .number v, .binary op l r => determined_number_binary v op l (determined (.number v) r)
  | .binary op l r, .number w =>
    (determined_number_binary w op l (determined r (.number w)).symm).symm
  | .binary op l r, .binary op' l' r' =>
    determined_binary (determined l l') (determined r r') (determined (.binary op l r) r')
      (determined r (.binary op' l' r')).symm

/-- Two trees with one text are the same tree. -/
theorem render_inj (a b : Expr) : a.render = b.render ↔ a = b := by
  refine ⟨fun h => ?_, congrArg render⟩
  have hchars : a.renderChars = b.renderChars := String.ofList_injective h
  have hzero (e : Expr) : operand 0 e = e.renderChars := by
    cases e with
    | number v => rfl
    | binary op l r => exact operand_of_le (Nat.zero_le _) l r
  rw [← hzero, ← hzero] at hchars
  exact (determined a b 0 [] [] (leads_nil 0) (leads_nil 0) hchars).2

end Abacus.Expr
