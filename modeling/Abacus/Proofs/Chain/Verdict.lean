import Abacus.Proofs.Chain.Collapse

/-!
# How a stage ends

A stage succeeds on the chains that divide by no literal zero. Otherwise the
first break of the alternation or, at the level of divisions, the first literal
zero divisor ahead of it decides which failure there is, and every failure
quotes the given tokens.

* `Run.renderChars_eq`: a run is written as its tokens are.
* `verdict_collapse`: the three ways in which a stage ends, by places.
-/

namespace Abacus.Chain

/-- What a stage says of a break at place `k`. A run of the level was being read when the
    operator before the break is of the level, and then `reduce` finds the break. -/
def breakFailure (level : Int) (ts : List Token) (k : Nat) : Failure :=
  if k % 2 = 0 then
    if 2 ≤ k ∧ levelAt? ts (k - 1) = some level then malformed "reduce" (ts.drop (k - 1))
    else malformed "parse_by_prec" (ts.drop k)
  else
    if 3 ≤ k ∧ levelAt? ts (k - 2) = some level then malformed "reduce" (ts.drop k)
    else malformed "parse_by_prec" (ts.drop (k - 1))

/-- What a stage says of a zero divisor after the division at place `z`: the run up to it. -/
def zeroFailure (ts : List Token) (z : Nat) : Failure :=
  .zeroDivisor (Token.render (ts.extract (runStart ts z) (z + 2)))

/-- The ways in which a stage can end on `ts`. -/
inductive Verdict (level : Int) (ts : List Token) : Except Failure (List Token) → Prop
  | zeroDivisor {z : Nat} : level = 1 → IsLeast {z | ZeroDivisorAt ts z} z →
      Verdict level ts (.error (zeroFailure ts z))
  | broken {k : Nat} : (level = 1 → ∀ z, ¬ ZeroDivisorAt ts z) → IsLeast {k | Breaks ts k} k →
      Verdict level ts (.error (breakFailure level ts k))
  | clean {out : List Token} : (level = 1 → ∀ z, ¬ ZeroDivisorAt ts z) → (∀ k, ¬ Breaks ts k) →
      Verdict level ts (.ok out)

/-! ## The text of a run -/

theorem Run.rootLevel {level : Int} {ts : List Token} {e : Expr} (h : Run level ts e) :
    AtLevel level e := by
  cases h with
  | number v => exact atLevel_number level v
  | step op v hop _ => exact atLevel_binary hop _ _

theorem leftNeeds_of_atLevel {level : Int} {e : Expr} (h : AtLevel level e) {n : Nat}
    (hn : (n : Int) = level) : Expr.leftNeeds n e = false := by
  cases e with
  | number v => rfl
  | binary op l r =>
    have := h op l r rfl
    simp [Expr.leftNeeds, Expr.rootLevel?]
    omega

/-- A run is written as its tokens are, without parentheses. -/
theorem Run.renderChars_eq {level : Int} {ts : List Token} {e : Expr} (h : Run level ts e) :
    e.renderChars = Token.renderChars ts := by
  induction h with
  | number v => rfl
  | @step op v us e hop hr ih =>
    obtain ⟨t, us, rfl⟩ := List.exists_cons_of_length_pos
      (show 0 < us.length by have := hr.isChain.length_odd; omega)
    rw [Expr.renderChars, leftNeeds_of_atLevel hr.rootLevel hop, Token.renderChars_append, ih]
    rfl

/-! ## Moving a verdict behind a run -/

theorem drop_append_operator (us : List Token) (op : Operator) (ts : List Token) (i : Nat) :
    (us ++ .operator op :: ts).drop (us.length + 1 + i) = ts.drop i := by
  rw [← List.drop_drop, List.append_cons, List.drop_left' (by simp)]

/-- The failure at a break behind a run and an operator of another level is that of the
    rest alone. -/
theorem breakFailure_append {level : Int} {us : List Token} (hu : us.length % 2 = 1)
    {op : Operator} (hop : (op.level : Int) ≠ level) (ts : List Token) {j : Nat} (hj : 1 ≤ j) :
    breakFailure level (us ++ .operator op :: ts) (us.length + 1 + j) =
      breakFailure level ts j := by
  unfold breakFailure
  rw [show (us.length + 1 + j) % 2 = j % 2 by omega, drop_append_operator]
  split
  · rw [show us.length + 1 + j - 1 = us.length + 1 + (j - 1) by omega, drop_append_operator,
      levelAt?_append_right]
    simp only [show 2 ≤ us.length + 1 + j by omega, show 2 ≤ j by omega]
  · rw [show us.length + 1 + j - 1 = us.length + 1 + (j - 1) by omega, drop_append_operator]
    rcases Nat.eq_or_lt_of_le hj with rfl | hj
    · -- the operator before the break is `op`, which starts no run
      rw [show us.length + 1 + 1 - 2 = us.length by omega, levelAt?_append_length]
      simp [hop]
    · rw [show us.length + 1 + j - 2 = us.length + 1 + (j - 2) by omega, levelAt?_append_right]
      simp only [show 3 ≤ us.length + 1 + j by omega, show 3 ≤ j by omega]

theorem zeroFailure_append (us : List Token) {op : Operator} (hop : op.level = 0)
    (ts : List Token) (y : Nat) :
    zeroFailure (us ++ .operator op :: ts) (us.length + 1 + y) = zeroFailure ts y := by
  unfold zeroFailure
  rw [runStart_append us hop, List.extract_eq_take_drop, List.extract_eq_take_drop,
    Nat.add_assoc _ y, Nat.add_sub_add_left, drop_append_operator]

/-- A verdict on tokens that start with a number holds of them behind a run and an operator
    of another level. -/
theorem Verdict.append {level : Int} {us : List Token} (hu : IsChain us)
    (hz : level = 1 → ∀ z, ¬ DividesByZeroAt us z) {op : Operator}
    (hop : (op.level : Int) ≠ level) {w : Binary64} {ts : List Token}
    {r : Except Failure (List Token)} (h : Verdict level (.number w :: ts) r)
    (f : List Token → List Token) :
    Verdict level (us ++ .operator op :: .number w :: ts) (r.map f) := by
  have hbreaks := breaks_append_iff hu op (.number w :: ts)
  have hzero (hl : level = 1) : op.level = 0 ∧ ∀ z,
      ZeroDivisorAt (us ++ .operator op :: .number w :: ts) z ↔
        ∃ y, z = us.length + 1 + y ∧ ZeroDivisorAt (.number w :: ts) y := by
    have hd : op ≠ .divide := by rintro rfl; exact hop hl.symm
    refine ⟨by cases op <;> simp_all [Operator.level], fun z => ?_⟩
    exact zeroDivisorAt_append_iff hu (hz hl) hd _ z
  have hfree (hn : level = 1 → ∀ z, ¬ ZeroDivisorAt (.number w :: ts) z) (hl : level = 1)
      (z : Nat) : ¬ ZeroDivisorAt (us ++ .operator op :: .number w :: ts) z := by
    rw [(hzero hl).2]
    rintro ⟨y, -, hy⟩
    exact hn hl y hy
  cases h with
  | @zeroDivisor z hl hleast =>
    obtain ⟨hop0, hiff⟩ := hzero hl
    rw [← zeroFailure_append us hop0]
    refine .zeroDivisor hl ⟨(hiff _).mpr ⟨z, rfl, hleast.1⟩, fun z' hz' => ?_⟩
    obtain ⟨y, rfl, hy⟩ := (hiff z').mp hz'
    have := hleast.2 hy
    omega
  | @broken k hn hleast =>
    have hk : 1 ≤ k := by
      rcases Nat.eq_zero_or_pos k with rfl | hk
      · exact absurd hleast.1 (not_breaks_zero w ts)
      · exact hk
    rw [← breakFailure_append hu.length_odd hop _ hk]
    refine .broken (hfree hn) ⟨(hbreaks _).mpr ⟨k, rfl, hleast.1⟩, fun k' hk' => ?_⟩
    obtain ⟨j, rfl, hj⟩ := (hbreaks k').mp hk'
    have := hleast.2 hj
    omega
  | clean hn hb =>
    refine .clean (hfree hn) fun k hk => ?_
    obtain ⟨j, -, hj⟩ := (hbreaks k).mp hk
    exact hb j hj

/-! ## The ends of a scan -/

section Ends

variable {level : Int} {us : List Token} {acc : Expr} (hr : Run level us acc)
  (hz : level = 1 → ∀ z, ¬ DividesByZeroAt us z)

include hr in
theorem Run.levelAt?_eq {i : Nat} {n : Int} (h : levelAt? us i = some n) : n = level := by
  obtain ⟨op, hop, rfl⟩ := (levelAt?_eq_some_iff us i n).mp h
  exact hr.level_eq (List.mem_of_getElem? hop)

include hr in
/-- A run that a number follows is broken there. -/
theorem isLeast_breaks_of_adjacent (u : Binary64) (rest : List Token) :
    IsLeast {k | Breaks (us ++ .number u :: rest) k} us.length := by
  refine ⟨⟨by simp, ?_⟩, fun k hk => hr.isChain.length_le_of_breaks hk⟩
  have hn : NumberAt (us ++ .number u :: rest) us.length := ⟨u, by simp⟩
  simp [hn, hr.isChain.length_odd]

include hr in
/-- A run is broken behind the operator that follows it, if no number follows that one. -/
theorem isLeast_breaks_of_stray (op : Operator) {rest : List Token}
    (hrest : ∀ v rest', rest = .number v :: rest' → False) :
    IsLeast {k | Breaks (us ++ .operator op :: rest) k} (us.length + 1) := by
  have h0 : Breaks rest 0 := by
    match rest with
    | [] => simp [Breaks, NumberAt]
    | .operator _ :: _ => simp [Breaks, NumberAt]
    | .number v :: rest' => exact (hrest v rest' rfl).elim
  refine ⟨(breaks_append_iff hr.isChain op rest _).mpr ⟨0, rfl, h0⟩, fun k hk => ?_⟩
  obtain ⟨j, rfl, -⟩ := (breaks_append_iff hr.isChain op rest k).mp hk
  omega

include hr hz in
theorem verdict_of_adjacent (u : Binary64) (rest : List Token) :
    Verdict level (us ++ .number u :: rest)
      (.error (breakFailure level (us ++ .number u :: rest) us.length)) := by
  have hb := isLeast_breaks_of_adjacent hr u rest
  refine .broken (fun hl z h => ?_) hb
  exact hz hl z (dividesByZeroAt_of_append h.1 (h.2 _ hb.1))

include hr hz in
theorem verdict_of_stray (op : Operator) {rest : List Token}
    (hrest : ∀ v rest', rest = .number v :: rest' → False) :
    Verdict level (us ++ .operator op :: rest)
      (.error (breakFailure level (us ++ .operator op :: rest) (us.length + 1))) := by
  have hb := isLeast_breaks_of_stray hr op hrest
  refine .broken (fun hl z h => ?_) hb
  have hlt := h.2 _ hb.1
  rcases (dividesByZeroAt_append_iff us op rest z).mp h.1 with h | ⟨rfl, -⟩ | ⟨y, rfl, -⟩
  · exact hz hl z h
  · omega
  · omega

include hr hz in
/-- A literal zero behind a division is found where it stands, and the run up to it is
    quoted. -/
theorem verdict_of_zero {op : Operator} {v : Binary64} (hop : (op.level : Int) = level)
    (h0 : op = .divide ∧ v.isZero = true) (rest : List Token) :
    Verdict level (us ++ .operator op :: .number v :: rest)
      (.error (.zeroDivisor (Expr.render (.binary op acc (.number v))))) := by
  obtain ⟨rfl, hv⟩ := h0
  have hl : level = 1 := hop.symm
  have hrun := Run.step .divide v hop hr
  have hstart : runStart (us ++ .operator .divide :: .number v :: rest) us.length = 0 := by
    refine runStart_eq_zero fun i hi h => ?_
    rw [levelAt?_append_left hi] at h
    have := hr.levelAt?_eq h
    omega
  have hquote : Failure.zeroDivisor (Expr.render (.binary .divide acc (.number v))) =
      zeroFailure (us ++ .operator .divide :: .number v :: rest) us.length := by
    have htake : (us ++ .operator .divide :: .number v :: rest).take (us.length + 2) =
        us ++ [.operator .divide, .number v] := by
      rw [List.append_cons, List.append_cons, List.append_assoc us, List.take_left' (by simp)]
      rfl
    rw [zeroFailure, hstart, Expr.render, hrun.renderChars_eq, Token.render,
      List.extract_eq_take_drop, List.drop_zero, Nat.sub_zero, htake]
  rw [hquote]
  refine .zeroDivisor hl ⟨⟨?_, fun k hk => ?_⟩, fun z hzd => ?_⟩
  · exact (dividesByZeroAt_append_iff us .divide _ _).mpr (.inr (.inl ⟨rfl, rfl, v, rfl, hv⟩))
  · have := hrun.isChain.length_le_of_breaks (show Breaks ((us ++ [_, _]) ++ rest) k by simpa)
    simp only [List.length_append, List.length_cons, List.length_nil] at this
    omega
  · rcases (dividesByZeroAt_append_iff us .divide _ z).mp hzd.1 with h | ⟨rfl, -⟩ | ⟨y, rfl, -⟩
    · exact absurd h (hz hl z)
    · exact Nat.le_refl _
    · omega

end Ends

/-- Tokens that do not start with a number are broken at once. -/
theorem verdict_of_headless (level : Int) {ts : List Token} (h : Breaks ts 0) :
    Verdict level ts (.error (malformed "parse_by_prec" ts)) := by
  have hb : breakFailure level ts 0 = malformed "parse_by_prec" ts := by simp [breakFailure]
  rw [← hb]
  refine .broken (fun _ z hzd => ?_) ⟨h, fun k _ => Nat.zero_le k⟩
  have := hzd.2 0 h
  omega

/-! ## The verdict of a scan -/

theorem breakFailure_of_stray (level : Int) {us : List Token} (hu : us.length % 2 = 1)
    (op : Operator) (rest : List Token) :
    breakFailure level (us ++ .operator op :: rest) (us.length + 1) =
      if (op.level : Int) = level then malformed "reduce" (.operator op :: rest)
      else malformed "parse_by_prec" rest := by
  have hdrop := drop_append_operator us op rest 0
  unfold breakFailure
  rw [if_pos (by omega), Nat.add_sub_cancel, levelAt?_append_length, List.drop_left]
  simp only [Option.some.injEq, show 2 ≤ us.length + 1 by omega, true_and]
  rw [show us.length + 1 = us.length + 1 + 0 from rfl, hdrop, List.drop_zero]

/-- A number behind a run of several numbers is found by the fold of the run. -/
theorem breakFailure_of_adjacent {level : Int} {us : List Token} {acc : Expr} {op : Operator}
    (hr : Run level us acc) (hop : (op.level : Int) = level) (v u : Binary64)
    (rest : List Token) :
    breakFailure level (us ++ [Token.operator op, Token.number v] ++ .number u :: rest)
      (us ++ [Token.operator op, Token.number v]).length =
        malformed "reduce" (.number u :: rest) := by
  have hu := hr.isChain.length_odd
  have hlen : (us ++ [Token.operator op, Token.number v]).length = us.length + 2 := by simp
  unfold breakFailure
  rw [if_neg (by omega), List.drop_left, if_pos]
  refine ⟨by omega, ?_⟩
  rw [hlen, Nat.add_sub_cancel, levelAt?_append_left (by omega), levelAt?_append_length, hop]

theorem not_dividesByZeroAt_concat {us : List Token} (hz : ∀ z, ¬ DividesByZeroAt us z)
    {op : Operator} {v : Binary64} (h0 : ¬ (op = .divide ∧ v.isZero = true)) (z : Nat) :
    ¬ DividesByZeroAt (us ++ [.operator op, .number v]) z := by
  rw [dividesByZeroAt_append_iff]
  rintro (h | ⟨-, rfl, w, hw, hzero⟩ | ⟨y, -, h⟩)
  · exact hz z h
  · cases hw
    exact h0 ⟨rfl, hzero⟩
  · simp [DividesByZeroAt] at h

/-- The scan of the tokens behind a run ends as the verdict on the run and the tokens says. -/
theorem verdict_scan {level : Int} {us : List Token} {acc : Expr} (hr : Run level us acc)
    (hz : level = 1 → ∀ z, ¬ DividesByZeroAt us z) (ts : List Token) :
    Verdict level (us ++ ts) (scan level acc ts) := by
  fun_induction scan level acc ts generalizing us with
  | case1 acc =>
    rw [List.append_nil]
    exact .clean (fun hl z h => hz hl z h.1) hr.isChain.not_breaks
  | case2 u rest v =>
    have h := verdict_of_adjacent hr hz u rest
    cases hr
    exact h
  | case3 u rest op l r =>
    have h := verdict_of_adjacent hr hz u rest
    cases hr with
    | step _ v hop hr' => rwa [breakFailure_of_adjacent hr' hop] at h
  | case4 acc op v rest hop acc' hc ih =>
    by_cases h0 : op = .divide ∧ v.isZero = true
    · rw [combine_zero h0] at hc
      cases hc
    · rw [combine_of_not_zero h0] at hc
      cases hc
      have h := ih (.step op v hop hr) fun hl => not_dividesByZeroAt_concat (hz hl) h0
      simpa using h
  | case5 acc op v rest hop f hc =>
    by_cases h0 : op = .divide ∧ v.isZero = true
    · rw [combine_zero h0] at hc
      cases hc
      exact verdict_of_zero hr hz hop h0 rest
    · rw [combine_of_not_zero h0] at hc
      cases hc
  | case6 acc op v rest hop ih =>
    exact .append hr.isChain hz hop (ih (.number v) (by simp [DividesByZeroAt])) _
  | case7 acc op rest hrest hop =>
    have h := verdict_of_stray hr hz op hrest
    rwa [breakFailure_of_stray level hr.isChain.length_odd, if_pos hop] at h
  | case8 acc op rest hrest hop =>
    have h := verdict_of_stray hr hz op hrest
    rwa [breakFailure_of_stray level hr.isChain.length_odd, if_neg hop] at h

/-- How a stage ends on any tokens. -/
theorem verdict_collapse (level : Int) (ts : List Token) :
    Verdict level ts (collapse level ts) := by
  match ts with
  | .number v :: ts =>
    rw [collapse_eq_scan]
    exact verdict_scan (.number v) (by simp [DividesByZeroAt]) ts
  | [] =>
    rw [collapse_nil]
    exact verdict_of_headless level (by simp [Breaks, NumberAt])
  | .operator op :: ts =>
    rw [collapse_operator]
    exact verdict_of_headless level (by simp [Breaks, NumberAt])

end Abacus.Chain
