import Abacus.Proofs.Chain.Verdict

/-!
# The value of a chain

After the first stage every number is the value of a product, and the second
stage adds these up in the order of the chain. So the two stages give what the
grouping of the chain evaluates to, though no stage builds that tree.

* `collapsed_of_collapse`: what a stage replaces.
* `Collapsed.collapse_eq`: a second run of a stage changes nothing.
* `parse_eq_ok_iff`: a chain without literal zero divisors has the value of its
  grouping, and nothing else has a value.
* `parse_eq_error_iff`: only the first stage can fail.
* `collapse_ending`: how a stage ends on any tokens.
-/

namespace Abacus.Chain

/-! ## The first stage -/

/-- The tokens `out` are the chain `ts` with every longest run of the level replaced by its
    value. -/
inductive Collapsed (level : Int) : List Token → List Token → Prop
  | last {ts : List Token} {e : Expr} : Run level ts e → Collapsed level ts [.number e.eval]
  | cons (op : Operator) {us ts out : List Token} {e : Expr} : (op.level : Int) ≠ level →
      Run level us e → Collapsed level ts out →
      Collapsed level (us ++ .operator op :: ts) (.number e.eval :: .operator op :: out)

theorem collapsed_of_scan {level : Int} {us ts out : List Token} {acc : Expr}
    (hr : Run level us acc) (h : scan level acc ts = .ok out) :
    Collapsed level (us ++ ts) out := by
  fun_induction scan level acc ts generalizing us out with
  | case1 acc => cases h; rw [List.append_nil]; exact .last hr
  | case2 u rest v => cases h
  | case3 u rest op l r => cases h
  | case4 acc op v rest hop acc' hc ih =>
    by_cases h0 : op = .divide ∧ v.isZero = true
    · rw [combine_zero h0] at hc
      cases hc
    · rw [combine_of_not_zero h0] at hc
      cases hc
      simpa using ih (.step op v hop hr) h
  | case5 acc op v rest hop f hc => cases h
  | case6 acc op v rest hop ih =>
    cases hs : scan level (.number v) rest with
    | error f => rw [hs] at h; cases h
    | ok tail =>
      rw [hs] at h
      cases h
      exact .cons op hop hr (ih (.number v) hs)
  | case7 acc op rest hrest hop => cases h
  | case8 acc op rest hrest hop => cases h

theorem collapsed_of_collapse {level : Int} {ts out : List Token}
    (h : collapse level ts = .ok out) : Collapsed level ts out := by
  match ts with
  | [] => rw [collapse_nil] at h; cases h
  | .operator op :: ts => rw [collapse_operator] at h; cases h
  | .number v :: ts =>
    rw [collapse_eq_scan] at h
    exact collapsed_of_scan (.number v) h

/-- A stage leaves nothing for itself to replace. -/
theorem Collapsed.collapse_eq {level : Int} {ts out : List Token} (h : Collapsed level ts out) :
    collapse level out = .ok out := by
  induction h with
  | @last ts e hr => exact collapse_single level e.eval
  | @cons op us ts out e hop hr hc ih =>
    rw [collapse_skip hop, ih]
    rfl

/-! ## The second stage -/

theorem scan_zero_step {op : Operator} (hop : op.level = 0) (acc : Expr) (v : Binary64)
    (ts : List Token) :
    scan 0 acc (.operator op :: .number v :: ts) = scan 0 (.binary op acc (.number v)) ts := by
  have hd : ¬ (op = .divide ∧ v.isZero = true) := by rintro ⟨rfl, -⟩; cases hop
  rw [scan, if_pos (by omega), combine_of_not_zero hd]

/-- Products that follow the sum read so far are added to it. -/
theorem scan_zero_of_collapsed {ts out : List Token} (h : Collapsed 1 ts out) {us : List Token}
    {acc g : Expr} {op : Operator} (hop : op.level = 0) (hg : Grouped us g)
    (hacc : acc.eval = g.eval) :
    ∃ e, Grouped (us ++ .operator op :: ts) e ∧
      scan 0 acc (.operator op :: out) = .ok [.number e.eval] := by
  induction h generalizing us acc g op with
  | @last ts e hr =>
    refine ⟨_, .sum op hop hg hr, ?_⟩
    rw [scan_zero_step hop, scan]
    simp only [Expr.eval, hacc]
  | @cons op' vs ts out e hop' hr _ ih =>
    have hlevel : op'.level = 0 := by cases op' <;> simp_all [Operator.level]
    have heval : (Expr.binary op acc (.number e.eval)).eval = (Expr.binary op g e).eval := by
      simp only [Expr.eval, hacc]
    obtain ⟨e', he', hscan⟩ := ih hlevel (.sum op hop hg hr) heval
    refine ⟨e', by simpa using he', ?_⟩
    rw [scan_zero_step hop, hscan]

/-- The sum of the products is the value of the grouping. -/
theorem collapse_zero_of_collapsed {ts out : List Token} (h : Collapsed 1 ts out) :
    ∃ e, Grouped ts e ∧ collapse 0 out = .ok [.number e.eval] := by
  cases h with
  | @last ts e hr => exact ⟨e, .product hr, collapse_single 0 e.eval⟩
  | @cons op us ts out e hop hr hc =>
    have hlevel : op.level = 0 := by cases op <;> simp_all [Operator.level]
    obtain ⟨e', he', hscan⟩ :=
      scan_zero_of_collapsed hc hlevel (.product hr) (show (Expr.number e.eval).eval = _ from rfl)
    exact ⟨e', he', by rw [collapse_eq_scan, hscan]⟩

/-! ## Both stages -/

theorem parse_of_collapse_ok {ts out : List Token} (h : collapse 1 ts = .ok out) :
    ∃ e, Grouped ts e ∧ parse ts = .ok e.eval := by
  obtain ⟨e, he, hsum⟩ := collapse_zero_of_collapsed (collapsed_of_collapse h)
  refine ⟨e, he, ?_⟩
  simp only [parse, h, hsum, bind, Except.bind, reduce]
  rfl

theorem parse_of_collapse_error {ts : List Token} {f : Failure} (h : collapse 1 ts = .error f) :
    parse ts = .error f := by
  simp only [parse, h, bind, Except.bind]

/-- What the first stage leaves has the value of the whole chain. -/
theorem parse_of_collapse {ts out : List Token} (h : collapse 1 ts = .ok out) :
    parse out = parse ts := by
  simp only [parse, h, (collapsed_of_collapse h).collapse_eq]

/-- The second stage and the last check fail on nothing that the first stage lets through. -/
theorem parse_eq_error_iff (ts : List Token) (f : Failure) :
    parse ts = .error f ↔ collapse 1 ts = .error f := by
  refine ⟨fun h => ?_, parse_of_collapse_error⟩
  cases hc : collapse 1 ts with
  | error f' =>
    rw [parse_of_collapse_error hc] at h
    cases h
    rfl
  | ok out =>
    obtain ⟨e, -, he⟩ := parse_of_collapse_ok hc
    rw [he] at h
    cases h

/-- The first stage lets through exactly the chains that divide by no literal zero. -/
theorem collapse_one_eq_ok_iff (ts : List Token) :
    (∃ out, collapse 1 ts = .ok out) ↔ IsChain ts ∧ ∀ z, ¬ DividesByZeroAt ts z := by
  have h := verdict_collapse 1 ts
  generalize collapse 1 ts = r at h ⊢
  cases h with
  | zeroDivisor _ hz =>
    refine ⟨by rintro ⟨_, ⟨⟩⟩, fun ⟨_, hn⟩ => absurd hz.1.1 (hn _)⟩
  | broken _ hk =>
    refine ⟨by rintro ⟨_, ⟨⟩⟩, fun ⟨hc, _⟩ => absurd hk.1 (hc.not_breaks _)⟩
  | clean hn hb =>
    have hc := isChain_of_forall_not_breaks hb
    exact ⟨fun _ => ⟨hc, fun z hz => hn rfl z ((hc.zeroDivisorAt_iff z).mpr hz)⟩, fun _ => ⟨_, rfl⟩⟩

/-- A chain that divides by no literal zero has the value of its grouping. -/
theorem parse_eq_ok_iff (ts : List Token) (v : Binary64) :
    parse ts = .ok v ↔ (∀ z, ¬ DividesByZeroAt ts z) ∧ ∃ e, Grouped ts e ∧ e.eval = v := by
  constructor
  · intro h
    cases hc : collapse 1 ts with
    | error f =>
      rw [parse_of_collapse_error hc] at h
      cases h
    | ok out =>
      obtain ⟨e, he, hp⟩ := parse_of_collapse_ok hc
      rw [hp] at h
      cases h
      exact ⟨((collapse_one_eq_ok_iff ts).mp ⟨out, hc⟩).2, e, he, rfl⟩
  · rintro ⟨hz, e, he, rfl⟩
    obtain ⟨out, hc⟩ := (collapse_one_eq_ok_iff ts).mpr ⟨he.isChain, hz⟩
    obtain ⟨e', he', hp⟩ := parse_of_collapse_ok hc
    rw [hp, he.unique he']

/-! ## Failures -/

/-- The failure quotes some of the tokens as they are, and one of the two stages found it. -/
def Quotes (ts : List Token) : Failure → Prop
  | .zeroDivisor quotient => ∃ a b, quotient = Token.render (ts.extract a b)
  | .malformed stage tokens =>
    (stage = "reduce" ∨ stage = "parse_by_prec") ∧ ∃ i, tokens = Token.render (ts.drop i)
  | _ => False

theorem quotes_breakFailure (level : Int) (ts : List Token) (k : Nat) :
    Quotes ts (breakFailure level ts k) := by
  unfold breakFailure
  split <;> split
  · exact ⟨.inl rfl, _, rfl⟩
  · exact ⟨.inr rfl, _, rfl⟩
  · exact ⟨.inl rfl, _, rfl⟩
  · exact ⟨.inr rfl, _, rfl⟩

theorem kind_breakFailure (level : Int) (ts : List Token) (k : Nat) :
    (breakFailure level ts k).kind = .parse := by
  unfold breakFailure
  split <;> split <;> rfl

theorem quotes_of_collapse {level : Int} {ts : List Token} {f : Failure}
    (h : collapse level ts = .error f) : Quotes ts f := by
  have hv := verdict_collapse level ts
  rw [h] at hv
  cases hv with
  | zeroDivisor _ _ => exact ⟨_, _, rfl⟩
  | broken _ _ => exact quotes_breakFailure level ts _

/-- How a stage ends. With a first literal zero divisor, if there is one ahead of every break
    and divisions are of the level, the run up to it is quoted. Otherwise a first break is
    reported with the tokens from there on, and the stage that met it. Otherwise the stage
    succeeds. No failure quotes a computed value, and `parse` fails as the first stage does. -/
theorem collapse_ending (level : Int) (ts : List Token) :
    (∀ z, level = 1 → IsLeast {z | z % 2 = 1 ∧ ZeroDivisorAt ts z} z →
      collapse level ts =
        .error (.zeroDivisor (Token.render (ts.extract (runStart ts z) (z + 2))))) ∧
    (∀ k, (level = 1 → ∀ z, ¬ ZeroDivisorAt ts z) → IsLeast {k | Breaks ts k} k →
      collapse level ts = .error (breakFailure level ts k)) ∧
    ((level = 1 → ∀ z, ¬ ZeroDivisorAt ts z) → (∀ k, ¬ Breaks ts k) →
      ∃ out, collapse level ts = .ok out) ∧
    (∀ f, collapse level ts = .error f → Quotes ts f) ∧
    (∀ f, parse ts = .error f ↔ collapse 1 ts = .error f) := by
  have hset : {z | z % 2 = 1 ∧ ZeroDivisorAt ts z} = {z | ZeroDivisorAt ts z} :=
    Set.ext fun z => ⟨And.right, fun hz => ⟨hz.odd, hz⟩⟩
  rw [hset]
  refine ⟨fun z hl hz => ?_, fun k hn hk => ?_, fun hn hb => ?_, fun f => quotes_of_collapse,
    parse_eq_error_iff ts⟩
  all_goals
    have hv := verdict_collapse level ts
    generalize collapse level ts = r at hv ⊢
  · cases hv with
    | zeroDivisor _ hz' => rw [hz'.unique hz]; rfl
    | broken hn _ => exact absurd hz.1 (hn hl z)
    | clean hn _ => exact absurd hz.1 (hn hl z)
  · cases hv with
    | zeroDivisor hl hz => exact absurd hz.1 (hn hl _)
    | broken _ hk' => rw [hk'.unique hk]
    | clean _ hb => exact absurd hk.1 (hb k)
  · cases hv with
    | zeroDivisor hl hz => exact absurd hz.1 (hn hl _)
    | broken _ hk => exact absurd hk.1 (hb _)
    | clean _ _ => exact ⟨_, rfl⟩

/-- In `0 * 0 / 0 +` the zero divisor comes before the break at the end. -/
theorem collapse_product_over_zero :
    collapse 1 [.number .zero, .operator .multiply, .number .zero, .operator .divide,
        .number .zero, .operator .add] =
      .error (.zeroDivisor (Token.render [.number .zero, .operator .multiply, .number .zero,
        .operator .divide, .number .zero])) := by
  refine (collapse_ending 1 _).1 3 rfl ⟨⟨rfl, ⟨rfl, .zero, rfl, rfl⟩, fun k hk => ?_⟩, ?_⟩
  · exact IsChain.length_le_of_breaks (.cons .zero .multiply (.cons .zero .divide (.single .zero)))
      (show Breaks ([_, _, _, _, _] ++ [_]) k from hk)
  · rintro z ⟨hodd, ⟨hz, -⟩, -⟩
    match z with
    | 0 => cases hodd
    | 1 => cases hz
    | 2 => cases hodd
    | z + 3 => exact Nat.le_add_left 3 z

end Abacus.Chain
