import Abacus.Outcome
import Abacus.Proofs.Chain.Parse
import Abacus.Proofs.Token.Lexing

/-!
# The outcome of a text

A text has a value just when its tokens are a chain that divides by no literal
zero, and the value is that of the grouping of the chain. A character that begins
no token is reported whatever else is wrong, and a literal zero divisor before a
break of the chain that stands behind it.

* `interprets_interpret`: how an interpretation ends.
* `interpret_outcome`: which texts end in which way.
-/

namespace Abacus

open Chain

/-- A parse fails at a literal zero divisor ahead of every break, or else at a break. -/
theorem Chain.kind_of_parse {ts : List Token} {f : Failure} (h : parse ts = .error f) :
    (f.kind = .arithmetic ∧ ∃ z, ZeroDivisorAt ts z) ∨
    (f.kind = .parse ∧ ¬ IsChain ts ∧ ∀ z, ¬ ZeroDivisorAt ts z) := by
  have hv := verdict_collapse 1 ts
  rw [(parse_eq_error_iff ts f).mp h] at hv
  cases hv with
  | zeroDivisor _ hz => exact .inl ⟨rfl, _, hz.1⟩
  | broken hn hk =>
    exact .inr ⟨kind_breakFailure 1 ts _, fun hc => hc.not_breaks _ hk.1, hn rfl⟩

/-- The ways in which the interpretation of a text can end. -/
inductive Interprets (s : String) : Outcome → Prop
  | value {ts : List Token} {e : Expr} : Token.lex s = .ok ts → (∀ z, ¬ DividesByZeroAt ts z) →
      Grouped ts e → Interprets s (.ok s e.eval)
  | unread {f : Failure} (message : String) : Token.lex s = .error f →
      Interprets s (.error s .lexical message)
  | zeroDivisor {ts : List Token} {z : Nat} (message : String) : Token.lex s = .ok ts →
      ZeroDivisorAt ts z → Interprets s (.error s .arithmetic message)
  | broken {ts : List Token} (message : String) : Token.lex s = .ok ts → ¬ IsChain ts →
      (∀ z, ¬ ZeroDivisorAt ts z) → Interprets s (.error s .parse message)

theorem evaluate_of_lex_error {s : String} {f : Failure} (h : Token.lex s = .error f) :
    evaluate s = .error f := by
  simp only [evaluate, h, bind, Except.bind]

theorem evaluate_of_lex_ok {s : String} {ts : List Token} (h : Token.lex s = .ok ts) :
    evaluate s = parse ts := by
  simp only [evaluate, h, bind, Except.bind]

theorem interprets_interpret (s : String) : Interprets s (interpret s) := by
  unfold interpret
  cases hlex : Token.lex s with
  | error f =>
    obtain ⟨c, p, rfl⟩ := Token.eq_unexpected_of_lexFrom hlex
    rw [evaluate_of_lex_error hlex]
    exact .unread _ hlex
  | ok ts =>
    rw [evaluate_of_lex_ok hlex]
    cases hparse : parse ts with
    | ok v =>
      obtain ⟨hz, e, he, rfl⟩ := (parse_eq_ok_iff ts v).mp hparse
      exact .value hlex hz he
    | error f =>
      dsimp only
      rcases kind_of_parse hparse with ⟨hk, z, hz⟩ | ⟨hk, hc, hz⟩
      · rw [hk]
        exact .zeroDivisor _ hlex hz
      · rw [hk]
        exact .broken _ hlex hc hz

/-- A text has a value just when it can be read, its tokens are a chain and none of them divides
    by a literal zero; the value is that of the one grouping of the chain. Every other outcome
    is a failure that keeps the text. It is lexical when the text cannot be read, arithmetic
    when a literal zero divisor lies ahead of every break, and of the parse otherwise. -/
theorem interpret_outcome (s : String) :
    ((∃ v, interpret s = .ok s v) ↔
      ∃ ts, Token.lex s = .ok ts ∧ IsChain ts ∧ ∀ z, ¬ DividesByZeroAt ts z) ∧
    (∀ t v, interpret s = .ok t v →
      t = s ∧ ∃ ts e, Token.lex s = .ok ts ∧ Grouped ts e ∧ (∀ e', Grouped ts e' → e' = e) ∧
        v = e.eval) ∧
    (∀ t kind message, interpret s = .error t kind message → t = s) ∧
    ((∃ message, interpret s = .error s .lexical message) ↔ ∃ f, Token.lex s = .error f) ∧
    ((∃ message, interpret s = .error s .arithmetic message) ↔
      ∃ ts, Token.lex s = .ok ts ∧ ∃ z, ZeroDivisorAt ts z) ∧
    ((∃ message, interpret s = .error s .parse message) ↔
      ∃ ts, Token.lex s = .ok ts ∧ ¬ IsChain ts ∧ ∀ z, ¬ ZeroDivisorAt ts z) := by
  have h := interprets_interpret s
  generalize interpret s = outcome at h ⊢
  cases h with
  | @value ts e hlex hz he =>
    have hc := he.isChain
    have hz' : ∀ z, ¬ ZeroDivisorAt ts z := fun z h => hz z h.1
    have hunique : ∀ e', Grouped ts e' → e' = e := fun e' he' => he'.unique he
    simpa [hlex, hc, hz, hz'] using ⟨e, he, hunique, rfl⟩
  | unread message hlex => simp [hlex]
  | @zeroDivisor ts z message hlex hz =>
    have hex : ∃ z, ZeroDivisorAt ts z := ⟨z, hz⟩
    simpa [hlex, hex] using fun _ => ⟨z, hz.1⟩
  | broken message hlex hc hz => simp [hlex, hc, hz]

end Abacus
