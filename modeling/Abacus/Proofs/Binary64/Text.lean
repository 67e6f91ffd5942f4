import Abacus.Proofs.Binary64.ReadBack
import Abacus.Proofs.Token.Lexing

/-!
# Numbers told apart by their texts

Two numbers with one text are the same number: a finite one is read back from its
digits, its sign is the only hyphen, and an infinity or a NaN is written with letters.

* `Magnitude.positional_injective`: the digits of a magnitude give it back.
* `Binary64.chars_injective`: the text of a number gives it back.
-/

namespace Abacus

/-! ## Digits -/

/-- A digit or a point. -/
def IsNumeric (c : Char) : Prop := c.isDigit = true ∨ c = '.'

instance (c : Char) : Decidable (IsNumeric c) := inferInstanceAs (Decidable (_ ∨ _))

theorem Literal.WellFormed.isNumeric {l : Literal} (hl : l.WellFormed) {c : Char}
    (h : c ∈ l.chars) : IsNumeric c := by
  rw [Literal.chars] at h
  split at h
  · exact .inl (hl.whole_isDigit c h)
  · next ds hds =>
    rcases List.mem_append.mp h with h | h
    · exact .inl (hl.whole_isDigit c h)
    · rcases List.mem_cons.mp h with rfl | h
      · exact .inr rfl
      · exact .inl (hl.fraction_isDigit ds hds c h)

theorem Literal.WellFormed.chars_ne_nil {l : Literal} (hl : l.WellFormed) : l.chars ≠ [] := by
  obtain ⟨whole, fraction⟩ := l
  cases fraction with
  | none =>
    intro h
    obtain ⟨d, ds, hf⟩ := hl.ne_nil h
    cases hf
  | some ds => simp [Literal.chars]

theorem Decimal.isNumeric_positional {d : Decimal} {c : Char} (h : c ∈ d.positional) :
    IsNumeric c := by
  rw [← d.chars_literal] at h
  exact d.wellFormed_literal.isNumeric h

/-- A literal that ends a text is determined by its characters. -/
theorem Literal.WellFormed.chars_inj {l l' : Literal} (hl : l.WellFormed) (hl' : l'.WellFormed)
    (h : l.chars = l'.chars) : l = l' := by
  have hnil (l : Literal) : l.EndsBefore [] := ⟨by rintro c ⟨⟩, by simp⟩
  have hscan := Literal.scan_chars_append hl (hnil l)
  rw [h, Literal.scan_chars_append hl' (hnil l')] at hscan
  exact (Prod.mk.inj (Option.some.inj hscan)).1.symm

theorem Magnitude.positional_injective {m n : Magnitude}
    (h : m.shortest.positional = n.shortest.positional) : m = n := by
  rw [← Decimal.chars_literal, ← Decimal.chars_literal] at h
  have hl := (Decimal.wellFormed_literal _).chars_inj (Decimal.wellFormed_literal _) h
  have hvalue (m : Magnitude) :
      Binary64.ofDecimal false m.shortest.literal.decimal = .finite false m := by
    rw [Decimal.ofDecimal_literal, m.ofDecimal_shortest]
  have := hvalue m
  rw [hl, hvalue n] at this
  cases this
  rfl

/-! ## Numbers -/

namespace Binary64

theorem chars_ne_nil (v : Binary64) : v.chars ≠ [] := by
  rcases v with ⟨neg, m⟩ | neg | _
  · have := (Decimal.wellFormed_literal m.shortest).chars_ne_nil
    rw [Decimal.chars_literal] at this
    simp [chars, this]
  · simp [chars]
  · simp [chars]

/-- What stands in the text of a number: digits, a point, a hyphen and, if it is not finite,
    letters. -/
theorem mem_chars {v : Binary64} {c : Char} (h : c ∈ v.chars) :
    IsNumeric c ∨ c = '-' ∨ (v.isFinite = false ∧ c ∈ ['i', 'n', 'f', 'a']) := by
  rcases v with ⟨neg, m⟩ | neg | _
  · rcases List.mem_append.mp h with h | h
    · cases neg with
      | false => cases h
      | true => exact .inr (.inl (List.mem_singleton.mp h))
    · exact .inl (Decimal.isNumeric_positional h)
  · have hinfinite : (infinite neg).chars ⊆ ['-', 'i', 'n', 'f', 'a'] := by cases neg <;> decide
    rcases List.mem_cons.mp (hinfinite h) with rfl | h
    · exact .inr (.inl rfl)
    · exact .inr (.inr ⟨rfl, h⟩)
  · have hnan : nan.chars ⊆ ['i', 'n', 'f', 'a'] := by decide
    exact .inr (.inr ⟨rfl, hnan h⟩)

theorem not_mem_chars {c : Char} (hc : ¬ (IsNumeric c ∨ c = '-' ∨ c ∈ ['i', 'n', 'f', 'a']))
    (v : Binary64) : c ∉ v.chars := by
  intro h
  rcases mem_chars h with h | h | h
  · exact hc (.inl h)
  · exact hc (.inr (.inl h))
  · exact hc (.inr (.inr h.2))

/-- The letter that tells a number which is not finite. -/
theorem n_mem_chars_iff (v : Binary64) : 'n' ∈ v.chars ↔ v.isFinite = false := by
  constructor
  · intro h
    rcases mem_chars h with h | h | h
    · exact absurd h (by decide)
    · exact absurd h (by decide)
    · exact h.1
  · rcases v with ⟨neg, m⟩ | neg | _
    · rintro ⟨⟩
    · cases neg <;> simp [chars]
    · simp [chars]

/-- The hyphen in the text of a finite number is its sign. -/
theorem hyphen_mem_chars_iff (neg : Bool) (m : Magnitude) :
    '-' ∈ (finite neg m).chars ↔ neg = true := by
  constructor
  · intro h
    rcases List.mem_append.mp h with h | h
    · cases neg with
      | false => cases h
      | true => rfl
    · exact absurd (Decimal.isNumeric_positional h) (by decide)
  · rintro rfl
    exact List.mem_cons_self

theorem chars_injective {v w : Binary64} (h : v.chars = w.chars) : v = w := by
  have hfinite : v.isFinite = false ↔ w.isFinite = false := by
    rw [← n_mem_chars_iff, ← n_mem_chars_iff, h]
  match v, w with
  | .finite s m, .finite t n =>
    have hsign : s = t := by
      rw [Bool.eq_iff_iff, ← hyphen_mem_chars_iff s m, ← hyphen_mem_chars_iff t n, h]
    rw [hsign] at h ⊢
    rw [Magnitude.positional_injective (List.append_cancel_left h)]
  | .finite _ _, .infinite _ => cases hfinite.mpr rfl
  | .finite _ _, .nan => cases hfinite.mpr rfl
  | .infinite _, .finite _ _ => cases hfinite.mp rfl
  | .nan, .finite _ _ => cases hfinite.mp rfl
  | .infinite s, .infinite t => revert h; cases s <;> cases t <;> decide
  | .infinite s, .nan => revert h; cases s <;> decide
  | .nan, .infinite t => revert h; cases t <;> decide
  | .nan, .nan => rfl

end Binary64

end Abacus
