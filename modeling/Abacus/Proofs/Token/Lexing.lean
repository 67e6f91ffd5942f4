import Abacus.Binary64.Decimal
import Abacus.Token.Lexer

/-!
# Reading one token

What the reader makes of a text that starts with a literal, an operator, a blank
or none of these, and the literal as which a decimal is written.

* `scan_chars_append`: a literal is read whole where the text behind it cannot go on with it.
* `wellFormed_of_scan`, `endsBefore_of_scan`: what is scanned is such a literal.
* `chars_literal`, `ofDecimal_literal`: the positional text of a decimal is a
  literal, which denotes the same number.
-/

namespace Abacus

namespace Literal

/-- Digits with an optional point and further digits, or a point and digits. -/
structure WellFormed (l : Literal) : Prop where
  whole_isDigit : ∀ c ∈ l.whole, c.isDigit = true
  fraction_isDigit : ∀ ds, l.fraction = some ds → ∀ c ∈ ds, c.isDigit = true
  ne_nil : l.whole = [] → ∃ d ds, l.fraction = some (d :: ds)

/-- The text does not go on with the literal: it starts with no digit, and with no point
    either unless the literal has one already. -/
def EndsBefore (l : Literal) (rest : List Char) : Prop :=
  (∀ c ∈ rest.head?, c.isDigit = false) ∧ (l.fraction = none → rest.head? ≠ some '.')

theorem takeWhile_isDigit_append {ds rest : List Char} (hds : ∀ c ∈ ds, c.isDigit = true)
    (hrest : ∀ c ∈ rest.head?, c.isDigit = false) :
    (ds ++ rest).takeWhile Char.isDigit = ds := by
  rw [List.takeWhile_append_of_pos hds]
  cases rest with
  | nil => simp
  | cons c cs => simp [hrest c rfl]

theorem dropWhile_isDigit_append {ds rest : List Char} (hds : ∀ c ∈ ds, c.isDigit = true)
    (hrest : ∀ c ∈ rest.head?, c.isDigit = false) :
    (ds ++ rest).dropWhile Char.isDigit = rest := by
  rw [List.dropWhile_append_of_pos hds]
  cases rest with
  | nil => rfl
  | cons c cs => simp [hrest c rfl]

theorem scan_chars_append {l : Literal} (hl : l.WellFormed) {rest : List Char}
    (hrest : l.EndsBefore rest) : scan (l.chars ++ rest) = some (l, rest) := by
  obtain ⟨whole, fraction⟩ := l
  cases fraction with
  | none =>
    cases whole with
    | nil => obtain ⟨d, ds, h⟩ := hl.ne_nil rfl; cases h
    | cons d ds =>
      unfold scan chars
      simp only
      rw [takeWhile_isDigit_append hl.whole_isDigit hrest.1,
        dropWhile_isDigit_append hl.whole_isDigit hrest.1]
      split
      · cases ‹_ = []›
      · cases ‹_ = []›
      · exact absurd rfl (hrest.2 rfl)
      · next h1 h2 => cases h1; rfl
  | some ds =>
    have hds := hl.fraction_isDigit ds rfl
    have hpoint : ∀ c ∈ ('.' :: (ds ++ rest)).head?, c.isDigit = false := by
      rintro c ⟨⟩
      decide
    unfold scan chars
    simp only [List.append_assoc, List.cons_append]
    rw [takeWhile_isDigit_append hl.whole_isDigit hpoint,
      dropWhile_isDigit_append hl.whole_isDigit hpoint]
    cases whole with
    | nil =>
      obtain ⟨d, ds', h⟩ := hl.ne_nil rfl
      cases h
      simp only
      rw [takeWhile_isDigit_append hds hrest.1, dropWhile_isDigit_append hds hrest.1]
    | cons d ds' =>
      simp only
      rw [takeWhile_isDigit_append hds hrest.1, dropWhile_isDigit_append hds hrest.1]

theorem scan_eq_none {c : Char} (hdigit : c.isDigit = false) (hpoint : c ≠ '.')
    (cs : List Char) : scan (c :: cs) = none := by
  unfold scan
  rw [List.takeWhile_cons, List.dropWhile_cons]
  simp only [hdigit, Bool.false_eq_true, if_false]
  split
  · next h => exact absurd (List.cons.inj h).1 hpoint
  · rfl
  · cases ‹[] = _ :: _›
  · cases ‹[] = _ :: _›

/-! ### What is scanned -/

/-- What is scanned is a literal. -/
theorem wellFormed_of_scan {cs rest : List Char} {l : Literal}
    (h : scan cs = some (l, rest)) : l.WellFormed := by
  have hdigits {ds tail : List Char} (hds : tail.takeWhile Char.isDigit = ds) :
      ∀ c ∈ ds, c.isDigit = true := by
    rw [← hds]
    exact List.all_eq_true.mp List.all_takeWhile
  unfold scan at h
  split at h
  · split at h
    · cases h
    · next d ds hd =>
      cases h
      exact ⟨List.forall_mem_nil _, by rintro _ ⟨⟩; exact hdigits hd, fun _ => ⟨d, ds, rfl⟩⟩
  · cases h
  · next hw _ =>
    cases h
    exact ⟨hdigits hw, by rintro _ ⟨⟩; exact hdigits rfl, by rintro ⟨⟩⟩
  · next hw _ =>
    cases h
    exact ⟨hdigits hw, by rintro _ ⟨⟩, by rintro ⟨⟩⟩

theorem isDigit_head?_dropWhile (cs : List Char) :
    ∀ c ∈ (cs.dropWhile Char.isDigit).head?, c.isDigit = false := by
  intro c hc
  have h := List.head?_dropWhile_not Char.isDigit cs
  rw [hc] at h
  simpa using h

/-- What is scanned goes on as far as it can. -/
theorem endsBefore_of_scan {cs rest : List Char} {l : Literal} (h : scan cs = some (l, rest)) :
    l.EndsBefore rest := by
  unfold scan at h
  split at h
  · split at h
    · cases h
    · cases h
      exact ⟨isDigit_head?_dropWhile _, by rintro ⟨⟩⟩
  · cases h
  · cases h
    exact ⟨isDigit_head?_dropWhile _, by rintro ⟨⟩⟩
  · next hpoint =>
    cases h
    refine ⟨isDigit_head?_dropWhile cs, fun _ hdot => ?_⟩
    obtain ⟨tail, htail⟩ := List.head?_eq_some_iff.mp hdot
    exact hpoint tail htail

/-- A character with which no literal starts. -/
theorem of_scan_eq_none {c : Char} {cs : List Char} (h : scan (c :: cs) = none) :
    c.isDigit = false ∧ (c = '.' → ∀ d ∈ cs.head?, d.isDigit = false) := by
  cases hc : c.isDigit with
  | true =>
    have hw : (c :: cs).takeWhile Char.isDigit = c :: cs.takeWhile Char.isDigit :=
      List.takeWhile_cons_of_pos hc
    unfold scan at h
    rw [hw] at h
    split at h <;> simp_all
  | false =>
    refine ⟨rfl, ?_⟩
    rintro rfl d hd
    cases hdigit : d.isDigit with
    | false => rfl
    | true =>
      obtain ⟨ds, rfl⟩ := List.head?_eq_some_iff.mp hd
      have hw : (d :: ds).takeWhile Char.isDigit = d :: ds.takeWhile Char.isDigit :=
        List.takeWhile_cons_of_pos hdigit
      unfold scan at h
      rw [List.takeWhile_cons_of_neg (by decide), List.dropWhile_cons_of_neg (by decide)] at h
      simp only [hw] at h
      cases h

end Literal

/-! ## Steps of the reader -/

namespace Token

theorem exists_of_map_eq_ok {α β : Type} {f : α → β} {x : Except Failure α} {b : β}
    (h : x.map f = .ok b) : ∃ a, x = .ok a ∧ f a = b := by
  cases x with
  | error e => cases h
  | ok a => exact ⟨a, rfl, Except.ok.inj h⟩

theorem exists_of_map_eq_error {α β : Type} {g : α → β} {x : Except Failure α} {f : Failure}
    (h : x.map g = .error f) : x = .error f := by
  cases x with
  | error e => exact congrArg _ (Except.error.inj h)
  | ok a => cases h

theorem lexFrom_of_scan (pos : Nat) {cs rest : List Char} {l : Literal}
    (h : Literal.scan cs = some (l, rest)) :
    lexFrom pos cs = (lexFrom (pos + l.chars.length) rest).map (.number l.value :: ·) := by
  rw [lexFrom]
  split
  · next l' rest' h' =>
    rw [h] at h'
    cases h'
    rfl
  · next h' =>
    rw [h] at h'
    cases h'

theorem lexFrom_of_not_scan (pos : Nat) {c : Char} {cs : List Char}
    (h : Literal.scan (c :: cs) = none) :
    lexFrom pos (c :: cs) =
      match Operator.ofSymbol? c with
      | some op => (lexFrom (pos + 1) cs).map (.operator op :: ·)
      | none =>
        if Text.isBlank c then lexFrom (pos + 1) cs
        else .error (.unexpected (String.singleton c) pos) := by
  rw [lexFrom]
  split
  · next l' rest' h' =>
    rw [h] at h'
    cases h'
  · rfl

theorem lexFrom_literal (pos : Nat) {l : Literal} (hl : l.WellFormed) {rest : List Char}
    (hrest : l.EndsBefore rest) :
    lexFrom pos (l.chars ++ rest) =
      (lexFrom (pos + l.chars.length) rest).map (.number l.value :: ·) :=
  lexFrom_of_scan pos (Literal.scan_chars_append hl hrest)

theorem lexFrom_symbol (pos : Nat) (op : Operator) (cs : List Char) :
    lexFrom pos (op.symbol :: cs) = (lexFrom (pos + 1) cs).map (.operator op :: ·) := by
  have hscan : Literal.scan (op.symbol :: cs) = none :=
    Literal.scan_eq_none (by cases op <;> decide) (by cases op <;> decide) cs
  rw [lexFrom_of_not_scan pos hscan, Operator.ofSymbol?_symbol]

theorem lexFrom_space (pos : Nat) (cs : List Char) :
    lexFrom pos (' ' :: cs) = lexFrom (pos + 1) cs := by
  rw [lexFrom_of_not_scan pos (Literal.scan_eq_none (by decide) (by decide) cs)]
  rfl

theorem lexFrom_stray (pos : Nat) {c : Char} (hdigit : c.isDigit = false) (hpoint : c ≠ '.')
    (hop : Operator.ofSymbol? c = none) (hblank : Text.isBlank c = false) (cs : List Char) :
    lexFrom pos (c :: cs) = .error (.unexpected (String.singleton c) pos) := by
  rw [lexFrom_of_not_scan pos (Literal.scan_eq_none hdigit hpoint cs), hop]
  simp [hblank]

/-- The reader fails only on a character that begins no token. -/
theorem eq_unexpected_of_lexFrom {pos : Nat} {cs : List Char} {f : Failure}
    (h : lexFrom pos cs = .error f) :
    ∃ (c : Char) (p : Nat), f = .unexpected (String.singleton c) p := by
  fun_induction lexFrom pos cs with
  | case1 pos cs l rest hs ih =>
    cases hr : lexFrom (pos + l.chars.length) rest with
    | error f' => rw [hr] at h; cases h; exact ih hr
    | ok ts => rw [hr] at h; cases h
  | case2 pos => cases h
  | case3 pos c rest _ op _ ih =>
    cases hr : lexFrom (pos + 1) rest with
    | error f' => rw [hr] at h; cases h; exact ih hr
    | ok ts => rw [hr] at h; cases h
  | case4 pos c rest _ _ _ ih => exact ih h
  | case5 pos c rest _ _ _ => cases h; exact ⟨c, pos, rfl⟩

end Token

/-! ## The literal of a decimal -/

namespace Decimal

/-- The literal as which a decimal is written. -/
def literal (d : Decimal) : Literal :=
  let digits := Nat.toDigits 10 d.digits
  if 0 ≤ d.exponent then ⟨digits ++ List.replicate d.exponent.toNat '0', none⟩
  else
    let places := (-d.exponent).toNat
    if places < digits.length then
      ⟨digits.take (digits.length - places), some (digits.drop (digits.length - places))⟩
    else ⟨['0'], some (List.replicate (places - digits.length) '0' ++ digits)⟩

theorem chars_literal (d : Decimal) : d.literal.chars = d.positional := by
  unfold literal positional
  dsimp only
  split
  · rfl
  · split
    · rfl
    · rfl

theorem isDigit_of_mem_toDigits {n : Nat} {c : Char} (h : c ∈ Nat.toDigits 10 n) :
    c.isDigit = true :=
  Nat.isDigit_of_mem_toDigits (by omega) (by omega) h

theorem isDigit_of_mem_replicate {n : Nat} {c : Char} (h : c ∈ List.replicate n '0') :
    c.isDigit = true := by
  rw [List.eq_of_mem_replicate h]
  rfl

theorem wellFormed_literal (d : Decimal) : d.literal.WellFormed := by
  unfold literal
  dsimp only
  split
  · refine ⟨fun c hc => ?_, by rintro _ ⟨⟩, fun h => ?_⟩
    · rcases List.mem_append.mp hc with h | h
      · exact isDigit_of_mem_toDigits h
      · exact isDigit_of_mem_replicate h
    · exact absurd (List.append_eq_nil_iff.mp h).1 Nat.toDigits_ne_nil
  · split
    · next hlt =>
      refine ⟨fun c hc => isDigit_of_mem_toDigits (List.mem_of_mem_take hc), ?_, fun h => ?_⟩
      · rintro _ ⟨⟩ c hc
        exact isDigit_of_mem_toDigits (List.mem_of_mem_drop hc)
      · have := congrArg List.length h
        simp only [List.length_take, List.length_nil] at this
        omega
    · refine ⟨fun c hc => ?_, ?_, fun h => by cases h⟩
      · rw [List.mem_singleton.mp hc]
        rfl
      · rintro _ ⟨⟩ c hc
        rcases List.mem_append.mp hc with h | h
        · exact isDigit_of_mem_replicate h
        · exact isDigit_of_mem_toDigits h

/-- With a point, the literal has just the digits of the decimal, and zeros before them. -/
theorem decimal_literal_of_neg {d : Decimal} (he : ¬ 0 ≤ d.exponent) : d.literal.decimal = d := by
  obtain ⟨n, e⟩ := d
  unfold literal
  dsimp only at he ⊢
  rw [if_neg he]
  split
  · unfold Literal.decimal
    simp
    omega
  · unfold Literal.decimal
    simp [Nat.ofDigitChars_cons, Nat.ofDigitChars_append]
    omega

/-- Without a point, the zeros behind the digits stand for the power of ten. -/
theorem decimal_literal_of_nonneg {d : Decimal} (he : 0 ≤ d.exponent) :
    d.literal.decimal = ⟨d.digits * Nat.pow 10 d.exponent.toNat, 0⟩ := by
  obtain ⟨n, e⟩ := d
  unfold literal Literal.decimal
  dsimp only at he ⊢
  simp [Nat.ofDigitChars_append, he, Nat.mul_comm n]

/-- The literal of a decimal denotes the number that the decimal is. -/
theorem ofDecimal_literal (neg : Bool) (d : Decimal) :
    Binary64.ofDecimal neg d.literal.decimal = Binary64.ofDecimal neg d := by
  by_cases he : 0 ≤ d.exponent
  · rw [decimal_literal_of_nonneg he]
    simp [Binary64.ofDecimal, he]
  · rw [decimal_literal_of_neg he]

end Decimal

end Abacus
