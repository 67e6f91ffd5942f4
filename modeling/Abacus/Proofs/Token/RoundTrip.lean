import Abacus.Proofs.Binary64.Text

/-!
# Token lists read back

Reading the text of a token list gives the list again, but for negative numbers:
their sign is read as an operator of its own. An infinity or a NaN is written with
letters, where the reading stops.

* `lexFrom_chars`: one token, whatever stands behind it.
* `lexFrom_spacedChars`: tokens that are followed by more text.
* `lex_render`: a whole list.
-/

namespace Abacus.Token

/-! ## What a token is read as -/

/-- A token that is written without letters. -/
def isFinite : Token → Bool
  | .number v => v.isFinite
  | .operator _ => true

/-- The tokens as which the text of a token is read: the sign of a negative number is an
    operator. -/
def spelled : Token → List Token
  | .number v => if v.signBit then [.operator .subtract, .number v.abs] else [.number v]
  | .operator op => [.operator op]

theorem isFinite_iff_forall_number {ts : List Token} :
    (∀ t ∈ ts, t.isFinite = true) ↔ ∀ v, number v ∈ ts → v.isFinite = true := by
  constructor
  · exact fun h v hv => h _ hv
  · rintro h (v | op) ht
    · exact h v ht
    · rfl

theorem flatMap_spelled_of_signBit {ts : List Token}
    (h : ∀ v, number v ∈ ts → v.signBit = false) : ts.flatMap spelled = ts := by
  induction ts with
  | nil => rfl
  | cons t ts ih =>
    have ht : t.spelled = [t] := by
      cases t with
      | number v =>
        have hv := h v (List.mem_cons_self ..)
        rw [spelled, hv]
        rfl
      | operator op => rfl
    rw [List.flatMap_cons, ht, ih fun v hv => h v (List.mem_cons_of_mem _ hv)]
    rfl

/-! ## The characters of a token -/

/-- A character of a literal, of an operator, or a space. -/
def IsPlain (c : Char) : Prop := c.isDigit = true ∨ c ∈ ['.', '+', '-', '*', '/', ' ']

instance (c : Char) : Decidable (IsPlain c) := inferInstanceAs (Decidable (_ ∨ _))

theorem isPlain_positional {d : Decimal} {c : Char} (h : c ∈ d.positional) : IsPlain c :=
  (Decimal.isNumeric_positional h).imp_right fun hpoint => by
    rw [hpoint]
    decide

theorem isPlain_chars {t : Token} (ht : t.isFinite = true) {c : Char} (h : c ∈ t.chars) :
    IsPlain c := by
  rcases t with (⟨neg, m⟩ | _ | _) | op
  · rcases List.mem_append.mp h with h | h
    · cases neg with
      | false => cases h
      | true => rw [List.mem_singleton.mp h]; exact .inr (by decide)
    · exact isPlain_positional h
  · cases ht
  · cases ht
  · rw [List.mem_singleton.mp h]
    cases op <;> decide

/-! ## Reading tokens with more text behind them -/

/-- The text does not go on with a number. -/
def EndsNumber (rest : List Char) : Prop := ∀ c ∈ rest.head?, c.isDigit = false ∧ c ≠ '.'

theorem endsNumber_nil : EndsNumber [] := by
  rintro c ⟨⟩

theorem endsNumber_space (cs : List Char) : EndsNumber (' ' :: cs) := by
  rintro c ⟨⟩
  decide

theorem EndsNumber.endsBefore {rest : List Char} (h : EndsNumber rest) (l : Literal) :
    l.EndsBefore rest :=
  ⟨fun c hc => (h c hc).1, fun _ hpoint => (h '.' hpoint).2 rfl⟩

/-- The digits written for a magnitude are read as one number, which is that magnitude. -/
theorem lexFrom_positional (pos : Nat) (m : Magnitude) {rest : List Char}
    (hrest : EndsNumber rest) :
    lexFrom pos (m.shortest.positional ++ rest) =
      (lexFrom (pos + m.shortest.positional.length) rest).map
        (.number (.finite false m) :: ·) := by
  have hvalue : m.shortest.literal.value = .finite false m := by
    rw [Literal.value, Decimal.ofDecimal_literal, m.ofDecimal_shortest]
  rw [← Decimal.chars_literal, lexFrom_literal pos (Decimal.wellFormed_literal _)
    (hrest.endsBefore _), hvalue]

/-- Reading goes on behind a token as if it stood alone. -/
theorem lexFrom_chars (pos : Nat) {t : Token} (ht : t.isFinite = true) {rest : List Char}
    (hrest : EndsNumber rest) :
    lexFrom pos (t.chars ++ rest) =
      (lexFrom (pos + t.chars.length) rest).map (t.spelled ++ ·) := by
  rcases t with (⟨neg, m⟩ | _ | _) | op
  · cases neg with
    | false => exact lexFrom_positional pos m hrest
    | true =>
      show lexFrom pos (Operator.subtract.symbol :: (m.shortest.positional ++ rest)) = _
      rw [lexFrom_symbol, lexFrom_positional _ m hrest]
      have hpos : pos + (Token.number (.finite true m)).chars.length =
          pos + 1 + m.shortest.positional.length := by
        show pos + (m.shortest.positional.length + 1) = _
        omega
      rw [hpos]
      cases lexFrom (pos + 1 + m.shortest.positional.length) rest with
      | error f => rfl
      | ok ts => rfl
  · cases ht
  · cases ht
  · exact lexFrom_symbol pos op rest

/-- The characters of tokens with a space after each. -/
def spacedChars (ts : List Token) : List Char := ts.flatMap fun t => t.chars ++ [' ']

theorem spacedChars_cons (t : Token) (ts : List Token) :
    spacedChars (t :: ts) = t.chars ++ ' ' :: spacedChars ts := by
  rw [spacedChars, List.flatMap_cons, List.append_assoc, List.singleton_append]
  rfl

theorem spacedChars_append (ts us : List Token) :
    spacedChars (ts ++ us) = spacedChars ts ++ spacedChars us :=
  List.flatMap_append

theorem isPlain_spacedChars {ts : List Token} (hts : ∀ t ∈ ts, t.isFinite = true) {c : Char}
    (h : c ∈ spacedChars ts) : IsPlain c := by
  obtain ⟨t, ht, hc⟩ := List.mem_flatMap.mp h
  rcases List.mem_append.mp hc with hc | hc
  · exact isPlain_chars (hts t ht) hc
  · rw [List.mem_singleton.mp hc]
    exact .inr (by decide)

/-- Every token but the last has a space behind it. -/
theorem renderChars_append_cons (pre : List Token) (t : Token) (post : List Token) :
    renderChars (pre ++ t :: post) = spacedChars pre ++ renderChars (t :: post) := by
  induction pre with
  | nil => rfl
  | cons u us ih =>
    have hcons : renderChars (u :: (us ++ t :: post)) =
        u.chars ++ ' ' :: renderChars (us ++ t :: post) := by
      cases us with
      | nil => rfl
      | cons w ws => rfl
    rw [List.cons_append, hcons, ih, spacedChars_cons, List.append_assoc, List.cons_append]

theorem renderChars_append_space {ts : List Token} (h : ts ≠ []) (rest : List Char) :
    renderChars ts ++ ' ' :: rest = spacedChars ts ++ rest := by
  rcases List.eq_nil_or_concat ts with rfl | ⟨pre, t, rfl⟩
  · exact absurd rfl h
  · rw [List.concat_eq_append, renderChars_append_cons, spacedChars_append, spacedChars_cons,
      List.append_assoc, List.append_assoc, List.append_assoc]
    rfl

theorem isPlain_renderChars {ts : List Token} (hts : ∀ t ∈ ts, t.isFinite = true) {c : Char}
    (h : c ∈ renderChars ts) : IsPlain c := by
  rcases List.eq_nil_or_concat ts with rfl | ⟨pre, t, rfl⟩
  · cases h
  · rw [List.concat_eq_append] at *
    rw [renderChars_append_cons] at h
    rcases List.mem_append.mp h with h | h
    · exact isPlain_spacedChars (fun u hu => hts u (List.mem_append_left _ hu)) h
    · exact isPlain_chars (hts t (List.mem_append_right _ (List.mem_singleton_self t))) h

theorem lexFrom_spacedChars (pos : Nat) {ts : List Token} (hts : ∀ t ∈ ts, t.isFinite = true)
    (rest : List Char) :
    lexFrom pos (spacedChars ts ++ rest) =
      (lexFrom (pos + (spacedChars ts).length) rest).map (ts.flatMap spelled ++ ·) := by
  induction ts generalizing pos with
  | nil =>
    show lexFrom pos rest = (lexFrom pos rest).map fun out => out
    cases lexFrom pos rest with
    | error f => rfl
    | ok out => rfl
  | cons t ts ih =>
    have hpos : pos + (spacedChars (t :: ts)).length =
        pos + t.chars.length + 1 + (spacedChars ts).length := by
      rw [spacedChars_cons, List.length_append, List.length_cons]
      omega
    rw [hpos, spacedChars_cons, List.append_assoc, List.cons_append,
      lexFrom_chars pos (hts t (List.mem_cons_self ..)) (endsNumber_space _), lexFrom_space,
      ih _ fun u hu => hts u (List.mem_cons_of_mem _ hu), List.flatMap_cons]
    cases lexFrom (pos + t.chars.length + 1 + (spacedChars ts).length) rest with
    | error f => rfl
    | ok out => exact congrArg Except.ok (List.append_assoc ..).symm

/-! ## Whole lists -/

theorem lexFrom_renderChars (pos : Nat) {ts : List Token} (hts : ∀ t ∈ ts, t.isFinite = true) :
    lexFrom pos (renderChars ts) = .ok (ts.flatMap spelled) := by
  rcases List.eq_nil_or_concat ts with rfl | ⟨pre, t, rfl⟩
  · exact lexFrom_nil pos
  · rw [List.concat_eq_append] at *
    have hlast := lexFrom_chars (pos + (spacedChars pre).length)
      (hts t (List.mem_append_right _ (List.mem_singleton_self t))) endsNumber_nil
    rw [List.append_nil, lexFrom_nil] at hlast
    rw [renderChars_append_cons, lexFrom_spacedChars pos fun u hu =>
      hts u (List.mem_append_left _ hu)]
    show Except.map _ (lexFrom _ t.chars) = _
    rw [hlast, List.flatMap_append, List.flatMap_singleton]
    exact congrArg Except.ok (congrArg _ (List.append_nil _))

/-- A number that is not finite is written with a letter, after a sign at most, and the reader
    stops there. -/
theorem exists_letter {t : Token} (ht : t.isFinite = false) (tail : List Char) :
    ∃ sign c cs, t.chars ++ tail = sign ++ c :: cs ∧ (c = 'i' ∨ c = 'n') ∧
      (∀ d ∈ sign, IsPlain d) ∧
      ∀ pos, lexFrom pos (t.chars ++ tail) =
        .error (.unexpected (String.singleton c) ((pos + sign.length : Nat) : Int)) := by
  have hi (pos : Nat) (cs : List Char) := lexFrom_stray pos (c := 'i') (by decide) (by decide)
    (by decide) (by decide) cs
  have hn (pos : Nat) (cs : List Char) := lexFrom_stray pos (c := 'n') (by decide) (by decide)
    (by decide) (by decide) cs
  rcases t with (⟨_, _⟩ | neg | _) | op
  · cases ht
  · cases neg with
    | false =>
      exact ⟨[], 'i', _, rfl, .inl rfl, List.forall_mem_nil _, fun pos => hi pos _⟩
    | true =>
      refine ⟨['-'], 'i', _, rfl, .inl rfl, fun d hd => ?_, fun pos => ?_⟩
      · rw [List.mem_singleton.mp hd]
        exact .inr (by decide)
      · show lexFrom pos (Operator.subtract.symbol :: 'i' :: _) = _
        rw [lexFrom_symbol, hi]
        rfl
  · exact ⟨[], 'n', _, rfl, .inr rfl, List.forall_mem_nil _, fun pos => hn pos _⟩
  · cases ht

theorem renderChars_cons_eq (t : Token) (ts : List Token) :
    ∃ tail, renderChars (t :: ts) = t.chars ++ tail := by
  cases ts with
  | nil => exact ⟨[], (List.append_nil _).symm⟩
  | cons u us => exact ⟨_, renderChars_cons_cons t u us⟩

/-- The text of a list of finite numbers and operators is read as the list, with the sign of each
    negative number as an operator. With an infinity or a NaN in the list, the reading stops at
    the first letter. -/
theorem lex_render (ts : List Token) :
    ((∀ v, number v ∈ ts → v.isFinite = true) → lex (render ts) = .ok (ts.flatMap spelled)) ∧
    ((∀ v, number v ∈ ts → v.isFinite = true ∧ v.signBit = false) → lex (render ts) = .ok ts) ∧
    ((∃ v, number v ∈ ts ∧ v.isFinite = false) →
      ∃ pre c post, (render ts).toList = pre ++ c :: post ∧ (c = 'i' ∨ c = 'n') ∧
        'i' ∉ pre ∧ 'n' ∉ pre ∧
        lex (render ts) = .error (.unexpected (String.singleton c) pre.length)) := by
  have htext : (render ts).toList = renderChars ts := String.toList_ofList
  have hfinite (h : ∀ v, number v ∈ ts → v.isFinite = true) :
      lex (render ts) = .ok (ts.flatMap spelled) := by
    rw [lex, htext]
    exact lexFrom_renderChars 0 (isFinite_iff_forall_number.mpr h)
  refine ⟨hfinite, fun h => ?_, fun ⟨v, hv, hinf⟩ => ?_⟩
  · rw [hfinite fun v hv => (h v hv).1, flatMap_spelled_of_signBit fun v hv => (h v hv).2]
  · obtain ⟨t, hfind⟩ : ∃ t, ts.find? (fun t => !t.isFinite) = some t :=
      Option.isSome_iff_exists.mp (List.find?_isSome.mpr ⟨_, hv, by simpa [isFinite] using hinf⟩)
    obtain ⟨ht, before, after, hts, hbefore⟩ := List.find?_eq_some_iff_append.mp hfind
    simp only [Bool.not_not, Bool.not_eq_eq_eq_not, Bool.not_true] at ht hbefore
    obtain ⟨tail, htail⟩ := renderChars_cons_eq t after
    obtain ⟨sign, c, cs, hchars, hc, hsign, hstop⟩ := exists_letter ht tail
    have hplain : ∀ d ∈ spacedChars before ++ sign, IsPlain d := by
      intro d hd
      rcases List.mem_append.mp hd with hd | hd
      · exact isPlain_spacedChars hbefore hd
      · exact hsign d hd
    refine ⟨spacedChars before ++ sign, c, cs, ?_, hc, fun h => ?_, fun h => ?_, ?_⟩
    · rw [htext, hts, renderChars_append_cons, htail, hchars, List.append_assoc]
    · exact absurd (hplain 'i' h) (by decide)
    · exact absurd (hplain 'n' h) (by decide)
    · rw [lex, htext, hts, renderChars_append_cons, htail, lexFrom_spacedChars 0 hbefore, hstop,
        List.length_append, Nat.zero_add]
      rfl

/-- The text `-0 0` is read as an operator and two numbers. -/
theorem lex_negative_zero :
    lex (render [.number (.finite true .zero), .number .zero]) =
      .ok [.operator .subtract, .number .zero, .number .zero] :=
  (lex_render [.number (.finite true .zero), .number .zero]).1 (by
    intro v hv
    have hv' : v = .finite true .zero ∨ v = .zero := by simpa using hv
    rcases hv' with rfl | rfl <;> rfl)

end Abacus.Token
