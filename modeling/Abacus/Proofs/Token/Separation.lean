import Abacus.Proofs.Interpretation
import Abacus.Proofs.Outcome.Report
import Abacus.Proofs.Text.Lines
import Abacus.Proofs.Token.RoundTrip

/-!
# Texts with separators between them

No literal reaches across an operator or a blank. So a text that is put together from two,
with separators between them, is read part by part, and where a part cannot be read the whole
fails at the same character. Blanks at the ends of a text only move that place.

* `lexFrom_add`: the reader goes by the text and not by the position.
* `lexFrom_append`: a text and one behind it that goes on with no number.
* `lex_append_separated`, `lex_stripped`: separators between two texts, and blanks at the ends.
* `lex_respects_separators`: each part is read as it is read alone.
-/

namespace Abacus

open Text

namespace Literal

open Token (EndsNumber)

theorem head?_dropWhile_append (cs : List Char) {rest : List Char} (hrest : EndsNumber rest) :
    ∀ c ∈ (cs.dropWhile Char.isDigit ++ rest).head?, c.isDigit = false := by
  intro c hc
  cases hdrop : cs.dropWhile Char.isDigit with
  | nil =>
    rw [hdrop] at hc
    exact (hrest c hc).1
  | cons d ds =>
    rw [hdrop] at hc
    refine isDigit_head?_dropWhile cs c ?_
    rw [hdrop]
    exact hc

theorem takeWhile_isDigit_append_of_endsNumber (cs : List Char) {rest : List Char}
    (hrest : EndsNumber rest) :
    (cs ++ rest).takeWhile Char.isDigit = cs.takeWhile Char.isDigit := by
  conv_lhs => rw [← List.takeWhile_append_dropWhile (p := Char.isDigit) (l := cs)]
  rw [List.append_assoc]
  exact takeWhile_isDigit_append (List.all_eq_true.mp List.all_takeWhile)
    (head?_dropWhile_append cs hrest)

theorem dropWhile_isDigit_append_of_endsNumber (cs : List Char) {rest : List Char}
    (hrest : EndsNumber rest) :
    (cs ++ rest).dropWhile Char.isDigit = cs.dropWhile Char.isDigit ++ rest := by
  conv_lhs => rw [← List.takeWhile_append_dropWhile (p := Char.isDigit) (l := cs)]
  rw [List.append_assoc]
  exact dropWhile_isDigit_append (List.all_eq_true.mp List.all_takeWhile)
    (head?_dropWhile_append cs hrest)

/-- A literal does not reach into a text that goes on with no number. -/
theorem scan_append (cs : List Char) {rest : List Char} (hrest : EndsNumber rest) :
    scan (cs ++ rest) = (scan cs).map fun found => (found.1, found.2 ++ rest) := by
  have hpoint : ∀ tail, rest ≠ '.' :: tail := by
    rintro tail rfl
    exact (hrest '.' rfl).2 rfl
  unfold scan
  rw [takeWhile_isDigit_append_of_endsNumber cs hrest,
    dropWhile_isDigit_append_of_endsNumber cs hrest]
  generalize cs.takeWhile Char.isDigit = whole
  generalize cs.dropWhile Char.isDigit = tail
  by_cases hdot : tail.head? = some '.'
  · obtain ⟨fraction, rfl⟩ := List.head?_eq_some_iff.mp hdot
    cases whole with
    | nil =>
      simp only [List.cons_append, takeWhile_isDigit_append_of_endsNumber fraction hrest,
        dropWhile_isDigit_append_of_endsNumber fraction hrest]
      cases fraction.takeWhile Char.isDigit with
      | nil => rfl
      | cons d ds => rfl
    | cons d ds =>
      simp only [List.cons_append, takeWhile_isDigit_append_of_endsNumber fraction hrest,
        dropWhile_isDigit_append_of_endsNumber fraction hrest]
      rfl
  · have hleft : ∀ r, tail ≠ '.' :: r := fun r h => hdot (h ▸ rfl)
    have hboth : ∀ r, tail ++ rest ≠ '.' :: r := by
      intro r h
      cases tail with
      | nil => exact hpoint r h
      | cons c cs => exact hleft cs (congrArg (· :: cs) (List.cons.inj h).1)
    cases whole with
    | nil => split <;> simp_all
    | cons d ds => split <;> simp_all

end Literal

/-- The failure with its position moved on. -/
def Failure.moved (n : Int) : Failure → Failure
  | .unexpected text position => .unexpected text (position + n)
  | f => f

namespace Token

theorem map_mapError {ε δ α β : Type} (x : Except ε α) (f : ε → δ) (g : α → β) :
    (x.mapError f).map g = (x.map g).mapError f := by
  cases x with
  | error e => rfl
  | ok a => rfl

/-- The reader goes by the text, and by the position only where it fails. -/
theorem lexFrom_add (pos n : Nat) (cs : List Char) :
    lexFrom (pos + n) cs = (lexFrom pos cs).mapError (Failure.moved n) := by
  fun_induction lexFrom pos cs with
  | case1 pos cs l rest hs ih =>
    rw [lexFrom_of_scan _ hs, Nat.add_right_comm, ih, map_mapError]
  | case2 pos => rw [lexFrom_nil]; rfl
  | case3 pos c rest hs op hop ih =>
    rw [lexFrom_of_not_scan _ hs, hop, Nat.add_right_comm]
    dsimp only
    rw [ih, map_mapError]
  | case4 pos c rest hs hop hblank ih =>
    rw [lexFrom_of_not_scan _ hs, hop, Nat.add_right_comm]
    dsimp only
    rw [if_pos hblank, ih]
  | case5 pos c rest hs hop hblank =>
    rw [lexFrom_of_not_scan _ hs, hop]
    dsimp only
    rw [if_neg hblank]
    rfl

theorem bind_map_cons {ε α : Type} (x y : Except ε (List α)) (a : α) :
    ((x.map (a :: ·)).bind fun as => y.map (as ++ ·)) =
      (x.bind fun as => y.map (as ++ ·)).map (a :: ·) := by
  cases x with
  | error e => rfl
  | ok as =>
    cases y with
    | error e => rfl
    | ok bs => rfl

/-- Reading stops between a text and one behind it that goes on with no number. -/
theorem lexFrom_append (pos : Nat) (cs : List Char) {rest : List Char} (hrest : EndsNumber rest) :
    lexFrom pos (cs ++ rest) =
      (lexFrom pos cs).bind fun ts => (lexFrom (pos + cs.length) rest).map (ts ++ ·) := by
  have hnone {c : Char} {cs : List Char} (h : Literal.scan (c :: cs) = none) :
      Literal.scan (c :: (cs ++ rest)) = none := by
    rw [← List.cons_append, Literal.scan_append _ hrest, h]
    rfl
  fun_induction lexFrom pos cs with
  | case1 pos cs l tail hs ih =>
    have hs' : Literal.scan (cs ++ rest) = some (l, tail ++ rest) := by
      rw [Literal.scan_append cs hrest, hs]
      rfl
    rw [lexFrom_of_scan pos hs', ih, Nat.add_assoc, Literal.length_of_scan hs, bind_map_cons]
  | case2 pos =>
    show lexFrom pos rest = (lexFrom pos rest).map fun ts => ts
    cases lexFrom pos rest with
    | error f => rfl
    | ok ts => rfl
  | case3 pos c cs hs op hop ih =>
    rw [List.cons_append, lexFrom_of_not_scan pos (hnone hs), hop, List.length_cons,
      Nat.add_comm cs.length, ← Nat.add_assoc, bind_map_cons]
    exact congrArg (Except.map (.operator op :: ·)) ih
  | case4 pos c cs hs hop hblank ih =>
    rw [List.cons_append, lexFrom_of_not_scan pos (hnone hs), hop, List.length_cons,
      Nat.add_comm cs.length, ← Nat.add_assoc]
    dsimp only
    rw [if_pos hblank, ih]
  | case5 pos c cs hs hop hblank =>
    rw [List.cons_append, lexFrom_of_not_scan pos (hnone hs), hop]
    dsimp only
    rw [if_neg hblank]
    rfl

/-! ## Separators -/

/-- A character that stands between numbers: an operator or a blank. -/
def IsSeparator (c : Char) : Prop := (Operator.ofSymbol? c).isSome = true ∨ isBlank c = true

instance (c : Char) : Decidable (IsSeparator c) := inferInstanceAs (Decidable (_ ∨ _))

theorem not_numeric_of_isBlank {c : Char} (h : isBlank c = true) : c.isDigit = false ∧ c ≠ '.' := by
  constructor
  · by_contra hd
    have hc : 48 ≤ c.toNat ∧ c.toNat ≤ 57 := by
      simpa [Char.isDigit, Char.le_def, UInt32.le_iff_toNat_le] using hd
    simp only [isBlank, Bool.or_eq_true, Bool.and_eq_true, decide_eq_true_eq, beq_iff_eq] at h
    omega
  · rintro rfl
    exact absurd h (by decide)

theorem IsSeparator.not_numeric {c : Char} (h : IsSeparator c) : c.isDigit = false ∧ c ≠ '.' := by
  rcases h with h | h
  · obtain ⟨op, hop⟩ := Option.isSome_iff_exists.mp h
    rw [← Operator.symbol_of_ofSymbol? hop]
    cases op <;> decide
  · exact not_numeric_of_isBlank h

/-- The operators among some characters. -/
def operatorsIn (cs : List Char) : List Token :=
  cs.filterMap fun c => (Operator.ofSymbol? c).map .operator

theorem lexFrom_blank (pos : Nat) {c : Char} (h : isBlank c = true)
    (hop : Operator.ofSymbol? c = none) (cs : List Char) :
    lexFrom pos (c :: cs) = lexFrom (pos + 1) cs := by
  obtain ⟨hdigit, hpoint⟩ := not_numeric_of_isBlank h
  rw [lexFrom_of_not_scan pos (Literal.scan_eq_none hdigit hpoint cs), hop]
  exact if_pos h

/-- Separators are read one by one, whatever stands behind them. -/
theorem lexFrom_separators (pos : Nat) {w : List Char} (hw : ∀ c ∈ w, IsSeparator c)
    (rest : List Char) :
    lexFrom pos (w ++ rest) = (lexFrom (pos + w.length) rest).map (operatorsIn w ++ ·) := by
  induction w generalizing pos with
  | nil =>
    show lexFrom pos rest = (lexFrom pos rest).map fun ts => ts
    cases lexFrom pos rest with
    | error f => rfl
    | ok ts => rfl
  | cons c w ih =>
    obtain ⟨hc, hw⟩ := List.forall_mem_cons.mp hw
    have hpos : pos + (c :: w).length = pos + 1 + w.length := by
      rw [List.length_cons, Nat.add_comm w.length, Nat.add_assoc]
    rw [List.cons_append, hpos]
    cases hop : Operator.ofSymbol? c with
    | some op =>
      have htokens : operatorsIn (c :: w) = .operator op :: operatorsIn w :=
        List.filterMap_cons_some (by rw [hop]; rfl)
      rw [← Operator.symbol_of_ofSymbol? hop, lexFrom_symbol, ih _ hw,
        Operator.symbol_of_ofSymbol? hop, htokens]
      cases lexFrom (pos + 1 + w.length) rest with
      | error f => rfl
      | ok ts => rfl
    | none =>
      have htokens : operatorsIn (c :: w) = operatorsIn w :=
        List.filterMap_cons_none (by rw [hop]; rfl)
      have hblank : isBlank c = true := hc.resolve_left (by simp [hop])
      rw [lexFrom_blank pos hblank hop, ih _ hw, htokens]

theorem lexFrom_of_separators (pos : Nat) {w : List Char} (hw : ∀ c ∈ w, IsSeparator c) :
    lexFrom pos w = .ok (operatorsIn w) := by
  have h := lexFrom_separators pos hw []
  rw [List.append_nil, lexFrom_nil] at h
  rw [h]
  exact congrArg Except.ok (List.append_nil _)

theorem endsNumber_of_separators {w : List Char} (hw : ∀ c ∈ w, IsSeparator c) (hne : w ≠ [])
    (rest : List Char) : EndsNumber (w ++ rest) := by
  cases w with
  | nil => exact absurd rfl hne
  | cons c w =>
    rintro d ⟨⟩
    exact (hw c List.mem_cons_self).not_numeric

/-- Two texts with separators between them are read one after the other. -/
theorem lexFrom_separated (pos : Nat) (cs : List Char) {w : List Char}
    (hw : ∀ c ∈ w, IsSeparator c) (hne : w ≠ []) (ds : List Char) :
    lexFrom pos (cs ++ w ++ ds) =
      (lexFrom pos cs).bind fun ts =>
        (lexFrom (pos + cs.length + w.length) ds).map (ts ++ operatorsIn w ++ ·) := by
  rw [List.append_assoc, lexFrom_append pos cs (endsNumber_of_separators hw hne ds),
    lexFrom_separators _ hw]
  congr 1
  funext ts
  cases lexFrom (pos + cs.length + w.length) ds with
  | error f => rfl
  | ok us => exact congrArg Except.ok (List.append_assoc ..).symm

/-! ## Blanks at the ends -/

theorem ofSymbol?_of_isBlank {c : Char} (h : isBlank c = true) : Operator.ofSymbol? c = none := by
  by_contra hop
  obtain ⟨op, hop⟩ := Option.ne_none_iff_exists'.mp hop
  rw [← Operator.symbol_of_ofSymbol? hop] at h
  revert h
  cases op <;> decide

theorem operatorsIn_of_blank {w : List Char} (hw : ∀ c ∈ w, isBlank c = true) :
    operatorsIn w = [] :=
  List.filterMap_eq_nil_iff.mpr fun c hc => by rw [ofSymbol?_of_isBlank (hw c hc)]; rfl

/-- Blanks around a text do not change what is read. -/
theorem lexFrom_between_blanks (pos : Nat) {front back : List Char}
    (hfront : ∀ c ∈ front, isBlank c = true) (hback : ∀ c ∈ back, isBlank c = true)
    (cs : List Char) : lexFrom pos (front ++ cs ++ back) = lexFrom (pos + front.length) cs := by
  have hends : EndsNumber back := fun c hc =>
    not_numeric_of_isBlank (hback c (List.mem_of_mem_head? hc))
  rw [List.append_assoc, lexFrom_separators pos fun c hc => .inr (hfront c hc),
    operatorsIn_of_blank hfront, lexFrom_append _ cs hends,
    lexFrom_of_separators _ fun c hc => .inr (hback c hc), operatorsIn_of_blank hback]
  cases lexFrom (pos + front.length) cs with
  | error f => rfl
  | ok ts => exact congrArg Except.ok (List.append_nil ts)

/-- Blanks at the ends of a text only move the place where the reading fails. -/
theorem lex_stripped (s : String) :
    lex s = (lex (stripped s)).mapError (.moved (s.toList.takeWhile isBlank).length) := by
  obtain ⟨back, hs, hback⟩ := exists_eq_append_strip s.toList
  have hfront : ∀ c ∈ s.toList.takeWhile isBlank, isBlank c = true :=
    List.all_eq_true.mp List.all_takeWhile
  rw [lex, lex, stripped, String.toList_ofList, ← lexFrom_add]
  conv_lhs => rw [hs]
  exact lexFrom_between_blanks 0 hfront hback _

/-- Two texts with separators between them are read as they are read alone. -/
theorem lex_append_separated (s t : String) {w : String} (hne : w ≠ "")
    (hw : ∀ c ∈ w.toList, IsSeparator c) :
    lex (s ++ w ++ t) =
      (lex s).bind fun ts =>
        ((lex t).mapError (.moved (s.length + w.length : Nat))).map
          (ts ++ operatorsIn w.toList ++ ·) := by
  rw [lex, String.toList_append, String.toList_append,
    lexFrom_separated 0 _ hw (by simpa using hne), Nat.add_assoc, lexFrom_add,
    String.length_toList, String.length_toList]
  rfl

end Token

/-! ## Outcomes -/

/-- Two outcomes that differ in their texts alone, and in the place of a character that was not
    expected, which lies `n` characters further on in the first. -/
inductive Outcome.Moved (n : Nat) : Outcome → Outcome → Prop
  | value (s t : String) (v : Binary64) : Moved n (.ok s v) (.ok t v)
  | failure (s t : String) {kind : FailureKind} (message : String) : kind ≠ .lexical →
      Moved n (.error s kind message) (.error t kind message)
  | unexpected (s t : String) (c : Char) (p : Nat) :
      Moved n
        (.error s .lexical
          (Failure.message (.unexpected (String.singleton c) ((p + n : Nat) : Int))))
        (.error t .lexical (Failure.message (.unexpected (String.singleton c) p)))

theorem moved_interpret_stripped (s : String) :
    Outcome.Moved (s.toList.takeWhile isBlank).length (interpret s) (interpret (stripped s)) := by
  have hs := Token.lex_stripped s
  cases hlex : Token.lex (stripped s) with
  | error f =>
    obtain ⟨c, p, rfl⟩ := Token.eq_unexpected_of_lexFrom hlex
    rw [hlex] at hs
    rw [interpret_of_error (evaluate_of_lex_error hs),
      interpret_of_error (evaluate_of_lex_error hlex)]
    exact .unexpected _ _ c p
  | ok ts =>
    rw [hlex] at hs
    have heval := evaluate_of_lex_ok hs
    have heval' := evaluate_of_lex_ok hlex
    cases hparse : Chain.parse ts with
    | ok v =>
      rw [interpret_of_ok (heval.trans hparse), interpret_of_ok (heval'.trans hparse)]
      exact .value _ _ v
    | error f =>
      have hkind : f.kind ≠ .lexical := by
        rcases Chain.kind_of_parse hparse with ⟨hk, -⟩ | ⟨hk, -⟩
        · simp [hk]
        · simp [hk]
      rw [interpret_of_error (heval.trans hparse), interpret_of_error (heval'.trans hparse)]
      exact .failure _ _ _ hkind

namespace Token

/-- Reading respects separators. Let some operators and blanks, at least one, stand between two
    texts. When the first text cannot be read, the whole fails at the same character and place;
    when only the second cannot, it fails at the same character, further on by what stands in
    front; and when both can, the tokens are those of the parts. Blanks at the ends of a line
    change nothing in its outcome but the place of a character that was not expected, which
    lies further on by the number of blanks in front. -/
theorem lex_respects_separators :
    (∀ s w t : String, w ≠ "" →
      (∀ c ∈ w.toList, (Operator.ofSymbol? c).isSome = true ∨ isBlank c = true) →
      (∀ f, lex s = .error f → lex (s ++ w ++ t) = .error f) ∧
      (∀ ts f, lex s = .ok ts → lex t = .error f →
        ∃ (c : Char) (p : Nat), f = .unexpected (String.singleton c) p ∧
          lex (s ++ w ++ t) =
            .error (.unexpected (String.singleton c) ((p + (s.length + w.length) : Nat) : Int))) ∧
      ∀ ts us, lex s = .ok ts → lex t = .ok us →
        ∃ ws, lex w = .ok ws ∧ lex (s ++ w ++ t) = .ok (ts ++ ws ++ us)) ∧
    ∀ line : String, Outcome.Moved (line.toList.takeWhile isBlank).length
      (interpret line) (interpret (stripped line)) := by
  refine ⟨fun s w t hne hw => ?_, moved_interpret_stripped⟩
  have hread := lex_append_separated s t hne hw
  refine ⟨fun f hs => ?_, fun ts f hs ht => ?_, fun ts us hs ht => ?_⟩
  · rw [hread, hs]
    rfl
  · obtain ⟨c, p, rfl⟩ := eq_unexpected_of_lexFrom ht
    refine ⟨c, p, rfl, ?_⟩
    rw [hread, hs, ht]
    rfl
  · refine ⟨_, lexFrom_of_separators 0 hw, ?_⟩
    rw [hread, hs, ht]
    rfl

/-- The text `1.` and the text `.5`, with a blank and an operator between them. -/
theorem lex_points_separated :
    lex "1. *.5" =
      .ok [.number (Literal.value ⟨['1'], some []⟩), .operator .multiply,
        .number (Literal.value ⟨[], some ['5']⟩)] := by
  have hw : ∀ c ∈ " *".toList, (Operator.ofSymbol? c).isSome = true ∨ isBlank c = true := by
    intro c hc
    have hc : c = ' ' ∨ c = '*' := by simpa using hc
    rcases hc with rfl | rfl
    · exact .inr (by decide)
    · exact .inl (by decide)
  obtain ⟨ws, hws, h⟩ := (lex_respects_separators.1 "1." " *" ".5" (by decide) hw).2.2
    [.number (Literal.value ⟨['1'], some []⟩)] [.number (Literal.value ⟨[], some ['5']⟩)]
    (by decide +kernel) (by decide +kernel)
  have hstar : lex " *" = .ok [.operator .multiply] := by decide +kernel
  cases hws.symm.trans hstar
  exact h

end Token

end Abacus
