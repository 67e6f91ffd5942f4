import Abacus.Proofs.Token.Separation
import Mathlib.Order.Bounds.Basic

/-!
# Stray characters

Which characters of a text are stray can be told from what stands around them: a character of
no token is, and so is a point with no digit behind it, unless it ends digits that are not a
fraction themselves. The reader, which goes from left to right and takes literals as long as
possible, fails at the first of them.

* `Severed.strayAt_append_iff`: what stands in front of a cut does not matter behind it.
* `passed_literal`, `passed_separator`: what the reader passes over is not stray.
* `lexFrom_eq_error_iff`: where the reading fails.
-/

namespace Abacus

open Text

namespace Token

/-- The text ends with digits, all of the digits there, and no point stands in front of them. -/
def EndsWhole (before : List Char) : Prop :=
  ∃ front digits, before = front ++ digits ∧ digits ≠ [] ∧ (∀ c ∈ digits, c.isDigit = true) ∧
    ∀ c ∈ front.getLast?, c.isDigit = false ∧ c ≠ '.'

/-- At the place `i` stands a character that begins or goes on no token: one of no token at all, or
    a point with no digit behind it that is not the point of a literal either. -/
def StrayAt (cs : List Char) (i : Nat) : Prop :=
  ∃ c, cs[i]? = some c ∧
    ((c.isDigit = false ∧ c ≠ '.' ∧ Operator.ofSymbol? c = none ∧ isBlank c = false) ∨
      (c = '.' ∧ (∀ d ∈ cs[i + 1]?, d.isDigit = false) ∧ ¬ EndsWhole (cs.take i)))

/-- The text `pre` can be cut off in front of `rest`: digits that `rest` begins with do not go on
    with a number of `pre`, and a point that it begins with does not belong to one. -/
structure Severed (pre rest : List Char) : Prop where
  digit : ∀ c ∈ rest.head?, c.isDigit = true → ∀ d ∈ pre.getLast?, d.isDigit = false ∧ d ≠ '.'
  point : rest.head? = some '.' → ¬ EndsWhole pre

theorem not_endsWhole_nil : ¬ EndsWhole [] := by
  rintro ⟨front, digits, h, hne, -⟩
  exact hne (List.append_eq_nil_iff.mp h.symm).2

/-- Digits at the end of a text that is cut in two stand behind the cut. -/
theorem Severed.of_endsWhole_append {pre b tail : List Char} (h : Severed pre (b ++ '.' :: tail))
    (hends : EndsWhole (pre ++ b)) : EndsWhole b := by
  obtain ⟨front, digits, heq, hne, hdigits, hfront⟩ := hends
  rcases List.append_eq_append_iff.mp heq with ⟨mid, rfl, hb⟩ | ⟨mid, hpre, rfl⟩
  · refine ⟨mid, digits, hb, hne, hdigits, fun c hc => hfront c ?_⟩
    rw [List.getLast?_append, hc]
    rfl
  -- the digits begin in front of the cut, or at it
  cases b with
  | nil =>
    rw [List.append_nil] at hne hdigits
    exact absurd ⟨front, mid, hpre, hne, hdigits, hfront⟩ (h.point rfl)
  | cons c b =>
    have hc : c.isDigit = true := hdigits c (by simp)
    cases hmid : mid.getLast? with
    | none =>
      rw [List.getLast?_eq_none_iff] at hmid
      subst hmid
      exact ⟨[], _, rfl, hne, hdigits, by rintro _ ⟨⟩⟩
    | some d =>
      have hd : d ∈ pre.getLast? := by
        rw [hpre, List.getLast?_append, hmid]
        rfl
      have hdigit := hdigits d (List.mem_append_left _ (List.mem_of_getLast? hmid))
      rw [(h.digit c rfl hc d hd).1] at hdigit
      cases hdigit

/-- Digits at the end of a text are not lengthened by what is put in front of it. -/
theorem Severed.endsWhole_append {pre b tail : List Char} (h : Severed pre (b ++ '.' :: tail))
    (hends : EndsWhole b) : EndsWhole (pre ++ b) := by
  obtain ⟨front, digits, rfl, hne, hdigits, hfront⟩ := hends
  refine ⟨pre ++ front, digits, (List.append_assoc ..).symm, hne, hdigits, fun c hc => ?_⟩
  cases hlast : front.getLast? with
  | some d =>
    rw [List.getLast?_append, hlast] at hc
    exact hfront c (hlast.trans hc)
  | none =>
    rw [List.getLast?_eq_none_iff] at hlast
    subst hlast
    obtain ⟨d, ds, rfl⟩ := List.exists_cons_of_ne_nil hne
    rw [List.append_nil] at hc
    exact h.digit d rfl (hdigits d List.mem_cons_self) c hc

/-- Behind a cut, strays are found as in the text behind it alone. -/
theorem Severed.strayAt_append_iff {pre rest : List Char} (h : Severed pre rest) (i : Nat) :
    StrayAt (pre ++ rest) (pre.length + i) ↔ StrayAt rest i := by
  have hget (j : Nat) : (pre ++ rest)[pre.length + j]? = rest[j]? := by
    rw [List.getElem?_append_right (Nat.le_add_right ..), Nat.add_sub_cancel_left]
  rw [StrayAt, StrayAt, hget, Nat.add_assoc, hget, List.take_length_add_append]
  refine exists_congr fun c => and_congr_right fun hc => or_congr_right ?_
  refine and_congr_right fun hdot => and_congr_right fun _ => not_congr ?_
  subst hdot
  have hrest : rest = rest.take i ++ '.' :: rest.drop (i + 1) := by
    obtain ⟨hlt, hget⟩ := List.getElem?_eq_some_iff.mp hc
    rw [← hget, ← List.drop_eq_getElem_cons hlt, List.take_append_drop]
  rw [hrest] at h
  exact ⟨h.of_endsWhole_append, h.endsWhole_append⟩

/-! ## Texts that are passed over -/

/-- The reader passes over `pre` in front of `rest`: nothing in it is stray, and it can be cut
    off. -/
structure Passed (pre rest : List Char) : Prop where
  severed : Severed pre rest
  not_strayAt : ∀ i < pre.length, ¬ StrayAt (pre ++ rest) i

namespace Passed

variable {pre rest : List Char} (h : Passed pre rest)

include h

theorem forall_not_strayAt (hrest : ∀ i, ¬ StrayAt rest i) (i : Nat) :
    ¬ StrayAt (pre ++ rest) i := by
  by_cases hi : i < pre.length
  · exact h.not_strayAt i hi
  · obtain ⟨j, rfl⟩ := Nat.exists_eq_add_of_le (Nat.le_of_not_lt hi)
    rw [h.severed.strayAt_append_iff]
    exact hrest j

theorem isLeast_strayAt {i : Nat} (hi : IsLeast {i | StrayAt rest i} i) :
    IsLeast {i | StrayAt (pre ++ rest) i} (pre.length + i) := by
  refine ⟨(h.severed.strayAt_append_iff i).mpr hi.1, fun j hj => ?_⟩
  by_cases hlt : j < pre.length
  · exact absurd hj (h.not_strayAt j hlt)
  · obtain ⟨k, rfl⟩ := Nat.exists_eq_add_of_le (Nat.le_of_not_lt hlt)
    exact Nat.add_le_add_left (hi.2 ((h.severed.strayAt_append_iff k).mp hj)) _

end Passed

/-- Behind a point, digits are a fraction. -/
theorem not_endsWhole_append_point {whole fraction : List Char}
    (h : ∀ c ∈ fraction, c.isDigit = true) : ¬ EndsWhole (whole ++ '.' :: fraction) := by
  rintro ⟨front, digits, heq, -, hdigits, hfront⟩
  have hpoint : '.' ∉ digits := fun hmem => absurd (hdigits _ hmem) (by decide)
  rcases List.append_eq_append_iff.mp heq with ⟨mid, rfl, hmid⟩ | ⟨mid, rfl, hmid⟩
  · cases mid with
    | nil => exact hpoint ((List.nil_append digits ▸ hmid) ▸ List.mem_cons_self)
    | cons c mid =>
      obtain ⟨rfl, rfl⟩ := List.cons.inj hmid
      have hlast := List.getLast?_eq_some_getLast (List.cons_ne_nil '.' mid)
      rw [List.getLast?_append_of_ne_nil _ (List.cons_ne_nil '.' mid)] at hfront
      obtain ⟨hd, hne⟩ := hfront _ hlast
      rcases List.mem_cons.mp (List.mem_of_getLast? hlast) with heq | hmem
      · exact hne heq
      · rw [h _ (List.mem_append_left _ hmem)] at hd
        cases hd
  · exact hpoint (hmid ▸ List.mem_append_right _ List.mem_cons_self)

theorem endsWhole_of_isDigit {digits : List Char} (h : ∀ c ∈ digits, c.isDigit = true)
    (hne : digits ≠ []) : EndsWhole digits :=
  ⟨[], digits, rfl, hne, h, by rintro _ ⟨⟩⟩

/-- The only character of a literal that is no digit is its point. -/
theorem isDigit_or_point_of_getElem? {l : Literal} (hl : l.WellFormed) {i : Nat} {c : Char}
    (hc : l.chars[i]? = some c) :
    c.isDigit = true ∨ ∃ fraction, l.fraction = some fraction ∧ i = l.whole.length ∧ c = '.' := by
  obtain ⟨whole, fraction⟩ := l
  cases fraction with
  | none => exact .inl (hl.whole_isDigit c (List.mem_of_getElem? hc))
  | some fraction =>
    have hc : (whole ++ '.' :: fraction)[i]? = some c := hc
    rcases Nat.lt_trichotomy i whole.length with hlt | rfl | hgt
    · rw [List.getElem?_append_left hlt] at hc
      exact .inl (hl.whole_isDigit c (List.mem_of_getElem? hc))
    · rw [List.getElem?_append_right (Nat.le_refl _), Nat.sub_self] at hc
      cases hc
      exact .inr ⟨fraction, rfl, rfl, rfl⟩
    · obtain ⟨k, rfl⟩ := Nat.exists_eq_add_of_lt hgt
      rw [Nat.add_assoc, List.getElem?_append_right (Nat.le_add_right ..), Nat.add_sub_cancel_left,
        List.getElem?_cons_succ] at hc
      exact .inl (hl.fraction_isDigit fraction rfl c (List.mem_of_getElem? hc))

/-- The point of a literal ends digits or has one behind it. -/
theorem not_strayAt_literal {l : Literal} (hl : l.WellFormed) (rest : List Char) {i : Nat}
    (hi : i < l.chars.length) : ¬ StrayAt (l.chars ++ rest) i := by
  rintro ⟨c, hc, hstray⟩
  rw [List.getElem?_append_left hi] at hc
  rcases isDigit_or_point_of_getElem? hl hc with hdigit | ⟨fraction, hfraction, rfl, rfl⟩
  · rcases hstray with ⟨hno, -⟩ | ⟨rfl, -⟩
    · rw [hno] at hdigit
      cases hdigit
    · cases hdigit
  · rcases hstray with ⟨-, hne, -⟩ | ⟨-, hnext, hends⟩
    · exact hne rfl
    have hchars : l.chars ++ rest = l.whole ++ '.' :: (fraction ++ rest) := by
      simp [Literal.chars, hfraction]
    rw [hchars] at hnext hends
    rw [List.take_left] at hends
    by_cases hwhole : l.whole = []
    · obtain ⟨d, ds, hd⟩ := hl.ne_nil hwhole
      cases hfraction.symm.trans hd
      have hdigit := hl.fraction_isDigit _ hfraction d List.mem_cons_self
      rw [hnext d (by simp [hwhole])] at hdigit
      cases hdigit
    · exact hends (endsWhole_of_isDigit hl.whole_isDigit hwhole)

theorem passed_literal {l : Literal} (hl : l.WellFormed) {rest : List Char}
    (hrest : l.EndsBefore rest) : Passed l.chars rest := by
  refine ⟨⟨fun c hc hdigit => ?_, fun hpoint => ?_⟩, fun i hi => not_strayAt_literal hl rest hi⟩
  · rw [hrest.1 c hc] at hdigit
    cases hdigit
  · obtain ⟨whole, fraction⟩ := l
    cases fraction with
    | none => exact absurd hpoint (hrest.2 rfl)
    | some fraction => exact not_endsWhole_append_point (hl.fraction_isDigit fraction rfl)

theorem passed_separator {c : Char} (h : IsSeparator c) (rest : List Char) : Passed [c] rest := by
  obtain ⟨hdigit, hpoint⟩ := h.not_numeric
  refine ⟨⟨fun _ _ _ d hd => ?_, fun _ => ?_⟩, fun i hi => ?_⟩
  · cases hd
    exact ⟨hdigit, hpoint⟩
  · rintro ⟨front, digits, heq, hne, hdigits, -⟩
    obtain ⟨d, hd⟩ := List.exists_mem_of_ne_nil _ hne
    have hc : d = c := List.mem_singleton.mp (heq ▸ List.mem_append_right _ hd)
    rw [← hc, hdigits d hd] at hdigit
    cases hdigit
  · obtain rfl : i = 0 := Nat.lt_one_iff.mp hi
    rintro ⟨d, hd, ⟨-, -, hop, hblank⟩ | ⟨rfl, -⟩⟩
    · cases hd
      rcases h with h | h
      · simp [hop] at h
      · simp [hblank] at h
    · cases hd
      exact hpoint rfl

/-! ## Where the reading fails -/

theorem strayAt_zero {c : Char} {cs : List Char} (hscan : Literal.scan (c :: cs) = none)
    (hop : Operator.ofSymbol? c = none) (hblank : isBlank c = false) : StrayAt (c :: cs) 0 := by
  obtain ⟨hdigit, hpoint⟩ := Literal.of_scan_eq_none hscan
  refine ⟨c, rfl, ?_⟩
  by_cases hc : c = '.'
  · refine .inr ⟨hc, fun d hd => hpoint hc d ?_, not_endsWhole_nil⟩
    rwa [List.head?_eq_getElem?]
  · exact .inl ⟨hdigit, hc, hop, hblank⟩

theorem passed_of_scan {cs rest : List Char} {l : Literal}
    (h : Literal.scan cs = some (l, rest)) : Passed l.chars rest :=
  passed_literal (Literal.wellFormed_of_scan h) (Literal.endsBefore_of_scan h)

theorem not_strayAt_of_lexFrom {pos : Nat} {cs : List Char} {ts : List Token}
    (h : lexFrom pos cs = .ok ts) : ∀ i, ¬ StrayAt cs i := by
  fun_induction lexFrom pos cs generalizing ts with
  | case1 pos cs l rest hs ih =>
    obtain ⟨us, hus, -⟩ := exists_of_map_eq_ok h
    rw [← Literal.chars_append_of_scan hs]
    exact (passed_of_scan hs).forall_not_strayAt (ih hus)
  | case2 pos =>
    rintro i ⟨c, hc, -⟩
    cases hc
  | case3 pos c rest _ op hop ih =>
    obtain ⟨us, hus, -⟩ := exists_of_map_eq_ok h
    exact (passed_separator (.inl (by rw [hop]; rfl)) rest).forall_not_strayAt (ih hus)
  | case4 pos c rest _ _ hblank ih =>
    exact (passed_separator (.inr hblank) rest).forall_not_strayAt (ih h)
  | case5 pos c rest _ _ _ => cases h

/-- The text has a first stray character, and the reader, which is at `pos` in front of the text,
    fails there. -/
def FailsAt (pos : Nat) (cs : List Char) (f : Failure) : Prop :=
  ∃ i c, IsLeast {i | StrayAt cs i} i ∧ cs[i]? = some c ∧
    f = .unexpected (String.singleton c) ((pos + i : Nat) : Int)

theorem Passed.failsAt {pre rest : List Char} (h : Passed pre rest) {pos : Nat} {f : Failure}
    (hf : FailsAt (pos + pre.length) rest f) : FailsAt pos (pre ++ rest) f := by
  obtain ⟨i, c, hi, hc, rfl⟩ := hf
  refine ⟨pre.length + i, c, h.isLeast_strayAt hi, ?_, by rw [Nat.add_assoc]⟩
  rwa [List.getElem?_append_right (Nat.le_add_right ..), Nat.add_sub_cancel_left]

theorem failsAt_of_lexFrom {pos : Nat} {cs : List Char} {f : Failure}
    (h : lexFrom pos cs = .error f) : FailsAt pos cs f := by
  fun_induction lexFrom pos cs with
  | case1 pos cs l rest hs ih =>
    rw [← Literal.chars_append_of_scan hs]
    exact (passed_of_scan hs).failsAt (ih (exists_of_map_eq_error h))
  | case2 pos => cases h
  | case3 pos c rest _ op hop ih =>
    exact (passed_separator (.inl (by rw [hop]; rfl)) rest).failsAt (ih (exists_of_map_eq_error h))
  | case4 pos c rest _ _ hblank ih =>
    exact (passed_separator (.inr hblank) rest).failsAt (ih h)
  | case5 pos c rest hs hop hblank =>
    cases h
    exact ⟨0, c, ⟨strayAt_zero hs hop (by simpa using hblank), fun i _ => Nat.zero_le i⟩, rfl, rfl⟩

/-- The reading of a text fails just where its first stray character stands. -/
theorem lexFrom_eq_error_iff (pos : Nat) (cs : List Char) (f : Failure) :
    lexFrom pos cs = .error f ↔ FailsAt pos cs f := by
  refine ⟨failsAt_of_lexFrom, fun ⟨i, c, hi, hc, hf⟩ => ?_⟩
  cases h : lexFrom pos cs with
  | ok ts => exact absurd hi.1 (not_strayAt_of_lexFrom h i)
  | error g =>
    obtain ⟨j, d, hj, hd, rfl⟩ := failsAt_of_lexFrom h
    cases hi.unique hj
    cases hc.symm.trans hd
    rw [hf]

end Token

end Abacus
