import Abacus.Text.Character
import Mathlib.Data.List.Basic

/-!
# What a quoted text holds

A quoted text is printable from one quote to the other, and a character that is in no
escape stands in it only where it stands in the text.

* `isPrintable_of_mem_quoteChars`: nothing in a quoted text is unseen.
* `count_quoteChars_le`: how often a character stands in a quoted text.
-/

namespace Abacus.Text

/-! ## Hexadecimal digits -/

theorem mem_toDigits {b n : Nat} (hb : 1 < b) {c : Char} (h : c ∈ Nat.toDigits b n) :
    ∃ d, c = Nat.digitChar d := by
  induction n using Nat.strongRecOn with
  | ind n ih =>
    rcases Nat.lt_or_ge n b with hlt | hge
    · rw [Nat.toDigits_of_lt_base hlt] at h
      exact ⟨n, List.mem_singleton.mp h⟩
    · rw [Nat.toDigits_of_base_le hb hge] at h
      rcases List.mem_append.mp h with h | h
      · exact ih _ (Nat.div_lt_self (by omega) hb) h
      · exact ⟨n % b, List.mem_singleton.mp h⟩

/-- The characters that escapes are made of, but for the character that is escaped. -/
def escapeAlphabet : List Char :=
  ['\\', 't', 'n', 'r', 'x', 'u', 'U', '0', '1', '2', '3', '4', '5', '6', '7', '8', '9', 'a', 'b',
    'c', 'd', 'e', 'f', '*']

theorem digitChar_mem (d : Nat) : Nat.digitChar d ∈ escapeAlphabet := by
  rcases Nat.lt_or_ge d 16 with h | h
  · exact (by decide : ∀ d < 16, Nat.digitChar d ∈ escapeAlphabet) d h
  · rw [Nat.digitChar_eq_star.mpr h]
    decide

theorem mem_hexPadded {width n : Nat} {c : Char} (h : c ∈ hexPadded width n) :
    c ∈ escapeAlphabet := by
  rcases List.mem_append.mp h with h | h
  · rw [List.eq_of_mem_replicate h]
    decide
  · obtain ⟨d, rfl⟩ := mem_toDigits (by decide) h
    exact digitChar_mem d

/-! ## Escapes -/

/-- The ways in which a character stands in a quoted text: as it is, after a backslash, or
    spelled out. -/
theorem escape_cases (q c : Char) :
    (escape q c = [c] ∧ isPrintable c = true) ∨
    (escape q c = ['\\', c] ∧ (c = q ∨ c = '\\')) ∨
    escape q c ⊆ escapeAlphabet := by
  have hhex {p : List Char} (hp : p ⊆ escapeAlphabet) (width n : Nat) :
      p ++ hexPadded width n ⊆ escapeAlphabet :=
    List.append_subset.mpr ⟨hp, fun _ hd => mem_hexPadded hd⟩
  unfold escape
  split
  · exact .inr (.inl ⟨rfl, ‹_›⟩)
  split
  · exact .inr (.inr (by decide))
  split
  · exact .inr (.inr (by decide))
  split
  · exact .inr (.inr (by decide))
  split
  · exact .inl ⟨rfl, ‹_›⟩
  split
  · exact .inr (.inr (hhex (p := ['\\', 'x']) (by decide) 2 c.toNat))
  split
  · exact .inr (.inr (hhex (p := ['\\', 'u']) (by decide) 4 c.toNat))
  · exact .inr (.inr (hhex (p := ['\\', 'U']) (by decide) 8 c.toNat))

theorem isPrintable_of_mem_escapeAlphabet {c : Char} (h : c ∈ escapeAlphabet) :
    isPrintable c = true := by
  have hascii : escapeAlphabet.all (fun d => 0x20 ≤ d.toNat ∧ d.toNat < 0x7F) = true := by decide
  exact isPrintable_of_ascii (by simpa using List.all_eq_true.mp hascii c h)

theorem isPrintable_of_mem_escape {q c d : Char} (hq : isPrintable q = true)
    (h : d ∈ escape q c) : isPrintable d = true := by
  rcases escape_cases q c with ⟨he, hc⟩ | ⟨he, hc⟩ | he
  · rw [he] at h
    rw [List.mem_singleton.mp h]
    exact hc
  · rw [he] at h
    have hback : isPrintable '\\' = true := isPrintable_of_ascii (by decide)
    rcases List.mem_cons.mp h with rfl | h
    · exact hback
    · rw [List.mem_singleton.mp h]
      rcases hc with rfl | rfl
      · exact hq
      · exact hback
  · exact isPrintable_of_mem_escapeAlphabet (he h)

/-- A character that no escape is made of stands in an escape only for itself. -/
theorem count_escape_le {d : Char} (hd : d ∉ escapeAlphabet) (q c : Char) :
    (escape q c).count d ≤ [c].count d := by
  rcases escape_cases q c with ⟨he, -⟩ | ⟨he, -⟩ | he
  · exact Nat.le_of_eq (by rw [he])
  · have hback : '\\' ≠ d := by
      rintro rfl
      exact hd (by decide)
    exact Nat.le_of_eq (by rw [he, List.count_cons_of_ne hback])
  · rw [List.count_eq_zero_of_not_mem fun h => hd (he h)]
    exact Nat.zero_le _

/-! ## Quoted texts -/

theorem quoteCharFor_eq (cs : List Char) : quoteCharFor cs = '"' ∨ quoteCharFor cs = '\'' := by
  unfold quoteCharFor
  split
  · exact .inl rfl
  · exact .inr rfl

theorem isPrintable_of_mem_quoteChars {cs : List Char} {d : Char} (h : d ∈ quoteChars cs) :
    isPrintable d = true := by
  have hq : isPrintable (quoteCharFor cs) = true := by
    rcases quoteCharFor_eq cs with hq | hq
    · rw [hq]; exact isPrintable_of_ascii (by decide)
    · rw [hq]; exact isPrintable_of_ascii (by decide)
  rcases List.mem_append.mp h with h | h
  · rcases List.mem_cons.mp h with rfl | h
    · exact hq
    · obtain ⟨c, -, hc⟩ := List.mem_flatMap.mp h
      exact isPrintable_of_mem_escape hq hc
  · rw [List.mem_singleton.mp h]
    exact hq

theorem count_flatMap_escape_le {d : Char} (hd : d ∉ escapeAlphabet) (q : Char) (cs : List Char) :
    (cs.flatMap (escape q)).count d ≤ cs.count d := by
  induction cs with
  | nil => exact Nat.le_refl _
  | cons c cs ih =>
    have hc := count_escape_le hd q c
    rw [List.flatMap_cons, List.count_append, ← List.singleton_append, List.count_append]
    omega

theorem count_quoteChars_le {d : Char} (hd : d ∉ escapeAlphabet) (h2 : d ≠ '"') (h1 : d ≠ '\'')
    (cs : List Char) : (quoteChars cs).count d ≤ cs.count d := by
  have hq : quoteCharFor cs ≠ d := by
    rcases quoteCharFor_eq cs with hq | hq
    · rw [hq]; exact h2.symm
    · rw [hq]; exact h1.symm
  rw [quoteChars, List.count_append, List.count_cons_of_ne hq, List.count_cons_of_ne hq]
  exact count_flatMap_escape_le hd _ cs

end Abacus.Text
