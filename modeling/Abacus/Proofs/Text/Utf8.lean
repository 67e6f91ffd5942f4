import Abacus.Bytes
import Abacus.Text.Utf8
import Mathlib.Data.List.Basic

/-!
# Encoded texts decoded

The bytes of a text are decoded as the text. The first byte of a character says how many
follow, and every byte lies in the range that the bytes before it leave.

* `run_lead_two`, `run_lead_three`, `run_lead_four`: the first byte of a longer character.
* `run_continue`, `run_finish`: the bytes that follow.
* `decode_toUTF8`: a whole text.
-/

namespace Abacus.Text.Utf8

/-! ## The first byte of a character -/

theorem toNat_byte {n : Nat} (h : n < 256) : (UInt8.ofNat n).toNat = n :=
  UInt8.toNat_ofNat_of_lt' h

theorem byte_lt_iff {n : Nat} (h : n < 256) (b : UInt8) : UInt8.ofNat n < b ↔ n < b.toNat := by
  rw [UInt8.lt_iff_toNat_lt, toNat_byte h]

theorem byte_eq_iff {n : Nat} (h : n < 256) (b : UInt8) : UInt8.ofNat n = b ↔ n = b.toNat := by
  rw [← UInt8.toNat_inj, toNat_byte h]

theorem run_lead_one (pos : Nat) {n : Nat} (h : n < 0x80) (rest : List UInt8) :
    run pos .between (UInt8.ofNat n :: rest) =
      (run (pos + 1) .between rest).map (Char.ofNat n :: ·) := by
  have hn : n < 256 := by omega
  have hfirst : first pos (UInt8.ofNat n) = .emit (Char.ofNat n) := by
    simp only [first, byte_lt_iff hn, toNat_byte hn, UInt8.reduceToNat]
    rw [if_pos h]
  rw [run, step, hfirst]

theorem run_lead_two (pos : Nat) {n : Nat} (hlo : 2 ≤ n) (hhi : n < 0x20) (rest : List UInt8) :
    run pos .between (UInt8.ofNat (n + 0xC0) :: rest) =
      run (pos + 1) (.inside pos (UInt8.ofNat (n + 0xC0)) 1 0x80 0xBF n) rest := by
  have hn : n + 0xC0 < 256 := by omega
  have hfirst : first pos (UInt8.ofNat (n + 0xC0)) =
      .next (.inside pos (UInt8.ofNat (n + 0xC0)) 1 0x80 0xBF n) := by
    simp only [first, byte_lt_iff hn, toNat_byte hn, UInt8.reduceToNat]
    rw [if_neg (by omega), if_neg (by omega), if_pos (by omega), Nat.add_sub_cancel]
  rw [run, step, hfirst]

theorem run_lead_three (pos : Nat) {n : Nat} (h : n < 0x10) (rest : List UInt8) :
    run pos .between (UInt8.ofNat (n + 0xE0) :: rest) =
      run (pos + 1) (.inside pos (UInt8.ofNat (n + 0xE0)) 2 (if n = 0 then 0xA0 else 0x80)
        (if n = 13 then 0x9F else 0xBF) n) rest := by
  have hn : n + 0xE0 < 256 := by omega
  have hlow : n + 0xE0 = 0xE0 ↔ n = 0 := by omega
  have hhigh : n + 0xE0 = 0xED ↔ n = 13 := by omega
  have hfirst : first pos (UInt8.ofNat (n + 0xE0)) =
      .next (.inside pos (UInt8.ofNat (n + 0xE0)) 2 (if n = 0 then 0xA0 else 0x80)
        (if n = 13 then 0x9F else 0xBF) n) := by
    simp only [first, byte_lt_iff hn, byte_eq_iff hn, toNat_byte hn, UInt8.reduceToNat, hlow, hhigh]
    rw [if_neg (by omega), if_neg (by omega), if_neg (by omega), if_pos (by omega),
      Nat.add_sub_cancel]
  rw [run, step, hfirst]

theorem run_lead_four (pos : Nat) {n : Nat} (h : n < 5) (rest : List UInt8) :
    run pos .between (UInt8.ofNat (n + 0xF0) :: rest) =
      run (pos + 1) (.inside pos (UInt8.ofNat (n + 0xF0)) 3 (if n = 0 then 0x90 else 0x80)
        (if n = 4 then 0x8F else 0xBF) n) rest := by
  have hn : n + 0xF0 < 256 := by omega
  have hlow : n + 0xF0 = 0xF0 ↔ n = 0 := by omega
  have hhigh : n + 0xF0 = 0xF4 ↔ n = 4 := by omega
  have hfirst : first pos (UInt8.ofNat (n + 0xF0)) =
      .next (.inside pos (UInt8.ofNat (n + 0xF0)) 3 (if n = 0 then 0x90 else 0x80)
        (if n = 4 then 0x8F else 0xBF) n) := by
    simp only [first, byte_lt_iff hn, byte_eq_iff hn, toNat_byte hn, UInt8.reduceToNat, hlow, hhigh]
    rw [if_neg (by omega), if_neg (by omega), if_neg (by omega), if_neg (by omega),
      if_pos (by omega), Nat.add_sub_cancel]
  rw [run, step, hfirst]

/-! ## The bytes that follow -/

section Inside

variable {low high : UInt8} {n : Nat} (hn : n < 0x40) (hlow : low.toNat ≤ n + 0x80)
  (hhigh : n + 0x80 ≤ high.toNat) (pos start : Nat) (lead : UInt8) (value : Nat)
  (rest : List UInt8)

include hn hlow hhigh

theorem inRange_byte : low ≤ UInt8.ofNat (n + 0x80) ∧ UInt8.ofNat (n + 0x80) ≤ high := by
  rw [UInt8.le_iff_toNat_le, UInt8.le_iff_toNat_le, toNat_byte (by omega)]
  exact ⟨hlow, hhigh⟩

theorem run_continue (owed : Nat) :
    run pos (.inside start lead (owed + 2) low high value) (UInt8.ofNat (n + 0x80) :: rest) =
      run (pos + 1) (.inside start lead (owed + 1) 0x80 0xBF (value * 64 + n)) rest := by
  have hstep : step pos (UInt8.ofNat (n + 0x80)) (.inside start lead (owed + 2) low high value) =
      .next (.inside start lead (owed + 1) 0x80 0xBF (value * 64 + n)) := by
    rw [step, if_pos (inRange_byte hn hlow hhigh), toNat_byte (by omega), Nat.add_sub_cancel]
    exact if_neg (by omega)
  rw [run, hstep]

theorem run_finish :
    run pos (.inside start lead 1 low high value) (UInt8.ofNat (n + 0x80) :: rest) =
      (run (pos + 1) .between rest).map (Char.ofNat (value * 64 + n) :: ·) := by
  have hstep : step pos (UInt8.ofNat (n + 0x80)) (.inside start lead 1 low high value) =
      .emit (Char.ofNat (value * 64 + n)) := by
    rw [step, if_pos (inRange_byte hn hlow hhigh), toNat_byte (by omega), Nat.add_sub_cancel]
    exact if_pos (by omega)
  rw [run, hstep]

end Inside

/-! ## Whole characters -/

/-- The code point of a character is none of a surrogate pair, and none above the last. -/
theorem toNat_valid (c : Char) :
    c.val.toNat < 0xD800 ∨ 0xDFFF < c.val.toNat ∧ c.val.toNat < 0x110000 :=
  c.valid

/-- The machine reads the bytes of a character, and stands between characters again. -/
theorem run_encodeChar (c : Char) (pos : Nat) (rest : List UInt8) :
    run pos .between (String.utf8EncodeChar c ++ rest) =
      (run (pos + (String.utf8EncodeChar c).length) .between rest).map (c :: ·) := by
  have hvalid := toNat_valid c
  have hchar {n : Nat} (hn : n = c.val.toNat) : Char.ofNat n = c := by
    rw [hn]
    exact Char.ofNat_toNat c
  unfold String.utf8EncodeChar
  dsimp only
  generalize c.val.toNat = v at hvalid hchar ⊢
  by_cases h1 : v ≤ 0x7F
  · rw [if_pos h1, List.singleton_append, run_lead_one pos (by omega), hchar rfl]
    rfl
  rw [if_neg h1]
  by_cases h2 : v ≤ 0x7FF
  · rw [if_pos h2, List.cons_append, List.singleton_append, run_lead_two pos (by omega) (by omega),
      run_finish (by omega) (by simp) (by simp; omega), hchar (by omega)]
    rfl
  rw [if_neg h2]
  -- in longer characters the range of the second byte keeps out overlong forms, surrogates and
  -- code points above the last
  by_cases h3 : v ≤ 0xFFFF
  · have hlow : UInt8.toNat (if v / 4096 % 16 = 0 then 0xA0 else 0x80) ≤ v / 64 % 64 + 0x80 := by
      split
      all_goals simp only [UInt8.reduceToNat]; omega
    have hhigh : v / 64 % 64 + 0x80 ≤ UInt8.toNat (if v / 4096 % 16 = 13 then 0x9F else 0xBF) := by
      split
      all_goals simp only [UInt8.reduceToNat]; omega
    rw [if_pos h3, List.cons_append, List.cons_append, List.singleton_append,
      run_lead_three pos (by omega), run_continue (by omega) hlow hhigh,
      run_finish (by omega) (by simp) (by simp; omega), hchar (by omega)]
    rfl
  · have hlow : UInt8.toNat (if v / 262144 % 8 = 0 then 0x90 else 0x80) ≤ v / 4096 % 64 + 0x80 := by
      split
      all_goals simp only [UInt8.reduceToNat]; omega
    have hhigh :
        v / 4096 % 64 + 0x80 ≤ UInt8.toNat (if v / 262144 % 8 = 4 then 0x8F else 0xBF) := by
      split
      all_goals simp only [UInt8.reduceToNat]; omega
    rw [if_neg h3, List.cons_append, List.cons_append, List.cons_append, List.singleton_append,
      run_lead_four pos (by omega), run_continue (by omega) hlow hhigh,
      run_continue (by omega) (by simp) (by simp; omega),
      run_finish (by omega) (by simp) (by simp; omega), hchar (by omega)]
    rfl

/-! ## Whole texts -/

theorem run_flatMap_encodeChar (pos : Nat) (cs : List Char) :
    run pos .between (cs.flatMap String.utf8EncodeChar) = .ok cs := by
  induction cs generalizing pos with
  | nil => rfl
  | cons c cs ih =>
    rw [List.flatMap_cons, run_encodeChar, ih]
    rfl

theorem toList_toUTF8 (s : String) :
    Bytes.toList s.toUTF8 = s.toList.flatMap String.utf8EncodeChar := by
  have hs : s.toUTF8 = s.toList.utf8Encode := by
    rw [← String.toByteArray_ofList, String.ofList_toList]
    rfl
  rw [hs, List.utf8Encode, Bytes.toList, List.data_toByteArray, List.toList_toArray]

/-- The bytes of a text are decoded as the text. -/
theorem decode_toUTF8 (s : String) : decode (Bytes.toList s.toUTF8) = .ok s.toList := by
  rw [toList_toUTF8, decode, run_flatMap_encodeChar]

end Abacus.Text.Utf8
