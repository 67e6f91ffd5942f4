import Abacus.Proofs.Interpretation
import Abacus.Proofs.Outcome.Report
import Abacus.Proofs.Text.Lines
import Abacus.Proofs.Token.RoundTrip

/-!
# What messages hold

A message is a phrase of its own around a quoted text, or the tokens of a division. So it
is one line, whatever the text holds that it is about, and it has no word in capitals.

* `reported_of_report`: the failures that are reported.
* `oneLine_message`: every message is one line.
* `count_message_le`: a message has at most one letter `R`.
-/

namespace Abacus

open Chain Text

/-! ## The text of tokens -/

namespace Token

/-- A character of a token, or the space between two. -/
def IsWritten (c : Char) : Prop := IsPlain c ∨ c ∈ ['i', 'n', 'f', 'a']

instance (c : Char) : Decidable (IsWritten c) := inferInstanceAs (Decidable (_ ∨ _))

theorem isWritten_of_mem_chars {t : Token} {c : Char} (h : c ∈ t.chars) : IsWritten c := by
  cases t with
  | number v =>
    rcases Binary64.mem_chars h with (hd | rfl) | rfl | ⟨-, hl⟩
    · exact .inl (.inl hd)
    · decide
    · decide
    · exact .inr hl
  | operator op =>
    rw [List.mem_singleton.mp h]
    cases op <;> decide

theorem isWritten_of_mem_renderChars {ts : List Token} {c : Char} (h : c ∈ renderChars ts) :
    IsWritten c := by
  fun_induction renderChars ts with
  | case1 => cases h
  | case2 t => exact isWritten_of_mem_chars h
  | case3 t u rest ih =>
    rcases List.mem_append.mp h with h | h
    · exact isWritten_of_mem_chars h
    · rcases List.mem_cons.mp h with rfl | h
      · decide
      · exact ih h

theorem isLineBoundary_of_isWritten {c : Char} (h : IsWritten c) : isLineBoundary c = false := by
  rcases h with (h | h) | h
  · exact isLineBoundary_of_isDigit h
  · exact (by decide : OneLine ['.', '+', '-', '*', '/', ' ']) c h
  · exact (by decide : OneLine ['i', 'n', 'f', 'a']) c h

theorem toList_render (ts : List Token) : (render ts).toList = renderChars ts :=
  String.toList_ofList

theorem oneLine_render (ts : List Token) : OneLine (render ts).toList := by
  intro c hc
  rw [toList_render] at hc
  exact isLineBoundary_of_isWritten (isWritten_of_mem_renderChars hc)

theorem count_render (ts : List Token) : (render ts).toList.count 'R' = 0 := by
  refine List.count_eq_zero_of_not_mem fun h => ?_
  rw [toList_render] at h
  exact absurd (isWritten_of_mem_renderChars h) (by decide)

end Token

/-! ## Failures -/

/-- The failures that a text can be reported with. -/
inductive Failure.Reported : Failure → Prop
  | unexpected (c : Char) (p : Nat) : Reported (.unexpected (String.singleton c) p)
  | quoting {ts : List Token} {f : Failure} : Quotes ts f → Reported f
  | undefined : Reported .undefined

theorem reported_of_evaluate {s : String} {f : Failure} (h : evaluate s = .error f) :
    f.Reported := by
  cases hlex : Token.lex s with
  | error g =>
    rw [evaluate_of_lex_error hlex] at h
    cases h
    obtain ⟨c, p, rfl⟩ := Token.eq_unexpected_of_lexFrom hlex
    exact .unexpected c p
  | ok ts =>
    rw [evaluate_of_lex_ok hlex, parse_eq_error_iff] at h
    exact .quoting (quotes_of_collapse h)

theorem reported_of_report {s : String} {f : Failure} (h : report s = .error f) : f.Reported := by
  rcases (report_eq_error_iff s f).mp h with he | ⟨rfl, -⟩
  · exact reported_of_evaluate he
  · exact .undefined

namespace Failure

theorem toList_quote (s : String) : (quote s).toList = quoteChars s.toList := String.toList_ofList

theorem oneLine_quote (s : String) : OneLine (quote s).toList := by
  rw [toList_quote]
  exact oneLine_quoteChars _

theorem count_quote_le (s : String) : (quote s).toList.count 'R' ≤ s.toList.count 'R' := by
  rw [toList_quote]
  exact count_quoteChars_le (by decide) (by decide) (by decide) _

theorem isDigit_of_mem_position {p : Nat} {c : Char} (h : c ∈ (toString (p : Int)).toList) :
    c.isDigit = true := by
  have hp : toString (p : Int) = p.repr := rfl
  rw [hp, Nat.toList_repr] at h
  exact Decimal.isDigit_of_mem_toDigits h

theorem toList_message_unexpected (text : String) (p : Int) :
    (message (.unexpected text p)).toList =
      "Unexpected character ".toList ++ (quote text).toList ++ " at position ".toList ++
        (toString p).toList := by
  show ("Unexpected character " ++ quote text ++ " at position " ++ toString p).toList = _
  rw [String.toList_append, String.toList_append, String.toList_append]

theorem toList_message_malformed (stage tokens : String) :
    (message (.malformed stage tokens)).toList =
      "Parsing error in ".toList ++ stage.toList ++ ": ".toList ++ (quote tokens).toList := by
  show ("Parsing error in " ++ stage ++ ": " ++ quote tokens).toList = _
  rw [String.toList_append, String.toList_append, String.toList_append]

/-- Every message is one line. -/
theorem oneLine_message {f : Failure} (h : f.Reported) : OneLine f.message.toList := by
  cases h with
  | unexpected c p =>
    rw [toList_message_unexpected]
    refine .append (.append (.append (by decide) (oneLine_quote _)) (by decide)) fun d hd => ?_
    exact isLineBoundary_of_isDigit (isDigit_of_mem_position hd)
  | @quoting ts f hq =>
    cases f with
    | unexpected text p => exact hq.elim
    | malformed stage tokens =>
      rw [toList_message_malformed]
      obtain ⟨hstage, -⟩ := hq
      refine .append (.append (.append (by decide) ?_) (by decide)) (oneLine_quote _)
      rcases hstage with rfl | rfl <;> decide
    | zeroDivisor quotient =>
      obtain ⟨a, b, rfl⟩ := hq
      exact Token.oneLine_render _
    | undefined => exact hq.elim
  | undefined => decide

/-- A message has no word in capitals: at most one letter `R` stands in it, and then it is the
    character that was not expected. -/
theorem count_message_le {f : Failure} (h : f.Reported) : f.message.toList.count 'R' ≤ 1 := by
  cases h with
  | unexpected c p =>
    have hquote : (quote (String.singleton c)).toList.count 'R' ≤ 1 := by
      refine Nat.le_trans (count_quote_le _) ?_
      rw [String.toList_singleton]
      exact List.count_le_length
    have hposition : (toString (p : Int)).toList.count 'R' = 0 :=
      List.count_eq_zero_of_not_mem fun hr => absurd (isDigit_of_mem_position hr) (by decide)
    have hphrase : "Unexpected character ".toList.count 'R' = 0 := by decide
    have hphrase' : " at position ".toList.count 'R' = 0 := by decide
    rw [toList_message_unexpected, List.count_append, List.count_append, List.count_append]
    omega
  | @quoting ts f hq =>
    cases f with
    | unexpected text p => exact hq.elim
    | malformed stage tokens =>
      obtain ⟨hstage, i, rfl⟩ := hq
      have hquote := Nat.le_trans (count_quote_le _) (Nat.le_of_eq (Token.count_render (ts.drop i)))
      have hphrase : "Parsing error in ".toList.count 'R' = 0 := by decide
      have hword : stage.toList.count 'R' = 0 := by rcases hstage with rfl | rfl <;> decide
      have hcolon : ": ".toList.count 'R' = 0 := by decide
      rw [toList_message_malformed, List.count_append, List.count_append, List.count_append]
      omega
    | zeroDivisor quotient =>
      obtain ⟨a, b, rfl⟩ := hq
      exact Nat.le_trans (Nat.le_of_eq (Token.count_render _)) (Nat.zero_le 1)
    | undefined => exact hq.elim
  | undefined => decide

end Failure

end Abacus
