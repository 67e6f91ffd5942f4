import Abacus.Dialogue
import Abacus.Proofs.Text.LineFeeds

/-!
# What a dialogue writes

A dialogue reads, answers and writes by turns until a line ends it. What it comes to is
determined by the lines of the input: each line ahead of the one that ends the dialogue
adds the prompt and its own answer, whatever the other lines hold.

* `Reply.to_pass`, `Reply.to_of_not_blank`: what is done with a line.
* `converse_of_isOver`, `converse_of_not_isOver`: one turn.
* `converse_eq_ofLines`: all turns.
* `converse_transcript`: the answers, the text and the rest of a dialogue.
-/

namespace Abacus

open Text

/-! ## One line -/

theorem Reaction.to_of_blank {line : List Char} (h : strip line = []) :
    Reaction.to line = .pass := by
  rw [Reaction.to, h]

theorem Reaction.to_of_not_blank {line : List Char} (h : strip line ≠ []) :
    Reaction.to line =
      if isExitWord (strip line) then .leave else .answer (String.ofList (strip line)) := by
  rw [Reaction.to]
  split
  · next hs => exact absurd hs h
  · rfl

/-- Does the line end the dialogue? -/
def Dialogue.isExit (line : List Char) : Bool := isExitWord (strip line)

namespace Reply

variable {line : List Char}

theorem to_pass (hne : line ≠ []) (h : strip line = []) : Reply.to line = ⟨none, "", false⟩ := by
  rw [Reply.to, if_neg hne, Reaction.to_of_blank h]

theorem to_of_not_blank (h : strip line ≠ []) :
    Reply.to line =
      if Dialogue.isExit line then ⟨none, "", true⟩
      else ⟨some (String.ofList (strip line)),
        Dialogue.answer (String.ofList (strip line)), false⟩ := by
  have hne : line ≠ [] := by
    rintro rfl
    exact h rfl
  rw [Reply.to, if_neg hne, Reaction.to_of_not_blank h, Dialogue.isExit]
  cases isExitWord (strip line) with
  | true => rfl
  | false => rfl

end Reply

namespace Dialogue

/-! ## One turn -/

section Turn

variable {input : List Char} (prompt : String) {reply : Reply}
  (hreply : Reply.to (readLine input).1 = reply)

include hreply

/-- The dialogue ends with a reply after which it is over. -/
theorem converse_of_isOver (hover : reply.isOver = true) :
    converse prompt input =
      ⟨reply.expression.toList, prompt ++ reply.output, (readLine input).2⟩ := by
  subst hreply
  rw [converse, dif_pos hover]

/-- Any other reply stands in front of what comes of the rest. -/
theorem converse_of_not_isOver (hover : reply.isOver = false) :
    converse prompt input =
      ⟨reply.expression.toList ++ (converse prompt (readLine input).2).evaluated,
        prompt ++ reply.output ++ (converse prompt (readLine input).2).output,
        (converse prompt (readLine input).2).unread⟩ := by
  subst hreply
  rw [converse, dif_neg (ne_true_of_eq_false hover)]

end Turn

/-- Induction on the lines of a dialogue, which ends at the first line that says so. -/
@[elab_as_elim]
theorem turn_induction {motive : List (List Char) → Prop} (nil : motive [])
    (pass : ∀ line ls, strip line = [] → motive ls → motive (line :: ls))
    (leave : ∀ line ls, strip line ≠ [] → isExit line = true → motive (line :: ls))
    (answer : ∀ line ls, strip line ≠ [] → isExit line = false → motive ls → motive (line :: ls))
    (ls : List (List Char)) : motive ls := by
  induction ls with
  | nil => exact nil
  | cons line ls ih =>
    by_cases hblank : strip line = []
    · exact pass line ls hblank ih
    cases hexit : isExit line with
    | true => exact leave line ls hblank hexit
    | false => exact answer line ls hblank hexit ih

/-! ## All turns -/

/-- The expressions on lines that are not blank, without the blanks around them. -/
def expressionsOn (ls : List (List Char)) : List String :=
  ((ls.map strip).filter (· ≠ [])).map String.ofList

theorem expressionsOn_cons_of_blank {line : List Char} (h : strip line = [])
    (ls : List (List Char)) : expressionsOn (line :: ls) = expressionsOn ls := by
  simp [expressionsOn, h]

theorem expressionsOn_cons {line : List Char} (h : strip line ≠ []) (ls : List (List Char)) :
    expressionsOn (line :: ls) = String.ofList (strip line) :: expressionsOn ls := by
  simp [expressionsOn, h]

/-- What is written for a line that does not end the dialogue: the prompt and, unless the
    line is blank, the answer. -/
def exchange (prompt : String) (line : List Char) : String :=
  prompt ++ if strip line = [] then "" else answer (String.ofList (strip line))

/-- The dialogue over an input of these lines. -/
def ofLines (prompt : String) (ls : List (List Char)) : Dialogue :=
  let place := ls.findIdx isExit
  { evaluated := expressionsOn (ls.take place)
    output := String.join ((ls.take place).map (exchange prompt)) ++ prompt ++
      if place < ls.length then "" else "\n"
    unread := (ls.drop (place + 1)).flatten }

theorem ofLines_nil (prompt : String) : ofLines prompt [] = ⟨[], prompt ++ "\n", []⟩ := by
  rw [ofLines]
  simp [expressionsOn]

theorem ofLines_leave (prompt : String) {line : List Char} (h : isExit line = true)
    (ls : List (List Char)) : ofLines prompt (line :: ls) = ⟨[], prompt, ls.flatten⟩ := by
  rw [ofLines]
  simp [List.findIdx_cons, h, expressionsOn]

theorem ofLines_cons (prompt : String) {line : List Char} (h : isExit line = false)
    (ls : List (List Char)) :
    ofLines prompt (line :: ls) =
      ⟨expressionsOn (line :: ls.take (ls.findIdx isExit)),
        exchange prompt line ++ (ofLines prompt ls).output, (ofLines prompt ls).unread⟩ := by
  have hplace : (line :: ls).findIdx isExit = ls.findIdx isExit + 1 := by
    rw [List.findIdx_cons, h]
    rfl
  simp only [ofLines, hplace, List.take_succ_cons, List.drop_succ_cons, List.length_cons,
    Nat.add_lt_add_iff_right, List.map_cons, String.join_cons, String.append_assoc]

theorem ofLines_pass (prompt : String) {line : List Char} (h : strip line = [])
    (ls : List (List Char)) :
    ofLines prompt (line :: ls) =
      ⟨(ofLines prompt ls).evaluated, prompt ++ (ofLines prompt ls).output,
        (ofLines prompt ls).unread⟩ := by
  have hexit : isExit line = false := by
    rw [isExit, h]
    decide
  rw [ofLines_cons prompt hexit, expressionsOn_cons_of_blank h, exchange, if_pos h,
    String.append_empty]
  rfl

theorem ofLines_answer (prompt : String) {line : List Char} (h : strip line ≠ [])
    (hexit : isExit line = false) (ls : List (List Char)) :
    ofLines prompt (line :: ls) =
      ⟨String.ofList (strip line) :: (ofLines prompt ls).evaluated,
        prompt ++ answer (String.ofList (strip line)) ++ (ofLines prompt ls).output,
        (ofLines prompt ls).unread⟩ := by
  rw [ofLines_cons prompt hexit, expressionsOn_cons h, exchange, if_neg h]
  rfl

/-- A dialogue is determined by the lines of its input. -/
theorem converse_eq_ofLines (prompt : String) (input : List Char) :
    converse prompt input = ofLines prompt (lines input) := by
  -- a turn leaves less to read than it found
  induction hn : input.length using Nat.strongRecOn generalizing input with
  | ind n ih =>
    by_cases hne : input = []
    · rw [hne, converse_of_isOver prompt rfl rfl, lines_nil, ofLines_nil]
      rfl
    have hrest := ih _ (hn ▸ length_readLine_lt hne) (readLine input).2 rfl
    rw [lines_eq_cons hne]
    by_cases hblank : strip (readLine input).1 = []
    · have hreply := Reply.to_pass (readLine_ne_nil hne) hblank
      rw [converse_of_not_isOver prompt hreply rfl, ofLines_pass prompt hblank, hrest,
        String.append_empty]
      rfl
    have hreply := Reply.to_of_not_blank hblank
    cases hexit : isExit (readLine input).1 with
    | true =>
      rw [hexit, if_pos rfl] at hreply
      rw [converse_of_isOver prompt hreply rfl, ofLines_leave prompt hexit, flatten_lines,
        String.append_empty]
      rfl
    | false =>
      rw [hexit, if_neg Bool.false_ne_true] at hreply
      rw [converse_of_not_isOver prompt hreply rfl, ofLines_answer prompt hblank hexit, hrest]
      rfl

/-! ## The transcript -/

theorem length_expressionsOn (ls : List (List Char)) :
    (expressionsOn ls).length = ls.countP fun line => strip line ≠ [] := by
  rw [expressionsOn, List.length_map, List.filter_map, List.length_map,
    List.countP_eq_length_filter]
  rfl

/-- Of the lines of the input let the one at place `j` be the first that says `quit` or `exit`,
    or let `j` be their number. The dialogue writes the prompt for each line ahead of `j`, and
    the answer if the line is not blank, and the prompt once more, with a line end only if no
    line says so. It counts the lines ahead of `j` that are not blank, and leaves all lines
    behind `j` unread. -/
theorem converse_transcript (prompt : String) (input : List Char) :
    ∃ (ls : List (List Char)) (j : Nat), ls = lines input ∧
      j = ls.findIdx (fun line => strip line = "quit".toList || strip line = "exit".toList) ∧
      (converse prompt input).output =
        String.join ((ls.take j).map fun line =>
          prompt ++ if strip line = [] then ""
            else (interpret (String.ofList (strip line))).displayLine ++ "\n") ++
        prompt ++ (if j < ls.length then "" else "\n") ∧
      (converse prompt input).evaluated =
        (((ls.take j).map strip).filter (· ≠ [])).map String.ofList ∧
      (converse prompt input).count = ((ls.take j).countP fun line => strip line ≠ []) ∧
      (converse prompt input).unread = (ls.drop (j + 1)).flatten := by
  refine ⟨lines input, _, rfl, rfl, ?_⟩
  rw [count, converse_eq_ofLines]
  exact ⟨rfl, rfl, length_expressionsOn _, rfl⟩

end Dialogue

end Abacus
