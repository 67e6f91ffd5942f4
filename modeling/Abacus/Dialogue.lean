import Abacus.Journal
import Abacus.Text.Lines

/-!
# The dialogue

Expressions are read line by line (`ArithmeticRepl`), and each is answered by the line
for its outcome. A blank line is passed over. The dialogue ends at a line that says
`quit` or `exit`, or at the end of the input, where it ends its own last line.
No line, however malformed, ends it. It is recorded when it starts and when it ends,
and each expression between.

* `Reaction.to`: what one line calls for.
* `Reply.to`: what is done with one line.
* `Dialogue.converse`: the whole dialogue over an input.
* `Dialogue.journal`: what is recorded of a dialogue.
-/

namespace Abacus

/-! ## One line -/

/-- The words that end a dialogue (`EXIT_COMMANDS`). -/
def isExitWord (line : List Char) : Bool := line = "quit".toList || line = "exit".toList

/-- What a line calls for: nothing, the end, or an answer. -/
inductive Reaction
  | pass
  | leave
  | answer (expression : String)
deriving DecidableEq

/-- What a line calls for, without the blanks at its ends. -/
def Reaction.to (line : List Char) : Reaction :=
  match Text.strip line with
  | [] => .pass
  | word => if isExitWord word then .leave else .answer (String.ofList word)

/-- The line that answers an expression (`ArithmeticRepl.evaluate_line`). -/
def Dialogue.answer (expression : String) : String := (interpret expression).displayLine ++ "\n"

/-- What is done with a line: the expression that is answered, if the line has one, what is
    written, and whether the dialogue is over. -/
structure Reply where
  expression : Option String
  output : String
  isOver : Bool
deriving DecidableEq

/-- What is done with a line (one turn of the loop in `ArithmeticRepl.run`). Only at the end of
    the input is there nothing in it, not even a line feed. -/
def Reply.to (line : List Char) : Reply :=
  if line = [] then ⟨none, "\n", true⟩
  else
    match Reaction.to line with
    | .pass => ⟨none, "", false⟩
    | .leave => ⟨none, "", true⟩
    | .answer expression => ⟨some expression, Dialogue.answer expression, false⟩

/-- What is recorded of a reply. -/
def Reply.records (r : Reply) : List Journal.Record :=
  r.expression.toList.flatMap Journal.ofExpression

/-- The dialogue is over at the end of the input. -/
theorem Reply.ne_nil_of_not_isOver {input : List Char}
    (h : (Reply.to (Text.readLine input).1).isOver ≠ true) : input ≠ [] := by
  rintro rfl
  exact h rfl

/-! ## Whole dialogues -/

/-- What a dialogue came to: the expressions that it answered, all that it wrote,
    and the input that it left unread. -/
structure Dialogue where
  evaluated : List String
  output : String
  unread : List Char

namespace Dialogue

/-- The prompt that is written unless another is asked for. -/
def defaultPrompt : String := "> "

/-- Leads the dialogue over the rest of the input (`ArithmeticRepl.run`). -/
def converse (prompt : String) (input : List Char) : Dialogue :=
  let reply := Reply.to (Text.readLine input).1
  let rest := (Text.readLine input).2
  if h : reply.isOver = true then ⟨reply.expression.toList, prompt ++ reply.output, rest⟩
  else
    have : rest.length < input.length := Text.length_readLine_lt (Reply.ne_nil_of_not_isOver h)
    let next := converse prompt rest
    ⟨reply.expression.toList ++ next.evaluated, prompt ++ reply.output ++ next.output, next.unread⟩
termination_by input.length

/-- The number of expressions that were answered. -/
def count (d : Dialogue) : Nat := d.evaluated.length

/-! ## The journal -/

/-- What is recorded at the start. -/
def opening : Abacus.Journal.Record := ⟨.info, "⌨️ REPL started"⟩

/-- What is recorded at the end. -/
def closing (count : Nat) : Abacus.Journal.Record :=
  ⟨.info, "⌨️ REPL finished after " ++ toString count ++ " expressions"⟩

/-- What is recorded of a dialogue. -/
def journal (d : Dialogue) : List Abacus.Journal.Record :=
  opening :: d.evaluated.flatMap Abacus.Journal.ofExpression ++ [closing d.count]

end Dialogue

end Abacus
