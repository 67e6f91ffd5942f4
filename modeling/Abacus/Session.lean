import Abacus.Command
import Abacus.FileTree

/-!
# Sessions

A session is a sequence of command lines over one file tree. Each turn reads its
file from the tree and may put one file of results into it.

* `Session.act`, `Session.enact`: one act, done over the tree, and one after the other.
* `Session.turn`: one command line.
* `Session.after`: what a whole session leaves.
* `present_eq`: what is not to be shown may be left out before or after.
* `settle_of_none`, `settle_of_blocked`, `settle_of_outlet`: what the acts of a task come to.
-/

namespace Abacus.Session

variable [Archive.SevenZipReader]

/-- How a turn ends: the command line is refused, the task ends, or a directory
    stands where the results should go. -/
inductive End
  | refused (r : Arguments.Refusal)
  | done (e : Ending)
  | blocked (p : Path)
deriving DecidableEq

/-- What a turn gives: how it ends, what it prints, what is said on the side, and
    the tree that it leaves. -/
structure Turn where
  ending : End
  output : String
  notices : List Notice
  tree : FileTree

/-- What is said when a directory stands where the results should go. -/
def blockedMessage (p : Path) : String := "[Errno 21] Is a directory: " ++ Text.quote p.text

/-- Does one thing. Results that cannot go where they belong stop the turn. -/
def act (t : Turn) : Act → Except Turn Turn
  | .say n => .ok { t with notices := t.notices ++ [n] }
  | .print text => .ok { t with output := t.output ++ text }
  | .write output text =>
    match t.tree.outlet? output with
    | none => .error { t with ending := .blocked output }
    | some place => .ok { t with tree := t.tree.write place text.toUTF8 }

/-- Does one thing after the other, up to the one that stops the turn. -/
def enact (t : Turn) : List Act → Turn
  | [] => t
  | a :: rest =>
    match act t a with
    | .ok t => enact t rest
    | .error t => t

/-- Presents what a task gives, with all that is said. -/
def settle (tree : FileTree) (p : Performance) : Turn :=
  enact ⟨.done p.ending, "", [], tree⟩ p.acts

/-- Presents what a task gives, without what is not to be shown. -/
def present (tree : FileTree) (verbose : Bool) (p : Performance) : Turn :=
  enact ⟨.done p.ending, "", [], tree⟩ (p.acts.filter (·.isShown verbose))

/-- One command line, with what is typed in (`main`). Of a refused one the turn has the refusal and
    no text: what is shown then is left out of the model (see `Arguments.Refusal`). -/
def turn (tree : FileTree) (words : List String) (typed : List Char) : Turn :=
  match Command.ofWords (fun p => (tree.read? p).isSome) words with
  | .error r => ⟨.refused r, "", [], tree⟩
  | .ok command =>
    present tree command.verbose
      (command.task.perform (fun p => (tree.read? p).getD .empty) typed)

/-- A command line, with what is typed in. -/
structure Call where
  words : List String
  typed : List Char

/-- The tree that a session leaves: each call starts from what the one before it left. -/
def after (tree : FileTree) (calls : List Call) : FileTree :=
  calls.foldl (fun tree call => (turn tree call.words call.typed).tree) tree

/-! ## What acts come to -/

theorem enact_say (t : Turn) (ns : List Notice) (acts : List Act) :
    enact t (ns.map .say ++ acts) = enact { t with notices := t.notices ++ ns } acts := by
  induction ns generalizing t with
  | nil =>
    rw [List.append_nil]
    rfl
  | cons n ns ih =>
    rw [List.append_cons t.notices n ns]
    exact ih { t with notices := t.notices ++ [n] }

/-- A turn without the notices that are not to be shown. -/
def Turn.shown (verbose : Bool) (t : Turn) : Turn :=
  { t with notices := t.notices.filter (·.isShown verbose) }

/-- Leaving out acts that are not to be shown comes to the same as leaving out, in the end, what
    they say. -/
theorem enact_filter (verbose : Bool) (t : Turn) (acts : List Act) :
    enact (t.shown verbose) (acts.filter (·.isShown verbose)) = (enact t acts).shown verbose := by
  induction acts generalizing t with
  | nil => rfl
  | cons a acts ih =>
    cases a with
    | say n =>
      have hsaid := ih { t with notices := t.notices ++ [n] }
      rw [Turn.shown, List.filter_append] at hsaid
      by_cases hn : n.isShown verbose = true
      · rw [List.filter_cons_of_pos (l := acts) (a := Act.say n) hn]
        rw [List.filter_cons_of_pos hn] at hsaid
        exact hsaid
      · rw [List.filter_cons_of_neg (l := acts) (a := Act.say n) hn]
        rw [List.filter_cons_of_neg hn, List.filter_nil, List.append_nil] at hsaid
        exact hsaid
    | print text => exact ih { t with output := t.output ++ text }
    | write output text =>
      rw [List.filter_cons_of_pos rfl, enact, enact, act, act]
      cases hplace : t.tree.outlet? output with
      | none =>
        have hshown : (t.shown verbose).tree.outlet? output = none := hplace
        rw [hshown]
        rfl
      | some place =>
        have hshown : (t.shown verbose).tree.outlet? output = some place := hplace
        rw [hshown]
        exact ih { t with tree := t.tree.write place text.toUTF8 }

theorem present_eq (tree : FileTree) (verbose : Bool) (p : Performance) :
    present tree verbose p = (settle tree p).shown verbose :=
  enact_filter verbose ⟨.done p.ending, "", [], tree⟩ p.acts

section Settle

variable (tree : FileTree) (p : Performance)

/-- A task without results says and prints what it has to. -/
theorem settle_of_none (h : p.results = none) :
    settle tree p = ⟨.done p.ending, p.output, p.opening ++ p.notices, tree⟩ := by
  simp [settle, Performance.acts, h, enact_say, enact, act]

/-- A task whose results cannot go where they belong stops there. -/
theorem settle_of_blocked {output : Path} {text : String} (h : p.results = some (output, text))
    (hplace : tree.outlet? output = none) :
    settle tree p = ⟨.blocked output, "", p.opening, tree⟩ := by
  simp [settle, Performance.acts, h, enact_say, enact, act, hplace]

/-- A task whose results can go where they belong puts them there. -/
theorem settle_of_outlet {output : Path} {text : String} {place : Place}
    (h : p.results = some (output, text)) (hplace : tree.outlet? output = some place) :
    settle tree p = ⟨.done p.ending, p.output, p.opening ++ p.notices,
      tree.write place text.toUTF8⟩ := by
  simp [settle, Performance.acts, h, enact_say, enact, act, hplace]

end Settle

end Abacus.Session
