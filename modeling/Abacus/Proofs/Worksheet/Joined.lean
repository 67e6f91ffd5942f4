import Abacus.Proofs.Worksheet.Container
import Abacus.Proofs.Worksheet.Run

/-!
# Worksheets put one under the other

The expressions of a text are entries: each can stand on a line as it is. Entries that are joined
by line feeds are read back as they are. Two texts that are joined by a line feed have the
expressions of the one and then those of the other, whatever ends the first text and begins the
second, so the results of the joined text are those of the two texts, one after the other.

* `expressions_append_newline`: two texts, joined.
* `Entry`, `entry_of_mem_expressions`: what an expression of a text looks like.
* `expressions_intercalate`: entries, joined.
* `run_of_joined`: files and runs.
-/

namespace Abacus.Worksheet

open Text

/-! ## Two texts -/

/-- A line feed between two texts keeps their expressions apart. -/
theorem expressions_append_newline (as bs : List Char) :
    expressions (as ++ '\n' :: bs) = expressions as ++ expressions bs := by
  obtain ⟨gap, hgap, hlines⟩ := exists_splitLines_append_newline as bs
  -- the line feed may end an empty line, which holds no expression
  have hblank : (gap.map strip).filter (· ≠ []) = [] := by
    rcases hgap with rfl | rfl
    · rfl
    · rfl
  simp only [expressions, hlines, List.map_append, List.filter_append, hblank, List.nil_append]

/-! ## Entries -/

/-- A text that can stand on a line as an expression: it is not empty, has no blanks at its ends
    and no line boundary in it. -/
structure Entry (e : String) : Prop where
  nonempty : e ≠ ""
  stripped_eq : stripped e = e
  oneLine : OneLine e.toList

theorem entry_of_mem_expressions {text : List Char} {e : String} (h : e ∈ expressions text) :
    Entry e := by
  have hone : OneLine e.toList := oneLine_of_mem_expressions h
  obtain ⟨line, -, hink, rfl⟩ := exists_line_of_mem_expressions h
  constructor
  · intro hempty
    exact hink (String.ofList_eq_empty_iff.mp hempty)
  · rw [stripped, String.toList_ofList, strip_strip]
  · exact hone

/-- An entry is the one expression of its own text. -/
theorem Entry.expressions_eq {e : String} (h : Entry e) : expressions e.toList = [e] := by
  have hne : e.toList ≠ [] := fun hnil => h.nonempty (String.toList_eq_nil_iff.mp hnil)
  have hstrip : strip e.toList = e.toList := by
    have hchars := congrArg String.toList h.stripped_eq
    rwa [stripped, String.toList_ofList] at hchars
  rw [expressions, splitLines_of_oneLine h.oneLine hne, List.map_singleton, hstrip]
  simp [hne]

/-- Entries that are joined by line feeds are read back. -/
theorem expressions_intercalate {es : List String} (h : ∀ e ∈ es, Entry e) :
    expressions ("\n".intercalate es).toList = es := by
  induction es with
  | nil => rfl
  | cons e es ih =>
    have he : Entry e := h e List.mem_cons_self
    have hes : ∀ f ∈ es, Entry f := fun f hf => h f (List.mem_cons_of_mem e hf)
    cases es with
    | nil => rw [String.intercalate_singleton, he.expressions_eq]
    | cons f fs =>
      have hjoined : ("\n".intercalate (e :: f :: fs)).toList =
          e.toList ++ '\n' :: ("\n".intercalate (f :: fs)).toList := by
        rw [String.intercalate_cons_cons, String.toList_append, String.toList_append]
        simp
      rw [hjoined, expressions_append_newline, he.expressions_eq, ih hes]
      rfl

/-! ## Files and runs -/

theorem results_outcomes_append (es fs : List String) :
    results (outcomes (es ++ fs)) = results (outcomes es) ++ results (outcomes fs) := by
  rw [outcomes, List.map_append, results_append]
  rfl

section Runs

variable [Archive.SevenZipReader]

/-- Every run over a file gives the outcomes of some expressions and leaves a text as its results,
    wherever they can be written. -/
def Yields (p : Path) (bytes : ByteArray) (es : List String) (text : String) : Prop :=
  ∀ (tree : FileTree) (output : Path) (place : Place), tree.outlet? output = some place →
    ∃ after, run tree p output bytes = (.ok (es.map interpret), after) ∧
      after.file? place = some text.toUTF8

theorem yields_of_readExpressions {p : Path} {bytes : ByteArray} {es : List String}
    (h : readExpressions p bytes = .ok es) : Yields p bytes es (results (outcomes es)) := by
  intro tree output place hplace
  exact ⟨_, run_of_ok h hplace, FileTree.file?_write _ _ _⟩

theorem Yields.file?_run {p : Path} {bytes : ByteArray} {es : List String} {text : String}
    (h : Yields p bytes es text) {tree : FileTree} {output : Path} {place : Place}
    (hplace : tree.outlet? output = some place) :
    (run tree p output bytes).2.file? place = some text.toUTF8 := by
  obtain ⟨after, hrun, hfile⟩ := h tree output place hplace
  rw [hrun, hfile]

/-- From a file that holds a text its expressions are read. Each is an entry: it is not empty, has
    no blanks at its ends and no line boundary in it; and from a file that holds them, joined by
    line feeds, the same expressions are read. From a file that holds two texts, joined by a line
    feed, the expressions of the one and then those of the other are read, and a run over it leaves
    the results that runs over files with the two texts leave, one after the other. -/
theorem run_of_joined :
    (∀ (p : Path) (bytes : ByteArray) (text : List Char), Holds p bytes text →
      ∃ es, readExpressions p bytes = .ok es ∧ (∀ e ∈ es, Entry e) ∧
        ∀ (q : Path) (again : ByteArray), Holds q again ("\n".intercalate es).toList →
          readExpressions q again = .ok es) ∧
    ∀ (p q r : Path) (first second both : ByteArray) (as bs : List Char),
      Holds p first as → Holds q second bs → Holds r both (as ++ '\n' :: bs) →
      ∃ (es fs : List String) (above below : String),
        readExpressions p first = .ok es ∧ readExpressions q second = .ok fs ∧
        readExpressions r both = .ok (es ++ fs) ∧
        Yields p first es above ∧ Yields q second fs below ∧
        Yields r both (es ++ fs) (above ++ below) := by
  constructor
  · intro p bytes text htext
    have hentries : ∀ e ∈ expressions text, Entry e := fun e => entry_of_mem_expressions
    refine ⟨expressions text, readExpressions_of_holds htext, hentries, fun q again hagain => ?_⟩
    rw [readExpressions_of_holds hagain, expressions_intercalate hentries]
  · intro p q r first second both as bs hfirst hsecond hboth
    have hes := readExpressions_of_holds hfirst
    have hfs := readExpressions_of_holds hsecond
    have hall := readExpressions_of_holds hboth
    rw [expressions_append_newline] at hall
    refine ⟨expressions as, expressions bs, _, _, hes, hfs, hall, yields_of_readExpressions hes,
      yields_of_readExpressions hfs, ?_⟩
    rw [← results_outcomes_append]
    exact yields_of_readExpressions hall

end Runs

/-- A text file ends with a carriage return. Under it stands the text of an archive, and the line
    feed between the two makes a pair with the carriage return. The four expressions of both are
    read again from a file that holds them, joined by line feeds. -/
theorem run_of_joined_pair :
    readExpressions ⟨[], [['a', '.', 't', 'x', 't']]⟩ " 1+\r\n1\r\n2\r3".toUTF8 =
      .ok ["1+", "1", "2", "3"] ∧
    readExpressions ⟨[], [['a', '.', 't', 'x', 't']]⟩ "1+\n1\n2\n3".toUTF8 =
      .ok ["1+", "1", "2", "3"] ∧
    ∃ above below : String,
      (run .empty ⟨[], [['a', '.', 't', 'x', 't']]⟩ ⟨[], [['b']]⟩ " 1+\r".toUTF8).2.file? [['b']] =
        some above.toUTF8 ∧
      (run .empty ⟨[], [['a', '.', 'z', 'i', 'p']]⟩ ⟨[], [['b']]⟩ zipped).2.file? [['b']] =
        some below.toUTF8 ∧
      (run .empty ⟨[], [['a', '.', 't', 'x', 't']]⟩ ⟨[], [['b']]⟩
        " 1+\r\n1\r\n2\r3".toUTF8).2.file? [['b']] = some (above ++ below).toUTF8 := by
  have htext : Archive.isTextPath ⟨[], [['a', '.', 't', 'x', 't']]⟩ = true := by decide
  have hplace : FileTree.empty.outlet? ⟨[], [['b']]⟩ = some [['b']] := by decide
  have hmember : Archive.textBytes? .zip ['a', '.', 'z', 'i', 'p'] zipped =
      .ok (some [0x31, 0x0D, 0x0A, 0x32, 0x0D, 0x33]) := by
    apply eq_ok_of_toOption
    decide +kernel
  have hfirst := holds_toUTF8 htext " 1+\r"
  have hsecond : Holds ⟨[], [['a', '.', 'z', 'i', 'p']]⟩ zipped "1\r\n2\r3".toList :=
    .archive (by decide) hmember (by decide)
  have hboth := holds_toUTF8 htext " 1+\r\n1\r\n2\r3"
  obtain ⟨hread, hjoin⟩ := run_of_joined
  obtain ⟨es, hes, -, hagain⟩ := hread _ _ _ hboth
  obtain ⟨_, _, above, below, -, -, -, habove, hbelow, htogether⟩ :=
    hjoin _ _ _ _ _ _ _ _ hfirst hsecond hboth
  obtain rfl : es = ["1+", "1", "2", "3"] := by
    apply Except.ok.inj
    rw [← hes]
    decide
  have hjoined : "\n".intercalate ["1+", "1", "2", "3"] = "1+\n1\n2\n3" := by decide
  have hentries := holds_toUTF8 htext "1+\n1\n2\n3"
  rw [← hjoined] at hentries
  refine ⟨hes, ?_, above, below, habove.file?_run hplace, hbelow.file?_run hplace,
    htogether.file?_run hplace⟩
  rw [← hjoined]
  exact hagain _ _ hentries

end Abacus.Worksheet
