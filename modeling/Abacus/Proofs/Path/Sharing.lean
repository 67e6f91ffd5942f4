import Abacus.Proofs.Path.Extension
import Abacus.Proofs.Path.Results

/-!
# Files that share their results

Dots of the extension part become underscores in the name of the results, so a name with a dot
and one with an underscore in its place have the same results. Nothing else is lost: names
without underscores keep their results apart.

* `underscored`, `resultsName_eq`: what is left of a name in the name of its results.
* `underscored_injective`: names without underscores stay apart.
* `results?_sharing`: where results go, and which files share them.
-/

namespace Abacus.Path

/-! ## Dots and underscores -/

/-- A name with underscores for the dots behind its leading ones. A name that ends in a dot stays
    as it is. -/
def underscored (name : List Char) : List Char :=
  if name.getLast? = some '.' then name
  else
    name.takeWhile (· = '.') ++
      (name.dropWhile (· = '.')).map fun c => if c = '.' then '_' else c

theorem stem_eq {name front : List Char} (h : name = front ++ extension name) :
    stem name = front :=
  List.append_cancel_right ((stem_append_extension name).trans h)

/-- A character that does not occur need not be replaced. -/
theorem map_replace_of_not_mem {c d : Char} {cs : List Char} (h : c ∉ cs) :
    cs.map (fun x => if x = c then d else x) = cs := by
  refine (List.map_congr_left fun x hx => ?_).trans (List.map_id cs)
  have hne : x ≠ c := fun heq => h (heq ▸ hx)
  exact if_neg hne

/-- The dots of the extension part are those behind the leading dots. -/
theorem resultsName_eq (name : List Char) :
    resultsName name = underscored name ++ resultsEnding := by
  rw [resultsName]
  congr 1
  by_cases hdot : name.getLast? = some '.'
  · have hnone : extension name = [] := by rw [extension, nameSuffixes, if_pos hdot]; rfl
    have hstem : stem name = name := stem_eq (by rw [hnone, List.append_nil])
    rw [underscored, if_pos hdot, hstem, hnone, List.map_nil, List.append_nil]
  · by_cases hname : name = []
    · rw [hname]
      rfl
    · obtain ⟨base, -, hbase, hrest⟩ := dropWhile_eq_append_extension hname hdot
      have hsplit : name = (name.takeWhile (· = '.') ++ base) ++ extension name := by
        rw [List.append_assoc, ← hrest, List.takeWhile_append_dropWhile]
      rw [underscored, if_neg hdot, hrest, List.map_append, map_replace_of_not_mem hbase,
        stem_eq hsplit, List.append_assoc]

/-- Where no underscore was, every underscore was a dot. -/
theorem map_dot_underscored {name : List Char} (h : '_' ∉ name) :
    (underscored name).map (fun c => if c = '_' then '.' else c) = name := by
  unfold underscored
  split
  · exact map_replace_of_not_mem h
  · have htake : '_' ∉ name.takeWhile (· = '.') := fun hc =>
      h ((List.takeWhile_prefix _).subset hc)
    have hdrop : '_' ∉ name.dropWhile (· = '.') := fun hc =>
      h ((List.dropWhile_suffix _).subset hc)
    rw [List.map_append, map_replace_of_not_mem htake, List.map_map]
    refine Eq.trans (congrArg _ ?_) (List.takeWhile_append_dropWhile (p := (· = '.')))
    refine (List.map_congr_left fun c hc => ?_).trans (List.map_id _)
    have hc' : c ≠ '_' := fun heq => hdrop (heq ▸ hc)
    by_cases hdot : c = '.'
    · rw [Function.comp_apply, if_pos hdot, hdot]
      rfl
    · rw [Function.comp_apply, if_neg hdot, if_neg hc']
      rfl

/-- Names without underscores stay apart. -/
theorem underscored_injective {a b : List Char} (ha : '_' ∉ a) (hb : '_' ∉ b)
    (h : underscored a = underscored b) : a = b := by
  rw [← map_dot_underscored ha, h, map_dot_underscored hb]

/-! ## Results -/

/-- Two paths lead to the same directory, and differ in their last names at most. -/
def SameDirectory (p q : Path) : Prop :=
  p.anchor = q.anchor ∧ p.names.dropLast = q.names.dropLast

theorem name_concat (anchor : List Char) (names : List (List Char)) (last : List Char) :
    name ⟨anchor, names ++ [last]⟩ = last := by
  rw [name, List.getLast?_concat]
  rfl

theorem results?_eq_none_iff {p : Path} : p.results? = none ↔ p.name = [] := by
  unfold results?
  split <;> simp_all

theorem results?_of_name {p : Path} (h : p.name ≠ []) :
    p.results? = some ⟨p.anchor, p.names.dropLast ++ [resultsName p.name]⟩ := if_neg h

/-- The name of the results ends in the suffix of a text. -/
theorem nameSuffix_resultsName (name : List Char) :
    nameSuffix (resultsName name) = Archive.textExtension := by
  have hsplit : resultsName name =
      (underscored name ++ ['_', 'r', 'e', 's', 'u', 'l', 't', 's']) ++ '.' :: ['t', 'x', 't'] := by
    rw [resultsName_eq, List.append_assoc]
    rfl
  rw [hsplit]
  exact nameSuffix_append (by simp) (by decide) (by decide)

/-- In one directory, the name tells the results. -/
theorem results?_eq_iff {p q : Path} (hp : p.name ≠ []) (hq : q.name ≠ [])
    (h : SameDirectory p q) :
    p.results? = q.results? ↔ underscored p.name = underscored q.name := by
  rw [results?_of_name hp, results?_of_name hq, h.1, h.2]
  constructor
  · intro heq
    have hnames := (Path.mk.inj (Option.some.inj heq)).2
    have hname := (List.cons.inj (List.append_cancel_left hnames)).1
    rw [resultsName_eq, resultsName_eq] at hname
    exact List.append_cancel_right hname
  · intro heq
    rw [resultsName_eq, resultsName_eq, heq]

/-- A path with a name, and no other, has a path for its results. It leads to the same directory,
    its name is twelve characters longer, so that it is another path, and it names a plain text.
    Two paths of one directory share their results just when their names are the same but for
    underscores in the place of dots behind the leading ones, in names that do not end in a dot.
    So different names without underscores never share them. -/
theorem results?_sharing (p : Path) :
    (p.results? = none ↔ p.name = []) ∧
    (∀ r, p.results? = some r →
      SameDirectory r p ∧ r.name.length = p.name.length + 12 ∧ r ≠ p ∧
        r.suffix = ['.', 't', 'x', 't'] ∧ Archive.isTextPath r = true) ∧
    ∀ q, p.name ≠ [] → q.name ≠ [] → SameDirectory p q →
      (p.results? = q.results? ↔ underscored p.name = underscored q.name) ∧
      ('_' ∉ p.name → '_' ∉ q.name → p.name ≠ q.name → p.results? ≠ q.results?) := by
  refine ⟨results?_eq_none_iff, fun r hr => ?_, fun q hp hq hdir => ?_⟩
  · obtain ⟨-, rfl⟩ := results?_eq_some hr
    have hname := name_concat p.anchor p.names.dropLast (resultsName p.name)
    have hlength : (name ⟨p.anchor, p.names.dropLast ++ [resultsName p.name]⟩).length =
        p.name.length + 12 := by
      rw [hname, length_resultsName]
    have hsuffix : suffix ⟨p.anchor, p.names.dropLast ++ [resultsName p.name]⟩ =
        Archive.textExtension := by
      rw [suffix, hname, nameSuffix_resultsName]
    refine ⟨⟨rfl, List.dropLast_concat⟩, hlength, fun heq => ?_, hsuffix, ?_⟩
    · rw [heq] at hlength
      omega
    · rw [Archive.isTextPath, hsuffix]
      rfl
  · have hiff := results?_eq_iff hp hq hdir
    exact ⟨hiff, fun ha hb hne heq => hne (underscored_injective ha hb (hiff.mp heq))⟩

/-- The results of `.a.b` are those of `.a_b`, and not those of `.a.b.`, whose dots all stay. -/
theorem results?_sharing_dots :
    results? ⟨[], [['.', 'a', '.', 'b']]⟩ = results? ⟨[], [['.', 'a', '_', 'b']]⟩ ∧
      results? ⟨[], [['.', 'a', '.', 'b']]⟩ ≠ results? ⟨[], [['.', 'a', '.', 'b', '.']]⟩ ∧
      ∃ r, results? ⟨[], [['.', 'a', '.', 'b']]⟩ = some r ∧ Archive.isTextPath r = true := by
  obtain ⟨-, hresults, hshare⟩ := results?_sharing ⟨[], [['.', 'a', '.', 'b']]⟩
  have hdir (name : List Char) : SameDirectory ⟨[], [['.', 'a', '.', 'b']]⟩ ⟨[], [name]⟩ :=
    ⟨rfl, rfl⟩
  refine ⟨(hshare _ (by decide) (by decide) (hdir _)).1.mpr (by decide),
    (hshare _ (by decide) (by decide) (hdir ['.', 'a', '.', 'b', '.'])).2
      (by decide) (by decide) (by decide), ?_⟩
  exact ⟨_, rfl, (hresults _ rfl).2.2.2.2⟩

end Abacus.Path
