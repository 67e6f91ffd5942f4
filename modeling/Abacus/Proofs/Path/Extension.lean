import Abacus.Proofs.Path.Suffixes
import Mathlib.Data.List.TakeWhile

/-!
# Extension parts

A name that does not end in a dot is its leading dots, a base without dots, and its extension
part, so all dots behind the leading ones belong to the extension part. A dot with anything but
dots in front of it starts a suffix, whatever stands between.

* `dropWhile_eq_append_extension`: a base and an extension part follow the leading dots.
* `nameSuffixes_append`: what follows a dot that does not lead is cut into suffixes.
* `nameSuffix_append`, `length_nameSuffix_lt`: the last suffix of a name.
-/

namespace Abacus.Path

/-! ## Cuts -/

theorem cut_cons_of_ne {sep c : Char} (hc : c ≠ sep) {cs part : List Char}
    {parts : List (List Char)} (h : cut sep cs = part :: parts) :
    cut sep (c :: cs) = (c :: part) :: parts := by
  rw [cut, if_neg hc, h]

/-- The separator stands in no part. -/
theorem not_mem_of_mem_cut {sep : Char} {cs part : List Char} (h : part ∈ cut sep cs) :
    sep ∉ part := by
  induction cs generalizing part with
  | nil =>
    rw [List.mem_singleton.mp h]
    exact List.not_mem_nil
  | cons c cs ih =>
    obtain ⟨first, parts, hcut, -⟩ := exists_cut_eq_cons sep cs
    by_cases hc : c = sep
    · rw [cut, if_pos hc] at h
      rcases List.mem_cons.mp h with rfl | hmem
      · exact List.not_mem_nil
      · exact ih hmem
    · rw [cut_cons_of_ne hc hcut] at h
      rcases List.mem_cons.mp h with rfl | hmem
      · rw [List.mem_cons, not_or]
        exact ⟨Ne.symm hc, ih (hcut ▸ List.mem_cons_self)⟩
      · exact ih (hcut ▸ List.mem_cons_of_mem first hmem)

/-- There is one part more than separators. -/
theorem length_cut (sep : Char) (cs : List Char) : (cut sep cs).length = cs.count sep + 1 := by
  induction cs with
  | nil => rfl
  | cons c cs ih =>
    obtain ⟨first, parts, hcut, -⟩ := exists_cut_eq_cons sep cs
    by_cases hc : c = sep
    · rw [cut, if_pos hc, List.length_cons, ih, hc, List.count_cons_self]
    · rw [cut_cons_of_ne hc hcut, List.count_cons_of_ne (by simpa using hc), ← ih, hcut,
        List.length_cons, List.length_cons]

/-- A text is cut at a separator as the texts on both sides of it are. -/
theorem cut_append (sep : Char) (cs ds : List Char) :
    cut sep (cs ++ sep :: ds) = cut sep cs ++ cut sep ds := by
  induction cs with
  | nil =>
    rw [List.nil_append, cut.eq_2, if_pos rfl]
    rfl
  | cons c cs ih =>
    by_cases hc : c = sep
    · rw [List.cons_append, cut, if_pos hc, ih, cut, if_pos hc, List.cons_append]
    · obtain ⟨first, parts, hcut, -⟩ := exists_cut_eq_cons sep cs
      rw [hcut, List.cons_append] at ih
      rw [List.cons_append, cut_cons_of_ne hc ih, cut_cons_of_ne hc hcut, List.cons_append]

theorem flatten_cut (sep : Char) (cs : List Char) :
    ((cut sep cs).map (sep :: ·)).flatten = sep :: cs := by
  obtain ⟨part, parts, hcut, hcs⟩ := exists_cut_eq_cons sep cs
  rw [hcut, List.map_cons, List.flatten_cons, List.cons_append, ← hcs]

/-! ## The extension part -/

/-- A name that does not end in a dot has a base. -/
theorem base_ne_nil {name part : List Char} {parts : List (List Char)} (hname : name ≠ [])
    (hdot : name.getLast? ≠ some '.')
    (h : name.dropWhile (· = '.') = part ++ (parts.map ('.' :: ·)).flatten) : part ≠ [] := by
  rintro rfl
  cases parts with
  | nil =>
    -- nothing but dots, so the last character is one
    have hall := List.dropWhile_eq_nil_iff.mp h
    have hlast : name.getLast hname = '.' := by simpa using hall _ (List.getLast_mem hname)
    exact hdot ((List.getLast?_eq_some_getLast hname).trans (congrArg some hlast))
  | cons first rest =>
    have hhead := List.head?_dropWhile_not (fun c => decide (c = '.')) name
    rw [h] at hhead
    simp at hhead

/-- Behind its leading dots a name has a base without dots, and then its extension part. -/
theorem dropWhile_eq_append_extension {name : List Char} (hname : name ≠ [])
    (hdot : name.getLast? ≠ some '.') :
    ∃ base, base ≠ [] ∧ '.' ∉ base ∧ name.dropWhile (· = '.') = base ++ extension name := by
  obtain ⟨part, parts, hcut, hrest⟩ := exists_cut_eq_cons '.' (name.dropWhile (· = '.'))
  refine ⟨part, base_ne_nil hname hdot hrest, not_mem_of_mem_cut (hcut ▸ List.mem_cons_self), ?_⟩
  rw [extension, nameSuffixes, if_neg hdot, hcut, List.tail_cons]
  exact hrest

/-- What stands in front of a suffix are not all dots. -/
theorem exists_ne_dot_of_suffixes {name : List Char} (h : nameSuffixes name ≠ []) :
    ∃ front, name = front ++ extension name ∧ ∃ c ∈ front, c ≠ '.' := by
  have hname : name ≠ [] := by
    rintro rfl
    exact h rfl
  have hdot : name.getLast? ≠ some '.' := by
    intro hlast
    exact h (by rw [nameSuffixes, if_pos hlast])
  obtain ⟨base, hbase, hbaseDot, hrest⟩ := dropWhile_eq_append_extension hname hdot
  obtain ⟨c, cs, rfl⟩ := List.exists_cons_of_ne_nil hbase
  refine ⟨name.takeWhile (· = '.') ++ (c :: cs), ?_, c, ?_, ?_⟩
  · rw [List.append_assoc, ← hrest, List.takeWhile_append_dropWhile]
  · exact List.mem_append_right _ List.mem_cons_self
  · rintro rfl
    exact hbaseDot List.mem_cons_self

/-- What follows a dot that does not lead is cut into suffixes at its own dots. -/
theorem nameSuffixes_append {front tail : List Char} (hfront : ∃ c ∈ front, c ≠ '.')
    (htail : tail ≠ []) (hdot : tail.getLast? ≠ some '.') :
    ∃ before, nameSuffixes (front ++ '.' :: tail) = before ++ (cut '.' tail).map ('.' :: ·) := by
  have hlast : (front ++ '.' :: tail).getLast? ≠ some '.' := by
    rw [List.getLast?_append, List.getLast?_cons]
    rw [List.getLast?_eq_some_getLast htail] at hdot ⊢
    exact hdot
  have hrest : front.dropWhile (· = '.') ≠ [] := by
    obtain ⟨c, hc, hne⟩ := hfront
    intro hnil
    exact hne (by simpa using List.dropWhile_eq_nil_iff.mp hnil c hc)
  obtain ⟨part, parts, hcut, -⟩ := exists_cut_eq_cons '.' (front.dropWhile (· = '.'))
  refine ⟨parts.map ('.' :: ·), ?_⟩
  rw [nameSuffixes, if_neg hlast, List.dropWhile_append, if_neg (by simpa using hrest), cut_append,
    hcut, List.cons_append, List.tail_cons, List.map_append]

/-! ## The last suffix -/

theorem nameSuffix_append {front tail : List Char} (hfront : front ≠ []) (htail : tail ≠ [])
    (hdot : '.' ∉ tail) : nameSuffix (front ++ '.' :: tail) = '.' :: tail := by
  have hscan : ((front ++ '.' :: tail).reverse.takeWhile (· ≠ '.')).reverse = tail := by
    rw [List.reverse_append, List.reverse_cons, List.append_assoc, List.singleton_append,
      List.takeWhile_append_of_pos, List.takeWhile_cons_of_neg (by simp), List.append_nil,
      List.reverse_reverse]
    intro c hc
    have : c ≠ '.' := fun h => hdot (h ▸ List.mem_reverse.mp hc)
    simpa using this
  have hlength : 0 < front.length := List.length_pos_iff.mpr hfront
  rw [nameSuffix, hscan, if_neg]
  rw [not_or, List.length_append, List.length_cons]
  exact ⟨htail, by omega⟩

/-- Something stands in front of a suffix. -/
theorem length_nameSuffix_lt {name : List Char} (h : nameSuffix name ≠ []) :
    (nameSuffix name).length < name.length := by
  unfold nameSuffix at h ⊢
  dsimp only at h ⊢
  split
  · next hnone => exact absurd (if_pos hnone) h
  · next hsome =>
    rw [not_or, Nat.not_le] at hsome
    exact hsome.2

end Abacus.Path
