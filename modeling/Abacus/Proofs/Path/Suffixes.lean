import Abacus.Archive.Member

/-!
# Ends of names

The extension part of a name and its last suffix are ends of the name. So no name says
both that the file is a text and that it is an archive.

* `exists_cut_eq_cons`: a text is put together again from its parts.
* `extension_suffix`, `nameSuffix_suffix`: what stands at the end of a name.
* `isTextPath_of_ofPath?`: an archive is not taken for a text.
-/

namespace Abacus.Path

/-! ## Parts of a text -/

/-- A text is its parts with the separator between them. -/
theorem exists_cut_eq_cons (sep : Char) (cs : List Char) :
    ∃ part parts, cut sep cs = part :: parts ∧ cs = part ++ (parts.map (sep :: ·)).flatten := by
  induction cs with
  | nil => exact ⟨[], [], rfl, rfl⟩
  | cons c cs ih =>
    obtain ⟨part, parts, hcut, hcs⟩ := ih
    by_cases hc : c = sep
    · refine ⟨[], part :: parts, ?_, ?_⟩
      · rw [cut, if_pos hc, hcut]
      · rw [List.nil_append, List.map_cons, List.flatten_cons, List.cons_append, ← hcs, hc]
    · refine ⟨c :: part, parts, ?_, ?_⟩
      · rw [cut, if_neg hc, hcut]
      · rw [List.cons_append, ← hcs]

/-! ## The end of a name -/

/-- The extension part of a name is its end. -/
theorem extension_suffix (name : List Char) : extension name <:+ name := by
  unfold extension nameSuffixes
  split
  · exact List.nil_suffix
  · obtain ⟨part, parts, hcut, hname⟩ := exists_cut_eq_cons '.' (name.dropWhile (· = '.'))
    rw [hcut, List.tail_cons]
    exact List.IsSuffix.trans ⟨part, hname.symm⟩ (List.dropWhile_suffix _)

/-- The last suffix of a name is its end. -/
theorem nameSuffix_suffix (name : List Char) : nameSuffix name <:+ name := by
  have hname := List.takeWhile_append_dropWhile (p := fun c => decide (c ≠ '.')) (l := name.reverse)
  unfold nameSuffix
  dsimp only
  split
  · exact List.nil_suffix
  · next hlong =>
    rw [not_or, List.length_reverse, Nat.not_le] at hlong
    cases hrest : name.reverse.dropWhile (fun c => decide (c ≠ '.')) with
    | nil =>
      have hlength := congrArg List.length hname
      rw [hrest, List.append_nil, List.length_reverse] at hlength
      omega
    | cons c rest =>
      have hdot : c = '.' := by
        have := List.head?_dropWhile_not (fun c => decide (c ≠ '.')) name.reverse
        rw [hrest] at this
        simpa using this
      refine ⟨rest.reverse, ?_⟩
      have hreverse := congrArg List.reverse hname
      rw [hrest, hdot, List.reverse_append, List.reverse_cons, List.reverse_reverse,
        List.append_assoc, List.singleton_append] at hreverse
      exact hreverse

end Abacus.Path

namespace Abacus.Archive

/-- The last two suffixes of a path are the end of its extension part. -/
theorem lastTwo_suffix_extension (p : Path) :
    (Format.lastTwo p.suffixes).flatten <:+ Path.extension p.name := by
  refine ⟨(p.suffixes.take (p.suffixes.length - 2)).flatten, ?_⟩
  rw [Format.lastTwo, ← List.flatten_append, List.take_append_drop]
  rfl

theorem lastTwo_suffix (p : Path) : (Format.lastTwo p.suffixes).flatten <:+ p.name :=
  (lastTwo_suffix_extension p).trans (Path.extension_suffix p.name)

/-- Two texts of one length at the end of another are the same. -/
theorem eq_of_suffix {cs ds name : List Char} (hc : cs <:+ name) (hd : ds <:+ name)
    (hlength : cs.length = ds.length) : cs = ds :=
  (List.suffix_of_suffix_length_le hc hd (Nat.le_of_eq hlength)).eq_of_length hlength

/-- A path that names an archive does not name a plain text. -/
theorem isTextPath_of_ofPath? {p : Path} {format : Format} (h : Format.ofPath? p = some format) :
    isTextPath p = false := by
  have hformat : format.extension.toList <:+ p.name.map Char.toLower := by
    have := List.find?_some h
    exact (List.isSuffixOf_iff_suffix.mp this).trans ((lastTwo_suffix p).map _)
  -- the last two characters tell the extensions apart
  have hlast : format.extension.toList.drop (format.extension.toList.length - 2) ≠ ['x', 't'] := by
    cases format <;> decide
  rw [isTextPath, decide_eq_false_iff_not]
  intro htext
  have hsuffix : textExtension <:+ p.name.map Char.toLower :=
    htext ▸ (Path.nameSuffix_suffix p.name).map _
  refine hlast (eq_of_suffix ((List.drop_suffix _ _).trans hformat)
    ((List.drop_suffix 2 _).trans hsuffix) ?_)
  cases format <;> rfl

end Abacus.Archive
