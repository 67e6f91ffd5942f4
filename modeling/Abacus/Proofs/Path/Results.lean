import Abacus.FileTree
import Abacus.Proofs.Path.Suffixes

/-!
# Where results go

The results of a file have a name of their own: it is longer than that of the file and ends in
`_results.txt`. They go to the directory where the file is, so they never take the place of the
file itself.

* `length_resultsName`, `resultsEnding_suffix`: the name of the results.
* `place?_results`: the place of the results.
-/

namespace Abacus

/-! ## The name -/

namespace Path

/-- A name is its stem and its extension part. -/
theorem stem_append_extension (name : List Char) : stem name ++ extension name = name :=
  List.suffix_iff_eq_append.mp (extension_suffix name)

theorem length_resultsName (name : List Char) : (resultsName name).length = name.length + 12 := by
  have hname := congrArg List.length (stem_append_extension name)
  rw [List.length_append] at hname
  rw [resultsName, List.length_append, List.length_append, List.length_map, hname]
  rfl

theorem resultsEnding_suffix (name : List Char) : resultsEnding <:+ resultsName name :=
  List.suffix_append _ _

theorem resultsName_ne (name : List Char) : resultsName name ≠ name := by
  intro h
  have := congrArg List.length h
  rw [length_resultsName] at this
  omega

theorem names_ne_nil_of_name {p : Path} (h : p.name ≠ []) : p.names ≠ [] := by
  intro hnil
  rw [name, hnil] at h
  exact h rfl

theorem dropLast_names_append_name {p : Path} (h : p.name ≠ []) :
    p.names.dropLast ++ [p.name] = p.names := by
  have hlast := List.getLast?_eq_some_getLast (names_ne_nil_of_name h)
  rw [name, hlast]
  exact List.dropLast_concat_getLast _

/-- The results of a file are in its directory. -/
theorem results?_eq_some {p q : Path} (h : p.results? = some q) :
    p.name ≠ [] ∧ q = ⟨p.anchor, p.names.dropLast ++ [resultsName p.name]⟩ := by
  unfold results? at h
  split at h
  · cases h
  · next hname =>
    cases h
    exact ⟨hname, rfl⟩

end Path

/-! ## The place -/

namespace FileTree

theorem walk?_concat (t : FileTree) (start : Place) (names : List (List Char)) (name : List Char) :
    t.walk? start (names ++ [name]) = (t.walk? start names).bind (t.step? · name) := by
  rw [walk?, walk?, List.foldlM_append]
  cases names.foldlM t.step? start with
  | none => rfl
  | some place => exact bind_pure (t.step? place name)

/-- A step leads up, or into the directory. -/
theorem step?_eq_some {t : FileTree} {dir place : Place} {name : List Char}
    (h : t.step? dir name = some place) :
    t.isDirectory dir = true ∧ (place = dir.dropLast ∨ place = dir ++ [name]) := by
  unfold step? above? at h
  split at h
  · cases h
  · next hdir =>
    refine ⟨by simpa using hdir, ?_⟩
    split at h
    · split at h
      · cases h
      · cases h
        exact .inl rfl
    · cases h
      exact .inr rfl

theorem step?_of_ne_up {t : FileTree} {dir : Place} (hdir : t.isDirectory dir = true)
    {name : List Char} (h : name ≠ up) : t.step? dir name = some (dir ++ [name]) := by
  rw [step?, hdir, if_neg h]
  rfl

/-- The results of a file go to the directory where the file is, and not to its place. -/
theorem place?_results {t : FileTree} {p q : Path} {place : Place} (hp : t.place? p = some place)
    (hq : p.results? = some q) :
    ∃ dir, t.place? q = some (dir ++ [Path.resultsName p.name]) ∧
      place ≠ dir ++ [Path.resultsName p.name] := by
  obtain ⟨hname, rfl⟩ := Path.results?_eq_some hq
  obtain ⟨start, hstart, hwalk⟩ := Option.bind_eq_some_iff.mp hp
  rw [← Path.dropLast_names_append_name hname, walk?_concat] at hwalk
  obtain ⟨dir, hdirs, hstep⟩ := Option.bind_eq_some_iff.mp hwalk
  obtain ⟨hdir, hplace⟩ := step?_eq_some hstep
  have hlength := Path.length_resultsName p.name
  have hup : Path.resultsName p.name ≠ up := by
    intro h
    rw [h] at hlength
    exact absurd hlength (by simp [up])
  refine ⟨dir, ?_, fun h => ?_⟩
  · refine Option.bind_eq_some_iff.mpr ⟨start, hstart, ?_⟩
    rw [walk?_concat, hdirs]
    exact step?_of_ne_up hdir hup
  · rcases hplace with rfl | rfl
    · have := congrArg List.length h
      rw [List.length_dropLast, List.length_append, List.length_singleton] at this
      omega
    · have := List.append_cancel_left h
      exact Path.resultsName_ne p.name (List.cons.inj this).1.symm

end FileTree

end Abacus
