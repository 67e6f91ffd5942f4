import Abacus.Archive
import Mathlib.Data.List.Basic

/-!
# The text of an archive

Readers look for the text of an archive in different ways: one takes the first text where
it stands, others take its name and look that up, which leads to the last regular member with
the name. Where an archive has one text they all find it.

* `Member.latest`: the member that a look-up of the first text leads to.
* `regular_of_isTextName`: in a zip archive no directory has the name of a text.
* `textMember?_append`: the text of a zip archive or a tape.
* `textMember?_of_only`: the only text is found.
-/

namespace Abacus.Archive

/-- Is the member a text? -/
def Member.isText {ε : Type} (m : Member ε) : Bool := m.regular && isTextName m.name

/-! ## Look-ups -/

section Lookup

variable {ε : Type} {front back : List (Member ε)} {m : Member ε}

/-- The last regular member with the name of a member, of those that stand behind it; without
    any, the member itself. -/
def Member.latest (m : Member ε) (back : List (Member ε)) : Member ε :=
  (back.filter fun x => x.regular && x.name == m.name).getLast?.getD m

theorem latest_of_not_repeated (h : ∀ x ∈ back, x.regular = true → x.name ≠ m.name) :
    m.latest back = m := by
  have hnone : back.filter (fun x => x.regular && x.name == m.name) = [] := by
    rw [List.filter_eq_nil_iff]
    intro x hx
    simpa using h x hx
  rw [Member.latest, hnone]
  rfl

theorem firstText?_append (hfront : ∀ x ∈ front, x.isText = false) (hm : m.isText = true) :
    Member.firstText? (front ++ m :: back) = some m := by
  have hnone : front.find? Member.isText = none :=
    List.find?_eq_none.mpr fun x hx => by simp [hfront x hx]
  show (front ++ m :: back).find? Member.isText = some m
  rw [List.find?_append, hnone, Option.none_or, List.find?_cons_of_pos hm]

/-- A look-up of the first text leads to the last regular member with its name, if no other
    members with the name of a text count. -/
theorem textByName?_append (hfront : ∀ x ∈ front, x.isText = false) (hm : m.isText = true)
    {counts : Member ε → Bool}
    (hcounts : ∀ x ∈ front ++ m :: back, isTextName x.name = true → counts x = x.regular) :
    Member.textByName? counts (front ++ m :: back) = some (m.latest back) := by
  obtain ⟨hregular, hname⟩ : m.regular = true ∧ isTextName m.name = true := by
    simpa [Member.isText] using hm
  have hsame : (front ++ m :: back).filter (fun x => counts x && x.name == m.name) =
      (front ++ m :: back).filter fun x => x.regular && x.name == m.name := by
    refine List.filter_congr fun x hx => ?_
    by_cases hx' : x.name = m.name
    · rw [hcounts x hx (hx' ▸ hname)]
    · rw [beq_eq_false_iff_ne.mpr hx', Bool.and_false, Bool.and_false]
  have hnone : front.filter (fun x => x.regular && x.name == m.name) = [] := by
    rw [List.filter_eq_nil_iff]
    intro x hx hboth
    rw [Bool.and_eq_true, beq_iff_eq] at hboth
    have htext : x.isText = true := by rw [Member.isText, hboth.1, hboth.2, hname]; rfl
    rw [hfront x hx] at htext
    cases htext
  have hhere : (m.regular && m.name == m.name) = true := by simp [hregular]
  rw [Member.textByName?, firstText?_append hfront hm, Option.bind_some, Member.named?,
    ← List.head?_filter, List.filter_reverse, List.head?_reverse, hsame, List.filter_append, hnone,
    List.nil_append, List.filter_cons, if_pos hhere, List.getLast?_cons]
  rfl

theorem textByName?_eq_none {counts : Member ε → Bool} {ms : List (Member ε)}
    (h : ∀ x ∈ ms, x.isText = false) : Member.textByName? counts ms = none := by
  have hnone : ms.find? Member.isText = none :=
    List.find?_eq_none.mpr fun x hx => by simp [h x hx]
  have hfirst : Member.firstText? ms = none := hnone
  rw [Member.textByName?, hfirst]
  rfl

end Lookup

/-! ## Formats -/

/-- In a zip archive a name that ends in a slash is a directory's, and no other. -/
theorem regular_of_isTextName {bytes : ByteArray} {members : List (Member Zip.Fault)}
    (h : Zip.members bytes = .ok members) {m : Member Zip.Fault} (hm : m ∈ members)
    (ht : isTextName m.name = true) : m.regular = true := by
  have hregular : m.regular = decide (m.name.getLast? ≠ some '/') := by
    rw [Zip.members] at h
    cases hd : Zip.Directory.ofArchive bytes with
    | error f => rw [hd] at h; cases h
    | ok directory =>
      cases he : directory.entries bytes with
      | error f => simp only [hd, he, bind, Except.bind] at h; cases h
      | ok entries =>
        simp only [hd, he, bind, Except.bind] at h
        split at h
        · cases h
        · cases h
          obtain ⟨⟨entry, index⟩, -, rfl⟩ := List.mem_map.mp hm
          rfl
  obtain ⟨front, hname⟩ := List.isSuffixOf_iff_suffix.mp ht
  rw [hregular, ← hname, List.getLast?_append]
  rfl

variable [SevenZipReader]

theorem regular_of_members_zip {name : List Char} {bytes : ByteArray} {ms : List (Member Fault)}
    (h : members .zip name bytes = .ok ms) {x : Member Fault} (hx : x ∈ ms)
    (ht : isTextName x.name = true) : x.regular = true := by
  rw [members] at h
  cases hz : Zip.members bytes with
  | error f => rw [hz] at h; cases h
  | ok zs =>
    rw [hz] at h
    cases h
    obtain ⟨z, hz', rfl⟩ := List.mem_map.mp hx
    exact regular_of_isTextName hz hz' ht

section ByName

variable {format : Format} (hformat : format ≠ .sevenZip) {name : List Char} {bytes : ByteArray}
  {ms : List (Member Fault)} (h : members format name bytes = .ok ms)

include hformat

theorem textMember?_eq_none (hnone : ∀ x ∈ ms, x.isText = false) :
    textMember? format ms = none := by
  cases format with
  | zip => exact textByName?_eq_none hnone
  | tarXz => exact textByName?_eq_none hnone
  | sevenZip => exact absurd rfl hformat

include h

theorem textMember?_append {front back : List (Member Fault)} {m : Member Fault}
    (hms : ms = front ++ m :: back) (hfront : ∀ x ∈ front, x.isText = false)
    (hm : m.isText = true) : textMember? format ms = some (m.latest back) := by
  cases format with
  | zip =>
    subst hms
    refine textByName?_append hfront hm fun x hx ht => ?_
    rw [regular_of_members_zip h hx ht]
  | tarXz =>
    subst hms
    exact textByName?_append hfront hm fun _ _ _ => rfl
  | sevenZip => exact absurd rfl hformat

end ByName

/-- The readers of all formats find the only text of an archive. -/
theorem textMember?_of_only {format : Format} {name : List Char} {bytes : ByteArray}
    {ms : List (Member Fault)} (h : members format name bytes = .ok ms) {m : Member Fault}
    (honly : ms.filter Member.isText = [m]) : textMember? format ms = some m := by
  obtain ⟨front, back, hms, hfront, hm, hback⟩ := List.filter_eq_cons_iff.mp honly
  have hfront' : ∀ x ∈ front, x.isText = false := fun x hx => by simpa using hfront x hx
  by_cases hformat : format = .sevenZip
  · rw [hformat, hms]
    exact firstText?_append hfront' hm
  · have hlatest : m.latest back = m := latest_of_not_repeated fun x hx hregular hname => by
      have hx' := List.filter_eq_nil_iff.mp hback x hx
      rw [Member.isText, hregular, hname] at hx'
      exact hx' (Bool.and_eq_true_iff.mp hm).2
    rw [textMember?_append hformat h hms hfront' hm, hlatest]

end Abacus.Archive
