import Abacus.Proofs.Worksheet.Container

/-!
# Archives with a repeated name

From a zip archive or a tape the name of the first text is taken and then looked up. So what is
read are the contents of the last regular member with that name: those of the first text itself
if the name does not come again, and not otherwise.

* `read_first_name`: what is read from a zip archive or a tape.
-/

namespace Abacus.Worksheet

open Archive

/-- A zip archive or a tape is refused for want of a text just when none of its members is one.
    Otherwise what is read is what the last regular member holds that has the name of the first
    text. That is the first text itself when its name does not come again. -/
theorem read_first_name [SevenZipReader] {p : Path} {format : Format}
    (hp : Format.ofPath? p = some format) (hformat : format ≠ .sevenZip) {packed : ByteArray}
    {ms : List (Member Archive.Fault)} (hms : members format p.name packed = .ok ms) :
    (read p packed = .error (.noText p) ↔ ∀ x ∈ ms, x.isText = false) ∧
    ∀ (front back : List (Member Archive.Fault)) (m : Member Archive.Fault),
      ms = front ++ m :: back → (∀ x ∈ front, x.isText = false) → m.isText = true →
      (∀ bytes, (m.latest back).contents.get = .ok bytes → read p packed = decode bytes) ∧
      ((∀ x ∈ back, x.regular = true → x.name ≠ m.name) → m.latest back = m) := by
  have hread := read_of_members hp hms
  refine ⟨⟨fun hnone => ?_, fun hnone => ?_⟩, fun front back m happend hfront hm => ⟨?_, ?_⟩⟩
  · cases hfirst : ms.find? Member.isText with
    | none =>
      intro x hx
      simpa using List.find?_eq_none.mp hfirst x hx
    | some m =>
      obtain ⟨hm, front, back, happend, hfront⟩ := List.find?_eq_some_iff_append.mp hfirst
      have hfront' : ∀ x ∈ front, x.isText = false := fun x hx => by simpa using hfront x hx
      rw [hread, textMember?_append hformat hms happend hfront' hm] at hnone
      simp only at hnone
      split at hnone
      · obtain ⟨g, hg⟩ := undecodable_of_decode hnone
        cases hg
      · cases hnone
  · rw [hread, textMember?_eq_none hformat hnone]
  · intro bytes hbytes
    rw [hread, textMember?_append hformat hms happend hfront hm]
    simp only [hbytes]
  · exact latest_of_not_repeated

/-- A zip archive with two members `a.txt`, of which the first holds `1` and the second `2`. -/
def repeated : ByteArray :=
  Bytes.ofList [
    0x50, 0x4B, 0x03, 0x04, 0x14, 0x00, 0x00, 0x00, 0x00, 0x00, 0x00, 0x00, 0x21, 0x00, 0xB7, 0xEF,
    0xDC, 0x83, 0x01, 0x00, 0x00, 0x00, 0x01, 0x00, 0x00, 0x00, 0x05, 0x00, 0x00, 0x00, 0x61, 0x2E,
    0x74, 0x78, 0x74, 0x31,
    0x50, 0x4B, 0x03, 0x04, 0x14, 0x00, 0x00, 0x00, 0x00, 0x00, 0x00, 0x00, 0x21, 0x00, 0x0D, 0xBE,
    0xD5, 0x1A, 0x01, 0x00, 0x00, 0x00, 0x01, 0x00, 0x00, 0x00, 0x05, 0x00, 0x00, 0x00, 0x61, 0x2E,
    0x74, 0x78, 0x74, 0x32,
    0x50, 0x4B, 0x01, 0x02, 0x14, 0x00, 0x14, 0x00, 0x00, 0x00, 0x00, 0x00, 0x00, 0x00, 0x21, 0x00,
    0xB7, 0xEF, 0xDC, 0x83, 0x01, 0x00, 0x00, 0x00, 0x01, 0x00, 0x00, 0x00, 0x05, 0x00, 0x00, 0x00,
    0x00, 0x00, 0x00, 0x00, 0x00, 0x00, 0x00, 0x00, 0x80, 0x01, 0x00, 0x00, 0x00, 0x00, 0x61, 0x2E,
    0x74, 0x78, 0x74,
    0x50, 0x4B, 0x01, 0x02, 0x14, 0x00, 0x14, 0x00, 0x00, 0x00, 0x00, 0x00, 0x00, 0x00, 0x21, 0x00,
    0x0D, 0xBE, 0xD5, 0x1A, 0x01, 0x00, 0x00, 0x00, 0x01, 0x00, 0x00, 0x00, 0x05, 0x00, 0x00, 0x00,
    0x00, 0x00, 0x00, 0x00, 0x00, 0x00, 0x00, 0x00, 0x80, 0x01, 0x24, 0x00, 0x00, 0x00, 0x61, 0x2E,
    0x74, 0x78, 0x74,
    0x50, 0x4B, 0x05, 0x06, 0x00, 0x00, 0x00, 0x00, 0x02, 0x00, 0x02, 0x00, 0x66, 0x00, 0x00, 0x00,
    0x48, 0x00, 0x00, 0x00, 0x00, 0x00]

/-- Both members are texts, each with contents of its own. -/
theorem members_repeated :
    ∃ first last, members .zip ['a', '.', 'z', 'i', 'p'] repeated = .ok [first, last] ∧
      first.isText = true ∧ first.contents.get = .ok [0x31] ∧
      last.regular = true ∧ last.name = first.name ∧ last.contents.get = .ok [0x32] := by
  have h : ((members .zip ['a', '.', 'z', 'i', 'p'] repeated).toOption.map fun ms =>
      ms.map fun x => (x.regular, x.name, x.contents.get.toOption)) =
        some [(true, ['a', '.', 't', 'x', 't'], some [0x31]),
          (true, ['a', '.', 't', 'x', 't'], some [0x32])] := by
    decide +kernel
  obtain ⟨ms, hmembers, hms⟩ := Option.map_eq_some_iff.mp h
  obtain ⟨first, rest, rfl, hfirst, hrest⟩ := List.map_eq_cons_iff.mp hms
  obtain ⟨last, rfl, hlast⟩ := List.map_eq_singleton_iff.mp hrest
  simp only [Prod.mk.injEq] at hfirst hlast
  obtain ⟨hregular, hname, hbytes⟩ := hfirst
  obtain ⟨hregular', hname', hbytes'⟩ := hlast
  refine ⟨first, last, eq_ok_of_toOption hmembers, ?_, eq_ok_of_toOption hbytes, hregular',
    hname'.trans hname.symm, eq_ok_of_toOption hbytes'⟩
  rw [Member.isText, hregular, hname]
  decide

/-- The first text of the archive holds `1`, and what is read is `2`. -/
theorem read_first_name_repeated :
    ∃ first last, members .zip ['a', '.', 'z', 'i', 'p'] repeated = .ok [first, last] ∧
      first.isText = true ∧ first.contents.get = .ok [0x31] ∧
      read ⟨[], [['a', '.', 'z', 'i', 'p']]⟩ repeated = .ok ['2'] := by
  obtain ⟨first, last, hmembers, htext, hbytes, hregular, hname, hbytes'⟩ := members_repeated
  have hlatest : first.latest [last] = last := by
    simp [Member.latest, hregular, hname]
  have hread := ((read_first_name (p := ⟨[], [['a', '.', 'z', 'i', 'p']]⟩) (by decide)
    (by decide) hmembers).2 [] [last] first rfl (by simp) htext).1 [0x32] (by rw [hlatest, hbytes'])
  exact ⟨first, last, hmembers, htext, hbytes, hread⟩

end Abacus.Worksheet
