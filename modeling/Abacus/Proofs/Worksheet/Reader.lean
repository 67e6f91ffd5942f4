import Abacus.Archive.SevenZip
import Abacus.Proofs.Path.Extension
import Abacus.Worksheet

/-!
# How a worksheet is read

The end of its name tells how a file is read, in any case: as a text, or as an archive of some
format. In front of the extension something must stand, for an archive something other than dots.
No two extensions end alike, so no name calls for two readers, and what stands further in front
does not count.

* `Reader`, `Reader.Fits`: the readers, and the names that call for them.
* `isTextPath_iff`, `ofPath?_eq_some_iff`: the last suffixes of a name tell the same.
* `read_by_name`: a file is read by the one reader that fits, and refused if there is none.
-/

namespace Abacus.Worksheet

open Archive

/-- Decoding fails in one way only. -/
theorem undecodable_of_decode [SevenZipReader] {bytes : List UInt8} {f : Fault}
    (h : decode bytes = .error f) : ∃ g, f = .undecodable g := by
  rw [decode] at h
  cases hdecode : Text.Utf8.decode bytes with
  | ok text => rw [hdecode] at h; cases h
  | error g =>
    rw [hdecode] at h
    cases h
    exact ⟨g, rfl⟩

/-! ## Readers -/

/-- The ways of reading a worksheet. -/
inductive Reader
  | text
  | archive (format : Format)
deriving DecidableEq

namespace Reader

/-- What the names end in that call for a reader. -/
def extension : Reader → List Char
  | .text => textExtension
  | .archive format => format.extension.toList

/-- Does a name call for a reader? Small letters are those of ASCII: outside of it only `İ` has
    one of the letters in its lower case, and there a mark stands behind the letter. -/
def Fits (r : Reader) (name : List Char) : Prop :=
  match r with
  | .text => textExtension <:+ name.map Char.toLower ∧ 4 < name.length
  | .archive format =>
    ∃ front, name.map Char.toLower = front ++ format.extension.toList ∧ ∃ c ∈ front, c ≠ '.'

instance (r : Reader) (name : List Char) : Decidable (r.Fits name) :=
  let small := name.map Char.toLower
  match r with
  | .text =>
    decidable_of_iff (textExtension.isSuffixOf small = true ∧ 4 < name.length)
      (and_congr_left' List.isSuffixOf_iff_suffix)
  | .archive format =>
    let front := small.take (small.length - format.extension.toList.length)
    decidable_of_iff (small = front ++ format.extension.toList ∧ front.any (· ≠ '.') = true) <| by
      constructor
      · exact fun ⟨hsmall, hany⟩ => ⟨front, hsmall, by simpa using hany⟩
      · rintro ⟨others, hothers, hc⟩
        have hfront : front = others := by
          simp only [front, small, hothers, List.length_append, Nat.add_sub_cancel,
            List.take_left']
        exact ⟨hfront ▸ hothers, by simpa [hfront] using hc⟩

/-- What a reader makes of a file. -/
def read [SevenZipReader] (r : Reader) (p : Path) (bytes : ByteArray) : Except Fault (List Char) :=
  match r with
  | .text => (decode (Bytes.toList bytes)).map Text.unifyNewlines
  | .archive format =>
    match textBytes? format p.name bytes with
    | .error f => .error (.archive f)
    | .ok none => .error (.noText p)
    | .ok (some found) => decode found

theorem Fits.suffix {r : Reader} {name : List Char} (h : r.Fits name) :
    r.extension <:+ name.map Char.toLower := by
  cases r with
  | text => exact h.1
  | archive format =>
    obtain ⟨front, hname, -⟩ := h
    exact ⟨front, hname.symm⟩

/-- The last two characters of an extension. -/
def ending (r : Reader) : List Char := r.extension.drop (r.extension.length - 2)

theorem ending_injective {r s : Reader} (h : r.ending = s.ending) : r = s := by
  rcases r with _ | (_ | _ | _) <;> rcases s with _ | (_ | _ | _) <;>
    first | rfl | exact absurd h (by decide)

theorem length_ending (r : Reader) : r.ending.length = 2 := by
  rcases r with _ | (_ | _ | _) <;> rfl

/-- No name calls for two readers. -/
theorem Fits.unique {r s : Reader} {name : List Char} (hr : r.Fits name) (hs : s.Fits name) :
    r = s :=
  ending_injective (eq_of_suffix ((List.drop_suffix _ _).trans hr.suffix)
    ((List.drop_suffix _ _).trans hs.suffix) (r.length_ending.trans s.length_ending.symm))

/-- What stands in front of a name does not count. -/
theorem Fits.of_suffix {r : Reader} {inner name : List Char} (h : r.Fits inner)
    (hsuffix : inner <:+ name) : r.Fits name := by
  obtain ⟨outer, rfl⟩ := hsuffix
  cases r with
  | text =>
    refine ⟨h.1.trans ?_, ?_⟩
    · rw [List.map_append]
      exact List.suffix_append _ _
    · have hlength := h.2
      rw [List.length_append]
      omega
  | archive format =>
    obtain ⟨front, hname, c, hc, hne⟩ := h
    refine ⟨outer.map Char.toLower ++ front, ?_, c, List.mem_append_right _ hc, hne⟩
    rw [List.map_append, hname, List.append_assoc]

/-- No reader finds the format of its file wanting. -/
theorem read_ne_unsupported [SevenZipReader] (r : Reader) (p q : Path) (bytes : ByteArray) :
    r.read p bytes ≠ .error (.unsupported q) := by
  intro h
  cases r with
  | text =>
    rw [read] at h
    cases hdecode : decode (Bytes.toList bytes) with
    | ok text => rw [hdecode] at h; cases h
    | error f =>
      rw [hdecode] at h
      cases h
      obtain ⟨g, hg⟩ := undecodable_of_decode hdecode
      cases hg
  | archive format =>
    rw [read] at h
    cases hfound : textBytes? format p.name bytes with
    | error f => rw [hfound] at h; cases h
    | ok found =>
      rw [hfound] at h
      cases found with
      | none => cases h
      | some bs =>
        obtain ⟨g, hg⟩ := undecodable_of_decode h
        cases hg

end Reader

/-! ## Small letters -/

theorem toLower_eq_dot_iff {c : Char} : c.toLower = '.' ↔ c = '.' := by
  unfold Char.toLower
  split
  · next h =>
    -- a capital stands behind the dot, and its small letter further behind
    have hA : 65 ≤ c.val.toNat := UInt32.le_iff_toNat_le.mp h.1
    have hZ : c.val.toNat ≤ 90 := UInt32.le_iff_toNat_le.mp h.2
    have hval : (c.val + 32).toNat = (c.val.toNat + 32) % 2 ^ 32 := UInt32.toNat_add c.val 32
    constructor
    · intro heq
      have : (c.val + 32).toNat = 46 := congrArg (·.val.toNat) heq
      omega
    · rintro rfl
      exact absurd hA (by decide)
  · exact Iff.rfl

theorem count_dot_map_toLower (cs : List Char) :
    (cs.map Char.toLower).count '.' = cs.count '.' := by
  rw [List.count_eq_countP, List.count_eq_countP, List.countP_map]
  refine List.countP_congr fun c _ => ?_
  simp [toLower_eq_dot_iff]

theorem getLast?_ne_dot_of_map {cs : List Char}
    (h : (cs.map Char.toLower).getLast? ≠ some '.') : cs.getLast? ≠ some '.' := by
  intro hdot
  rw [List.getLast?_map, hdot] at h
  exact h rfl

/-- A name whose small letters end in a dot and a tail has such an end itself. -/
theorem exists_dot_of_map {name front tail : List Char}
    (h : name.map Char.toLower = front ++ '.' :: tail) :
    ∃ a b, name = a ++ '.' :: b ∧ a.map Char.toLower = front ∧ b.map Char.toLower = tail := by
  obtain ⟨a, rest, rfl, ha, hrest⟩ := List.map_eq_append_iff.mp h
  obtain ⟨c, b, rfl, hc, hb⟩ := List.map_eq_cons_iff.mp hrest
  rw [toLower_eq_dot_iff.mp hc]
  exact ⟨a, b, rfl, ha, hb⟩

/-! ## Suffixes -/

/-- The last suffix tells whether a path names a text. -/
theorem isTextPath_iff (p : Path) : isTextPath p = true ↔ Reader.Fits .text p.name := by
  rw [isTextPath, decide_eq_true_eq]
  constructor
  · intro h
    have hlength := congrArg List.length h
    rw [List.length_map] at hlength
    have hne : p.suffix ≠ [] := by
      intro hnil
      rw [hnil] at hlength
      cases hlength
    refine ⟨h ▸ (Path.nameSuffix_suffix p.name).map _, ?_⟩
    have hlt := Path.length_nameSuffix_lt hne
    have hfour : (Path.nameSuffix p.name).length = 4 := hlength
    omega
  · rintro ⟨⟨front, hfront⟩, hlength⟩
    have hend : p.name.map Char.toLower = front ++ '.' :: ['t', 'x', 't'] := hfront.symm
    obtain ⟨a, b, hname, ha, hb⟩ := exists_dot_of_map hend
    have hthree : b.length = 3 := by rw [← List.length_map (f := Char.toLower), hb]; rfl
    have hane : a ≠ [] := by
      rintro rfl
      rw [hname, List.nil_append, List.length_cons, hthree] at hlength
      omega
    have hbne : b ≠ [] := by
      rintro rfl
      cases hthree
    have hdot : '.' ∉ b := by
      rw [← List.count_eq_zero, ← count_dot_map_toLower, hb]
      decide
    rw [Path.suffix, hname, Path.nameSuffix_append hane hbne hdot, List.map_cons, hb]
    rfl

/-- Does the name of a path say that it is an archive of a format? -/
def isNamed (p : Path) (format : Format) : Bool :=
  format.extension.toList.isSuffixOf ((Format.lastTwo p.suffixes).flatten.map Char.toLower)

theorem ofPath?_eq_find? (p : Path) : Format.ofPath? p = Format.all.find? (isNamed p) := rfl

theorem lastTwo_append (before : List (List Char)) {last : List (List Char)}
    (h : last.length ≤ 2) : ∃ others, Format.lastTwo (before ++ last) = others ++ last := by
  refine ⟨before.drop (before.length + last.length - 2), ?_⟩
  rw [Format.lastTwo, List.length_append, List.drop_append_of_le_length (by omega)]

theorem exists_extension_eq (format : Format) :
    ∃ tail, format.extension.toList = '.' :: tail ∧ tail.count '.' ≤ 1 ∧
      tail.getLast? ≠ some '.' ∧ tail ≠ [] := by
  cases format <;> exact ⟨_, rfl, by decide, by decide, by decide⟩

/-- The last two suffixes tell of which format an archive is. -/
theorem isNamed_iff (p : Path) (format : Format) :
    isNamed p format = true ↔ Reader.Fits (.archive format) p.name := by
  obtain ⟨tail, htail, hcount, hlast, hne⟩ := exists_extension_eq format
  rw [isNamed, List.isSuffixOf_iff_suffix, Reader.Fits, htail]
  constructor
  · intro h
    have hsuffixes : p.suffixes ≠ [] := by
      intro hnil
      rw [hnil] at h
      exact List.cons_ne_nil _ _ (List.suffix_nil.mp h)
    obtain ⟨front, hname, c, hc, hdot⟩ := Path.exists_ne_dot_of_suffixes hsuffixes
    obtain ⟨inner, hinner⟩ := h.trans ((lastTwo_suffix_extension p).map Char.toLower)
    refine ⟨front.map Char.toLower ++ inner, ?_, c.toLower, ?_, ?_⟩
    · rw [List.append_assoc, hinner, ← List.map_append, ← hname]
    · exact List.mem_append_left _ (List.mem_map_of_mem hc)
    · exact fun h => hdot (toLower_eq_dot_iff.mp h)
  · rintro ⟨front, hname, c, hc, hdot⟩
    obtain ⟨a, b, hsplit, rfl, rfl⟩ := exists_dot_of_map hname
    obtain ⟨d, hd, rfl⟩ := List.mem_map.mp hc
    have hd' : d ≠ '.' := fun h => hdot (toLower_eq_dot_iff.mpr h)
    have hb : b ≠ [] := fun h => hne (congrArg _ h)
    obtain ⟨before, hbefore⟩ := Path.nameSuffixes_append ⟨d, hd, hd'⟩ hb
      (getLast?_ne_dot_of_map hlast)
    -- the tail has one dot at most, so it is the last two suffixes or less
    rw [count_dot_map_toLower] at hcount
    have htwo : ((Path.cut '.' b).map ('.' :: ·)).length ≤ 2 := by
      rw [List.length_map, Path.length_cut]
      omega
    obtain ⟨others, hothers⟩ := lastTwo_append before htwo
    rw [Path.suffixes, hsplit, hbefore, hothers, List.flatten_append, Path.flatten_cut,
      List.map_append, List.map_cons]
    exact List.suffix_append _ _

/-! ## The choice -/

theorem mem_all (format : Format) : format ∈ Format.all := by
  cases format <;> decide

/-- In whatever order the formats are tried, the one that fits is found. -/
theorem find?_isNamed_eq_some_iff {formats : List Format} (hall : ∀ format, format ∈ formats)
    (p : Path) (format : Format) :
    formats.find? (isNamed p) = some format ↔ Reader.Fits (.archive format) p.name := by
  rw [← isNamed_iff]
  constructor
  · exact fun h => List.find?_some h
  · intro h
    cases hfind : formats.find? (isNamed p) with
    | none => exact absurd h (List.find?_eq_none.mp hfind format (hall format))
    | some found =>
      have hfound := (isNamed_iff p found).mp (List.find?_some hfind)
      rw [Reader.archive.inj (hfound.unique ((isNamed_iff p format).mp h))]

theorem ofPath?_eq_some_iff (p : Path) (format : Format) :
    Format.ofPath? p = some format ↔ Reader.Fits (.archive format) p.name := by
  rw [ofPath?_eq_find?, find?_isNamed_eq_some_iff mem_all]

section Choice

variable [SevenZipReader]

/-- A file is read by the reader that fits. -/
theorem read_of_fits {r : Reader} {p : Path} (h : r.Fits p.name) (bytes : ByteArray) :
    read p bytes = r.read p bytes := by
  cases r with
  | text => rw [read, if_pos ((isTextPath_iff p).mpr h), Reader.read]
  | archive format =>
    have hp := (ofPath?_eq_some_iff p format).mpr h
    have hnot : ¬ isTextPath p = true := by simp [isTextPath_of_ofPath? hp]
    rw [read, if_neg hnot, hp]
    rfl

/-- A file that no reader fits is refused, whatever is in it. -/
theorem read_of_not_fits {p : Path} (h : ∀ r : Reader, ¬ r.Fits p.name) (bytes : ByteArray) :
    read p bytes = .error (.unsupported p) := by
  have hp : Format.ofPath? p = none := Option.eq_none_iff_forall_ne_some.mpr fun format hformat =>
    h _ ((ofPath?_eq_some_iff p format).mp hformat)
  rw [read, if_neg (mt (isTextPath_iff p).mp (h .text)), hp]

/-- The name of a file alone tells how it is read. It is a text when the name, in small letters,
    ends in `.txt` and has more than four characters, and an archive of a format when the name
    ends in the extension of the format and something other than dots stands in front of it. No
    name is both, or of two formats, so the order in which formats are tried does not matter, and
    whatever a name means it means with anything in front of it. A file is read as its name tells,
    and it is refused for its format, whatever is in it, just when the name tells nothing. -/
theorem read_by_name (p : Path) :
    (isTextPath p = true ↔ Reader.Fits .text p.name) ∧
    (∀ format, Format.ofPath? p = some format ↔ Reader.Fits (.archive format) p.name) ∧
    (∀ r s : Reader, r.Fits p.name → s.Fits p.name → r = s) ∧
    (∀ formats : List Format, formats.Perm Format.all →
      formats.find? (isNamed p) = Format.ofPath? p) ∧
    (∀ (r : Reader) (q : Path), q.name <:+ p.name → r.Fits q.name → r.Fits p.name) ∧
    (∀ (r : Reader) (bytes : ByteArray), r.Fits p.name → read p bytes = r.read p bytes) ∧
    ∀ (bytes : ByteArray) (q : Path),
      read p bytes = .error (.unsupported q) ↔ q = p ∧ ∀ r : Reader, ¬ r.Fits p.name := by
  refine ⟨isTextPath_iff p, ofPath?_eq_some_iff p, fun r s hr hs => hr.unique hs,
    fun formats hperm => ?_, fun r q hq hr => hr.of_suffix hq,
    fun r bytes hr => read_of_fits hr bytes, fun bytes q => ⟨fun h => ?_, ?_⟩⟩
  · refine Option.ext fun format => ?_
    rw [find?_isNamed_eq_some_iff fun format => hperm.mem_iff.mpr (mem_all format),
      ofPath?_eq_some_iff]
  · have hnone : ∀ r : Reader, ¬ r.Fits p.name := fun r hr =>
      r.read_ne_unsupported p q bytes ((read_of_fits hr bytes).symm.trans h)
    rw [read_of_not_fits hnone] at h
    exact ⟨(Fault.unsupported.inj (Except.error.inj h)).symm, hnone⟩
  · rintro ⟨rfl, hnone⟩
    exact read_of_not_fits hnone bytes

end Choice

/-- `a.zip.7Z` is a 7z archive, also when the formats are tried from the last to the first, and so
    is `b.a.zip.7Z`; and `.zip` is refused, since nothing stands in front of the extension. -/
theorem read_by_name_inner :
    Format.all.reverse.find? (isNamed ⟨[], ["a.zip.7Z".toList]⟩) =
        Format.ofPath? ⟨[], ["a.zip.7Z".toList]⟩ ∧
      Format.ofPath? ⟨[], ["a.zip.7Z".toList]⟩ = some .sevenZip ∧
      Format.ofPath? ⟨[], ["b.a.zip.7Z".toList]⟩ = some .sevenZip ∧
      (∀ bytes, read ⟨[], ["a.zip.7Z".toList]⟩ bytes =
        Reader.read (.archive .sevenZip) ⟨[], ["a.zip.7Z".toList]⟩ bytes) ∧
      ∀ bytes, read ⟨[], [".zip".toList]⟩ bytes = .error (.unsupported ⟨[], [".zip".toList]⟩) := by
  have hfits : Reader.Fits (.archive .sevenZip) "a.zip.7Z".toList := by decide
  have hnone : ∀ r : Reader, ¬ r.Fits ".zip".toList := by
    intro r
    rcases r with _ | (_ | _ | _) <;> decide
  obtain ⟨-, hformat, -, horder, -, hread, -⟩ := read_by_name ⟨[], ["a.zip.7Z".toList]⟩
  obtain ⟨-, hformat', -, -, hinner, -, -⟩ := read_by_name ⟨[], ["b.a.zip.7Z".toList]⟩
  obtain ⟨-, -, -, -, -, -, hrefused⟩ := read_by_name ⟨[], [".zip".toList]⟩
  exact ⟨horder _ (List.reverse_perm _), (hformat .sevenZip).mpr hfits,
    (hformat' .sevenZip).mpr (hinner _ ⟨[], ["a.zip.7Z".toList]⟩ (by decide) hfits),
    fun bytes => hread _ bytes hfits, fun bytes => (hrefused bytes _).mpr ⟨rfl, hnone⟩⟩

end Abacus.Worksheet
