import Mathlib
import MemberSpec.Proofs.Session
import MemberSpec.Proofs.Utf8
import MemberSpec.Proofs.Walks

/-!
# Files after they were written

Writing a file or creating directories leaves every directory as it is, and a path is gone through by
directories only. So a path leads to the same place afterwards (`FileTree.Extends.locate_eq`), and what is
read there is what was written.

* `FileTree.createDirectories_extends`, `FileTree.write_extends`: what these steps keep.
* `FileTree.readText_of_locate`: text that was written is read back.
* `FileTree.locate_join`: a path leads to the same place from the working directory and from the root.
-/

namespace MemberSpec.FileTree

open Text

variable {t t' : FileTree} {p : Path} {location place : Location} {e : Entry}

theorem entry?_put (hne : location ≠ []) :
    entry? (t.put location e) place = if place = location then some e else t.entry? place := by
  unfold entry? put
  rw [List.find?_append]
  by_cases hplace : place = location
  · rw [if_pos hplace, hplace, if_neg (by simpa using hne)]
    have hgone : (t.entries.filter (·.1 != location)).find? (·.1 == location) = none := by
      rw [List.find?_eq_none]
      intro entry hentry
      simpa using (List.mem_filter.1 hentry).2
    rw [hgone]
    simp
  · rw [if_neg hplace]
    split
    · rfl
    · have hkept : (t.entries.filter (·.1 != location)).find? (·.1 == place) =
          t.entries.find? (·.1 == place) := by
        rw [List.find?_filter]
        congr 1
        funext entry
        by_cases hentry : entry.1 = place
        · simp [hentry, hplace]
        · simp [hentry]
      have hlast : [(location, e)].find? (·.1 == place) = none := by simpa using Ne.symm hplace
      rw [hkept, hlast, Option.or_none]

/-- The working directory is the same, and every directory is still one. -/
structure Extends (t t' : FileTree) : Prop where
  here : t'.here = t.here
  directory : ∀ place, t.entry? place = some .directory → t'.entry? place = some .directory

namespace Extends

theorem refl (t : FileTree) : t.Extends t := ⟨rfl, fun _ h => h⟩

theorem trans {t'' : FileTree} (h : t.Extends t') (h' : t'.Extends t'') : t.Extends t'' :=
  ⟨h'.here.trans h.here, fun place hplace => h'.directory place (h.directory place hplace)⟩

theorem put (h : t.entry? location ≠ some .directory) (e : Entry) : t.Extends (t.put location e) := by
  have hne : location ≠ [] := by
    rintro rfl
    exact h rfl
  refine ⟨rfl, fun place hplace => ?_⟩
  rw [entry?_put hne, if_neg, hplace]
  rintro rfl
  exact h hplace

/-- **A path is gone through as before.** -/
theorem follow_eq (h : t.Extends t') {names : List String} {base : Location}
    (hfollow : t.follow base names = .ok location) : t'.follow base names = .ok location := by
  induction names generalizing base with
  | nil => exact hfollow
  | cons name names ih =>
    have hbase := directory_of_follow_cons hfollow
    rw [follow, hbase] at hfollow
    rw [follow, h.directory base hbase]
    simp only at hfollow ⊢
    split at hfollow
    · rename_i hdot
      rw [if_pos hdot]
      exact ih hfollow
    · rename_i hdot
      rw [if_neg hdot]
      split at hfollow
      · rename_i hdots
        rw [if_pos hdots]
        exact ih hfollow
      · rename_i hdots
        rw [if_neg hdots]
        split at hfollow
        · cases hfollow
        · rename_i hlong
          rw [if_neg hlong]
          exact ih hfollow

theorem locate_eq (h : t.Extends t') (hlocate : t.locate p = .ok location) :
    t'.locate p = .ok location := by
  obtain ⟨hnul, hempty, hlong, hfollow⟩ := of_locate hlocate
  rw [FileTree.locate_eq hnul hempty hlong]
  have hstart : t'.startOf p = t.startOf p := by rw [startOf, startOf, h.here]
  rw [hstart]
  exact h.follow_eq hfollow

end Extends

/-! ## Creating and writing -/

theorem createDirectory_extends (h : t.createDirectory p = .ok t') : t.Extends t' := by
  obtain ⟨location, -, h⟩ := bind_eq_ok_iff.1 h
  split at h
  · cases h
  · rename_i hnone
    cases h
    exact .put (by simp [hnone]) _

theorem createUpTo_extends {depth : Nat} (h : createUpTo depth t p = .ok t') : t.Extends t' := by
  induction depth generalizing p t' with
  | zero =>
    cases h
    exact .refl t
  | succ depth ih =>
    rw [createUpTo] at h
    split at h
    · cases h
      exact .refl t
    · split at h
      · rename_i hcreate
        cases h
        exact createDirectory_extends hcreate
      · obtain ⟨above, habove, h⟩ := bind_eq_ok_iff.1 h
        refine (ih habove).trans ?_
        split at h
        · rename_i hcreate
          cases h
          exact createDirectory_extends hcreate
        · split at h
          · cases h
            exact .refl _
          · cases h
      · split at h
        · cases h
          exact .refl t
        · cases h

theorem createDirectories_extends (h : t.createDirectories p = .ok t') : t.Extends t' :=
  createUpTo_extends h

/-- **A file that was written** is at the place where its path leads, before and afterwards. -/
theorem write_extends {bytes : List UInt8} (h : t.write p bytes = .ok t') :
    t.Extends t' ∧ ∃ place, t'.locate p = .ok place ∧ t'.entry? place = some (.file bytes) := by
  obtain ⟨place, hplace, h⟩ := bind_eq_ok_iff.1 h
  have hnot : t.entry? place ≠ some .directory := by
    intro hdirectory
    rw [hdirectory] at h
    cases h
  have ht : t' = t.put place (.file bytes) := by
    split at h
    · cases h
    · cases h
      rfl
  have hne : place ≠ [] := by
    rintro rfl
    exact hnot rfl
  have hextends : t.Extends t' := ht ▸ .put hnot _
  refine ⟨hextends, place, hextends.locate_eq hplace, ?_⟩
  rw [ht, entry?_put hne, if_pos rfl]

theorem isFile_of_locate {bytes : List UInt8} (hplace : t.locate p = .ok place)
    (hentry : t.entry? place = some (.file bytes)) : t.isFile p = true := by
  simp only [isFile, find, hplace, hentry, bind, Except.bind, pure, Except.pure]

/-- **Text that was written** is read back. -/
theorem readText_of_locate {s : String} (hplace : t.locate p = .ok place)
    (hentry : t.entry? place = some (.file s.toUTF8.toList)) : t.readText p = .ok s := by
  have hread : t.read p = .ok s.toUTF8.toList := by
    simp only [read, find, hplace, hentry, bind, Except.bind, pure, Except.pure]
  simp only [readText, hread, bind, Except.bind, Utf8.decode_toUTF8, String.ofList_toList, pure, Except.pure]

/-! ## Paths from the root -/

/-- A path is gone through by its names, and exactly a divider at its end asks for a directory. -/
theorem steps_eq (p : Path) :
    steps p = p.names ++ if p.text.toList.getLast? = some '/' then ["."] else [] := by
  by_cases hlast : p.text.toList.getLast? = some '/'
  · obtain ⟨cs, hcs⟩ := List.getLast?_eq_some_iff.1 hlast
    have hpieces : splitAt (· == '/') p.text.toList = splitAt (· == '/') cs ++ [[]] := by
      rw [hcs, splitAt_append_cons rfl]
      rfl
    have hlength : 0 < (splitAt (· == '/') cs).length := List.length_pos_iff.2 (splitAt_ne_nil cs)
    rw [if_pos hlast]
    unfold steps Path.names namesOf
    simp only
    rw [if_pos]
    rw [hpieces]
    simp [hlength]
  · rw [if_neg hlast, List.append_nil, steps_eq_names hlast]

/-- What is joined to a path is gone through behind it. -/
theorem steps_join {base : Path} {q : String} (hq : q.toList.head? ≠ some '/') (hne : q ≠ "") :
    steps (base.join q) = base.names ++ steps ⟨q⟩ := by
  rw [steps_eq, steps_eq, Path.getLast?_join hq hne, Path.names_join hq, List.append_assoc]
  rfl

theorem mem_text_join {base : Path} {q : String} (hq : q.toList.head? ≠ some '/') {c : Char}
    (h : c ∈ (base.join q).text.toList) : c ∈ base.text.toList ∨ c = '/' ∨ c ∈ q.toList := by
  rcases Path.text_join_cases (p := base) hq with ⟨-, hj⟩ | ⟨cs, hbase, hj⟩ | ⟨-, hj⟩
  · rw [hj] at h
    exact .inr (.inr h)
  · rw [hj] at h
    rw [hbase]
    simpa [or_assoc] using h
  · rw [hj] at h
    simpa using h

/-- **A relative path** leads to the same place from the working directory and from the root, if its
full length can be resolved at all. -/
theorem locate_join {base : Path} (hbase : t.locate base = .ok t.here) (habsolute : base.isAbsolute = true)
    (hrelative : p.isAbsolute = false) (hlong : (base.join p.text).text.utf8ByteSize ≤ longestPath)
    (hplace : t.locate p = .ok place) : t.locate (base.join p.text) = .ok place := by
  obtain ⟨hnul, hne, -, hfollow⟩ := of_locate hplace
  obtain ⟨hnulBase, -, -, -⟩ := of_locate hbase
  have hq : p.text.toList.head? ≠ some '/' := by simpa [Path.isAbsolute] using hrelative
  have hjoined : (base.join p.text).isAbsolute = true := by rw [Path.isAbsolute_join hq, habsolute]
  have hnulJoined : Char.ofNat 0 ∉ (base.join p.text).text.toList := by
    intro hmem
    rcases mem_text_join hq hmem with hmem | hslash | hmem
    · exact hnulBase hmem
    · exact absurd hslash (by decide)
    · exact hnul hmem
  have hneJoined : (base.join p.text).text ≠ "" := by
    intro hempty
    rw [Path.isAbsolute, hempty] at hjoined
    cases hjoined
  have hnames : t.follow [] base.names = .ok t.here := by
    have hnames := follow_names_of_locate hbase
    rwa [startOf, if_pos habsolute] at hnames
  rw [startOf, if_neg (by simp [hrelative])] at hfollow
  rw [locate_eq hnulJoined hneJoined hlong, startOf, if_pos hjoined, steps_join hq hne, follow_append,
    hnames]
  exact hfollow

end MemberSpec.FileTree
