import Mathlib
import MemberSpec.ClassPath
import MemberSpec.Proofs.FileTree
import MemberSpec.Proofs.Pieces
import MemberSpec.Proofs.Session

/-!
# Class files at their own places

A class file is at its own place below a root if the directories down to it are the packages of its
class. Where every class file is, a class that is found under any name is found under its own name too
(`LaidOut.read?_own`): the name leads to the same place, in the same first root. Whether every class
file is can be seen from the entries of the tree (`laidOut_of_entries`).

Names with slashes are left out. They can lead out of a root, and then say nothing about places.
-/

namespace MemberSpec

open Text

/-- A name of one directory or class: not empty, without dots and slashes. -/
def IsSegment (s : String) : Prop := s ≠ "" ∧ '.' ∉ s.toList ∧ '/' ∉ s.toList

namespace ClassPath

theorem candidates_eq (name : String) :
    candidates name = (List.range (segments name).length).reverse.map fun n =>
      relativePath ((segments name).take n) ((segments name).drop n) := rfl

theorem of_mem_segments {name s : String} (h : s ∈ segments name) :
    s ≠ "" ∧ ∀ c ∈ s.toList, c ∈ name.toList ∧ c ≠ '.' := by
  obtain ⟨hmem, hne⟩ := List.mem_filter.1 h
  obtain ⟨piece, hpiece, rfl⟩ := List.mem_map.1 hmem
  refine ⟨fun hempty => by simp [hempty] at hne, fun c hc => ?_⟩
  rw [String.toList_ofList] at hc
  obtain ⟨hchar, hdot⟩ := of_mem_splitAt hpiece c hc
  exact ⟨hchar, by simpa using hdot⟩

theorem isSegment_of_mem_segments {name s : String} (hname : '/' ∉ name.toList)
    (h : s ∈ segments name) : IsSegment s := by
  obtain ⟨hne, hchars⟩ := of_mem_segments h
  refine ⟨hne, ?_, ?_⟩
  · intro hdot
    exact (hchars '.' hdot).2 rfl
  · intro hslash
    exact hname (hchars '/' hslash).1

/-- Segments joined by dots are the segments of the name. -/
theorem segments_intercalate {parts : List String} (hparts : ∀ s ∈ parts, IsSegment s) :
    segments (String.intercalate "." parts) = parts := by
  rcases eq_or_ne parts [] with rfl | hne
  · decide
  have hfree : ∀ piece ∈ parts.map String.toList, ∀ c ∈ piece, (c == '.') = false := by
    intro piece hpiece
    obtain ⟨s, hs, rfl⟩ := List.mem_map.1 hpiece
    exact beq_eq_false_of_notMem (hparts s hs).2.1
  have hpieces : splitAt (· == '.') (String.intercalate "." parts).toList =
      parts.map String.toList := by
    rw [String.toList_intercalate]
    exact splitAt_intercalate rfl (by simpa using hne) hfree
  have hback : (parts.map String.toList).map String.ofList = parts := by
    rw [List.map_map]
    exact List.map_id'' (fun s => String.ofList_toList) parts
  unfold segments nameParts
  rw [hpieces, hback, List.filter_eq_self]
  intro s hs
  simpa using (hparts s hs).1

theorem mem_toList_intercalate {sep : String} {c : Char} {parts : List String}
    (h : c ∈ (String.intercalate sep parts).toList) :
    c ∈ sep.toList ∨ ∃ s ∈ parts, c ∈ s.toList := by
  induction parts with
  | nil => simp at h
  | cons s parts ih =>
    rcases eq_or_ne parts [] with rfl | hne
    · rw [String.intercalate_singleton] at h
      exact .inr ⟨s, List.mem_cons_self, h⟩
    · rw [String.intercalate_cons_of_ne_nil hne, String.toList_append, String.toList_append,
        List.mem_append, List.mem_append] at h
      rcases h with (h | h) | h
      · exact .inr ⟨s, List.mem_cons_self, h⟩
      · exact .inl h
      · rcases ih h with h | ⟨t, ht, h⟩
        · exact .inl h
        · exact .inr ⟨t, List.mem_cons_of_mem _ ht, h⟩

/-- Nested classes joined by dollars are one segment. -/
theorem isSegment_nested {classes : List String} (hne : classes ≠ [])
    (hclasses : ∀ s ∈ classes, IsSegment s) : IsSegment (String.intercalate "$" classes) := by
  obtain ⟨first, rest, rfl⟩ := List.exists_cons_of_ne_nil hne
  have hfirst := hclasses first List.mem_cons_self
  refine ⟨?_, ?_, ?_⟩
  · intro hempty
    rcases eq_or_ne rest [] with rfl | hrest
    · exact hfirst.1 (by rwa [String.intercalate_singleton] at hempty)
    · rw [String.intercalate_cons_of_ne_nil hrest] at hempty
      simp at hempty
  · intro hdot
    rcases mem_toList_intercalate hdot with h | ⟨s, hs, h⟩
    · exact absurd h (by decide)
    · exact (hclasses s hs).2.1 h
  · intro hslash
    rcases mem_toList_intercalate hslash with h | ⟨s, hs, h⟩
    · exact absurd h (by decide)
    · exact (hclasses s hs).2.2 h

variable {c : ClassPath} {files : FileTree} {name : String} {path : Path} {found : ClassFile}

/-- The file at a relative path in the first root that has one. -/
def firstFile? (c : ClassPath) (files : FileTree) (relative : Path) : Option Path :=
  (c.roots.map fun root => root.join relative.text).find? files.isFile

theorem locate?_eq (c : ClassPath) (files : FileTree) (name : String) :
    c.locate? files name = (candidates name).findSome? (c.firstFile? files) :=
  List.find?_flatMap

/-- A class that is found was read from the first file that its name stands for. -/
theorem of_read? (h : c.read? files name = .ok (some found)) :
    ∃ path, c.locate? files name = some path ∧ readClass files path = .ok found := by
  unfold read? at h
  split at h
  · cases h
  rename_i path hlocate
  refine ⟨path, hlocate, ?_⟩
  cases hclass : readClass files path with
  | error fault => rw [hclass] at h; cases h
  | ok other => rw [hclass] at h; cases h; rfl

/-- The class that a file at `package/simple.class` below a root describes is `package.simple`. -/
def LaidOut (c : ClassPath) (files : FileTree) : Prop :=
  ∀ root ∈ c.roots, ∀ (package : List String) (simple : String) (found : ClassFile),
    (∀ s ∈ package ++ [simple], IsSegment s) →
    readClass files (root.join (relativePath package [simple]).text) = .ok found →
    found.name = String.intercalate "." (package ++ [simple])

/-- The first candidate of a name joined by dots has all but its last segment as packages. -/
theorem locate?_intercalate {package : List String} {simple : String}
    (hsegments : ∀ s ∈ package ++ [simple], IsSegment s)
    (h : c.firstFile? files (relativePath package [simple]) = some path) :
    c.locate? files (String.intercalate "." (package ++ [simple])) = some path := by
  have hcandidates : ∃ rest, candidates (String.intercalate "." (package ++ [simple])) =
      relativePath package [simple] :: rest := by
    rw [candidates_eq, segments_intercalate hsegments, List.length_append, List.length_singleton,
      List.range_succ, List.reverse_append, List.reverse_singleton, List.map_append,
      List.map_singleton, List.take_left, List.drop_left, List.singleton_append]
    exact ⟨_, rfl⟩
  obtain ⟨rest, hrest⟩ := hcandidates
  rw [locate?_eq, hrest, List.findSome?_cons, h]

/-- **A class is found under its own name** where class files are at their own places: a look-up
without slashes finds it at such a place, and its own name tries this place first. -/
theorem LaidOut.read?_own (h : c.LaidOut files) (hname : '/' ∉ name.toList)
    (hread : c.read? files name = .ok (some found)) :
    c.read? files found.name = .ok (some found) := by
  obtain ⟨path, hlocate, hclass⟩ := of_read? hread
  rw [locate?_eq] at hlocate
  obtain ⟨relative, hrelative, hfirst⟩ := List.exists_of_findSome?_eq_some hlocate
  rw [candidates_eq] at hrelative
  obtain ⟨n, hn, rfl⟩ := List.mem_map.1 hrelative
  rw [List.mem_reverse, List.mem_range] at hn
  -- the candidate is a package of `n` segments and one file name made of the others
  set package := (segments name).take n
  set simple := String.intercalate "$" ((segments name).drop n)
  have hpath : relativePath package ((segments name).drop n) = relativePath package [simple] := by
    unfold relativePath
    rw [String.intercalate_singleton]
  rw [hpath] at hfirst
  have hsegments : ∀ s ∈ package ++ [simple], IsSegment s := by
    intro s hs
    rcases List.mem_append.1 hs with hs | hs
    · exact isSegment_of_mem_segments hname (List.mem_of_mem_take hs)
    · rw [List.mem_singleton.1 hs]
      refine isSegment_nested ?_ fun s hs =>
        isSegment_of_mem_segments hname (List.mem_of_mem_drop hs)
      rw [Ne, List.drop_eq_nil_iff]
      omega
  obtain ⟨root, hroot, hjoin⟩ := List.mem_map.1 (List.mem_of_find?_eq_some hfirst)
  have hown : found.name = String.intercalate "." (package ++ [simple]) :=
    h root hroot package simple found hsegments (by rw [hjoin]; exact hclass)
  unfold read?
  rw [hown, locate?_intercalate hsegments hfirst]
  simp only [hclass]
  rfl

/-- The names of a relative path are the packages and the file; it is not absolute, and it ends in the
extension. -/
theorem names_relativePath {package : List String} {simple : String}
    (hsegments : ∀ s ∈ package ++ [simple], IsSegment s) :
    (relativePath package [simple]).names = package ++ [simple ++ ".class"] ∧
      (relativePath package [simple]).isAbsolute = false ∧
      (relativePath package [simple]).text.toList.getLast? = some 's' := by
  obtain ⟨hpackage, habsolute⟩ := Path.names_joinAll (p := ⟨""⟩) fun s hs =>
    have hs := hsegments s (List.mem_append_left [simple] hs)
    ⟨hs.1, hs.2.2⟩
  have hne : simple ++ ".class" ≠ "" := by simp
  have hfree : '/' ∉ (simple ++ ".class").toList := by
    rw [String.toList_append, List.mem_append]
    rintro (h | h)
    · exact (hsegments simple (by simp)).2.2 h
    · exact absurd h (by decide)
  have hend : (simple ++ ".class").toList.getLast? = some 's' := by
    rw [String.toList_append, List.getLast?_append_of_ne_nil _ (by decide)]
    decide
  have hhead := Path.head?_ne_of_free hfree
  unfold relativePath
  rw [String.intercalate_singleton, Path.names_join hhead, Path.isAbsolute_join hhead,
    Path.getLast?_join hhead hne, namesOf_name hne hfree, hpackage, habsolute]
  exact ⟨rfl, rfl, hend⟩

theorem of_readClass (h : readClass files path = .ok found) :
    ∃ bytes, files.read path = .ok bytes ∧ ClassFile.parse bytes = .ok found := by
  unfold readClass at h
  split at h
  · cases h
  · rename_i bytes hbytes
    split at h
    · cases h
    · rename_i hparse
      cases h
      exact ⟨bytes, hbytes, hparse⟩

/-- A class that is read below a root is a file of the tree, as many names below the root. -/
theorem entry_of_readClass {root : Path} {package : List String} {simple : String}
    (hsegments : ∀ s ∈ package ++ [simple], IsSegment s)
    (hread : readClass files (root.join (relativePath package [simple]).text) = .ok found) :
    ∃ base bytes, files.follow (if root.isAbsolute then [] else files.here) root.names = .ok base ∧
      (base ++ (package ++ [simple ++ ".class"]), .file bytes) ∈ files.entries ∧
      ClassFile.parse bytes = .ok found := by
  obtain ⟨hnames, habsolute, hend⟩ := names_relativePath hsegments
  set relative := relativePath package [simple]
  have hhead : relative.text.toList.head? ≠ some '/' := by simpa [Path.isAbsolute] using habsolute
  have hne : relative.text ≠ "" := by
    intro hempty
    simp [hempty] at hend
  have hdots : ∀ s ∈ relative.names, s ≠ "." ∧ s ≠ ".." := by
    rw [hnames]
    intro s hs
    rcases List.mem_append.1 hs with hs | hs
    · have hdot := (hsegments s (List.mem_append_left _ hs)).2.1
      constructor <;> rintro rfl <;> exact hdot (by decide)
    · rw [List.mem_singleton.1 hs]
      constructor <;> intro h <;> simpa using congrArg (fun s => s.toList.getLast?) h
  obtain ⟨bytes, hbytes, hparse⟩ := of_readClass hread
  obtain ⟨base, hbase, hmem⟩ :=
    FileTree.entry_of_read_join hhead (by rw [hend]; decide) hne hdots hbytes
  have hplace : namesOf relative.text.toList = package ++ [simple ++ ".class"] := hnames
  rw [hplace] at hmem
  exact ⟨base, bytes, hbase, hmem, hparse⟩

/-- **Class files are at their own places** if those of the tree are, below each root. -/
theorem laidOut_of_entries
    (h : ∀ root ∈ c.roots, ∀ base,
      files.follow (if root.isAbsolute then [] else files.here) root.names = .ok base →
      ∀ location bytes found, (base ++ location, .file bytes) ∈ files.entries →
        ClassFile.parse bytes = .ok found → ∃ package simple,
          location = package ++ [simple ++ ".class"] ∧
            found.name = String.intercalate "." (package ++ [simple])) :
    c.LaidOut files := by
  intro root hroot package simple found hsegments hread
  obtain ⟨base, bytes, hbase, hmem, hparse⟩ := entry_of_readClass hsegments hread
  obtain ⟨package', simple', hplace, hname⟩ := h root hroot base hbase _ bytes found hmem hparse
  obtain ⟨hpackage, hfile⟩ := List.append_inj' hplace rfl
  have hsimple : simple = simple' := by simpa using hfile
  rw [hname, hpackage, hsimple]

end ClassPath

end MemberSpec
