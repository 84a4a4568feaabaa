import Mathlib
import MemberSpec.Proofs.ClassPath.Cache
import MemberSpec.Proofs.ClassPath.Layout

/-!
# Which files a look-up can touch

A look-up depends on the files only through a list of paths, each of them a candidate of the name joined
to a root (`findIn_congr`). The names in a candidate are never dots, as the name is cut at its dots, so no
candidate leads up (`ne_dots_of_mem_candidates`). But a segment of the name that starts with a slash is an
absolute path, and it replaces the root that it is joined to (`isAbsolute_candidate_iff`).

* `Confined`: every path that may be tested is below a root.
* `confined_iff`: a look-up is confined unless a candidate is absolute and below no root.
* `exists_entry_of_read?`: without such segments, a class comes from a file further down from a root.
* `load_outside_roots`: a class that is loaded from outside of all roots.
-/

namespace MemberSpec

open Session Text

namespace FileTree

variable {files files' : FileTree} {path : Path}

theorem isFile_congr (h : files.find path = files'.find path) :
    files.isFile path = files'.isFile path := by
  unfold isFile
  rw [h]

theorem read_congr (h : files.find path = files'.find path) : files.read path = files'.read path := by
  unfold read
  rw [h]

end FileTree

namespace ClassPath

variable {c : ClassPath} {files files' : FileTree} {cache : ClassCache} {name : String}

/-- The paths that may hold a class, in the order in which they are tested. -/
def paths (c : ClassPath) (name : String) : List Path :=
  (candidates name).flatMap fun relative => c.roots.map fun root => root.join relative.text

theorem locate?_eq_find? (c : ClassPath) (files : FileTree) (name : String) :
    c.locate? files name = (c.paths name).find? files.isFile := rfl

theorem mem_paths {path : Path} :
    path ∈ c.paths name ↔
      ∃ relative ∈ candidates name, ∃ root ∈ c.roots, root.join relative.text = path := by
  simp [paths]

theorem read?_congr (h : ∀ path ∈ c.paths name, files.find path = files'.find path) :
    c.read? files name = c.read? files' name := by
  have hlocate : c.locate? files name = c.locate? files' name := by
    rw [locate?_eq_find?, locate?_eq_find?]
    exact List.find?_congr fun path hpath => FileTree.isFile_congr (h path hpath)
  unfold read?
  rw [← hlocate]
  cases hfound : c.locate? files name with
  | none => rfl
  | some path =>
    have hpath : path ∈ c.paths name := List.mem_of_find?_eq_some hfound
    simp only [readClass, FileTree.read_congr (h path hpath)]

/-- **Nothing but these paths is looked at**: trees that are the same there give the same answer. -/
theorem findIn_congr (h : ∀ path ∈ c.paths name, files.find path = files'.find path) :
    c.findIn files cache name = c.findIn files' cache name := by
  rw [findIn_eq, findIn_eq, read?_congr h]

/-! ### No candidate leads up -/

theorem ne_dots_of_mem_namesOf_file {x : String} (hx : '.' ∉ x.toList) {s : String}
    (h : s ∈ namesOf (x ++ ".class").toList) : s ≠ "." ∧ s ≠ ".." := by
  -- the extension belongs to the part of `x` behind its last slash, and that part is a name
  have hlast : ∀ last : List Char, '/' ∉ last →
      s ∈ namesOf (last ++ ".class".toList) → s ≠ "." ∧ s ≠ ".." := by
    intro last hfree hs
    have hfile : '/' ∉ (String.ofList last ++ ".class").toList := by
      rw [String.toList_append, String.toList_ofList, List.mem_append, not_or]
      exact ⟨hfree, by decide⟩
    have hnames := namesOf_name (by simp) hfile
    rw [String.toList_append, String.toList_ofList] at hnames
    rw [hnames, List.mem_singleton] at hs
    rw [hs]
    constructor <;> intro hdots <;> simpa using congrArg (fun s => s.toList.getLast?) hdots
  rw [String.toList_append] at h
  obtain ⟨hfree, hwhole | ⟨before, sep, hsep, hcut⟩⟩ := lastPiece_cases (· == '/') x.toList
  · have hslash : '/' ∉ lastPiece (· == '/') x.toList := fun hmem => by simpa using hfree _ hmem
    rw [← hwhole] at hslash
    exact hlast _ hslash h
  · have hslash : '/' ∉ lastPiece (· == '/') x.toList := fun hmem => by simpa using hfree _ hmem
    obtain rfl : sep = '/' := by simpa using hsep
    rw [hcut, List.append_assoc, List.cons_append, namesOf_append_divider, List.mem_append] at h
    rcases h with h | h
    · refine ne_dots_of_mem_namesOf (fun hdot => hx ?_) h
      rw [hcut]
      exact List.mem_append_left _ hdot
    · exact hlast _ hslash h

/-- **The names in a candidate are not dots**, whatever the name is. -/
theorem ne_dots_of_mem_candidates {relative : Path} (h : relative ∈ candidates name) :
    ∀ s ∈ relative.names, s ≠ "." ∧ s ≠ ".." := by
  intro s hs
  rw [candidates_eq] at h
  obtain ⟨n, -, rfl⟩ := List.mem_map.1 h
  have hdotless : ∀ t ∈ segments name, '.' ∉ t.toList :=
    fun t ht hdot => ((of_mem_segments ht).2 '.' hdot).2 rfl
  rcases Path.mem_names_join hs with hs | hs
  · rcases Path.mem_names_joinAll hs with hs | ⟨t, ht, hs⟩
    · cases hs
    · exact ne_dots_of_mem_namesOf (hdotless t (List.mem_of_mem_take ht)) hs
  · refine ne_dots_of_mem_namesOf_file (fun hdot => ?_) hs
    rcases mem_toList_intercalate hdot with hdot | ⟨t, ht, hdot⟩
    · exact absurd hdot (by decide)
    · exact hdotless t (List.mem_of_mem_drop ht) hdot

/-! ### Which candidates are absolute -/

theorem head?_nested {first : String} (hne : first ≠ "") (rest : List String) :
    (String.intercalate "$" (first :: rest) ++ ".class").toList.head? = first.toList.head? := by
  have hchars : first.toList ≠ [] := fun h => hne (String.toList_eq_nil_iff.1 h)
  rcases eq_or_ne rest [] with rfl | hrest
  · rw [String.intercalate_singleton, String.toList_append, List.head?_append_of_ne_nil _ hchars]
  · rw [String.intercalate_cons_of_ne_nil hrest, String.toList_append, String.toList_append,
      String.toList_append, List.append_assoc, List.append_assoc,
      List.head?_append_of_ne_nil _ hchars]

/-- A candidate with `n` segments as packages is absolute iff one of these segments or the next one is:
each such segment starts anew. -/
theorem isAbsolute_candidate_iff {n : Nat} (hn : n < (segments name).length) :
    (relativePath ((segments name).take n) ((segments name).drop n)).isAbsolute = true ↔
      ∃ s ∈ (segments name).take (n + 1), s.toList.head? = some '/' := by
  obtain ⟨first, rest, hdrop⟩ : ∃ first rest, (segments name).drop n = first :: rest :=
    ⟨_, _, List.drop_eq_getElem_cons hn⟩
  have htake : (segments name).take (n + 1) = (segments name).take n ++ [first] := by
    rw [List.take_add, hdrop]
    rfl
  have hne : first ≠ "" := by
    have hmem : first ∈ segments name := by
      apply List.mem_of_mem_drop (i := n)
      rw [hdrop]
      exact List.mem_cons_self
    exact (of_mem_segments hmem).1
  unfold relativePath
  rw [Path.isAbsolute_join_iff, Path.isAbsolute_joinAll_iff, hdrop, head?_nested hne, htake]
  simp [Path.isAbsolute, or_and_right, exists_or]

/-- **All candidates are relative** iff no segment of the name starts with a slash. -/
theorem candidates_relative_iff (name : String) :
    (∀ relative ∈ candidates name, relative.isAbsolute = false) ↔
      ∀ s ∈ segments name, s.toList.head? ≠ some '/' := by
  rw [candidates_eq]
  constructor
  · intro h s hs hslash
    -- the first candidate has all segments but one as packages
    have hlength : 0 < (segments name).length := List.length_pos_of_mem hs
    have hn : (segments name).length - 1 < (segments name).length := by omega
    have hrelative := h _ (List.mem_map.2 ⟨_, List.mem_reverse.2 (List.mem_range.2 hn), rfl⟩)
    have habsolute := (isAbsolute_candidate_iff hn).2 ⟨s, by
      rw [Nat.sub_add_cancel hlength, List.take_length]
      exact hs, hslash⟩
    rw [hrelative] at habsolute
    cases habsolute
  · intro h relative hrelative
    obtain ⟨n, hn, rfl⟩ := List.mem_map.1 hrelative
    rw [List.mem_reverse, List.mem_range] at hn
    rw [← Bool.not_eq_true, isAbsolute_candidate_iff hn]
    rintro ⟨s, hs, hslash⟩
    exact h s (List.mem_of_mem_take hs) hslash

/-! ### Confinement -/

/-- Every path that may be tested for a name is below a root. -/
def Confined (c : ClassPath) (name : String) : Prop :=
  ∀ path ∈ c.paths name, ∃ root ∈ c.roots, path.Below root

theorem below_join_candidate {relative : Path} (h : relative ∈ candidates name)
    (hrelative : relative.isAbsolute = false) (root : Path) :
    (root.join relative.text).Below root := by
  have hnames := ne_dots_of_mem_candidates h
  have hhead : relative.text.toList.head? ≠ some '/' := by
    simpa [Path.isAbsolute] using hrelative
  exact ⟨relative.names, fun hup => (hnames _ hup).2 rfl, Path.parts_join hhead hnames⟩

/-- **When a look-up is confined.** A relative candidate is below the root that it is joined to. An
absolute one is the same path for every root, and has to be below one of them by itself. -/
theorem confined_iff (c : ClassPath) (name : String) :
    c.Confined name ↔ c.roots = [] ∨
      ∀ relative ∈ candidates name, relative.isAbsolute = true →
        ∃ root ∈ c.roots, relative.Below root := by
  have hrooted : ∀ {relative : Path}, relative.isAbsolute = true → ∀ root : Path,
      root.join relative.text = relative := by
    intro relative habsolute root
    exact Path.join_rooted (by simpa [Path.isAbsolute] using habsolute)
  constructor
  · intro h
    rcases eq_or_ne c.roots [] with hnone | hsome
    · exact .inl hnone
    obtain ⟨root, hroot⟩ := List.exists_mem_of_ne_nil _ hsome
    refine .inr fun relative hrelative habsolute => h relative ?_
    exact mem_paths.2 ⟨relative, hrelative, root, hroot, hrooted habsolute root⟩
  · intro h path hpath
    obtain ⟨relative, hrelative, root, hroot, rfl⟩ := mem_paths.1 hpath
    rcases h with hnone | h
    · rw [hnone] at hroot
      cases hroot
    cases habsolute : relative.isAbsolute with
    | false => exact ⟨root, hroot, below_join_candidate hrelative habsolute root⟩
    | true =>
      rw [hrooted habsolute]
      exact h relative hrelative habsolute

theorem getLast?_candidate {relative : Path} (h : relative ∈ candidates name) :
    relative.text.toList.getLast? = some 's' := by
  rw [candidates_eq] at h
  obtain ⟨n, -, rfl⟩ := List.mem_map.1 h
  have hfile : ∀ x : String, (x ++ ".class").toList.getLast? = some 's' := by
    intro x
    rw [String.toList_append, List.getLast?_append_of_ne_nil _ (by decide)]
    rfl
  unfold relativePath
  by_cases hq : (String.intercalate "$" ((segments name).drop n) ++ ".class").toList.head? = some '/'
  · rw [Path.join_rooted hq]
    exact hfile _
  · rw [Path.getLast?_join hq (by simp)]
    exact hfile _

/-- **A class comes from below a root** if no segment of its name starts with a slash: its file is
further down from the place that the root leads to. -/
theorem exists_entry_of_read? (hname : ∀ s ∈ segments name, s.toList.head? ≠ some '/')
    {found : ClassFile} (h : c.read? files name = .ok (some found)) :
    ∃ root ∈ c.roots, ∃ base names bytes,
      files.follow (if root.isAbsolute then [] else files.here) root.names = .ok base ∧
      (base ++ names, .file bytes) ∈ files.entries ∧ ClassFile.parse bytes = .ok found := by
  obtain ⟨path, hlocate, hclass⟩ := of_read? h
  obtain ⟨relative, hrelative, root, hroot, rfl⟩ := mem_paths.1 (List.mem_of_find?_eq_some hlocate)
  obtain ⟨bytes, hread, hparse⟩ := of_readClass hclass
  have hhead : relative.text.toList.head? ≠ some '/' := by
    simpa [Path.isAbsolute] using (candidates_relative_iff name).2 hname relative hrelative
  have hlast := getLast?_candidate hrelative
  obtain ⟨base, hbase, hentry⟩ := FileTree.entry_of_read_join hhead (by rw [hlast]; decide)
    (fun hempty => by simp [hempty] at hlast) (ne_dots_of_mem_candidates hrelative) hread
  exact ⟨root, hroot, base, _, bytes, hbase, hentry, hparse⟩

/-- A class file beside the working directory, and nothing below the root `classes`. -/
def outsideFiles : FileTree where
  entries := [(["work"], .directory), (["work", "classes"], .directory), (["outside"], .directory),
    (["outside", "Y.class"], .file (classOfY 0x21))]
  here := ["work"]

/-- **A name can lead out of all roots**, and the class that it leads to is loaded. -/
theorem load_outside_roots :
    ¬ (⟨[⟨"classes"⟩], false⟩ : ClassPath).Confined "/outside/Y" ∧
      (outcome (((⟨[⟨"classes"⟩], false⟩ : ClassPath).introspector outsideFiles).load "/outside/Y")
        []).1.toBool = true := by
  refine ⟨fun h => ?_, by decide +kernel⟩
  obtain ⟨root, hroot, hbelow⟩ := h ⟨"/outside/Y.class"⟩ (by decide +kernel)
  rw [List.mem_singleton.1 hroot] at hbelow
  have habsolute := hbelow.isAbsolute_iff.1 (by decide)
  revert habsolute
  decide

end ClassPath

end MemberSpec
