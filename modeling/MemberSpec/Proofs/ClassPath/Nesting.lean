import Mathlib
import MemberSpec.Proofs.ClassPath.Cache
import MemberSpec.Proofs.ClassPath.Layout

/-!
# Nested classes by either name

A nested class has a binary name, in which a dollar stands before each nested class, and a canonical one
with dots only. The canonical name does not say where the package ends, so it has more candidates: first
those with fewer dollars, which take outer classes for packages (`candidates_canonical`). As long as none
of these is a file, both names come to the same relative path, and then to the same root, the first that
has a file there (`locate?_canonical`, `locate?_binary`).

* `load_canonical_eq_binary`: then both names have the same answer, also where the file is no class.
-/

namespace MemberSpec.ClassPath

open Session

/-- The name of nested classes with dots only. -/
def canonicalName (package classes : List String) : String :=
  String.intercalate "." (package ++ classes)

/-- The name of nested classes with a dollar between each two. -/
def binaryName (package classes : List String) : String :=
  String.intercalate "." (package ++ [String.intercalate "$" classes])

variable {c : ClassPath} {files : FileTree} {package classes : List String} {path : Path}

/-- The candidates of a canonical name: the outer classes as packages, at first all of them and then
fewer and fewer, then none of them, and then parts of the package as classes. -/
theorem candidates_canonical (hpackage : ∀ s ∈ package, IsSegment s)
    (hclasses : ∀ s ∈ classes, IsSegment s) (hne : classes ≠ []) :
    ∃ later, candidates (canonicalName package classes) =
      ((List.range (classes.length - 1)).reverse.map fun n =>
        relativePath (package ++ classes.take (n + 1)) (classes.drop (n + 1))) ++
      relativePath package classes :: later := by
  have hsegments : ∀ s ∈ package ++ classes, IsSegment s := by
    intro s hs
    rcases List.mem_append.1 hs with hs | hs
    · exact hpackage s hs
    · exact hclasses s hs
  have hpos : 0 < classes.length := List.length_pos_iff.2 hne
  have hlength : (package ++ classes).length = (package.length + 1) + (classes.length - 1) := by
    rw [List.length_append]
    omega
  set candidate : Nat → Path := fun n =>
    relativePath ((package ++ classes).take n) ((package ++ classes).drop n)
  -- the packages can end behind the package itself, and behind each class but the last
  have hend : candidate package.length = relativePath package classes := by
    simp only [candidate, List.take_append_length, List.drop_append_length]
  have hbehind : ∀ n, candidate (package.length + 1 + n) =
      relativePath (package ++ classes.take (n + 1)) (classes.drop (n + 1)) := by
    intro n
    have hn : package.length + 1 + n = package.length + (n + 1) := by omega
    simp only [candidate, hn, List.take_length_add_append, List.drop_length_add_append]
  refine ⟨(List.range package.length).reverse.map candidate, ?_⟩
  calc candidates (canonicalName package classes)
      = (List.range ((package.length + 1) + (classes.length - 1))).reverse.map candidate := by
        rw [canonicalName, candidates_eq, segments_intercalate hsegments, hlength]
    _ = ((List.range (classes.length - 1)).reverse.map fun n => candidate (package.length + 1 + n)) ++
          candidate package.length :: (List.range package.length).reverse.map candidate := by
        rw [List.range_add, List.range_succ]
        simp
    _ = _ := by simp only [hend, hbehind]

/-- A canonical name comes to the nested classes, if no candidate before them is a file. -/
theorem locate?_canonical (hpackage : ∀ s ∈ package, IsSegment s)
    (hclasses : ∀ s ∈ classes, IsSegment s) (hne : classes ≠ [])
    (hfewer : ∀ n, 0 < n → n < classes.length →
      c.firstFile? files (relativePath (package ++ classes.take n) (classes.drop n)) = none)
    (h : c.firstFile? files (relativePath package classes) = some path) :
    c.locate? files (canonicalName package classes) = some path := by
  obtain ⟨later, hcandidates⟩ := candidates_canonical hpackage hclasses hne
  rw [locate?_eq, hcandidates, List.findSome?_append, List.findSome?_cons, h]
  have hnone : ((List.range (classes.length - 1)).reverse.map fun n =>
      relativePath (package ++ classes.take (n + 1)) (classes.drop (n + 1))).findSome?
        (c.firstFile? files) = none := by
    rw [List.findSome?_eq_none_iff]
    intro relative hrelative
    obtain ⟨n, hn, rfl⟩ := List.mem_map.1 hrelative
    rw [List.mem_reverse, List.mem_range] at hn
    exact hfewer (n + 1) (by omega) (by omega)
  rw [hnone]
  rfl

/-- A binary name comes to the nested classes at once. -/
theorem locate?_binary (hpackage : ∀ s ∈ package, IsSegment s)
    (hclasses : ∀ s ∈ classes, IsSegment s) (hne : classes ≠ [])
    (h : c.firstFile? files (relativePath package classes) = some path) :
    c.locate? files (binaryName package classes) = some path := by
  refine locate?_intercalate ?_ ?_
  · intro s hs
    rcases List.mem_append.1 hs with hs | hs
    · exact hpackage s hs
    · rw [List.mem_singleton.1 hs]
      exact isSegment_nested hne hclasses
  · have hpath : relativePath package [String.intercalate "$" classes] =
        relativePath package classes := by
      unfold relativePath
      rw [String.intercalate_singleton]
    rw [hpath, h]

theorem firstFile?_eq_none_iff {relative : Path} :
    c.firstFile? files relative = none ↔
      ∀ root ∈ c.roots, files.isFile (root.join relative.text) = false := by
  simp [firstFile?]

/-- On a new cache, a name that leads to a file is answered by what the file holds. -/
theorem fresh_load_of_locate? {name : String} (h : c.locate? files name = some path) :
    (outcome ((c.introspector files).load name) []).1 =
      (readClass files path).map ClassFile.handle := by
  rw [outcome_load, findIn_nil_fst]
  unfold read?
  rw [h]
  simp only
  cases readClass files path with
  | error fault => rfl
  | ok found => rfl

/-- **Both names of a nested class** have the same answer, each on a new cache, if the class has a file
and no candidate with fewer dollars has one. The answer is that of the file in the first root that has
it: the class in it, or why it cannot be read, with the path of the file. -/
theorem load_canonical_eq_binary (hpackage : ∀ s ∈ package, IsSegment s)
    (hclasses : ∀ s ∈ classes, IsSegment s) (hne : classes ≠ [])
    (hfile : ∃ root ∈ c.roots, files.isFile (root.join (relativePath package classes).text) = true)
    (hfewer : ∀ n, 0 < n → n < classes.length → ∀ root ∈ c.roots,
      files.isFile (root.join (relativePath (package ++ classes.take n) (classes.drop n)).text) =
        false) :
    (outcome ((c.introspector files).load (canonicalName package classes)) []).1 =
        (outcome ((c.introspector files).load (binaryName package classes)) []).1 ∧
      ∃ path, c.firstFile? files (relativePath package classes) = some path ∧
        (outcome ((c.introspector files).load (binaryName package classes)) []).1 =
          (readClass files path).map ClassFile.handle := by
  have hsome : c.firstFile? files (relativePath package classes) ≠ none := by
    intro hnone
    obtain ⟨root, hroot, hisFile⟩ := hfile
    rw [firstFile?_eq_none_iff.1 hnone root hroot] at hisFile
    cases hisFile
  obtain ⟨path, hpath⟩ := Option.ne_none_iff_exists'.1 hsome
  have hcanonical := locate?_canonical hpackage hclasses hne
    (fun n hpos hlt => firstFile?_eq_none_iff.2 (hfewer n hpos hlt)) hpath
  have hbinary := fresh_load_of_locate? (locate?_binary hpackage hclasses hne hpath)
  exact ⟨(fresh_load_of_locate? hcanonical).trans hbinary.symm, path, hpath, hbinary⟩

/-- The class `b.Y$Z` in the second of two roots. -/
def nestedFiles : FileTree where
  entries := [(["lib"], .directory), (["lib", "b"], .directory), (["classes"], .directory),
    (["classes", "b"], .directory), (["classes", "b", "Y$Z.class"], .file
      [0xCA, 0xFE, 0xBA, 0xBE, 0, 0, 0, 52, 0, 5, 1, 0, 5, 0x62, 0x2F, 0x59, 0x24, 0x5A, 7, 0, 1,
       1, 0, 16, 0x6A, 0x61, 0x76, 0x61, 0x2F, 0x6C, 0x61, 0x6E, 0x67, 0x2F, 0x4F, 0x62, 0x6A, 0x65,
       0x63, 0x74, 7, 0, 3, 0, 0x21, 0, 2, 0, 4, 0, 0, 0, 0, 0, 0, 0, 0])]
  here := []

def nestedPath : ClassPath := ⟨[⟨"lib"⟩, ⟨"classes"⟩], true⟩

theorem load_canonical_eq_binary_second_root :
    canonicalName ["b"] ["Y", "Z"] = "b.Y.Z" ∧ binaryName ["b"] ["Y", "Z"] = "b.Y$Z" ∧
      (outcome ((nestedPath.introspector nestedFiles).load "b.Y$Z") []).1 = .ok ⟨"b.Y$Z", ⟨0x21⟩⟩ ∧
      (outcome ((nestedPath.introspector nestedFiles).load (canonicalName ["b"] ["Y", "Z"])) []).1 =
        (outcome ((nestedPath.introspector nestedFiles).load (binaryName ["b"] ["Y", "Z"])) []).1 := by
  refine ⟨by decide, by decide, by decide +kernel, ?_⟩
  refine (load_canonical_eq_binary ?_ ?_ ?_ ?_ ?_).1
  · simp [IsSegment]
  · simp [IsSegment]
  · simp
  · exact ⟨⟨"classes"⟩, by decide, by decide +kernel⟩
  · intro n hpos hlt
    obtain rfl : n = 1 := by
      simp only [List.length_cons, List.length_nil] at hlt
      omega
    decide +kernel

end MemberSpec.ClassPath
