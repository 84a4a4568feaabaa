import Mathlib
import MemberSpec.ClassPath
import MemberSpec.Proofs.Inquiry

/-!
# What a cache of classes answers

A class that is read is kept under the name it was asked by and under its own. The second name is taken
from the file, so it need not be a name that leads to the file. Where it does not, a look-up of one
name changes the answer to another one.

* `findIn_eq`: a look-up answers from the cache, or else from the files.
* `sourced_of_reaches`: what stands in a cache, whatever was asked before.
* `load_eq_fresh_iff`: the cache is never noticed iff every class that is found under some name is found
  under its own name too.
* `load_redirected`: it can be noticed.
-/

namespace MemberSpec

open Session

theorem ClassCache.lookup_insert (cache : ClassCache) (name key : String) (found : ClassFile) :
    (cache.insert name found).lookup key = if key = name then some found else cache.lookup key := by
  unfold ClassCache.insert
  rw [List.lookup_cons]
  by_cases hkey : key = name
  · simp [hkey]
  · have hne : (key == name) = false := by simpa using hkey
    simp only [hne, hkey, if_false]
    induction cache with
    | nil => rfl
    | cons entry cache ih =>
      obtain ⟨key', found'⟩ := entry
      by_cases hdrop : key' = name
      · have hmiss : (key == key') = false := by rw [hdrop]; exact hne
        simp only [hdrop, bne_self_eq_false, Bool.false_eq_true, not_false_eq_true,
          List.filter_cons_of_neg]
        rw [ih, List.lookup_cons, ← hdrop, hmiss]
      · have hkeep : (key' != name) = true := bne_iff_ne.2 hdrop
        simp only [List.filter_cons, hkeep, if_true]
        rw [List.lookup_cons, List.lookup_cons, ih]

namespace ClassPath

variable {c : ClassPath} {files : FileTree} {cache : ClassCache} {name key : String}
variable {found : ClassFile}

/-- The cache after a class was kept in it. -/
def kept (cache : ClassCache) (name : String) (found : ClassFile) : ClassCache :=
  (((keep name found).via CacheUse.perform).run cache).2

theorem lookup_kept (cache : ClassCache) (name key : String) (found : ClassFile) :
    (kept cache name found).lookup key =
      if key = name ∨ key = found.name then some found else cache.lookup key := by
  by_cases hown : found.name = name
  · have hkept : kept cache name found = cache.insert name found := by
      unfold kept keep
      rw [hown, bne_self_eq_false]
      rfl
    rw [hkept, ClassCache.lookup_insert, hown]
    simp only [or_self]
  · have hkept : kept cache name found = (cache.insert name found).insert found.name found := by
      unfold kept keep
      rw [bne_iff_ne.2 hown]
      rfl
    rw [hkept, ClassCache.lookup_insert, ClassCache.lookup_insert]
    by_cases hkey : key = found.name <;> simp [hkey]

/-- The cache after the files were read for a name. -/
def keptRead (cache : ClassCache) (name : String) :
    Except LookupError (Option ClassFile) → ClassCache
  | .ok (some found) => kept cache name found
  | _ => cache

/-- What is found for a name, and the cache then. -/
def findIn (c : ClassPath) (files : FileTree) (cache : ClassCache) (name : String) :
    Except LookupError (Option ClassFile) × ClassCache :=
  ((c.find? files name).via CacheUse.perform).run cache

theorem via_get {α : Type} (f : Option ClassFile → CacheInquiry α) :
    ((CacheInquiry.get name >>= f).via CacheUse.perform).run cache =
      ((f (cache.lookup name)).via CacheUse.perform).run cache := rfl

/-- **A look-up** answers from the cache if the name is there, and from the files otherwise. -/
theorem findIn_eq (c : ClassPath) (files : FileTree) (cache : ClassCache) (name : String) :
    c.findIn files cache name = match cache.lookup name with
      | some found => (.ok (some found), cache)
      | none => (c.read? files name, keptRead cache name (c.read? files name)) := by
  unfold findIn find?
  rw [via_get]
  cases cache.lookup name with
  | some found => rfl
  | none =>
    rcases c.read? files name with fault | _ | found
    · rfl
    · rfl
    · exact Inquiry.run_via_bind CacheUse.perform (keep name found) _ cache

@[simp] theorem findIn_nil_fst (name : String) : (c.findIn files [] name).1 = c.read? files name := by
  rw [findIn_eq]
  simp only [List.lookup_nil]

theorem outcome_load (c : ClassPath) (files : FileTree) (name : String) (cache : ClassCache) :
    outcome ((c.introspector files).load name) cache =
      (c.answerOf name ClassFile.handle ⟨name, .publicOnly⟩ (c.findIn files cache name).1,
        (c.findIn files cache name).2) :=
  Inquiry.run_via_bind CacheUse.perform (c.find? files name) _ cache

theorem outcome_declared (c : ClassPath) (files : FileTree) (handle : ClassHandle)
    (cache : ClassCache) :
    outcome ((c.introspector files).declared handle) cache =
      (c.answerOf handle.name ClassFile.executables [] (c.findIn files cache handle.name).1,
        (c.findIn files cache handle.name).2) :=
  Inquiry.run_via_bind CacheUse.perform (c.find? files handle.name) _ cache

/-- Every entry is a class that the files have for some name, under that name or under its own. -/
def Sourced (c : ClassPath) (files : FileTree) (cache : ClassCache) : Prop :=
  ∀ key found, cache.lookup key = some found →
    ∃ name, c.read? files name = .ok (some found) ∧ (key = name ∨ key = found.name)

/-- One look-up adds no other entries. -/
theorem Sourced.findIn (h : c.Sourced files cache) (name : String) :
    c.Sourced files (c.findIn files cache name).2 := by
  rw [findIn_eq]
  cases cache.lookup name with
  | some _ => exact h
  | none =>
    rcases hread : c.read? files name with fault | _ | found
    · exact h
    · exact h
    · intro key found' hkey
      rw [show keptRead cache name (.ok (some found)) = kept cache name found from rfl,
        lookup_kept] at hkey
      split at hkey
      · rename_i hnames
        cases hkey
        exact ⟨name, hread, hnames⟩
      · exact h key found' hkey

/-- **What stands in a cache**, whatever was asked before. -/
theorem sourced_of_reaches (h : (c.introspector files).Reaches [] cache) :
    c.Sourced files cache := by
  induction h with
  | refl =>
    intro key found hkey
    cases hkey
  | load name _ ih =>
    rw [outcome_load]
    exact ih.findIn name
  | declared handle _ ih =>
    rw [outcome_declared]
    exact ih.findIn handle.name

/-- A class that is found under a name can afterwards be had under its own, from the cache. -/
theorem exists_reaches_lookup (h : c.read? files name = .ok (some found)) :
    ∃ cache, (c.introspector files).Reaches [] cache ∧ cache.lookup found.name = some found := by
  refine ⟨_, .load name .refl, ?_⟩
  rw [outcome_load, findIn_eq]
  simp only [List.lookup_nil, h]
  rw [show keptRead [] name (.ok (some found)) = kept [] name found from rfl, lookup_kept]
  simp

theorem answer_of_lookup (h : cache.lookup name = some found) :
    (outcome ((c.introspector files).load name) cache).1 = .ok found.handle := by
  rw [outcome_load, findIn_eq, h]
  rfl

theorem answer_of_miss (h : cache.lookup name = none) :
    (outcome ((c.introspector files).load name) cache).1 =
      (outcome ((c.introspector files).load name) []).1 := by
  rw [outcome_load, outcome_load, findIn_eq, findIn_eq, h]
  rfl

/-- **When the cache is not noticed.** Whatever was asked before, a name gets the answer that it gets
first iff the class that is found under any name is also the answer to its own name; and the same class
file is used for it iff that class file is found under its own name too. -/
theorem load_eq_fresh_iff (c : ClassPath) (files : FileTree) :
    ((∀ cache, (c.introspector files).Reaches [] cache → ∀ name,
        (outcome ((c.introspector files).load name) cache).1 =
          (outcome ((c.introspector files).load name) []).1) ↔
      ∀ name found, c.read? files name = .ok (some found) →
        (outcome ((c.introspector files).load found.name) []).1 = .ok found.handle) ∧
    ((∀ cache, (c.introspector files).Reaches [] cache → ∀ name,
        (c.findIn files cache name).1 = (c.findIn files [] name).1) ↔
      ∀ name found, c.read? files name = .ok (some found) →
        c.read? files found.name = .ok (some found)) := by
  refine ⟨⟨?_, ?_⟩, ?_, ?_⟩
  · intro hfresh name found hread
    obtain ⟨cache, hreach, hown⟩ := exists_reaches_lookup hread
    rw [← hfresh cache hreach found.name]
    exact answer_of_lookup hown
  · intro hown cache hreach name
    cases hlookup : cache.lookup name with
    | none => exact answer_of_miss hlookup
    | some found =>
      obtain ⟨asked, hread, hname⟩ := sourced_of_reaches hreach name found hlookup
      rw [answer_of_lookup hlookup]
      rcases hname with rfl | rfl
      · rw [outcome_load, findIn_nil_fst, hread]
        rfl
      · exact (hown asked found hread).symm
  · intro hfresh name found hread
    obtain ⟨cache, hreach, hown⟩ := exists_reaches_lookup hread
    rw [← findIn_nil_fst, ← hfresh cache hreach found.name, findIn_eq, hown]
  · intro hown cache hreach name
    rw [findIn_nil_fst, findIn_eq]
    cases hlookup : cache.lookup name with
    | none => simp only
    | some found =>
      obtain ⟨asked, hread, hname⟩ := sourced_of_reaches hreach name found hlookup
      rcases hname with rfl | rfl
      · exact hread.symm
      · exact (hown asked found hread).symm

/-- The bytes of a class file: a class `b.Y` without members, with the given flags. -/
def classOfY (access : UInt8) : List UInt8 :=
  [0xCA, 0xFE, 0xBA, 0xBE, 0, 0, 0, 52, 0, 5, 1, 0, 3, 0x62, 0x2F, 0x59, 7, 0, 1,
   1, 0, 16, 0x6A, 0x61, 0x76, 0x61, 0x2F, 0x6C, 0x61, 0x6E, 0x67, 0x2F, 0x4F, 0x62, 0x6A, 0x65,
   0x63, 0x74, 7, 0, 3, 0, access, 0, 2, 0, 4, 0, 0, 0, 0, 0, 0, 0, 0]

/-- The class `b.Y` twice: final at a place that is not its own, and open at its own. -/
def misplacedFiles : FileTree where
  entries := [(["classes"], .directory), (["classes", "a"], .directory),
    (["classes", "b"], .directory), (["classes", "a", "X.class"], .file (classOfY 0x31)),
    (["classes", "b", "Y.class"], .file (classOfY 0x21))]
  here := []

/-- **The cache can be noticed.** A class file at a place that is not its own hides the one that is at
its own place, once it was read. -/
theorem load_redirected :
    ¬ ∀ (c : ClassPath) (files : FileTree) (cache : ClassCache),
      (c.introspector files).Reaches [] cache → ∀ name,
        (outcome ((c.introspector files).load name) cache).1 =
          (outcome ((c.introspector files).load name) []).1 := by
  intro h
  have hsame := h ⟨[⟨"classes"⟩], true⟩ misplacedFiles _ (.load "a.X" .refl) "b.Y"
  revert hsame
  decide +kernel

end ClassPath

end MemberSpec
