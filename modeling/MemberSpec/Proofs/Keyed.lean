import Mathlib
import MemberSpec.Settings.Layer
import MemberSpec.Toml.Document

/-!
# Entries by key

Tables of documents and of settings are lists of entries, and an entry is set in its place or behind all
others. What counts of such a list is what its keys look up, as long as no key is there twice.

* `lookup_set`: what is looked up after an entry was set.
* `nodup_keys_set`: setting an entry brings no key in twice.
-/

namespace MemberSpec.Keyed

variable {α : Type} {es : List (String × α)} {key k : String} {v : α}

def keys (es : List (String × α)) : List String := es.map Prod.fst

/-- Sets an entry, in its place if the key is there. -/
def set (key : String) (v : α) : List (String × α) → List (String × α)
  | [] => [(key, v)]
  | (k, old) :: rest => if k == key then (key, v) :: rest else (k, old) :: set key v rest

theorem toml_setEntry_eq (node : Toml.Node) (entries : Toml.Nodes) :
    Toml.setEntry key node entries = set key node entries := by
  induction entries with
  | nil => rfl
  | cons e entries ih => rw [Toml.setEntry, set, ih]

theorem layered_setEntry_eq (v : Settings.Layered) (entries : Settings.Entries) :
    Settings.Layered.setEntry key v entries = set key v entries := by
  induction entries with
  | nil => rfl
  | cons e entries ih => rw [Settings.Layered.setEntry, set, ih]

theorem keys_append (es fs : List (String × α)) : keys (es ++ fs) = keys es ++ keys fs :=
  List.map_append

theorem mem_keys_of_mem {e : String × α} (h : e ∈ es) : e.1 ∈ keys es := List.mem_map_of_mem h

theorem lookup_eq_none_iff : es.lookup k = none ↔ k ∉ keys es := by
  rw [List.lookup_eq_none_iff]
  constructor
  · intro h hk
    obtain ⟨e, he, rfl⟩ := List.mem_map.1 hk
    simpa using h e he
  · intro h e he
    rw [bne_iff_ne]
    rintro rfl
    exact h (mem_keys_of_mem he)

theorem lookup_cons (e : String × α) :
    (e :: es).lookup k = if k = e.1 then some e.2 else es.lookup k := by
  rw [List.lookup_cons]
  by_cases hk : k = e.1
  · rw [if_pos hk, beq_iff_eq.2 hk]
  · rw [if_neg hk, beq_eq_false_iff_ne.2 hk]

theorem mem_of_lookup (h : es.lookup k = some v) : (k, v) ∈ es := by
  induction es with
  | nil => cases h
  | cons e es ih =>
    rw [lookup_cons] at h
    split at h
    · rename_i hk
      cases h
      exact hk ▸ List.mem_cons_self
    · exact List.mem_cons_of_mem _ (ih h)

theorem lookup_append (es fs : List (String × α)) :
    (es ++ fs).lookup k = (es.lookup k).or (fs.lookup k) := by
  induction es with
  | nil => rfl
  | cons e es ih =>
    rw [List.cons_append, lookup_cons, lookup_cons]
    split
    · rfl
    · exact ih

/-- **What is looked up** after an entry was set is the new entry under its key, and all else as
before. -/
theorem lookup_set : (set key v es).lookup k = if k = key then some v else es.lookup k := by
  induction es with
  | nil => exact lookup_cons _
  | cons e es ih =>
    rw [set]
    split
    · rename_i he
      rw [beq_iff_eq] at he
      rw [lookup_cons, lookup_cons, he]
      split <;> rfl
    · rename_i he
      rw [beq_iff_eq] at he
      rw [lookup_cons, lookup_cons, ih]
      by_cases hk : k = key
      · rw [if_pos hk, if_pos hk, if_neg (hk ▸ Ne.symm he)]
      · rw [if_neg hk, if_neg hk]

theorem mem_set {e : String × α} (h : e ∈ set key v es) : e = (key, v) ∨ e ∈ es := by
  induction es with
  | nil => exact .inl (List.mem_singleton.1 h)
  | cons d es ih =>
    rw [set] at h
    split at h
    · exact (List.mem_cons.1 h).imp id (List.mem_cons_of_mem _)
    · rcases List.mem_cons.1 h with rfl | h
      · exact .inr List.mem_cons_self
      · exact (ih h).imp id (List.mem_cons_of_mem _)

theorem mem_keys_set : k ∈ keys (set key v es) ↔ k = key ∨ k ∈ keys es := by
  rw [← not_iff_not, ← lookup_eq_none_iff, lookup_set, not_or, ← lookup_eq_none_iff]
  by_cases hk : k = key <;> simp [hk]

/-- **No key comes in twice.** -/
theorem nodup_keys_set (h : (keys es).Nodup) : (keys (set key v es)).Nodup := by
  induction es with
  | nil => exact List.nodup_singleton _
  | cons e es ih =>
    rw [keys, List.map_cons, List.nodup_cons] at h
    rw [set]
    split
    · rename_i he
      rw [beq_iff_eq] at he
      exact List.nodup_cons.2 ⟨he ▸ h.1, h.2⟩
    · rename_i he
      rw [beq_iff_eq] at he
      refine List.nodup_cons.2 ⟨fun hmem => ?_, ih h.2⟩
      rcases mem_keys_set.1 hmem with hkey | hmem
      · exact he hkey
      · exact h.1 hmem

theorem set_of_notMem (h : key ∉ keys es) : set key v es = es ++ [(key, v)] := by
  induction es with
  | nil => rfl
  | cons e es ih =>
    rw [keys, List.map_cons, List.mem_cons, not_or] at h
    rw [set, if_neg (by simpa using Ne.symm h.1), ih h.2, List.cons_append]

theorem set_append_self (h : key ∉ keys es) (old : α) :
    set key v (es ++ [(key, old)]) = es ++ [(key, v)] := by
  induction es with
  | nil => simp [set]
  | cons e es ih =>
    rw [keys, List.map_cons, List.mem_cons, not_or] at h
    rw [List.cons_append, set, if_neg (by simpa using Ne.symm h.1), ih h.2, List.cons_append]

theorem lookup_append_self (h : key ∉ keys es) : (es ++ [(key, v)]).lookup key = some v := by
  rw [lookup_append, lookup_eq_none_iff.2 h, Option.none_or, List.lookup_cons_self]

end MemberSpec.Keyed
