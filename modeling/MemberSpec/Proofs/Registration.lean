import Mathlib
import MemberSpec.Registry
import MemberSpec.Proofs.Session

/-!
# Looking up registered classes

A registry has no order of its own: which of several classes with one canonical name is met first is
left open. `After cs` are the registries that registering the classes `cs` in turn can lead to, with
the classes in whatever order. All of them hold the same classes, for each binary name the last one
registered under it (`After.mem_iff`), and that is all that a look-up needs: a handle that was loaded
carries a binary name, so listing its executables never comes to the search by canonical name.

* `isLast_concat`: what one more registration changes.
* `find?_eq_some`, `find?_eq_none_iff`: what a look-up can find, and when it finds nothing.
* `lookup_registered`: loading a class and listing its executables after any registrations.
-/

namespace MemberSpec

namespace Registry

open Session

variable {cs : List RegisteredClass} {r r' : Registry} {c d : RegisteredClass} {name : String}

/-- `c` was registered, and after it no class with its binary name. -/
def IsLast (cs : List RegisteredClass) (c : RegisteredClass) : Prop :=
  ∃ before after, cs = before ++ c :: after ∧ ∀ d ∈ after, d.handle.name ≠ c.handle.name

/-- The registries that registrations in turn can lead to. At any time the classes may come to stand
in another order. -/
inductive After : List RegisteredClass → Registry → Prop where
  | empty : After [] .empty
  | register {cs : List RegisteredClass} {r : Registry} (c : RegisteredClass) :
      After cs r → After (cs ++ [c]) (r.register c)
  | reorder {cs : List RegisteredClass} {r r' : Registry} :
      After cs r → r'.classes.Perm r.classes → After cs r'

/-! ### The last class with a name -/

theorem IsLast.mem (h : IsLast cs c) : c ∈ cs := by
  obtain ⟨before, after, rfl, -⟩ := h
  simp

/-- A further class is the last one with its name, and the others stay so unless they have its name. -/
theorem isLast_concat :
    IsLast (cs ++ [c]) d ↔ d = c ∨ IsLast cs d ∧ d.handle.name ≠ c.handle.name := by
  constructor
  · rintro ⟨before, after, hsplit, hafter⟩
    rcases List.eq_nil_or_concat after with rfl | ⟨after, c', rfl⟩
    · exact .inl (List.singleton_inj.1 (List.append_inj' hsplit rfl).2).symm
    · rw [List.concat_eq_append, ← List.cons_append, ← List.append_assoc] at hsplit
      obtain ⟨hinit, hlast⟩ := List.append_inj' hsplit rfl
      cases hlast
      rw [List.concat_eq_append] at hafter
      refine .inr ⟨⟨before, after, hinit, fun e he => hafter e (by simp [he])⟩, ?_⟩
      exact (hafter c (by simp)).symm
  · rintro (rfl | ⟨⟨before, after, rfl, hafter⟩, hne⟩)
    · exact ⟨cs, [], rfl, by simp⟩
    · refine ⟨before, after ++ [c], by simp, fun e he => ?_⟩
      rcases List.mem_append.1 he with he | he
      · exact hafter e he
      · rw [List.mem_singleton.1 he]
        exact hne.symm

/-- No two classes are the last one with the same name. -/
theorem IsLast.eq_of_name_eq (hc : IsLast cs c) (hd : IsLast cs d)
    (hname : c.handle.name = d.handle.name) : c = d := by
  induction cs using List.reverseRecOn with
  | nil => exact absurd hc.mem List.not_mem_nil
  | append_singleton cs e ih =>
    rcases isLast_concat.1 hc with rfl | ⟨hc, hce⟩
    · rcases isLast_concat.1 hd with rfl | ⟨-, hde⟩
      · rfl
      · exact absurd hname.symm hde
    · rcases isLast_concat.1 hd with rfl | ⟨hd, -⟩
      · exact absurd hname hce
      · exact ih hc hd

theorem exists_isLast (h : c ∈ cs) : ∃ d, IsLast cs d ∧ d.handle.name = c.handle.name := by
  induction cs using List.reverseRecOn with
  | nil => exact absurd h List.not_mem_nil
  | append_singleton cs e ih =>
    by_cases hname : c.handle.name = e.handle.name
    · exact ⟨e, isLast_concat.2 (.inl rfl), hname.symm⟩
    · have hmem : c ∈ cs := by
        rcases List.mem_append.1 h with h | h
        · exact h
        · rw [List.mem_singleton.1 h] at hname
          exact absurd rfl hname
      obtain ⟨d, hd, hdc⟩ := ih hmem
      exact ⟨d, isLast_concat.2 (.inr ⟨hd, hdc ▸ hname⟩), hdc⟩

/-! ### What a registry holds -/

theorem mem_register :
    d ∈ (r.register c).classes ↔ d = c ∨ d ∈ r.classes ∧ d.handle.name ≠ c.handle.name := by
  rw [register, List.mem_append, List.mem_filter, List.mem_singleton, bne_iff_ne, or_comm]

/-- **A registry holds the last class of each name and no other**, whatever the order. -/
theorem After.mem_iff (h : After cs r) : c ∈ r.classes ↔ IsLast cs c := by
  induction h generalizing c with
  | empty =>
    constructor
    · exact fun hmem => absurd hmem List.not_mem_nil
    · exact fun hlast => absurd hlast.mem List.not_mem_nil
  | register e _ ih => rw [mem_register, isLast_concat, ih]
  | reorder _ hperm ih => rw [hperm.mem_iff, ih]

theorem after_ofList (cs : List RegisteredClass) : After cs (ofList cs) := by
  induction cs using List.reverseRecOn with
  | nil => exact .empty
  | append_singleton cs c ih =>
    rw [ofList, List.foldl_append]
    exact ih.register c

/-! ### Look-ups -/

/-- By binary name, the last class with that name is found. -/
theorem get?_eq_some_iff (h : After cs r) :
    r.get? name = some c ↔ IsLast cs c ∧ c.handle.name = name := by
  constructor
  · intro hget
    rw [get?] at hget
    have hname := List.find?_some hget
    exact ⟨h.mem_iff.1 (List.mem_of_find?_eq_some hget), by simpa using hname⟩
  · rintro ⟨hlast, rfl⟩
    have hfound : (r.get? c.handle.name).isSome = true := by
      rw [get?, List.find?_isSome]
      exact ⟨c, h.mem_iff.2 hlast, beq_self_eq_true _⟩
    obtain ⟨d, hd⟩ := Option.isSome_iff_exists.1 hfound
    rw [hd]
    rw [get?] at hd
    have hname := List.find?_some hd
    have hdlast := h.mem_iff.1 (List.mem_of_find?_eq_some hd)
    rw [hdlast.eq_of_name_eq hlast (by simpa using hname)]

theorem find?_of_isLast (h : After cs r) (hlast : IsLast cs c) :
    r.find? c.handle.name = some c := by
  rw [find?, (get?_eq_some_iff h).2 ⟨hlast, rfl⟩]
  rfl

/-- What is found is the last class of some name, and the name asked for is its binary or canonical
name. -/
theorem find?_eq_some (h : After cs r) (hfind : r.find? name = some c) :
    IsLast cs c ∧ (c.handle.name = name ∨ canonicalNameOf c.handle.name = name) := by
  rw [find?] at hfind
  cases hget : r.get? name with
  | some d =>
    rw [hget] at hfind
    cases hfind
    obtain ⟨hlast, hname⟩ := (get?_eq_some_iff h).1 hget
    exact ⟨hlast, .inl hname⟩
  | none =>
    rw [hget] at hfind
    have hscan : r.classes.find? (fun c => canonicalNameOf c.handle.name == name) = some c := hfind
    have hname := List.find?_some hscan
    exact ⟨h.mem_iff.1 (List.mem_of_find?_eq_some hscan), .inr (by simpa using hname)⟩

/-- Nothing is found iff no registered class has the name, as its binary or its canonical name. -/
theorem find?_eq_none_iff (h : After cs r) :
    r.find? name = none ↔
      ∀ c ∈ cs, c.handle.name ≠ name ∧ canonicalNameOf c.handle.name ≠ name := by
  constructor
  · intro hnone c hc
    obtain ⟨d, hd, hdc⟩ := exists_isLast hc
    rw [find?, Option.orElse_eq_or, Option.or_eq_none_iff] at hnone
    obtain ⟨hget, hscan⟩ := hnone
    rw [get?, List.find?_eq_none] at hget
    rw [List.find?_eq_none] at hscan
    have hmem := h.mem_iff.2 hd
    rw [← hdc]
    exact ⟨by simpa using hget d hmem, by simpa using hscan d hmem⟩
  · intro hall
    rw [Option.eq_none_iff_forall_ne_some]
    intro c hc
    obtain ⟨hlast, hname⟩ := find?_eq_some h hc
    obtain ⟨hbinary, hcanonical⟩ := hall c hlast.mem
    exact hname.elim hbinary hcanonical

theorem outcome_load (r : Registry) (name : String) :
    outcome (introspector.load name) r =
      ((r.find? name).elim (.error (.classNotFound name)) fun c => .ok c.handle, r) := by
  rw [introspector, outcome_bind, outcome_get]
  dsimp only
  cases r.find? name <;> rfl

theorem outcome_declared (r : Registry) (handle : ClassHandle) :
    outcome (introspector.declared handle) r =
      ((r.find? handle.name).elim (.error (.classNotFound handle.name)) fun c => .ok c.executables,
        r) := by
  rw [introspector, outcome_bind, outcome_get]
  dsimp only
  cases r.find? handle.name <;> rfl

theorem find?_of_load {handle : ClassHandle}
    (h : (outcome (introspector.load name) r).1 = .ok handle) :
    ∃ c, r.find? name = some c ∧ c.handle = handle := by
  rw [outcome_load] at h
  cases hfind : r.find? name with
  | none =>
    rw [hfind] at h
    cases h
  | some c =>
    rw [hfind] at h
    cases h
    exact ⟨c, rfl, rfl⟩

/-- **Look-ups after any registrations.** A name is loaded iff a registered class has it as its binary
or canonical name, and else is not found. A class with the name as its binary name goes first, and
the last one registered counts. For a handle that was loaded, the executables are those of the last
class registered under its name; between the two look-ups the classes may be reordered. -/
theorem lookup_registered (h : After cs r) (h' : After cs r') (name : String) :
    ((∃ handle, outcome (introspector.load name) r = (.ok handle, r)) ↔
      ∃ c ∈ cs, c.handle.name = name ∨ canonicalNameOf c.handle.name = name) ∧
    ((∀ c ∈ cs, c.handle.name ≠ name ∧ canonicalNameOf c.handle.name ≠ name) →
      outcome (introspector.load name) r = (.error (.classNotFound name), r)) ∧
    (∀ c, IsLast cs c → c.handle.name = name →
      outcome (introspector.load name) r = (.ok c.handle, r)) ∧
    ∀ handle, (outcome (introspector.load name) r).1 = .ok handle →
      ∃ c, IsLast cs c ∧ c.handle = handle ∧
        outcome (introspector.declared handle) r' = (.ok c.executables, r') := by
  refine ⟨⟨?_, ?_⟩, ?_, ?_, ?_⟩
  · rintro ⟨handle, hload⟩
    obtain ⟨c, hfind, -⟩ := find?_of_load (congrArg Prod.fst hload)
    obtain ⟨hlast, hname⟩ := find?_eq_some h hfind
    exact ⟨c, hlast.mem, hname⟩
  · rintro ⟨c, hc, hname⟩
    cases hfind : r.find? name with
    | some d => exact ⟨d.handle, by rw [outcome_load, hfind]; rfl⟩
    | none =>
      obtain ⟨hbinary, hcanonical⟩ := (find?_eq_none_iff h).1 hfind c hc
      exact absurd hname (not_or.2 ⟨hbinary, hcanonical⟩)
  · intro hall
    rw [outcome_load, (find?_eq_none_iff h).2 hall]
    rfl
  · rintro c hlast rfl
    rw [outcome_load, find?_of_isLast h hlast]
    rfl
  · intro handle hload
    obtain ⟨c, hfind, rfl⟩ := find?_of_load hload
    have hlast := (find?_eq_some h hfind).1
    -- the handle has a binary name of its own, so the second look-up goes by that
    refine ⟨c, hlast, rfl, ?_⟩
    rw [outcome_declared, find?_of_isLast h' hlast]
    rfl

/-- Classes of which the first is registered again, and two share a canonical name. -/
def lidClasses : List RegisteredClass :=
  [⟨⟨"acme.Box$Lid", .publicOnly⟩, []⟩, ⟨⟨"acme$Box.Lid", .publicOnly⟩, []⟩,
   ⟨⟨"acme.Box$Lid", .publicOnly⟩, [⟨.method, "close", [], some .void, .publicOnly⟩]⟩]

theorem lookup_registered_lid :
    ∃ r r', After lidClasses r ∧ After lidClasses r' ∧
      outcome (introspector.load "acme.Box.Lid") r =
        (.ok ⟨"acme.Box$Lid", .publicOnly⟩, r) ∧
      ∃ c, IsLast lidClasses c ∧ c.handle.name = "acme.Box$Lid" ∧
        outcome (introspector.declared ⟨"acme.Box$Lid", .publicOnly⟩) r' = (.ok c.executables, r') := by
  have h := after_ofList lidClasses
  have h' : After lidClasses ⟨(ofList lidClasses).classes.reverse⟩ := h.reorder (List.reverse_perm _)
  have hload : outcome (introspector.load "acme.Box.Lid") ⟨(ofList lidClasses).classes.reverse⟩ =
      (.ok ⟨"acme.Box$Lid", .publicOnly⟩, ⟨(ofList lidClasses).classes.reverse⟩) := by decide
  obtain ⟨c, hlast, hhandle, hdeclared⟩ :=
    (lookup_registered h' h "acme.Box.Lid").2.2.2 _ (congrArg Prod.fst hload)
  exact ⟨_, _, h', h, hload, c, hlast, by rw [hhandle], hdeclared⟩

end Registry

end MemberSpec
