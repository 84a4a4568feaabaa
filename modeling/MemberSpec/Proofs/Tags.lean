import Mathlib
import MemberSpec.Proofs.Candidates
import MemberSpec.Tags

/-!
# Where the tags of a member come from

Every tag of a member is made from one block tag of its documentation, in order
(`ofBlockTags_eq_ok`). `BlockTag.Becomes` says what a block tag can become: a parameter tag refers to
the first parameter with its name, and the type of a throws tag is a class that was looked up while
the tags were made.
-/

namespace MemberSpec

open Session

variable {σ : Type} {source : Introspector σ}

namespace Resolver

theorem loadsBetween_of_firstLoaded {names : List String} {s s' : σ} {handle : ClassHandle}
    (h : (firstLoaded source names).run s = (some handle, s')) :
    source.LoadsBetween s s' handle := by
  induction names generalizing s with
  | nil => cases h
  | cons name names ih =>
    rw [firstLoaded_cons] at h
    rcases hname : outcome (source.load name) s with ⟨e | found, t⟩
    · rw [hname] at h
      exact (ih h).widen (Introspector.reaches_of_load hname) .refl
    · rw [hname] at h
      cases h
      exact ⟨name, s, s', .refl, hname, .refl⟩

/-- A name resolves to a class that was looked up on the way. -/
theorem resolve_eq_ok {r : Resolver} {scope : Source.Scope} {name : String} {s s' : σ}
    {handle : ClassHandle} (h : outcome (r.resolve source scope name) s = (.ok handle, s')) :
    source.LoadsBetween s s' handle :=
  loadsBetween_of_firstLoaded (resolve_eq_ok_iff.1 h)

end Resolver

/-- A block tag becomes a tag of a member with the given parameters; the classes of throws tags are
among `Loaded`. -/
inductive BlockTag.Becomes (parameters : List Parameter) (Loaded : ClassHandle → Prop)
    (b : BlockTag) : Tag → Prop
  | param {position : Nat} : b.kind = .param →
      IsLeast {i | (parameters[i]?.map (·.name)) = some (b.name.getD "")} position →
      Becomes parameters Loaded b (.param position b.content)
  | returns : b.kind = .returns → Becomes parameters Loaded b (.returns b.content)
  | throws {handle : ClassHandle} : b.kind = .throws → Loaded handle →
      Becomes parameters Loaded b (.throws handle.type (TagContext.splitException b.content).2)

theorem BlockTag.Becomes.mono {parameters : List Parameter} {Loaded Loaded' : ClassHandle → Prop}
    {b : BlockTag} {tag : Tag} (h : b.Becomes parameters Loaded tag)
    (hsub : ∀ handle, Loaded handle → Loaded' handle) : b.Becomes parameters Loaded' tag := by
  cases h with
  | param hkind hleast => exact .param hkind hleast
  | returns hkind => exact .returns hkind
  | throws hkind hloaded => exact .throws hkind (hsub _ hloaded)

namespace TagContext

variable {c : TagContext} {r : Resolver}

theorem becomes_of_paramTag? {b : BlockTag} {tag : Tag} {Loaded : ClassHandle → Prop}
    (hkind : b.kind = .param) (h : c.paramTag? b = some tag) : b.Becomes c.parameters Loaded tag := by
  unfold paramTag? at h
  obtain ⟨position, hposition, rfl⟩ := Option.map_eq_some_iff.1 h
  obtain ⟨hlt, hname, hbefore⟩ := List.findIdx?_eq_some_iff_getElem.1 hposition
  refine .param hkind ⟨?_, ?_⟩
  · simpa [List.getElem?_eq_getElem hlt] using hname
  · intro i hi
    by_contra hlow
    have hi' : i < position := by omega
    have hsame : (c.parameters[i]?.map (·.name)) = some (b.name.getD "") := hi
    rw [List.getElem?_eq_getElem (hi'.trans hlt), Option.map_some, Option.some.injEq] at hsame
    exact hbefore i hi' (by simp [hsame])

theorem throwsTag_eq_ok {b : BlockTag} {tag : Tag} {s s' : σ}
    (h : outcome (c.throwsTag source r b) s = (.ok tag, s')) :
    ∃ handle, source.LoadsBetween s s' handle ∧
      tag = .throws handle.type (splitException b.content).2 := by
  unfold throwsTag at h
  simp only at h
  split at h
  · cases h
  · obtain ⟨handle, t, hresolve, h⟩ := outcome_bind_eq_ok.1 h
    rw [outcome_adapt_eq_ok] at hresolve
    cases h
    exact ⟨handle, Resolver.resolve_eq_ok hresolve, rfl⟩

theorem tag?_eq_ok {b : BlockTag} {made : Option Tag} {s s' : σ}
    (h : outcome (c.tag? source r b) s = (.ok made, s')) :
    source.Reaches s s' ∧
      ∀ tag ∈ made, b.Becomes c.parameters (source.LoadsBetween s s') tag := by
  unfold tag? at h
  split at h
  · rename_i hkind
    cases h
    exact ⟨.refl, fun tag htag => becomes_of_paramTag? hkind htag⟩
  · rename_i hkind
    cases h
    refine ⟨.refl, fun tag htag => ?_⟩
    cases htag
    exact .returns hkind
  · rename_i hkind
    obtain ⟨tag, t, hthrows, h⟩ := outcome_bind_eq_ok.1 h
    cases h
    obtain ⟨handle, hloads, rfl⟩ := throwsTag_eq_ok hthrows
    refine ⟨hloads.reaches, fun tag htag => ?_⟩
    cases htag
    exact .throws hkind hloads
  · cases h
    exact ⟨.refl, fun tag htag => by cases htag⟩

/-- The tags come from block tags in order, each from one of its own. -/
theorem ofBlockTags_eq_ok {bs : List BlockTag} {tags : List Tag} {s s' : σ}
    (h : outcome (c.ofBlockTags source r bs) s = (.ok tags, s')) :
    source.Reaches s s' ∧ ∃ kept, kept.Sublist bs ∧
      List.Forall₂ (fun b tag => b.Becomes c.parameters (source.LoadsBetween s s') tag) kept tags := by
  induction bs generalizing tags s with
  | nil =>
    cases h
    exact ⟨.refl, [], .slnil, .nil⟩
  | cons b bs ih =>
    obtain ⟨made, t, hfirst, h⟩ := outcome_bind_eq_ok.1 h
    obtain ⟨others, t', hothers, h⟩ := outcome_bind_eq_ok.1 h
    cases h
    obtain ⟨hst, hmade⟩ := tag?_eq_ok hfirst
    obtain ⟨hts, kept, hsub, hkept⟩ := ih hothers
    -- look-ups of the later tags count from the first one's state on
    have hkept' : List.Forall₂ (fun b tag =>
        b.Becomes c.parameters (source.LoadsBetween s s') tag) kept others :=
      hkept.imp fun b tag hb => hb.mono fun handle hload => hload.widen hst .refl
    refine ⟨hst.trans hts, ?_⟩
    cases made with
    | none => exact ⟨kept, hsub.cons b, hkept'⟩
    | some tag =>
      have htag := (hmade tag rfl).mono fun handle hload => hload.widen .refl hts
      exact ⟨b :: kept, hsub.cons_cons b, .cons htag hkept'⟩

end TagContext

end MemberSpec
