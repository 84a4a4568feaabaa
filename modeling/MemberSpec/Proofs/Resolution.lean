import Mathlib
import MemberSpec.Proofs.Pieces
import MemberSpec.Proofs.Tags

/-!
# The first candidate that loads

A name is resolved by a search through one list of candidates. What the search does is said by the
answers of the introspector alone, each in the state that the look-up before it has left.

* `Introspector.Misses`: names that are loaded one after the other, without success.
* `Resolver.firstLoaded_eq_some_iff`, `Resolver.firstLoaded_eq_none_iff`: a search ends at the first
  name that loads, or with nothing when none does.
* `Resolver.ImportedAs`: the import that a name is taken for.
* `Resolver.resolve_first_hit`: the answer and the look-ups of a resolution.
-/

namespace MemberSpec

open Session Text

namespace Introspector

variable {σ : Type}

/-- The names are loaded one after the other, and none of them loads. It does not matter why. -/
inductive Misses (source : Introspector σ) : List String → σ → σ → Prop
  | nil {s : σ} : Misses source [] s s
  | cons {name : String} {names : List String} {fault : LookupError} {s t s' : σ} :
      outcome (source.load name) s = (.error fault, t) → Misses source names t s' →
      Misses source (name :: names) s s'

theorem outcome_recording_load (source : Introspector σ) (name : String) (s : σ)
    (asked : List String) :
    outcome (source.recording.load name) (s, asked) =
      ((outcome (source.load name) s).1, (outcome (source.load name) s).2, asked ++ [name]) := rfl

/-- Every name that misses is one that was looked up. -/
theorem Misses.recording {source : Introspector σ} {names : List String} {s s' : σ}
    (h : source.Misses names s s') (asked : List String) :
    source.recording.Misses names (s, asked) (s', asked ++ names) := by
  induction h generalizing asked with
  | nil =>
    rw [List.append_nil]
    exact .nil
  | @cons name names fault s t s' hload _ ih =>
    have hrecorded : outcome (source.recording.load name) (s, asked) =
        (.error fault, t, asked ++ [name]) := by
      rw [outcome_recording_load, hload]
    have hrest := ih (asked ++ [name])
    rw [List.append_assoc, List.singleton_append] at hrest
    exact .cons hrecorded hrest

end Introspector

namespace Resolver

variable {σ : Type} {source : Introspector σ} {names : List String} {s s' : σ}
variable {handle : ClassHandle}

/-- **A search that ends with a class** passes names that miss, and the next one loads. -/
theorem firstLoaded_eq_some_iff :
    (firstLoaded source names).run s = (some handle, s') ↔
      ∃ before hit after t, names = before ++ hit :: after ∧ source.Misses before s t ∧
        outcome (source.load hit) t = (.ok handle, s') := by
  constructor
  · intro h
    induction names generalizing s with
    | nil => cases h
    | cons name names ih =>
      rw [firstLoaded_cons] at h
      rcases hload : outcome (source.load name) s with ⟨fault | found, t⟩
      · rw [hload] at h
        obtain ⟨before, hit, after, u, rfl, hmiss, hhit⟩ := ih h
        exact ⟨name :: before, hit, after, u, rfl, .cons hload hmiss, hhit⟩
      · rw [hload] at h
        cases h
        exact ⟨[], name, names, s, rfl, .nil, hload⟩
  · rintro ⟨before, hit, after, t, rfl, hmiss, hhit⟩
    induction hmiss with
    | nil => rw [List.nil_append, firstLoaded_cons, hhit]
    | cons hload _ ih =>
      rw [List.cons_append, firstLoaded_cons, hload]
      exact ih hhit

/-- **A search that ends with nothing** has tried every name. -/
theorem firstLoaded_eq_none_iff :
    (firstLoaded source names).run s = (none, s') ↔ source.Misses names s s' := by
  constructor
  · intro h
    induction names generalizing s with
    | nil =>
      cases h
      exact .nil
    | cons name names ih =>
      rw [firstLoaded_cons] at h
      rcases hload : outcome (source.load name) s with ⟨fault | found, t⟩
      · rw [hload] at h
        exact .cons hload (ih h)
      · rw [hload] at h
        cases h
  · intro h
    induction h with
    | nil => rfl
    | cons hload _ ih =>
      rw [firstLoaded_cons, hload]
      exact ih

variable {r : Resolver} {scope : Source.Scope} {name : String}

/-- The name of the first import, in the order of the file, that has the given name in its own. -/
inductive ImportedAs (scope : Source.Scope) (name : String) : List String → Prop
  | first {before after : List Source.Import} {i : Source.Import} :
      scope.imports = before ++ i :: after →
      (∀ j ∈ before, ¬ name.toList <:+: j.name.toList) → name.toList <:+: i.name.toList →
      ImportedAs scope name [i.name]
  | nowhere : (∀ j ∈ scope.imports, ¬ name.toList <:+: j.name.toList) → ImportedAs scope name []

theorem importedAs_importFor? (scope : Source.Scope) (name : String) :
    ImportedAs scope name ((importFor? scope name).map (·.name)).toList := by
  cases hfind : importFor? scope name with
  | none =>
    apply ImportedAs.nowhere
    intro j hj
    have hnot := List.find?_eq_none.1 hfind j hj
    rwa [hasInfix_iff] at hnot
  | some i =>
    obtain ⟨hin, before, after, himports, hbefore⟩ := List.find?_eq_some_iff_append.1 hfind
    refine .first himports ?_ (hasInfix_iff.1 hin)
    intro j hj
    have hnot := hbefore j hj
    rwa [Bool.not_eq_true', ← Bool.not_eq_true, hasInfix_iff] at hnot

/-- **A resolution is a search for the first candidate that loads.** The candidates are the name
itself, the name in the standard namespace, the name of the first import that contains it, and, if the
resolver falls back, the name in the package of the file and under each of its wildcard imports. They
are looked up in this order, up to the first one that loads, which is the answer; any failure to load
one is a miss. If none loads, all of them were looked up, and the answer is the name as it was given. -/
theorem resolve_first_hit (source : Introspector σ) (r : Resolver) (scope : Source.Scope)
    (name : String) (s : σ) :
    ∃ imported candidates : List String, ImportedAs scope name imported ∧
      candidates = [name, r.standardNamespace ++ "." ++ name] ++ imported ++
        (if r.packageFallback then
          scope.qualify name :: (scope.imports.filter fun i => i.isWildcard && !i.isStatic).map
            fun i => i.name ++ "." ++ name
        else []) ∧
      ((∃ before hit after handle t s', candidates = before ++ hit :: after ∧
          source.Misses before s t ∧ outcome (source.load hit) t = (.ok handle, s') ∧
          outcome (r.resolve source scope name) s = (.ok handle, s') ∧
          outcome (r.resolve source.recording scope name) (s, []) =
            (.ok handle, s', before ++ [hit])) ∨
        ∃ s', source.Misses candidates s s' ∧
          outcome (r.resolve source scope name) s = (.error (.exceptionTypeNotFound name), s') ∧
          outcome (r.resolve source.recording scope name) (s, []) =
            (.error (.exceptionTypeNotFound name), s', candidates)) := by
  refine ⟨_, r.candidates scope name, importedAs_importFor? scope name, rfl, ?_⟩
  rcases hrun : (firstLoaded source (r.candidates scope name)).run s with ⟨_ | handle, s'⟩
  · right
    have hmiss := firstLoaded_eq_none_iff.1 hrun
    have hrecorded := firstLoaded_eq_none_iff.2 (hmiss.recording [])
    refine ⟨s', hmiss, ?_, ?_⟩
    · rw [outcome_resolve, hrun]
      rfl
    · rw [outcome_resolve, hrecorded]
      rfl
  · left
    obtain ⟨before, hit, after, t, hnames, hmiss, hhit⟩ := firstLoaded_eq_some_iff.1 hrun
    have hload : outcome (source.recording.load hit) (t, before) =
        (.ok handle, s', before ++ [hit]) := by
      rw [Introspector.outcome_recording_load, hhit]
    have hrecorded := firstLoaded_eq_some_iff.2
      ⟨before, hit, after, _, hnames, hmiss.recording [], hload⟩
    refine ⟨before, hit, after, handle, t, s', hnames, hmiss, hhit, ?_, ?_⟩
    · exact resolve_eq_ok_iff.2 hrun
    · exact resolve_eq_ok_iff.2 hrecorded

end Resolver

end MemberSpec
