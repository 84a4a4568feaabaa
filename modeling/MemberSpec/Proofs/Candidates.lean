import Mathlib
import MemberSpec.Proofs.Session
import MemberSpec.Resolve

/-!
# Four ways to look up, one search

The ways to look up a name follow each other, and each of them tries names of its own: one, the name of
an import if there is one, or several in a row. Whatever a way does when it fails, it has tried all of
its names, in the state that the one before left. So together they are one search through one list.

* `Resolver.candidates`: the names of all the ways, in order.
* `Resolver.Searches`: a look-up that does what a search through a list of names does. One way behind
  another searches through the names of both (`Searches.orElse`).
* `Resolver.outcome_resolve`: a resolution is the search through the candidates.
-/

namespace MemberSpec.Resolver

open Session

variable {σ ε : Type} {source : Introspector σ} {names more : List String} {s : σ}

/-- The names under which an exception type is looked up, in order. -/
def candidates (r : Resolver) (scope : Source.Scope) (name : String) : List String :=
  [name, r.standardNamespace ++ "." ++ name]
    ++ ((importFor? scope name).map (·.name)).toList
    ++ (if r.packageFallback then fallbackNames scope name else [])

/-! ### Searches through a list -/

theorem outcome_load (source : Introspector σ) (name : String) (s : σ) :
    outcome (load source name) s =
      ((outcome (source.load name) s).1.mapError fun _ => {}, (outcome (source.load name) s).2) := rfl

theorem firstLoaded_cons (name : String) (names : List String) (s : σ) :
    (firstLoaded source (name :: names)).run s = match outcome (source.load name) s with
      | (.ok handle, t) => (some handle, t)
      | (.error _, t) => (firstLoaded source names).run t := by
  have hrun : (load source name).run.run s = _ := outcome_load source name s
  rw [firstLoaded, StateT.run_bind, hrun]
  rcases outcome (source.load name) s with ⟨e | handle, t⟩ <;> rfl

/-- A search goes on behind a list only if nothing in it loads. -/
theorem firstLoaded_append (names more : List String) (s : σ) :
    (firstLoaded source (names ++ more)).run s = match (firstLoaded source names).run s with
      | (some handle, t) => (some handle, t)
      | (none, t) => (firstLoaded source more).run t := by
  induction names generalizing s with
  | nil => rfl
  | cons name names ih =>
    rw [List.cons_append, firstLoaded_cons, firstLoaded_cons]
    rcases outcome (source.load name) s with ⟨e | handle, t⟩
    · exact ih t
    · rfl

/-! ### Ways to look up as searches -/

/-- What is made of the end of a search. -/
def answerOf (fault : ε) : Option ClassHandle → Except ε ClassHandle
  | some handle => .ok handle
  | none => .error fault

/-- The look-up searches through the names: it gives the first class that loads, or misses if none does,
and leaves the state behind the last name that was tried. -/
def Searches (source : Introspector σ) (names : List String) (m : Lookup σ ClassHandle) : Prop :=
  ∀ s, outcome m s =
    (answerOf {} ((firstLoaded source names).run s).1, ((firstLoaded source names).run s).2)

theorem searches_throw : Searches source [] (throw {}) := fun _ => rfl

theorem searches_load (source : Introspector σ) (name : String) :
    Searches source [name] (load source name) := by
  intro s
  rw [outcome_load, firstLoaded_cons]
  rcases outcome (source.load name) s with ⟨e | handle, t⟩ <;> rfl

/-- **One way behind another** searches through the names of both. -/
theorem Searches.orElse {m m' : Lookup σ ClassHandle} (h : Searches source names m)
    (h' : Searches source more m') : Searches source (names ++ more) (m <|> m') := by
  intro s
  rw [outcome_orElse, h s, firstLoaded_append]
  rcases (firstLoaded source names).run s with ⟨_ | handle, t⟩
  · exact h' t
  · rfl

theorem searches_fromImports (source : Introspector σ) (scope : Source.Scope) (name : String) :
    Searches source ((importFor? scope name).map (·.name)).toList (fromImports source scope name) := by
  unfold fromImports
  cases importFor? scope name with
  | none => exact searches_throw
  | some i => exact searches_load source i.name

theorem searches_fromPackageOrWildcards (r : Resolver) (source : Introspector σ)
    (scope : Source.Scope) (name : String) :
    Searches source (if r.packageFallback then fallbackNames scope name else [])
      (r.fromPackageOrWildcards source scope name) := by
  unfold fromPackageOrWildcards
  cases r.packageFallback with
  | false => exact searches_throw
  | true =>
    intro s
    simp only [Bool.not_true, Bool.false_eq_true, if_false, if_true, outcome_bind, outcome_liftState]
    rcases (firstLoaded source (fallbackNames scope name)).run s with ⟨_ | handle, t⟩ <;> rfl

/-- **A resolution is the search through the candidates.** -/
theorem outcome_resolve (r : Resolver) (source : Introspector σ) (scope : Source.Scope) (name : String)
    (s : σ) :
    outcome (r.resolve source scope name) s =
      (answerOf (.exceptionTypeNotFound name) ((firstLoaded source (r.candidates scope name)).run s).1,
        ((firstLoaded source (r.candidates scope name)).run s).2) := by
  have hsearch := (searches_load source name).orElse
    ((searches_load source (r.standardNamespace ++ "." ++ name)).orElse
      ((searches_fromImports source scope name).orElse
        (searches_fromPackageOrWildcards r source scope name)))
  have hcandidates : [name] ++ ([r.standardNamespace ++ "." ++ name] ++
      (((importFor? scope name).map (·.name)).toList ++
        (if r.packageFallback then fallbackNames scope name else []))) = r.candidates scope name := by
    simp [candidates]
  rw [hcandidates] at hsearch
  unfold resolve direct inStandardNamespace
  rw [outcome_adapt, hsearch s]
  rcases (firstLoaded source (r.candidates scope name)).run s with ⟨_ | handle, t⟩ <;> rfl

theorem resolve_eq_ok_iff {r : Resolver} {scope : Source.Scope} {name : String} {handle : ClassHandle}
    {s s' : σ} :
    outcome (r.resolve source scope name) s = (.ok handle, s') ↔
      (firstLoaded source (r.candidates scope name)).run s = (some handle, s') := by
  rw [outcome_resolve]
  rcases (firstLoaded source (r.candidates scope name)).run s with ⟨_ | found, t⟩
  · constructor <;> intro h <;> cases h
  · constructor <;> intro h <;> cases h <;> rfl

end MemberSpec.Resolver
