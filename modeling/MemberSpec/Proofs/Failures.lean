import Mathlib
import MemberSpec.Extract
import MemberSpec.Proofs.Session

/-!
# How an extraction can fail

Each stage of an extraction has causes of its own, and an extraction fails as one of its stages does
(`extract_failsOnly`). What is done with the members of a class, from the pairing to the tags, fails only
for reasons that have to do with members (`membersOf_failsOnly`). So where an extraction misses a source
file, reading the source has missed it, at the place that belongs to the name of the class
(`extract_failsOnly_missesSource`).
-/

namespace MemberSpec

namespace Session

variable {σ ε ε' α β : Type}

theorem outcome_bind_eq_error {m : Session σ ε α} {f : α → Session σ ε β} {s s' : σ} {e : ε} :
    outcome (m >>= f) s = (.error e, s') ↔ outcome m s = (.error e, s') ∨
      ∃ a t, outcome m s = (.ok a, t) ∧ outcome (f a) t = (.error e, s') := by
  rw [outcome_bind]
  rcases outcome m s with ⟨e' | a, t⟩
  · simp
  · constructor
    · intro h
      exact .inr ⟨a, t, rfl, h⟩
    · rintro (h | ⟨a', t', h, h'⟩)
      · cases h
      · cases h
        exact h'

/-- Every failure of a computation is one of `E`, whatever state it starts in. -/
def FailsOnly (m : Session σ ε α) (E : ε → Prop) : Prop :=
  ∀ s e s', outcome m s = (.error e, s') → E e

variable {E : ε → Prop}

theorem failsOnly_pure (a : α) : FailsOnly (pure a : Session σ ε α) E := by
  intro s e s' h
  cases h

theorem failsOnly_throw {e : ε} (he : E e) : FailsOnly (throw e : Session σ ε α) E := by
  intro s e' s' h
  cases h
  exact he

theorem failsOnly_lift {x : Except ε α} (hx : ∀ e, x = .error e → E e) :
    FailsOnly (liftM x : Session σ ε α) E := by
  intro s e s' h
  rw [outcome_liftExcept, Prod.mk.injEq] at h
  exact hx e h.1

theorem failsOnly_adapt {f : ε' → ε} (hf : ∀ e, E (f e)) (m : Session σ ε' α) :
    FailsOnly (ExceptT.adapt f m) E := by
  intro s e s' h
  rw [outcome_adapt, Prod.mk.injEq] at h
  rcases hm : (outcome m s).1 with e' | a
  · rw [hm] at h
    cases h.1
    exact hf e'
  · rw [hm] at h
    cases h.1

theorem FailsOnly.mono {m : Session σ ε α} {E' : ε → Prop} (hm : FailsOnly m E)
    (h : ∀ e, E e → E' e) : FailsOnly m E' := by
  intro s e s' hs
  exact h e (hm s e s' hs)

theorem FailsOnly.bind {m : Session σ ε α} {f : α → Session σ ε β} (hm : FailsOnly m E)
    (hf : ∀ a, FailsOnly (f a) E) : FailsOnly (m >>= f) E := by
  intro s e s' h
  rcases outcome_bind_eq_error.1 h with h | ⟨a, t, -, h⟩
  · exact hm s e s' h
  · exact hf a t e s' h

/-- What follows a step without state may build on the result of the step. -/
theorem failsOnly_lift_bind {x : Except ε α} {f : α → Session σ ε β}
    (hx : ∀ e, x = .error e → E e) (hf : ∀ a, x = .ok a → FailsOnly (f a) E) :
    FailsOnly ((liftM x : Session σ ε α) >>= f) E := by
  intro s e s' h
  rcases outcome_bind_eq_error.1 h with h | ⟨a, t, hx', h⟩
  · exact failsOnly_lift hx s e s' h
  · rw [outcome_liftExcept, Prod.mk.injEq] at hx'
    exact hf a hx'.1 t e s' h

end Session

open Session

theorem exists_of_mapM_eq_error {α β ε : Type} {f : α → Except ε β} {xs : List α} {e : ε}
    (h : xs.mapM f = .error e) : ∃ x ∈ xs, f x = .error e := by
  induction xs with
  | nil => cases h
  | cons x xs ih =>
    rw [List.mapM_cons] at h
    cases hx : f x with
    | error e' =>
      rw [hx] at h
      cases h
      exact ⟨x, List.mem_cons_self, hx⟩
    | ok y =>
      rw [hx] at h
      cases hxs : xs.mapM f with
      | error e' =>
        have he : e' = e := by
          simpa [hxs, bind, Except.bind] using h
        obtain ⟨z, hz, hfz⟩ := ih (he ▸ hxs)
        exact ⟨z, List.mem_cons_of_mem _ hz, hfz⟩
      | ok ys =>
        simp [hxs, bind, Except.bind, pure, Except.pure] at h

/-- A cause that has to do with the members of a class, and not with its files. -/
def ExtractError.IsOfMembers : ExtractError → Prop
  | structuralMismatch .. | memberNotFound .. | ambiguousMember .. => True
  | parameterCountMismatch .. | unresolvedException .. => True
  | _ => False

/-- A cause that has to do with the pairing of declarations and executables. -/
def ExtractError.IsOfPairing : ExtractError → Prop
  | structuralMismatch .. | memberNotFound .. | ambiguousMember .. => True
  | _ => False

theorem ExtractError.IsOfPairing.isOfMembers {e : ExtractError} (h : e.IsOfPairing) :
    e.IsOfMembers := by
  cases e <;> trivial

theorem isOfPairing_of_reconcile {className : String} {classParameters : List Source.TypeParameter}
    {declarations : List Source.Callable} {executables : List Executable} {e : ExtractError}
    (h : reconcile className classParameters declarations executables = .error e) :
    e.IsOfPairing := by
  unfold reconcile at h
  split at h
  · cases h
    trivial
  · obtain ⟨d, -, hd⟩ := exists_of_mapM_eq_error h
    unfold pairOne at hd
    simp only at hd
    split at hd
    · cases hd
      trivial
    · cases hd
    · cases hd
      trivial

theorem isOfMembers_of_parameters {pair : ReconciledPair} {className : String}
    {policy : Nullability.Policy} {e : ExtractError}
    (h : pair.parameters className policy = .error e) : e.IsOfMembers := by
  unfold ReconciledPair.parameters at h
  simp only at h
  split at h
  · cases h
    trivial
  · cases h

namespace TagContext

variable {σ : Type} {c : TagContext} {source : Introspector σ} {r : Resolver}

/-- A documented exception type of the member cannot be resolved. -/
def LacksException (c : TagContext) (e : ExtractError) : Prop :=
  ∃ name, e = .unresolvedException c.className c.member name

theorem LacksException.isOfMembers {e : ExtractError} (h : c.LacksException e) : e.IsOfMembers := by
  obtain ⟨name, rfl⟩ := h
  trivial

theorem throwsTag_failsOnly (b : BlockTag) :
    FailsOnly (c.throwsTag source r b) c.LacksException := by
  unfold throwsTag
  simp only
  split
  · exact (failsOnly_throw ⟨_, rfl⟩).bind fun _ =>
      (failsOnly_adapt (fun _ => ⟨_, rfl⟩) _).bind fun handle => failsOnly_pure _
  · exact (failsOnly_adapt (fun _ => ⟨_, rfl⟩) _).bind fun handle => failsOnly_pure _

theorem tag?_failsOnly (b : BlockTag) : FailsOnly (c.tag? source r b) c.LacksException := by
  unfold tag?
  split
  · exact failsOnly_pure _
  · exact failsOnly_pure _
  · exact (throwsTag_failsOnly b).bind fun tag => failsOnly_pure _
  · exact failsOnly_pure _

theorem ofBlockTags_failsOnly (bs : List BlockTag) :
    FailsOnly (c.ofBlockTags source r bs) c.LacksException := by
  induction bs with
  | nil => exact failsOnly_pure _
  | cons b bs ih => exact (tag?_failsOnly b).bind fun first => ih.bind fun others => failsOnly_pure _

end TagContext

namespace Extractor

variable {σ : Type} {x : Extractor σ} {className : String} {scope : Source.Scope}

theorem member_failsOnly (pair : ReconciledPair) :
    FailsOnly (x.member className scope pair) ExtractError.IsOfMembers := by
  unfold member
  refine (failsOnly_lift fun e he => isOfMembers_of_parameters he).bind fun parameters => ?_
  refine FailsOnly.bind ?_ fun tags => failsOnly_pure _
  exact (TagContext.ofBlockTags_failsOnly _).mono fun e he => he.isOfMembers

/-- **Members fail for reasons of their own**: nothing that is done with the pairs of a class is about
its files. -/
theorem membersOf_failsOnly (pairs : List ReconciledPair) :
    FailsOnly (x.membersOf className scope pairs) ExtractError.IsOfMembers := by
  induction pairs with
  | nil => exact failsOnly_pure _
  | cons pair pairs ih =>
    exact (member_failsOnly pair).bind fun first => ih.bind fun others => failsOnly_pure _

variable {root : Path}

/-- **An extraction fails as one of its stages does**: loading the class, reading its source, finding the
declaration, listing the executables, pairing, or making the members of pairs. -/
theorem extract_failsOnly {E : ExtractError → Prop}
    (hload : ∀ cause, E (.classNotFound className cause))
    (hunit : ∀ e, x.unitOf className (sourcePath x.extension className root) = .error e → E e)
    (hfound : ∀ name path, E (.declarationNotFound name path))
    (hlisted : ∀ cause, E (.introspection className cause))
    (hpaired : ∀ e, e.IsOfPairing → E e)
    (hmembers : ∀ (scope : Source.Scope) (declaration : Source.TypeDeclaration)
      (executables : List Executable) (pairs : List ReconciledPair),
      reconcile className declaration.typeParameters declaration.visible executables = .ok pairs →
        FailsOnly (x.membersOf className scope pairs) E) :
    FailsOnly (x.extract className root) E := by
  refine (failsOnly_adapt hload _).bind fun handle => ?_
  refine (failsOnly_lift hunit).bind fun unit => ?_
  simp only
  split
  · exact failsOnly_throw (hfound _ _)
  · rename_i declaration _
    refine (failsOnly_adapt hlisted _).bind fun executables => ?_
    refine failsOnly_lift_bind (fun e he => hpaired e (isOfPairing_of_reconcile he)) ?_
    exact fun pairs hpairs => hmembers unit.scope declaration executables pairs hpairs

/-- A missing file is a missing source of the class. -/
def MissesSource (x : Extractor σ) (className : String) (root : Path) (e : ExtractError) : Prop :=
  ∀ owner missing, e = .fileNotFound owner missing →
    x.readUnit (sourcePath x.extension className root) = .error (.fileNotFound missing)

theorem missesSource_of_isOfMembers {e : ExtractError} (h : e.IsOfMembers) :
    x.MissesSource className root e := by
  rintro owner missing rfl
  cases h

theorem missesSource_of_unitOf {e : ExtractError}
    (h : x.unitOf className (sourcePath x.extension className root) = .error e) :
    x.MissesSource className root e := by
  rintro owner missing rfl
  unfold unitOf at h
  split at h
  · cases h
  · rename_i hread
    cases h
    exact hread
  · cases h

/-- **A missing file is a missing source**: no other stage of an extraction reports one. -/
theorem extract_failsOnly_missesSource :
    FailsOnly (x.extract className root) (x.MissesSource className root) := by
  refine extract_failsOnly ?_ (fun e he => missesSource_of_unitOf he) ?_ ?_
    (fun e he => missesSource_of_isOfMembers he.isOfMembers) (fun scope _ _ pairs _ => ?_)
  · rintro cause owner missing ⟨⟩
  · rintro name path owner missing ⟨⟩
  · rintro cause owner missing ⟨⟩
  · exact (membersOf_failsOnly pairs).mono fun e => missesSource_of_isOfMembers

end Extractor

end MemberSpec
