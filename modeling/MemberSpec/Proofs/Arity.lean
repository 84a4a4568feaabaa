import Mathlib
import MemberSpec.Proofs.Extraction
import MemberSpec.Proofs.Failures
import MemberSpec.Proofs.Reconciliation

/-!
# Numbers of parameters

The parameters of a pair are built from two lists, and building them checks that the lists are equally
long. A pair that reconciliation made always passes: its key has one erased name for each parameter on
either side (`key_eq_of_mem_reconcile`, `parameters_length_eq_of_key`), however many dimensions,
variable arities or type variables the names were erased from.

* `parameters_eq_error_iff`: the one way in which building parameters fails.
* `arity_never_mismatches`: it does not come up in an extraction.
-/

namespace MemberSpec

open Session

variable {className : String} {classParameters : List Source.TypeParameter}
variable {executables : List Executable} {pair : ReconciledPair} {policy : Nullability.Policy}

/-- Both parts of a pair have the same key. -/
theorem key_eq_of_mem_reconcile {declarations : List Source.Callable} {pairs : List ReconciledPair}
    (h : reconcile className classParameters declarations executables = .ok pairs)
    (hpair : pair ∈ pairs) :
    MatchKey.ofExecutable pair.executable =
      MatchKey.ofDeclaration classParameters pair.declaration := by
  obtain ⟨-, hpairs⟩ := reconcile_eq_ok_iff.1 h
  obtain ⟨hlen, hget⟩ := List.forall₂_iff_get.1 hpairs
  obtain ⟨i, hi, rfl⟩ := List.getElem_of_mem hpair
  obtain ⟨j, hj, hpair⟩ := hget i (hlen ▸ hi) hi
  rw [List.get_eq_getElem] at hpair
  rw [hpair]
  exact (hj j).2 rfl

theorem parameters_length_eq_of_key
    (h : MatchKey.ofExecutable pair.executable =
      MatchKey.ofDeclaration classParameters pair.declaration) :
    pair.declaration.parameters.length = pair.executable.parameterTypes.length := by
  have htypes := congrArg (fun key => key.parameterTypes.length) h
  simpa [MatchKey.ofExecutable, MatchKey.ofDeclaration] using htypes.symm

namespace ReconciledPair

/-- Building parameters fails iff the numbers of parameters differ, and then says so. -/
theorem parameters_eq_error_iff {e : ExtractError} :
    pair.parameters className policy = .error e ↔
      pair.declaration.parameters.length ≠ pair.executable.parameterTypes.length ∧
        e = .parameterCountMismatch className pair.declaration.signature
          pair.declaration.parameters.length pair.executable.parameterTypes.length := by
  unfold parameters
  simp only
  split
  · rename_i hne
    rw [bne_iff_ne] at hne
    constructor
    · intro h
      cases h
      exact ⟨hne, rfl⟩
    · rintro ⟨-, rfl⟩
      rfl
  · rename_i heq
    rw [bne_iff_ne, not_not] at heq
    constructor
    · intro h
      cases h
    · rintro ⟨hne, -⟩
      exact absurd heq hne

theorem exists_parameters
    (h : pair.declaration.parameters.length = pair.executable.parameterTypes.length) :
    ∃ ps, pair.parameters className policy = .ok ps := by
  cases hps : pair.parameters className policy with
  | ok ps => exact ⟨ps, rfl⟩
  | error e => exact absurd h (parameters_eq_error_iff.1 hps).1

end ReconciledPair

/-- The numbers of parameters do not agree. -/
def ExtractError.IsOfArity : ExtractError → Prop
  | parameterCountMismatch .. => True
  | _ => False

namespace Extractor

variable {σ : Type} {x : Extractor σ} {scope : Source.Scope}

/-- A pair with as many parameters on either side fails by its tags only. -/
theorem member_failsOnly_notOfArity
    (h : pair.declaration.parameters.length = pair.executable.parameterTypes.length) :
    FailsOnly (x.member className scope pair) fun e => ¬ e.IsOfArity := by
  unfold member
  refine failsOnly_lift_bind (fun e he => ?_) fun parameters _ => ?_
  · exact absurd h (ReconciledPair.parameters_eq_error_iff.1 he).1
  · refine FailsOnly.bind ?_ fun tags => failsOnly_pure _
    refine (TagContext.ofBlockTags_failsOnly _).mono ?_
    rintro e ⟨name, rfl⟩ ⟨⟩

theorem membersOf_failsOnly_notOfArity {pairs : List ReconciledPair}
    (h : ∀ pair ∈ pairs,
      pair.declaration.parameters.length = pair.executable.parameterTypes.length) :
    FailsOnly (x.membersOf className scope pairs) fun e => ¬ e.IsOfArity := by
  induction pairs with
  | nil => exact failsOnly_pure _
  | cons pair pairs ih =>
    obtain ⟨hfirst, hrest⟩ := List.forall_mem_cons.1 h
    exact (member_failsOnly_notOfArity hfirst).bind fun first =>
      (ih hrest).bind fun others => failsOnly_pure _

/-- No extraction fails for the numbers of parameters. -/
theorem extract_failsOnly_notOfArity {root : Path} :
    FailsOnly (x.extract className root) fun e => ¬ e.IsOfArity := by
  refine extract_failsOnly (fun _ => id) (fun e he => ?_) (fun _ _ => id) (fun _ => id) ?_ ?_
  · unfold unitOf at he
    split at he <;> cases he <;> exact id
  · intro e he
    cases e <;> first | exact id | cases he
  · intro scope declaration executables pairs hpairs
    exact membersOf_failsOnly_notOfArity fun pair hpair =>
      parameters_length_eq_of_key (key_eq_of_mem_reconcile hpairs hpair)

end Extractor

/-- **The numbers of parameters always agree.** In every pair that reconciliation makes, the declaration
and the executable have the same kind, name and number of parameters, so that building the parameters
succeeds; hence no extraction fails for the number of parameters, whatever classes, sources, policy and
resolver it works with. Building the parameters of any two members fails exactly if the numbers
differ. -/
theorem arity_never_mismatches {σ : Type} (x : Extractor σ) (className : String) (root : Path) :
    (∀ (classParameters : List Source.TypeParameter) (declarations : List Source.Callable)
        (executables : List Executable) (pairs : List ReconciledPair),
      reconcile className classParameters declarations executables = .ok pairs →
      ∀ pair ∈ pairs,
        pair.declaration.kind = pair.executable.kind ∧
        pair.declaration.name = pair.executable.name ∧
        pair.declaration.parameters.length = pair.executable.parameterTypes.length ∧
        ∃ ps, pair.parameters className x.policy = .ok ps) ∧
    (∀ (s s' : σ) (owner member : String) (declared introspected : Nat),
      outcome (x.extract className root) s ≠
        (.error (.parameterCountMismatch owner member declared introspected), s')) ∧
    ∀ (pair : ReconciledPair) (e : ExtractError),
      pair.parameters className x.policy = .error e ↔
        pair.declaration.parameters.length ≠ pair.executable.parameterTypes.length ∧
          e = .parameterCountMismatch className pair.declaration.signature
            pair.declaration.parameters.length pair.executable.parameterTypes.length := by
  refine ⟨fun classParameters declarations executables pairs h pair hpair => ?_, ?_, ?_⟩
  · have hkey := key_eq_of_mem_reconcile h hpair
    have hlen := parameters_length_eq_of_key hkey
    have hkind := congrArg MatchKey.kind hkey
    have hname := congrArg MatchKey.name hkey
    exact ⟨hkind.symm, hname.symm, hlen, ReconciledPair.exists_parameters hlen⟩
  · intro s s' owner member declared introspected h
    exact Extractor.extract_failsOnly_notOfArity s _ s' h trivial
  · exact fun pair e => ReconciledPair.parameters_eq_error_iff

/-- A declaration with a type variable, dimensions behind a name and variable arity. -/
def spreadDeclaration : Source.Callable :=
  { kind := .method, name := "put", modifiers := [], typeParameters := [⟨"T", ["Number"]⟩]
    parameters := [⟨"T", "key", [], false, 1⟩, ⟨"List<T>", "items", [], true, 0⟩]
    javadoc := none, isImplicit := false }

def spreadExecutable : Executable :=
  publicExecutable "put" [.array (.reference "java.lang.Number") 1,
    .array (.reference "java.util.List") 1]

theorem arity_never_mismatches_spread :
    reconcile "acme.Box" [] [spreadDeclaration] [spreadExecutable] =
        .ok [⟨spreadDeclaration, spreadExecutable⟩] ∧
      ∃ ps, (⟨spreadDeclaration, spreadExecutable⟩ : ReconciledPair).parameters "acme.Box"
        Extractor.boxExtractor.policy = .ok ps := by
  have h : reconcile "acme.Box" [] [spreadDeclaration] [spreadExecutable] =
      .ok [⟨spreadDeclaration, spreadExecutable⟩] := by decide
  obtain ⟨hpairs, -, -⟩ := arity_never_mismatches Extractor.boxExtractor "acme.Box" ⟨"src"⟩
  exact ⟨h, (hpairs _ _ _ _ h _ (List.mem_singleton.2 rfl)).2.2.2⟩

end MemberSpec
