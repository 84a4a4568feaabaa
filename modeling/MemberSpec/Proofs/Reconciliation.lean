import Mathlib
import MemberSpec.Proofs.Session
import MemberSpec.Reconcile

/-!
# Pairings of declarations and executables

A declaration is paired by its key alone: with the one executable that has the key, whatever the other
declarations are paired with.

* `pairOne_eq_ok_iff`: a declaration is paired iff exactly one place in the class has its key.
* `reconcile_eq_ok_iff`: the declarations are paired in order, each on its own.
* `reconcile_eq_ok_of_keys`: lists with the same keys in the same order, all different, are paired so.
* `reconcile_bijective_iff`: the pairing is one-to-one iff no two declarations have the same key.
  Equal numbers of declarations and executables do not give that (`reconcile_shares_executable`).
-/

namespace MemberSpec

/-- A filter keeps one element iff it holds at exactly one place. -/
theorem filter_eq_singleton_iff {α : Type} {p : α → Bool} {l : List α} {a : α} :
    l.filter p = [a] ↔
      ∃ j : Fin l.length, l[j] = a ∧ ∀ k : Fin l.length, p l[k] = true ↔ k = j := by
  constructor
  · intro h
    obtain ⟨before, behind, rfl, hbefore, ha, hbehind⟩ := List.filter_eq_cons_iff.1 h
    rw [List.filter_eq_nil_iff] at hbehind
    refine ⟨⟨before.length, by simp⟩, by simp, fun k => ⟨fun hk => ?_, fun hk => by simp [hk, ha]⟩⟩
    obtain ⟨k, hlt⟩ := k
    rw [Fin.mk.injEq]
    rcases Nat.lt_trichotomy k before.length with hk' | hk' | hk'
    · refine absurd hk (hbefore _ ?_)
      simp [List.getElem_append_left hk']
    · exact hk'
    · obtain ⟨n, rfl⟩ : ∃ n, k = before.length + (n + 1) := ⟨k - before.length - 1, by omega⟩
      refine absurd hk (hbehind _ ?_)
      simp
  · rintro ⟨j, rfl, hj⟩
    have hplace : ∀ (i : Nat) (hi : i < l.length), p l[i] = true → i = j := fun i hi hp =>
      congrArg Fin.val ((hj ⟨i, hi⟩).1 hp)
    have hsplit : l = l.take j ++ l[j] :: l.drop (j + 1) := by simp
    rw [List.filter_eq_cons_iff]
    refine ⟨_, _, hsplit, ?_, (hj j).2 rfl, List.filter_eq_nil_iff.2 ?_⟩
    · intro x hx hpx
      obtain ⟨i, hi, rfl⟩ := List.getElem_of_mem hx
      rw [List.length_take] at hi
      rw [List.getElem_take] at hpx
      have := hplace i (by omega) hpx
      omega
    · intro x hx hpx
      obtain ⟨i, hi, rfl⟩ := List.getElem_of_mem hx
      rw [List.length_drop] at hi
      rw [List.getElem_drop] at hpx
      have := hplace (j + 1 + i) (by omega) hpx
      omega

variable {className : String} {classParameters : List Source.TypeParameter}
variable {executables : List Executable}

/-- `j` is the one place of an executable with the key of a declaration. -/
def IsPlaceOf (classParameters : List Source.TypeParameter) (executables : List Executable)
    (d : Source.Callable) (j : Fin executables.length) : Prop :=
  ∀ k : Fin executables.length,
    MatchKey.ofExecutable executables[k] = MatchKey.ofDeclaration classParameters d ↔ k = j

/-- **One declaration.** It is paired iff its key has exactly one place among the executables, and then
with the executable there. -/
theorem pairOne_eq_ok_iff {d : Source.Callable} {pair : ReconciledPair} :
    pairOne className classParameters executables d = .ok pair ↔
      ∃ j, IsPlaceOf classParameters executables d j ∧ pair = ⟨d, executables[j]⟩ := by
  have hone : ∀ e, executables.filter
        (MatchKey.ofExecutable · == MatchKey.ofDeclaration classParameters d) = [e] ↔
      ∃ j : Fin executables.length, executables[j] = e ∧
        IsPlaceOf classParameters executables d j := by
    intro e
    rw [filter_eq_singleton_iff]
    simp only [beq_iff_eq, IsPlaceOf]
  unfold pairOne
  simp only
  split
  · rename_i hnone
    refine ⟨fun h => (by cases h), ?_⟩
    rintro ⟨j, hj, -⟩
    rw [(hone _).2 ⟨j, rfl, hj⟩] at hnone
    cases hnone
  · rename_i e hsome
    obtain ⟨j, rfl, hj⟩ := (hone e).1 hsome
    constructor
    · intro h
      cases h
      exact ⟨j, hj, rfl⟩
    · rintro ⟨j', hj', rfl⟩
      rw [(hj j').1 ((hj' j').2 rfl)]
  · rename_i hmany
    refine ⟨fun h => (by cases h), ?_⟩
    rintro ⟨j, hj, -⟩
    exact absurd ((hone _).2 ⟨j, rfl, hj⟩) (hmany _)

/-- **All declarations.** They are paired iff there are as many as executables and each one is paired. -/
theorem reconcile_eq_ok_iff {declarations : List Source.Callable} {pairs : List ReconciledPair} :
    reconcile className classParameters declarations executables = .ok pairs ↔
      declarations.length = executables.length ∧
        List.Forall₂ (fun d pair => ∃ j, IsPlaceOf classParameters executables d j ∧
          pair = ⟨d, executables[j]⟩) declarations pairs := by
  unfold reconcile
  by_cases hlen : declarations.length = executables.length
  · simp only [hlen, bne_self_eq_false, Bool.false_eq_true, if_false, true_and]
    rw [mapM_eq_ok_iff]
    simp only [pairOne_eq_ok_iff]
  · simp [hlen]

/-- **Equal lists of keys.** Declarations and executables that have the same keys in the same order, no
two of them equal, are paired in that order. -/
theorem reconcile_eq_ok_of_keys {declarations : List Source.Callable}
    (hkeys : declarations.map (MatchKey.ofDeclaration classParameters) =
      executables.map MatchKey.ofExecutable)
    (hnodup : (executables.map MatchKey.ofExecutable).Nodup) :
    reconcile className classParameters declarations executables =
      .ok (List.zipWith ReconciledPair.mk declarations executables) := by
  have hlen : declarations.length = executables.length := by
    simpa using congrArg List.length hkeys
  rw [reconcile_eq_ok_iff]
  refine ⟨hlen, List.forall₂_iff_get.2 ⟨by simp [hlen], fun i hi _ => ?_⟩⟩
  have hi' : i < executables.length := hlen ▸ hi
  have hkey : MatchKey.ofExecutable executables[i] =
      MatchKey.ofDeclaration classParameters declarations[i] := by
    have hget := congrArg (·[i]?) hkeys
    simpa [hi, hi'] using hget.symm
  refine ⟨⟨i, hi'⟩, fun k => ?_, by simp⟩
  have hplace := (List.nodup_iff_injective_get.1 hnodup).eq_iff
    (a := ⟨k, by simp⟩) (b := ⟨i, by simpa using hi'⟩)
  simp only [List.get_eq_getElem, List.getElem_map, hkey, Fin.mk.injEq] at hplace
  rw [Fin.ext_iff]
  exact hplace

/-- A declaration whose key no executable has is not found, and neither is a list that starts with it
paired. -/
theorem reconcile_cons_eq_memberNotFound {d : Source.Callable} {declarations : List Source.Callable}
    (hlen : (d :: declarations).length = executables.length)
    (h : ∀ e ∈ executables,
      MatchKey.ofExecutable e ≠ MatchKey.ofDeclaration classParameters d) :
    reconcile className classParameters (d :: declarations) executables =
      .error (.memberNotFound className d.signature) := by
  have hnone : executables.filter
      (MatchKey.ofExecutable · == MatchKey.ofDeclaration classParameters d) = [] := by
    rw [List.filter_eq_nil_iff]
    intro e he
    simpa using h e he
  have hpair : pairOne className classParameters executables d =
      .error (.memberNotFound className d.signature) := by
    unfold pairOne
    simp only [hnone]
  unfold reconcile
  simp only [hlen, bne_self_eq_false, Bool.false_eq_true, if_false, List.mapM_cons, hpair]
  rfl

theorem IsPlaceOf.eq_iff {d d' : Source.Callable} {j j' : Fin executables.length}
    (h : IsPlaceOf classParameters executables d j)
    (h' : IsPlaceOf classParameters executables d' j') :
    j = j' ↔
      MatchKey.ofDeclaration classParameters d = MatchKey.ofDeclaration classParameters d' := by
  have hj := (h j).2 rfl
  constructor
  · intro hjj
    rw [← hj, hjj]
    exact (h' j').2 rfl
  · intro hkey
    exact (h' j).1 (hj.trans hkey)

/-- **When a pairing is one-to-one.** The pairs have the declarations in order, each with the executable
at the one place that has its key; and the places of different declarations differ iff no two
declarations have the same key. The numbers being equal, every executable then has its declaration. -/
theorem reconcile_bijective_iff {declarations : List Source.Callable} {pairs : List ReconciledPair}
    (h : reconcile className classParameters declarations executables = .ok pairs) :
    ∃ place : Fin declarations.length → Fin executables.length,
      pairs = List.ofFn (fun i => ⟨declarations[i], executables[place i]⟩) ∧
      (∀ i, IsPlaceOf classParameters executables declarations[i] (place i)) ∧
      (Function.Injective place ↔
        (declarations.map (MatchKey.ofDeclaration classParameters)).Nodup) ∧
      (Function.Bijective place ↔
        (declarations.map (MatchKey.ofDeclaration classParameters)).Nodup) := by
  obtain ⟨hlen, hpairs⟩ := reconcile_eq_ok_iff.1 h
  obtain ⟨hcount, hpair⟩ := List.forall₂_iff_get.1 hpairs
  choose place hplace hget using
    fun i : Fin declarations.length => hpair i i.isLt (hcount ▸ i.isLt)
  have hinj : Function.Injective place ↔
      (declarations.map (MatchKey.ofDeclaration classParameters)).Nodup := by
    have hkeys : declarations.map (MatchKey.ofDeclaration classParameters) =
        List.ofFn fun i : Fin declarations.length =>
          MatchKey.ofDeclaration classParameters declarations[i] := by
      apply List.ext_getElem <;> simp
    rw [hkeys, List.nodup_ofFn]
    exact forall₂_congr fun i j => by rw [(hplace i).eq_iff (hplace j)]; rfl
  refine ⟨place, ?_, hplace, hinj, ?_⟩
  · apply List.ext_getElem
    · simp [hcount]
    · intro i hi _
      rw [List.getElem_ofFn]
      exact hget ⟨i, hcount ▸ hi⟩
  · rw [← hinj, Fintype.bijective_iff_injective_and_card]
    simp [hlen]

/-- A public method declaration with parameters of the given types. -/
def publicDeclaration (name : String) (types : List String) : Source.Callable where
  kind := .method
  name := name
  modifiers := ["public"]
  typeParameters := []
  parameters := types.map fun type => ⟨type, "value", [], false, 0⟩
  javadoc := none
  isImplicit := false

/-- A public compiled method without a result. -/
def publicExecutable (name : String) (types : List JavaType) : Executable :=
  ⟨.method, name, types, some .void, .publicOnly⟩

/-- Overloads that differ in a type variable's bound, listed in another order by the class. -/
theorem reconcile_bijective_overloads :
    let declarations := [publicDeclaration "put" ["T"], publicDeclaration "put" ["List<T>"]]
    let executables := [publicExecutable "put" [.reference "java.util.List"],
      publicExecutable "put" [.reference "java.lang.Number"]]
    ∃ pairs, reconcile "Box" [⟨"T", ["Number"]⟩] declarations executables = .ok pairs ∧
      ∃ place : Fin declarations.length → Fin executables.length,
        pairs = List.ofFn (fun i => ⟨declarations[i], executables[place i]⟩) ∧
        Function.Bijective place := by
  intro declarations executables
  have h : reconcile "Box" [⟨"T", ["Number"]⟩] declarations executables =
      .ok [⟨publicDeclaration "put" ["T"], publicExecutable "put" [.reference "java.lang.Number"]⟩,
        ⟨publicDeclaration "put" ["List<T>"],
          publicExecutable "put" [.reference "java.util.List"]⟩] := by decide
  obtain ⟨place, hpairs, -, -, hbij⟩ := reconcile_bijective_iff h
  exact ⟨_, h, place, hpairs, hbij.2 (by decide)⟩

/-- **Equal numbers do not make a pairing one-to-one.** Two declarations whose types have the same simple
name share an executable when the class has one of them only, and some other executable is left over. -/
theorem reconcile_shares_executable :
    ¬ ∀ (className : String) (classParameters : List Source.TypeParameter)
        (declarations : List Source.Callable) (executables : List Executable)
        (pairs : List ReconciledPair),
      reconcile className classParameters declarations executables = .ok pairs →
      ∃ place : Fin declarations.length → Fin executables.length,
        pairs = List.ofFn (fun i => ⟨declarations[i], executables[place i]⟩) ∧
        Function.Injective place := by
  intro h
  obtain ⟨place, hpairs, hinj⟩ := h "Box" []
    [publicDeclaration "put" ["java.util.Date"], publicDeclaration "put" ["java.sql.Date"]]
    [publicExecutable "put" [.reference "java.util.Date"], publicExecutable "clear" []] _ rfl
  -- Both pairs have the first executable, so an injective choice of places cannot give them.
  revert place
  decide

end MemberSpec
