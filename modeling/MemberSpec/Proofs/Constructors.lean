import Mathlib
import MemberSpec.ClassFile.Basic
import MemberSpec.Proofs.Pieces
import MemberSpec.Proofs.Reconciliation

/-!
# Constructors of top-level classes

Compiled constructors go under the simple name of their class, which is cut out of its binary name at
dots and dollar signs. Declared constructors go under the name of the class as it is written, and a
dollar sign may be a part of that.

* `simpleNameOf_qualify_eq_iff`: the two names agree iff the written name has no dollar sign.
* `reconcile_named`: under the same name, constructors with different types are paired in order.
* `reconcile_constructors_iff`: constructors of a top-level class are paired iff its name has no dollar
  sign; the first of them is not found otherwise.
-/

namespace MemberSpec

open Text

theorem simpleNameOf_qualify (scope : Source.Scope) (name : String) :
    simpleNameOf (scope.qualify name) = simpleNameOf name := by
  unfold Source.Scope.qualify
  split
  · rename_i package _
    have hdot : ".".toList = ['.'] := rfl
    rw [simpleNameOf, String.toList_append, String.toList_append, hdot, List.append_assoc,
      List.singleton_append, lastPiece_append_cons (by decide)]
    rfl
  · rfl

/-- **When a class has the simple name that it is written with.** -/
theorem simpleNameOf_qualify_eq_iff (scope : Source.Scope) {name : String} (h : '.' ∉ name.toList) :
    simpleNameOf (scope.qualify name) = name ↔ '$' ∉ name.toList := by
  have hlast : simpleNameOf name = name ↔ lastPiece isNameDivisor name.toList = name.toList := by
    rw [simpleNameOf, ← String.toList_inj, String.toList_ofList]
  rw [simpleNameOf_qualify, hlast, lastPiece_eq_self_iff]
  constructor
  · intro hfree hdollar
    exact absurd (hfree '$' hdollar) (by decide)
  · intro hdollar c hc
    have h1 : c ≠ '.' := by rintro rfl; exact h hc
    have h2 : c ≠ '$' := by rintro rfl; exact hdollar hc
    simp [isNameDivisor, h1, h2]

namespace ClassFile

/-- The constructors of a class file, in order. -/
def constructors (c : ClassFile) : List Method := c.methods.filter (·.name == constructorName)

/-- A constructor as an executable member with the given name. -/
def Method.constructorNamed (name : String) (m : Method) : Executable :=
  ⟨.constructor, name, m.parameters, none, m.access⟩

theorem executables_eq_constructors {c : ClassFile}
    (h : ∀ m ∈ c.methods, m.name = constructorName ∨ m.name = initializerName) :
    c.executables = c.constructors.map (Method.constructorNamed c.simpleName) := by
  unfold executables constructors
  generalize c.methods = methods at h ⊢
  induction methods with
  | nil => rfl
  | cons m methods ih =>
    have hrest := ih fun m hm => h m (List.mem_cons_of_mem _ hm)
    rcases h m List.mem_cons_self with hm | hm
    · have hsome : c.executable? m = some (m.constructorNamed c.simpleName) := by
        rw [executable?, hm]
        rfl
      rw [List.filterMap_cons_some hsome, hrest, List.filter_cons_of_pos (by simp [hm]),
        List.map_cons]
    · have hnone : c.executable? m = none := by
        rw [executable?, hm]
        rfl
      rw [List.filterMap_cons_none hnone, hrest, List.filter_cons_of_neg]
      rw [hm]
      decide

end ClassFile

open ClassFile

/-- The declaration of a constructor in a class with the given name, and its compiled form: their
parameter types erase to the same names. -/
structure CompiledTo (classParameters : List Source.TypeParameter) (name : String)
    (d : Source.Callable) (m : Method) : Prop where
  kind : d.kind = .constructor
  name : d.name = name
  types : (MatchKey.ofDeclaration classParameters d).parameterTypes =
    m.parameters.map JavaType.simpleName

theorem CompiledTo.key {classParameters : List Source.TypeParameter} {name : String}
    {d : Source.Callable} {m : Method} (h : CompiledTo classParameters name d m) :
    MatchKey.ofDeclaration classParameters d = MatchKey.ofExecutable (m.constructorNamed name) := by
  obtain ⟨hkind, hname, htypes⟩ := h
  have hkey : MatchKey.ofDeclaration classParameters d =
      ⟨d.kind, d.name, (MatchKey.ofDeclaration classParameters d).parameterTypes⟩ := rfl
  rw [hkey, hkind, hname, htypes]
  rfl

theorem reconcile_named {className name : String} {classParameters : List Source.TypeParameter}
    {declarations : List Source.Callable} {methods : List Method}
    (hcompiled : List.Forall₂ (CompiledTo classParameters name) declarations methods)
    (hdistinct : (methods.map fun m => m.parameters.map JavaType.simpleName).Nodup) :
    reconcile className classParameters declarations
        (methods.map (Method.constructorNamed name)) =
      .ok (List.zipWith ReconciledPair.mk declarations
        (methods.map (Method.constructorNamed name))) := by
  have hkeys : declarations.map (MatchKey.ofDeclaration classParameters) =
      (methods.map (Method.constructorNamed name)).map MatchKey.ofExecutable := by
    rw [List.map_map, ← List.forall₂_eq_eq_eq, List.forall₂_map_left_iff,
      List.forall₂_map_right_iff]
    exact hcompiled.imp fun _ _ h => h.key
  have hnodup : ((methods.map (Method.constructorNamed name)).map
      MatchKey.ofExecutable).Nodup := by
    have htypes : (methods.map (Method.constructorNamed name)).map MatchKey.ofExecutable =
        (methods.map fun m => m.parameters.map JavaType.simpleName).map
          (MatchKey.mk .constructor name) := by
      rw [List.map_map, List.map_map]
      rfl
    rw [htypes]
    refine hdistinct.map fun types types' h => ?_
    exact (MatchKey.mk.inj h).2.2
  exact reconcile_eq_ok_of_keys hkeys hnodup

/-- A top-level class that declares constructors and no methods, and its class file: the constructors
are declared in the order in which they are compiled, and no two of them have the same types. -/
structure DeclaresConstructors (scope : Source.Scope) (name : String)
    (classParameters : List Source.TypeParameter) (declarations : List Source.Callable)
    (c : ClassFile) : Prop where
  undivided : '.' ∉ name.toList
  binaryName : c.name = scope.qualify name
  methods : ∀ m ∈ c.methods, m.name = constructorName ∨ m.name = initializerName
  compiled : List.Forall₂ (CompiledTo classParameters name) declarations c.constructors
  distinct : (c.constructors.map fun m => m.parameters.map JavaType.simpleName).Nodup

section DeclaresConstructors

variable {scope : Source.Scope} {name : String} {classParameters : List Source.TypeParameter}
variable {declarations : List Source.Callable} {c : ClassFile}

theorem DeclaresConstructors.simpleName_eq_iff
    (h : DeclaresConstructors scope name classParameters declarations c) :
    c.simpleName = name ↔ '$' ∉ name.toList := by
  rw [ClassFile.simpleName, h.binaryName]
  exact simpleNameOf_qualify_eq_iff scope h.undivided

/-- The compiled constructors have the written name iff the class has it, or there are none. -/
theorem DeclaresConstructors.executables_eq_iff
    (h : DeclaresConstructors scope name classParameters declarations c) :
    c.executables = c.constructors.map (Method.constructorNamed name) ↔
      '$' ∉ name.toList ∨ declarations = [] := by
  rw [executables_eq_constructors h.methods, ← h.simpleName_eq_iff]
  have hcompiled := h.compiled
  cases hc : c.constructors with
  | nil =>
    rw [hc, List.forall₂_nil_right_iff] at hcompiled
    simp [hcompiled]
  | cons m ms =>
    obtain ⟨d, ds, -, -, hd⟩ := List.forall₂_cons_right_iff.1 (hc ▸ hcompiled)
    constructor
    · intro heq
      left
      exact congrArg Executable.name (List.cons.inj heq).1
    · rintro (heq | hnil)
      · rw [heq]
      · rw [hd] at hnil
        cases hnil

theorem DeclaresConstructors.memberNotFound (className : String)
    (h : DeclaresConstructors scope name classParameters declarations c)
    (hdollar : '$' ∈ name.toList) {d : Source.Callable} {ds : List Source.Callable}
    (hd : declarations = d :: ds) :
    reconcile className classParameters declarations c.executables =
      .error (.memberNotFound className d.signature) := by
  have hname : c.simpleName ≠ name := fun hname => h.simpleName_eq_iff.1 hname hdollar
  have hexecutables := executables_eq_constructors h.methods
  have hcompiled := h.compiled
  have hlen : declarations.length = c.executables.length := by
    rw [hexecutables, List.length_map]
    exact hcompiled.length_eq
  subst hd
  obtain ⟨m, ms, hm, -, -⟩ := List.forall₂_cons_left_iff.1 hcompiled
  refine reconcile_cons_eq_memberNotFound hlen fun e he hkey => hname ?_
  -- every executable has the simple name, and the key of the declaration has the written one
  rw [hexecutables] at he
  obtain ⟨m', -, rfl⟩ := List.mem_map.1 he
  rw [hm.key] at hkey
  exact congrArg MatchKey.name hkey

/-- **Constructors and dollar signs.** The compiled constructors of a top-level class go under the name
that the class is written with, and are paired with the declared ones, iff that name has no dollar
sign (or there is nothing to pair). Otherwise the first declared constructor is not found. -/
theorem reconcile_constructors_iff (className : String)
    (h : DeclaresConstructors scope name classParameters declarations c) :
    (c.executables = c.constructors.map (Method.constructorNamed name) ↔
      '$' ∉ name.toList ∨ declarations = []) ∧
    (reconcile className classParameters declarations c.executables =
        .ok (List.zipWith ReconciledPair.mk declarations c.executables) ↔
      '$' ∉ name.toList ∨ declarations = []) ∧
    (∀ d ds, '$' ∈ name.toList → declarations = d :: ds →
      reconcile className classParameters declarations c.executables =
        .error (.memberNotFound className d.signature)) := by
  refine ⟨h.executables_eq_iff, ⟨fun hok => ?_, fun hname => ?_⟩,
    fun d ds hdollar hd => h.memberNotFound className hdollar hd⟩
  · by_contra hcontra
    rw [not_or, not_not] at hcontra
    obtain ⟨d, ds, hd⟩ := List.exists_cons_of_ne_nil hcontra.2
    rw [h.memberNotFound className hcontra.1 hd] at hok
    cases hok
  · rw [h.executables_eq_iff.2 hname]
    exact reconcile_named h.compiled h.distinct

end DeclaresConstructors

/-- A public constructor declaration with parameters of the given types. -/
def publicConstructor (name : String) (types : List String) : Source.Callable :=
  { publicDeclaration name types with kind := .constructor }

/-- A class file with a static initializer and public constructors of the given types. -/
def constructorClass (name : String) (types : List (List JavaType)) : ClassFile where
  name := name
  access := .publicOnly
  methods := ⟨initializerName, ⟨8⟩, [], .void⟩ ::
    types.map fun parameters => ⟨constructorName, .publicOnly, parameters, .void⟩

/-- Overloaded constructors of a class in a package whose name has a dollar sign. -/
theorem reconcile_constructors_overloads :
    let c := constructorClass "a$b.Box" [[.primitive .int], [.reference "java.util.Map$Entry"]]
    let declarations :=
      [publicConstructor "Box" ["int"], publicConstructor "Box" ["Map.Entry<K, V>"]]
    DeclaresConstructors ⟨some "a$b", []⟩ "Box" [] declarations c ∧
      c.executables = c.constructors.map (Method.constructorNamed "Box") ∧
      reconcile "a$b.Box" [] declarations c.executables =
        .ok (List.zipWith ReconciledPair.mk declarations c.executables) := by
  intro c declarations
  have h : DeclaresConstructors ⟨some "a$b", []⟩ "Box" [] declarations c := by
    refine ⟨by decide, by decide, by decide, ?_, by decide +kernel⟩
    exact .cons ⟨rfl, rfl, by decide +kernel⟩ (.cons ⟨rfl, rfl, by decide +kernel⟩ .nil)
  obtain ⟨hnames, hpairs, -⟩ := reconcile_constructors_iff "a$b.Box" h
  exact ⟨h, hnames.2 (.inl (by decide)), hpairs.2 (.inl (by decide))⟩

/-- **A dollar sign hides a constructor.** The constructor of the top-level class `Box$Gen` is compiled
under the name `Gen`, and the declared one is not found. -/
theorem reconcile_loses_constructor :
    ¬ ∀ (scope : Source.Scope) (name className : String)
        (classParameters : List Source.TypeParameter) (declarations : List Source.Callable)
        (c : ClassFile), DeclaresConstructors scope name classParameters declarations c →
      c.executables = c.constructors.map (Method.constructorNamed name) ∧
        reconcile className classParameters declarations c.executables =
          .ok (List.zipWith ReconciledPair.mk declarations c.executables) := by
  intro h
  have hdeclares : DeclaresConstructors ⟨some "acme", []⟩ "Box$Gen" []
      [publicConstructor "Box$Gen" []] (constructorClass "acme.Box$Gen" [[]]) :=
    ⟨by decide, by decide, by decide, .cons ⟨rfl, rfl, rfl⟩ .nil, by decide⟩
  exact absurd (h _ _ "acme.Box$Gen" _ _ _ hdeclares).2 (by decide +kernel)

end MemberSpec
