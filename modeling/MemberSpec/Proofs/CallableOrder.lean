import Mathlib
import MemberSpec.Source.File
import MemberSpec.Proofs.Extraction
import MemberSpec.Proofs.Source.NodeShapes

/-!
# The order of constructors and methods

The members of a type come in any order in its source, between fields, nested types and initializers.
They are read off twice, first the constructors and then the methods, and a class without constructors
gets its implicit one in their place.

* `forall₂_membersOf`: each constructor or method in a body has its callable, in the order of the source.
* `Shape`: what the callables of a declaration are, by the node that it is read off.
* `ListsAll`, `listsAll_iff`: when these are all constructors and methods that the source has. The members
  of an enum are not directly in its body, and a compact constructor has no node of its own
  (`members_missed`).
* `extract_in_order`: an extraction lists the visible constructors and then the visible methods.
* `forall₂_types`, `extract_ofTree`: all of this for the types of a tree and for an extraction from it.
* `parse_shape`: the same for every source text that is accepted.
-/

namespace MemberSpec

open Text Source Session

namespace Source

variable {t m : Tree} {d : TypeDeclaration} {c : Callable} {kind : MemberKind} {node : NodeKind}

/-! ### Members in a body -/

/-- What stands in the body of a type. -/
def bodyRow (t : Tree) : List Tree := ((t.childAs? .body).map Tree.children).getD []

/-- The nodes of a kind that stand directly in the body of a type. -/
def declaredIn (node : NodeKind) (t : Tree) : List Tree := (bodyRow t).filter (·.kind? == some node)

theorem mem_bodyRow : m ∈ bodyRow t ↔ ∃ b, t.childAs? .body = some b ∧ m ∈ b.children := by
  rw [bodyRow]
  cases t.childAs? .body <;> simp

theorem everywhere_of_mem_bodyRow {W : NodeKind → List Tree → Prop} (ht : t.Everywhere W)
    (hm : m ∈ bodyRow t) : m.Everywhere W := by
  obtain ⟨b, hb, hm⟩ := mem_bodyRow.1 hm
  exact (ht.child (List.mem_of_find?_eq_some hb)).child hm

theorem childAs?_isSome (h : ∃ c ∈ m.children, c.role? = some .name) :
    ∃ name, m.childAs? .name = some name := by
  obtain ⟨c, hc, hrole⟩ := h
  rw [← Option.isSome_iff_exists, Tree.childAs?, List.find?_isSome]
  exact ⟨c, hc, by simp [hrole]⟩

theorem exists_callableOf? (hm : m.Everywhere NodeShape) (hkind : m.kind? = some node)
    (hnamed : isNamed node = true) : ∃ c, callableOf? kind m = some c := by
  obtain ⟨name, hname⟩ := childAs?_isSome ((hm.holds hkind).named hnamed)
  rw [callableOf?, hname]
  exact ⟨_, rfl⟩

theorem callableOf?_eq_some (h : callableOf? kind m = some c) :
    (∃ name, m.childAs? .name = some name) ∧ c.kind = kind ∧ c.isImplicit = false := by
  unfold callableOf? at h
  cases hname : m.childAs? .name with
  | none =>
    rw [hname] at h
    cases h
  | some name =>
    rw [hname] at h
    cases h
    exact ⟨⟨name, rfl⟩, rfl, rfl⟩

/-- **No constructor or method of a body is lost**, and their order is kept. -/
theorem forall₂_membersOf (kind : MemberKind) (ht : t.Everywhere NodeShape)
    (hnamed : isNamed node = true) :
    List.Forall₂ (fun m c => callableOf? kind m = some c) (declaredIn node t)
      (membersOf node kind t) := by
  refine Member.forall₂_filterMap (fun m hm hnode => ?_) fun m hm hnode => ?_
  · have hkind : m.kind? = some node := by simpa using hnode
    obtain ⟨c, hc⟩ := exists_callableOf? (everywhere_of_mem_bodyRow ht hm) hkind hnamed
    exact ⟨c, by rw [if_pos hkind, hc], hc⟩
  · have hkind : m.kind? ≠ some node := by simpa using hnode
    rw [if_neg hkind]

theorem mem_membersOf (h : c ∈ membersOf node kind t) : c.kind = kind ∧ c.isImplicit = false := by
  obtain ⟨m, -, hm⟩ := List.mem_filterMap.1 h
  split at hm
  · exact (callableOf?_eq_some hm).2
  · cases hm

theorem membersOf_enum (ht : t.Everywhere NodeShape) (hkind : t.kind? = some .enumDeclaration)
    (hnode : node = .constructorDeclaration ∨ node = .methodDeclaration) :
    membersOf node kind t = [] := by
  refine List.filterMap_eq_nil_iff.2 fun m hm => ?_
  obtain ⟨b, hb, hm⟩ := mem_bodyRow.1 hm
  have hrole := List.find?_some hb
  -- what is directly in the body are constants, and the members are in a body of their own
  have hcallable := (ht.holds hkind).enumBody rfl b (List.mem_of_find?_eq_some hb)
    (by simpa using hrole) m hm
  rw [if_neg]
  intro hnodeKind
  rcases hnode with rfl | rfl <;> simp [Tree.isCallable, hnodeKind] at hcallable

theorem declaredIn_enum (ht : t.Everywhere NodeShape) (hkind : t.kind? = some .enumDeclaration)
    (hnode : node = .constructorDeclaration ∨ node = .methodDeclaration) : declaredIn node t = [] := by
  have hnamed : isNamed node = true := by rcases hnode with rfl | rfl <;> rfl
  have h := forall₂_membersOf .method ht hnamed
  rw [membersOf_enum ht hkind hnode] at h
  exact List.forall₂_nil_right_iff.1 h

/-! ### Callables of a declaration -/

/-- What the callables of a declaration are: the constructors in the body of its node and then the
methods there, with an implicit constructor exactly in classes that declare none. -/
structure Shape (t : Tree) (d : TypeDeclaration) : Prop where
  kind : t.kind? >>= typeKind? = some d.kind
  grouped : d.callables = d.constructors ++ d.methods
  constructors : List.Forall₂ (fun m c => callableOf? .constructor m = some c)
    (declaredIn .constructorDeclaration t) (d.constructors.filter (!·.isImplicit))
  methods : List.Forall₂ (fun m c => callableOf? .method m = some c)
    (declaredIn .methodDeclaration t) d.methods
  nonempty : d.kind = .classType → d.constructors ≠ []
  implicit_iff : (∃ c ∈ d.callables, c.isImplicit = true) ↔
    d.kind = .classType ∧ declaredIn .constructorDeclaration t = []
  implicit : ∀ c ∈ d.callables, c.isImplicit = true →
    d.constructors = [c] ∧ d.callables.head? = some c ∧ c.name = d.name ∧ c.parameters = [] ∧
      c.typeParameters = [] ∧ c.javadoc = none ∧
      c.modifiers = d.modifiers.filter accessKeywords.contains

/-- The constructors of a declaration: those in its body or the implicit one. -/
def constructorsOf (d : TypeDeclaration) (t : Tree) : List Callable :=
  let declared := membersOf .constructorDeclaration .constructor t
  if d.kind = .classType && declared.isEmpty then [implicitConstructor d.name d.modifiers]
  else declared

theorem typeDeclaration?_eq_some (h : typeDeclaration? t = some d) :
    t.kind? >>= typeKind? = some d.kind ∧
      d.callables = constructorsOf d t ++ membersOf .methodDeclaration .method t := by
  unfold typeDeclaration? at h
  obtain ⟨kind, hkind, h⟩ := Option.bind_eq_some_iff.1 h
  obtain ⟨name, -, h⟩ := Option.bind_eq_some_iff.1 h
  cases h
  exact ⟨hkind, rfl⟩

theorem mem_constructorsOf (h : c ∈ constructorsOf d t) : c.kind = .constructor := by
  unfold constructorsOf at h
  simp only at h
  split at h
  · rw [List.mem_singleton.1 h]
    rfl
  · exact (mem_membersOf h).1

/-- Callables that are constructors and then methods are told apart by their kinds. -/
theorem filter_kind {cs ms : List Callable} (hcs : ∀ c ∈ cs, c.kind = .constructor)
    (hms : ∀ c ∈ ms, c.kind = .method) (h : d.callables = cs ++ ms) :
    d.constructors = cs ∧ d.methods = ms := by
  rw [TypeDeclaration.constructors, TypeDeclaration.methods, h, List.filter_append, List.filter_append,
    List.filter_eq_self.2 fun c hc => by simp [hcs c hc],
    List.filter_eq_nil_iff.2 fun c hc => by simp [hms c hc],
    List.filter_eq_nil_iff.2 fun c hc => by simp [hcs c hc],
    List.filter_eq_self.2 fun c hc => by simp [hms c hc]]
  exact ⟨List.append_nil cs, rfl⟩

/-- A constructor of a declaration is the implicit one in classes that declare none, and else one that
is declared. -/
theorem constructorsOf_cases (d : TypeDeclaration) (t : Tree) :
    (d.kind = .classType ∧ membersOf .constructorDeclaration .constructor t = [] ∧
      constructorsOf d t = [implicitConstructor d.name d.modifiers]) ∨
    (constructorsOf d t = membersOf .constructorDeclaration .constructor t ∧
      (d.kind = .classType → constructorsOf d t ≠ [])) := by
  unfold constructorsOf
  simp only
  split
  · rename_i himplicit
    obtain ⟨hclass, hnone⟩ := by simpa using himplicit
    exact .inl ⟨hclass, hnone, rfl⟩
  · rename_i hdeclared
    refine .inr ⟨rfl, fun hclass hnone => ?_⟩
    simp [hclass, hnone] at hdeclared

section

variable (ht : t.Everywhere NodeShape) (hkind : t.kind? >>= typeKind? = some d.kind)
  (hcallables : d.callables = d.constructors ++ d.methods)
  (hms : d.methods = membersOf .methodDeclaration .method t)

include ht hkind hcallables hms

theorem shape_of_implicit (hclass : d.kind = .classType)
    (hnone : membersOf .constructorDeclaration .constructor t = [])
    (hcs : d.constructors = [implicitConstructor d.name d.modifiers]) : Shape t d := by
  have hdeclared : declaredIn .constructorDeclaration t = [] := by
    rw [← List.forall₂_nil_right_iff, ← hnone]
    exact forall₂_membersOf .constructor ht rfl
  refine ⟨hkind, hcallables, ?_, hms ▸ forall₂_membersOf .method ht rfl, by simp [hcs], ?_, ?_⟩
  · rw [hcs, hdeclared]
    exact .nil
  · refine ⟨fun _ => ⟨hclass, hdeclared⟩, fun _ => ⟨implicitConstructor d.name d.modifiers, ?_, rfl⟩⟩
    simp [hcallables, hcs]
  · intro c hc himplicit
    rw [hcallables, hcs, List.mem_append, List.mem_singleton] at hc
    rcases hc with rfl | hc
    · exact ⟨hcs, by simp [hcallables, hcs], rfl, rfl, rfl, rfl, rfl⟩
    · -- a method is declared, so it is not implicit
      rw [hms] at hc
      simp [(mem_membersOf hc).2] at himplicit

theorem shape_of_declared
    (hcs : d.constructors = membersOf .constructorDeclaration .constructor t)
    (hclass : d.kind = .classType → d.constructors ≠ []) : Shape t d := by
  have hdeclared : List.Forall₂ (fun m c => callableOf? .constructor m = some c)
      (declaredIn .constructorDeclaration t) d.constructors :=
    hcs ▸ forall₂_membersOf .constructor ht rfl
  have hconstructor : ∀ c ∈ d.constructors, c.isImplicit = false := by
    rw [hcs]
    exact fun c hc => (mem_membersOf hc).2
  have hcallable : ∀ c ∈ d.callables, c.isImplicit = false := by
    rw [hcallables, hms]
    exact fun c hc => (List.mem_append.1 hc).elim (hconstructor c) fun hc => (mem_membersOf hc).2
  refine ⟨hkind, hcallables, ?_, hms ▸ forall₂_membersOf .method ht rfl, hclass, ?_, ?_⟩
  · rw [List.filter_eq_self.2 fun c hc => by simp [hconstructor c hc]]
    exact hdeclared
  · constructor
    · rintro ⟨c, hc, himplicit⟩
      simp [hcallable c hc] at himplicit
    · rintro ⟨hkindClass, hnone⟩
      rw [hnone, List.forall₂_nil_left_iff] at hdeclared
      exact absurd hdeclared (hclass hkindClass)
  · intro c hc himplicit
    simp [hcallable c hc] at himplicit

end

/-- **The callables of a declaration** are those that the body of its node declares. -/
theorem shape_of_typeDeclaration? (ht : t.Everywhere NodeShape) (h : typeDeclaration? t = some d) :
    Shape t d := by
  obtain ⟨hkind, hcallables⟩ := typeDeclaration?_eq_some h
  obtain ⟨hcs, hms⟩ := filter_kind (fun c => mem_constructorsOf) (fun c hc => (mem_membersOf hc).1)
    hcallables
  have hgrouped : d.callables = d.constructors ++ d.methods := by rw [hcs, hms, hcallables]
  rcases constructorsOf_cases d t with ⟨hclass, hnone, himplicit⟩ | ⟨hdeclared, hclass⟩
  · exact shape_of_implicit ht hkind hgrouped hms hclass hnone (hcs.trans himplicit)
  · exact shape_of_declared ht hkind hgrouped hms (hcs.trans hdeclared) (hcs ▸ hclass)

/-! ### Declarations that list all members -/

/-- The part of the body of an enum behind its constants. -/
def isMemberBody (b : Tree) : Bool :=
  b.kind? == some .body && b.children.head?.any (Tree.isToken ";")

/-- Where the members of a type are: in its body, and for an enum behind its constants. -/
def memberRow (t : Tree) : List Tree :=
  if t.kind? = some .enumDeclaration then ((bodyRow t).filter isMemberBody).flatMap Tree.children
  else bodyRow t

/-- The constructors that the source of a type has. A compact constructor has no node around it and
shows by its name. -/
def sourceConstructors (t : Tree) : List Tree :=
  (memberRow t).filter fun m => m.kind? == some .constructorDeclaration || m.kind? == some .name

/-- The methods that the source of a type has. -/
def sourceMethods (t : Tree) : List Tree := (memberRow t).filter (·.kind? == some .methodDeclaration)

/-- The declaration has all constructors and methods of the source, in their order. -/
def ListsAll (t : Tree) (d : TypeDeclaration) : Prop :=
  List.Forall₂ (fun m c => callableOf? .constructor m = some c) (sourceConstructors t)
      (d.constructors.filter (!·.isImplicit)) ∧
    List.Forall₂ (fun m c => callableOf? .method m = some c) (sourceMethods t) d.methods

/-- No compact constructors, and no constructors and methods in an enum. -/
structure Direct (t : Tree) : Prop where
  compact : ∀ m ∈ memberRow t, m.kind? ≠ some .name
  enum : t.kind? = some .enumDeclaration → ∀ m ∈ memberRow t, m.isCallable = false

theorem everywhere_of_mem_memberRow {W : NodeKind → List Tree → Prop} (ht : t.Everywhere W)
    (hm : m ∈ memberRow t) : m.Everywhere W := by
  unfold memberRow at hm
  split at hm
  · obtain ⟨b, hb, hm⟩ := List.mem_flatMap.1 hm
    exact (everywhere_of_mem_bodyRow ht (List.mem_filter.1 hb).1).child hm
  · exact everywhere_of_mem_bodyRow ht hm

theorem childAs?_of_name (hm : m.Everywhere NodeShape) (hkind : m.kind? = some .name) :
    m.childAs? .name = none := by
  refine List.find?_eq_none.2 fun c hc => ?_
  simp [(hm.holds hkind).single rfl c hc]

/-- No declaration lists a compact constructor. -/
theorem ListsAll.compact (ht : t.Everywhere NodeShape) (h : ListsAll t d) :
    ∀ m ∈ memberRow t, m.kind? ≠ some .name := by
  intro m hm hkind
  have hnamed := h.1.imp fun m c hc => And.intro (callableOf?_eq_some hc).1 hc
  -- it counts among the constructors of the source, but a name has no name to read
  have hmem : m ∈ sourceConstructors t := List.mem_filter.2 ⟨hm, by simp [hkind]⟩
  obtain ⟨name, hname⟩ := ((List.forall₂_and_left _ _).1 hnamed).1 m hmem
  rw [childAs?_of_name (everywhere_of_mem_memberRow ht hm) hkind] at hname
  cases hname

/-- The declaration of an enum lists nothing. -/
theorem listsAll_enum_iff (ht : t.Everywhere NodeShape) (h : Shape t d)
    (henum : t.kind? = some .enumDeclaration) :
    ListsAll t d ↔ sourceConstructors t = [] ∧ sourceMethods t = [] := by
  have hcs := h.constructors
  have hms := h.methods
  rw [declaredIn_enum ht henum (.inl rfl), List.forall₂_nil_left_iff] at hcs
  rw [declaredIn_enum ht henum (.inr rfl), List.forall₂_nil_left_iff] at hms
  rw [ListsAll, hcs, hms, List.forall₂_nil_right_iff, List.forall₂_nil_right_iff]

theorem sourceConstructors_eq (henum : t.kind? ≠ some .enumDeclaration)
    (h : ∀ m ∈ memberRow t, m.kind? ≠ some .name) :
    sourceConstructors t = declaredIn .constructorDeclaration t := by
  have hrow : memberRow t = bodyRow t := by rw [memberRow, if_neg henum]
  rw [sourceConstructors, declaredIn, ← hrow]
  refine List.filter_congr fun m hm => ?_
  simp [h m hm]

theorem direct_enum_iff (henum : t.kind? = some .enumDeclaration) :
    Direct t ↔ sourceConstructors t = [] ∧ sourceMethods t = [] := by
  rw [sourceConstructors, sourceMethods, List.filter_eq_nil_iff, List.filter_eq_nil_iff]
  constructor
  · intro h
    have hkinds : ∀ m ∈ memberRow t, m.kind? ≠ some .constructorDeclaration ∧
        m.kind? ≠ some .methodDeclaration := by
      intro m hm
      simpa [Tree.isCallable] using h.enum henum m hm
    exact ⟨fun m hm => by simp [hkinds m hm, h.compact m hm], fun m hm => by simp [hkinds m hm]⟩
  · rintro ⟨hcs, hms⟩
    constructor
    · intro m hm hname
      exact hcs m hm (by simp [hname])
    · intro _ m hm
      have hconstructor := hcs m hm
      have hmethod := hms m hm
      rw [Bool.or_eq_true, not_or] at hconstructor
      simpa [Tree.isCallable] using ⟨by simpa using hconstructor.1, by simpa using hmethod⟩

/-- **When all members are listed**: unless the source has compact constructors, or is an enum with
constructors or methods. -/
theorem listsAll_iff (ht : t.Everywhere NodeShape) (h : Shape t d) : ListsAll t d ↔ Direct t := by
  by_cases henum : t.kind? = some .enumDeclaration
  · rw [listsAll_enum_iff ht h henum, direct_enum_iff henum]
  · refine ⟨fun hall => ⟨hall.compact ht, fun hkind => absurd hkind henum⟩, fun hdirect => ?_⟩
    -- outside of enums the members are those in the body, which the declaration has
    rw [ListsAll, sourceConstructors_eq henum hdirect.compact, sourceMethods, memberRow, if_neg henum]
    exact ⟨h.constructors, h.methods⟩

theorem exists_typeDeclaration? (ht : t.Everywhere NodeShape) (h : t.declaresType = true) :
    ∃ d, typeDeclaration? t = some d := by
  obtain ⟨kind, hkind⟩ := Option.isSome_iff_exists.1 h
  obtain ⟨node, hnode, htype⟩ := Option.bind_eq_some_iff.1 hkind
  obtain ⟨name, hname⟩ := childAs?_isSome ((ht.holds hnode).named (by simp [isNamed, htype]))
  rw [typeDeclaration?, hkind, hname]
  exact ⟨_, rfl⟩

/-- The nodes of the types at the top of a file. -/
def typesIn (tree : Tree) : List Tree := tree.children.filter Tree.declaresType

/-- **Every type of a file**, in order. -/
theorem forall₂_types (ht : t.Everywhere NodeShape) :
    List.Forall₂ (fun t d => Shape t d ∧ (ListsAll t d ↔ Direct t))
      (typesIn t) (Unit.ofTree t).types := by
  refine Member.forall₂_filterMap (fun c hc htype => ?_) fun c _ htype =>
    Tree.typeDeclaration?_eq_none htype
  have hshaped := ht.child hc
  obtain ⟨d, hd⟩ := exists_typeDeclaration? hshaped htype
  have hshape := shape_of_typeDeclaration? hshaped hd
  exact ⟨d, hd, hshape, listsAll_iff hshaped hshape⟩

end Source

/-! ### Members of an extraction -/

/-- The member is one of the declaration: its kind, name and erased types, and the names of the
parameters. -/
structure Member.Describes (classParameters : List TypeParameter) (c : Callable) (m : Member) :
    Prop where
  kind : m.kind = c.kind
  name : m.name = c.name
  names : m.parameters.map (·.name) = c.parameters.map (·.name)
  signature : m.signature = signatureOf c.name
    (c.parameters.map fun p => Erasure.erase (c.typeParameters ++ classParameters) p.fullType)

namespace Extractor

variable {σ : Type} {x : Extractor σ} {className : String} {root : Path} {members : List Member}
variable {s s' : σ}

theorem extract_describes (h : outcome (x.extract className root) s = (.ok members, s')) :
    ∃ unit d, x.readUnit (sourcePath x.extension className root) = .ok unit ∧
      unit.findClass? (String.ofList (lastPiece (· == '.') className.toList)) = some d ∧
      List.Forall₂ (Member.Describes d.typeParameters) d.visible members := by
  obtain ⟨_, unit, d, _, pairs, _, _, -, hunit, hfound, -, hpairs, hmembers⟩ := extract_eq_ok h
  obtain ⟨-, hpaired⟩ := reconcile_eq_ok_iff.1 hpairs
  obtain ⟨-, hmade⟩ := membersOf_eq_ok hmembers
  refine ⟨unit, d, hunit, hfound, ?_⟩
  refine List.forall₂_iff_get.2 ⟨hpaired.length_eq.trans hmade.length_eq, fun i hi hm => ?_⟩
  have hp : i < pairs.length := hpaired.length_eq ▸ hi
  obtain ⟨j, hj, hpair⟩ := (List.forall₂_iff_get.1 hpaired).2 i hi hp
  obtain ⟨-, hspec⟩ := (List.forall₂_iff_get.1 hmade).2 i hp hm
  rw [hpair] at hspec
  -- the key holds the kind, the name and the erased types of both sides
  have hkey := (hj j).2 rfl
  have hkind := congrArg MatchKey.kind hkey
  have hname := congrArg MatchKey.name hkey
  exact ⟨hspec.kind.trans hkind, hspec.name.trans hname, hspec.names,
    hspec.signature.trans (signature_eq_of_key hkey)⟩

/-- **The order of members.** An extraction lists the constructors that are not private and then the
methods that are not private, each in the order of the declaration. -/
theorem extract_in_order {d : TypeDeclaration} (hgrouped : d.callables = d.constructors ++ d.methods)
    (h : List.Forall₂ (Member.Describes d.typeParameters) d.visible members) :
    ∃ cs ms, members = cs ++ ms ∧
      List.Forall₂ (Member.Describes d.typeParameters) (d.constructors.filter (!·.isPrivate)) cs ∧
      List.Forall₂ (Member.Describes d.typeParameters) (d.methods.filter (!·.isPrivate)) ms := by
  have hvisible : d.visible =
      d.constructors.filter (!·.isPrivate) ++ d.methods.filter (!·.isPrivate) := by
    rw [TypeDeclaration.visible, hgrouped, List.filter_append]
  rw [hvisible] at h
  exact ⟨_, _, (List.take_append_drop _ members).symm,
    (List.forall₂_take_append members _ _ h.flip).flip,
    (List.forall₂_drop_append members _ _ h.flip).flip⟩

end Extractor

namespace Source

theorem Shape.grouped_of_forall₂ {ts : List Tree} {ds : List TypeDeclaration} {d : TypeDeclaration}
    (h : List.Forall₂ (fun t d => Shape t d ∧ (ListsAll t d ↔ Direct t)) ts ds) (hd : d ∈ ds) :
    d.callables = d.constructors ++ d.methods := by
  have hgrouped : List.Forall₂ (fun d t => d.callables = d.constructors ++ d.methods ∧ Shape t d)
      ds ts := List.Forall₂.flip (h.imp fun t d ht => ⟨ht.1.grouped, ht.1⟩)
  exact ((List.forall₂_and_left _ _).1 hgrouped).1 d hd

/-- **Members extracted from a tree** are the visible constructors and then the visible methods of the
type that is found, each in the order of the tree. -/
theorem extract_ofTree {σ : Type} {tree : Tree} (ht : tree.Everywhere NodeShape) {x : Extractor σ}
    {className : String} {root : Path} {s s' : σ} {members : List Member}
    (hread : x.readUnit (sourcePath x.extension className root) = .ok (Unit.ofTree tree))
    (h : outcome (x.extract className root) s = (.ok members, s')) :
    ∃ d ∈ (Unit.ofTree tree).types,
      (Unit.ofTree tree).findClass? (String.ofList (lastPiece (· == '.') className.toList)) = some d ∧
      ∃ cs ms, members = cs ++ ms ∧
        List.Forall₂ (Member.Describes d.typeParameters) (d.constructors.filter (!·.isPrivate)) cs ∧
        List.Forall₂ (Member.Describes d.typeParameters) (d.methods.filter (!·.isPrivate)) ms := by
  obtain ⟨unit, d, hunit, hfound, hdescribed⟩ := Extractor.extract_describes h
  -- the unit that the extraction read is the one of the tree
  rw [hread] at hunit
  cases hunit
  have hd := List.mem_of_find?_eq_some hfound
  have hgrouped := Shape.grouped_of_forall₂ (forall₂_types ht) hd
  exact ⟨d, hd, hfound, Extractor.extract_in_order hgrouped hdescribed⟩

/-- **The members of parsed types.** The types of a source text that is accepted are those at the top
of its tree, in order. The callables of each are the constructors in its body and then the methods, in
the order of the source; a class always has a constructor; and an implicit one is there exactly if a
class declares none. It is then the only constructor and the first callable, with the name of the
type, no parameters, type parameters and documentation, and with the access keywords of the type.

These are all constructors and methods of the source exactly if it has no compact constructors and is
no enum with members. An extraction from the file lists constructors and then methods, each in the
order of the source and none private. -/
theorem parse_shape {path : Path} {source : String} {u : Unit} (h : Unit.parse path source = .ok u) :
    ∃ tree, parseTree source.toList = .ok tree ∧ tree.tokens = tokensOf source ∧
      List.Forall₂ (fun t d => Shape t d ∧ (ListsAll t d ↔ Direct t))
        (typesIn tree) u.types ∧
      ∀ {σ : Type} (x : Extractor σ) (className : String) (root : Path) (s s' : σ)
        (members : List Member),
        x.readUnit (sourcePath x.extension className root) = .ok u →
        outcome (x.extract className root) s = (.ok members, s') →
        ∃ d ∈ u.types, u.findClass? (String.ofList (lastPiece (· == '.') className.toList)) = some d ∧
          ∃ cs ms, members = cs ++ ms ∧
            List.Forall₂ (Member.Describes d.typeParameters)
              (d.constructors.filter (!·.isPrivate)) cs ∧
            List.Forall₂ (Member.Describes d.typeParameters) (d.methods.filter (!·.isPrivate)) ms := by
  unfold Unit.parse at h
  split at h
  · rename_i tree htree
    cases h
    have hshaped := parseTree_shaped htree
    refine ⟨tree, htree, (parseTree_builds htree).2, forall₂_types hshaped, ?_⟩
    intro σ x className root s s' members hread hextract
    exact extract_ofTree hshaped hread hextract
  · cases h

/-- A class whose constructors and methods alternate. -/
def lidSource : String :=
  "public class Lid {void shut(long force){} int turns; Lid(int size){} private Lid(){} void open(){}}"

def lidUnit : Unit where
  scope := ⟨none, []⟩
  types := [{
    kind := .classType, name := "Lid", modifiers := ["public"], typeParameters := []
    callables := [
      ⟨.constructor, "Lid", [], [], [⟨"int", "size", [], false, 0⟩], none, false⟩,
      ⟨.constructor, "Lid", ["private"], [], [], none, false⟩,
      ⟨.method, "shut", [], [], [⟨"long", "force", [], false, 0⟩], none, false⟩,
      ⟨.method, "open", [], [], [], none, false⟩] }]

/-- The compiled class, with its members in another order. -/
def lidRegistry : Registry := .ofList [⟨⟨"Lid", .publicOnly⟩,
  [⟨.method, "open", [], some .void, ⟨0⟩⟩, ⟨.constructor, "Lid", [], none, ⟨2⟩⟩,
   ⟨.constructor, "Lid", [.primitive .int], none, ⟨0⟩⟩,
   ⟨.method, "shut", [.primitive .long], some .void, ⟨0⟩⟩]⟩]

def lidExtractor : Extractor Registry where
  introspector := Registry.introspector
  readUnit _ := .ok lidUnit
  policy := .default
  resolver := .default
  extension := "java"

def lidMembers : List Member :=
  [⟨"Lid", .constructor, "Lid", ⟨0⟩, none, [⟨.primitive .int, "size", .unknown⟩], []⟩,
   ⟨"Lid", .method, "shut", ⟨0⟩, some .void, [⟨.primitive .long, "force", .unknown⟩], []⟩,
   ⟨"Lid", .method, "open", ⟨0⟩, some .void, [], []⟩]

theorem parse_shape_lid :
    Unit.parse ⟨"src/Lid.java"⟩ lidSource = .ok lidUnit ∧
      (∃ tree, parseTree lidSource.toList = .ok tree ∧
        List.Forall₂ (fun t d => Shape t d ∧ (ListsAll t d ↔ Direct t))
          (typesIn tree) lidUnit.types) ∧
      outcome (lidExtractor.extract "Lid" ⟨"src"⟩) lidRegistry = (.ok lidMembers, lidRegistry) ∧
      ∃ d ∈ lidUnit.types, ∃ cs ms, lidMembers = cs ++ ms ∧
        List.Forall₂ (Member.Describes d.typeParameters) (d.constructors.filter (!·.isPrivate)) cs ∧
        List.Forall₂ (Member.Describes d.typeParameters) (d.methods.filter (!·.isPrivate)) ms := by
  have hparse : Unit.parse ⟨"src/Lid.java"⟩ lidSource = .ok lidUnit := by decide +kernel
  have hextract : outcome (lidExtractor.extract "Lid" ⟨"src"⟩) lidRegistry =
      (.ok lidMembers, lidRegistry) := by decide +kernel
  obtain ⟨tree, htree, -, htypes, hmembers⟩ := parse_shape hparse
  obtain ⟨d, hd, -, hlisted⟩ := hmembers lidExtractor "Lid" ⟨"src"⟩ _ _ _ rfl hextract
  exact ⟨hparse, ⟨tree, htree, htypes⟩, hextract, d, hd, hlisted⟩

/-- The numbers of constructors and methods that the types of a source have. -/
def sourceCounts (source : String) : Option (List (Nat × Nat)) :=
  (parseTree source.toList).toOption.map fun tree =>
    (typesIn tree).map fun t => ((sourceConstructors t).length, (sourceMethods t).length)

/-- The numbers of constructors and methods that are listed for the types of a source. -/
def listedCounts (source : String) : Option (List (Nat × Nat)) :=
  (Unit.parse ⟨"src"⟩ source).toOption.map fun u =>
    u.types.map fun d => (d.constructors.length, d.methods.length)

/-- **Members can be missing**: those of an enum, and the compact constructors of a record. -/
theorem members_missed :
    (sourceCounts "enum E{A;E(){}void f(){}}" = some [(1, 1)] ∧
      listedCounts "enum E{A;E(){}void f(){}}" = some [(0, 0)]) ∧
    sourceCounts "record R(int x){R{}R(){}void f(){}}" = some [(2, 1)] ∧
      listedCounts "record R(int x){R{}R(){}void f(){}}" = some [(1, 1)] := by
  decide +kernel

end Source

end MemberSpec
