import Mathlib
import MemberSpec.Extract
import MemberSpec.Proofs.Reconciliation
import MemberSpec.Proofs.Tags
import MemberSpec.Registry

/-!
# What an extracted member says

An extraction that succeeds gives one member for each visible declaration, in order, and each member
joins the declaration with an executable of the compiled class that has its key.

* `Member.Specifies`: types, name and flags from the executable; parameter names, nullability and tags
  from the declaration.
* `membersOf_eq_ok`: every pair gets its member, and all look-ups happen on the way.
* `extract_eq_ok`: the stages of an extraction that succeeds.
* `extract_sound`: what follows for each member, from its flags to its tags.
-/

namespace MemberSpec

open Session Text

theorem visibleExecutables_perm (es : List Executable) :
    (visibleExecutables es).Perm (es.filter Executable.isVisible) := by
  have hmethods : ∀ visible : List Executable, visible.filter (·.kind == .method) =
      visible.filter fun e => !(e.kind == .constructor) := by
    intro visible
    apply List.filter_congr
    intro e _
    cases e.kind <;> rfl
  unfold visibleExecutables
  simp only [hmethods]
  exact List.filter_append_perm _ _

theorem mem_visibleExecutables {es : List Executable} {e : Executable} :
    e ∈ visibleExecutables es ↔ e ∈ es ∧ e.isVisible = true := by
  rw [(visibleExecutables_perm es).mem_iff, List.mem_filter]

theorem length_visibleExecutables (es : List Executable) :
    (visibleExecutables es).length = es.countP Executable.isVisible := by
  rw [(visibleExecutables_perm es).length_eq, List.countP_eq_length_filter]

/-- The member has its types, name and flags from `e`, and its parameter names, nullability and tags
from `d`. The types of throws tags are among `Loaded`. -/
structure Member.Specifies (m : Member) (policy : Nullability.Policy) (Loaded : ClassHandle → Prop)
    (d : Source.Callable) (e : Executable) : Prop where
  kind : m.kind = e.kind
  name : m.name = e.name
  modifiers : m.modifiers = e.modifiers
  returnType : m.returnType = e.returnType
  types : m.parameters.map (·.type) = e.parameterTypes
  names : m.parameters.map (·.name) = d.parameters.map (·.name)
  nullability : m.parameters.map (·.nullability) =
    d.parameters.map fun p => policy.classify p.annotations
  tags : ∃ kept, kept.Sublist (documentedTags d.javadoc) ∧
    List.Forall₂ (fun b tag => b.Becomes m.parameters Loaded tag) kept m.tags

namespace Member

variable {m : Member} {policy : Nullability.Policy} {Loaded Loaded' : ClassHandle → Prop}
variable {d : Source.Callable} {e : Executable}

theorem Specifies.mono (h : m.Specifies policy Loaded d e)
    (hsub : ∀ handle, Loaded handle → Loaded' handle) : m.Specifies policy Loaded' d e := by
  obtain ⟨kept, hkept, htags⟩ := h.tags
  exact { h with tags := ⟨kept, hkept, htags.imp fun _ _ hb => hb.mono hsub⟩ }

theorem Specifies.exists_blockTag (h : m.Specifies policy Loaded d e) {tag : Tag}
    (htag : tag ∈ m.tags) : ∃ b ∈ documentedTags d.javadoc, b.Becomes m.parameters Loaded tag := by
  obtain ⟨kept, hkept, htags⟩ := h.tags
  obtain ⟨hlen, hget⟩ := List.forall₂_iff_get.1 htags
  obtain ⟨i, hi, rfl⟩ := List.getElem_of_mem htag
  have hi' : i < kept.length := hlen ▸ hi
  exact ⟨kept[i], hkept.subset (List.getElem_mem hi'), hget i hi' hi⟩

/-- A parameter tag refers to the first parameter that has its name. -/
theorem Specifies.param_isLeast (h : m.Specifies policy Loaded d e) {position : Nat}
    {comment : String} (htag : .param position comment ∈ m.tags) :
    ∃ b ∈ documentedTags d.javadoc, b.kind = .param ∧ b.content = comment ∧
      IsLeast {i | (m.parameters[i]?.map (·.name)) = some (b.name.getD "")} position := by
  obtain ⟨b, hb, hbecomes⟩ := h.exists_blockTag htag
  cases hbecomes with
  | param hkind hleast => exact ⟨b, hb, hkind, rfl, hleast⟩

theorem Specifies.param_lt (h : m.Specifies policy Loaded d e) {position : Nat} {comment : String}
    (htag : .param position comment ∈ m.tags) : position < m.parameters.length := by
  obtain ⟨b, -, -, -, hmem, -⟩ := h.param_isLeast htag
  obtain ⟨p, hp, -⟩ := Option.map_eq_some_iff.1 hmem
  exact (List.getElem?_eq_some_iff.1 hp).1

theorem Specifies.throws_loaded (h : m.Specifies policy Loaded d e) {exception : JavaType}
    {comment : String} (htag : .throws exception comment ∈ m.tags) :
    ∃ handle, Loaded handle ∧ exception = handle.type := by
  obtain ⟨b, -, hbecomes⟩ := h.exists_blockTag htag
  cases hbecomes with
  | throws _ hloaded => exact ⟨_, hloaded, rfl⟩

theorem forall₂_filterMap {α β : Type} {R : α → β → Prop} {p : α → Bool} {f : α → Option β}
    {l : List α} (hkept : ∀ a ∈ l, p a = true → ∃ b, f a = some b ∧ R a b)
    (hdropped : ∀ a ∈ l, p a = false → f a = none) :
    List.Forall₂ R (l.filter p) (l.filterMap f) := by
  induction l with
  | nil => exact .nil
  | cons a l ih =>
    have ih' := ih (fun a ha => hkept a (List.mem_cons_of_mem _ ha))
      (fun a ha => hdropped a (List.mem_cons_of_mem _ ha))
    cases hp : p a with
    | true =>
      obtain ⟨b, hb, hR⟩ := hkept a List.mem_cons_self hp
      rw [List.filter_cons_of_pos hp, List.filterMap_cons_some hb]
      exact .cons hR ih'
    | false =>
      rw [List.filter_cons_of_neg (by simp [hp]),
        List.filterMap_cons_none (hdropped a List.mem_cons_self hp)]
      exact ih'

/-- Every parameter tag has its entry, with the parameter that it refers to. -/
theorem Specifies.paramTags (h : m.Specifies policy Loaded d e) :
    List.Forall₂ (fun tag entry => ∃ position, tag = .param position entry.2 ∧
      m.parameters[position]? = some entry.1) (m.tags.filter (·.kind == "param")) m.paramTags := by
  apply forall₂_filterMap
  · intro tag htag hkind
    cases tag with
    | param position comment =>
      have hp := List.getElem?_eq_getElem (h.param_lt htag)
      exact ⟨(_, comment), by simp only [hp, Option.map_some], position, rfl, hp⟩
    | returns comment => simp [Tag.kind] at hkind
    | throws exception comment => simp [Tag.kind] at hkind
  · intro tag htag hkind
    cases tag with
    | param position comment => simp [Tag.kind] at hkind
    | returns comment => rfl
    | throws exception comment => rfl

/-- The line of a parameter tag names the parameter. -/
theorem Specifies.tagLine (h : m.Specifies policy Loaded d e) {position : Nat} {comment : String}
    (htag : .param position comment ∈ m.tags) :
    ∃ p, m.parameters[position]? = some p ∧
      m.tagLine (.param position comment) = "  @param " ++ p.name ++ " " ++ comment ++ "\n" := by
  have hp := List.getElem?_eq_getElem (h.param_lt htag)
  exact ⟨_, hp, by simp [Member.tagLine, hp]⟩

theorem Specifies.signature (h : m.Specifies policy Loaded d e) : m.signature = e.signature := by
  unfold Member.signature Executable.signature
  rw [h.name, ← h.types, List.map_map]
  rfl

end Member

theorem ReconciledPair.parameters_eq_ok {pair : ReconciledPair} {className : String}
    {policy : Nullability.Policy} {ps : List Parameter}
    (h : pair.parameters className policy = .ok ps) :
    ps.map (·.type) = pair.executable.parameterTypes ∧
      ps.map (·.name) = pair.declaration.parameters.map (·.name) ∧
      ps.map (·.nullability) =
        pair.declaration.parameters.map fun p => policy.classify p.annotations := by
  unfold ReconciledPair.parameters at h
  simp only at h
  split at h
  · cases h
  · rename_i hlen
    simp only [bne_iff_ne, ne_eq, not_not] at hlen
    cases h
    refine ⟨?_, ?_, ?_⟩ <;> apply List.ext_getElem <;> simp [hlen]

namespace Extractor

variable {σ : Type} {x : Extractor σ} {className : String} {scope : Source.Scope}

theorem member_eq_ok {pair : ReconciledPair} {m : Member} {s s' : σ}
    (h : outcome (x.member className scope pair) s = (.ok m, s')) :
    x.introspector.Reaches s s' ∧ m.className = className ∧
      m.Specifies x.policy (x.introspector.LoadsBetween s s') pair.declaration pair.executable := by
  unfold member at h
  obtain ⟨parameters, t, hparameters, h⟩ := outcome_bind_eq_ok.1 h
  rw [outcome_liftExcept, Prod.mk.injEq] at hparameters
  obtain ⟨hparameters, rfl⟩ := hparameters
  simp only at h
  obtain ⟨tags, t', htags, h⟩ := outcome_bind_eq_ok.1 h
  cases h
  obtain ⟨htypes, hnames, hnullability⟩ := ReconciledPair.parameters_eq_ok hparameters
  obtain ⟨hreach, hkept⟩ := TagContext.ofBlockTags_eq_ok htags
  exact ⟨hreach, rfl, rfl, rfl, rfl, rfl, htypes, hnames, hnullability, hkept⟩

/-- **The members of pairs.** The look-ups of one member lead on to the next, so the classes of all
throws tags are looked up on the way. -/
theorem membersOf_eq_ok {pairs : List ReconciledPair} {members : List Member} {s s' : σ}
    (h : outcome (x.membersOf className scope pairs) s = (.ok members, s')) :
    x.introspector.Reaches s s' ∧
      List.Forall₂ (fun pair m => m.className = className ∧ m.Specifies x.policy
        (x.introspector.LoadsBetween s s') pair.declaration pair.executable) pairs members := by
  induction pairs generalizing members s with
  | nil =>
    cases h
    exact ⟨.refl, .nil⟩
  | cons pair pairs ih =>
    obtain ⟨m, t, hfirst, h⟩ := outcome_bind_eq_ok.1 h
    obtain ⟨others, t', hothers, h⟩ := outcome_bind_eq_ok.1 h
    cases h
    obtain ⟨hst, hclass, hm⟩ := member_eq_ok hfirst
    obtain ⟨hts, hrest⟩ := ih hothers
    refine ⟨hst.trans hts, .cons ⟨hclass, ?_⟩ (hrest.imp fun pair m hpair => ⟨hpair.1, ?_⟩)⟩
    · exact hm.mono fun handle hload => hload.widen .refl hts
    · exact hpair.2.mono fun handle hload => hload.widen hst .refl

theorem unitOf_eq_ok {path : Path} {unit : Source.Unit} (h : x.unitOf className path = .ok unit) :
    x.readUnit path = .ok unit := by
  unfold unitOf at h
  split at h
  · cases h
    assumption
  · cases h
  · cases h

variable {root : Path} {members : List Member} {s s' : σ}

/-- **The stages of an extraction.** The class is loaded, its source read, its declaration found, its
executables listed and paired with the declarations, and the members made from the pairs. -/
theorem extract_eq_ok (h : outcome (x.extract className root) s = (.ok members, s')) :
    ∃ handle unit declaration declared pairs t u,
      outcome (x.introspector.load className) s = (.ok handle, t) ∧
      x.readUnit (sourcePath x.extension className root) = .ok unit ∧
      unit.findClass? (String.ofList (lastPiece (· == '.') className.toList)) = some declaration ∧
      outcome (x.introspector.declared handle) t = (.ok declared, u) ∧
      reconcile className declaration.typeParameters declaration.visible
        (visibleExecutables declared) = .ok pairs ∧
      outcome (x.membersOf className unit.scope pairs) u = (.ok members, s') := by
  unfold extract at h
  obtain ⟨handle, t, hload, h⟩ := outcome_bind_eq_ok.1 h
  rw [outcome_adapt_eq_ok] at hload
  simp only at h
  obtain ⟨unit, t', hunit, h⟩ := outcome_bind_eq_ok.1 h
  rw [outcome_liftExcept, Prod.mk.injEq] at hunit
  obtain ⟨hunit, rfl⟩ := hunit
  split at h
  · cases h
  · rename_i declaration hfound
    obtain ⟨executables, u, hvisible, h⟩ := outcome_bind_eq_ok.1 h
    rw [outcome_adapt_eq_ok] at hvisible
    obtain ⟨declared, u', hdeclared, hvisible⟩ := outcome_bind_eq_ok.1 hvisible
    cases hvisible
    obtain ⟨pairs, u'', hpairs, h⟩ := outcome_bind_eq_ok.1 h
    rw [outcome_liftExcept, Prod.mk.injEq] at hpairs
    obtain ⟨hpairs, rfl⟩ := hpairs
    exact ⟨handle, unit, declaration, declared, pairs, t, u, hload, unitOf_eq_ok hunit, hfound,
      hdeclared, hpairs, h⟩

/-- The signature of a member is its name with the erased types of the declaration. -/
theorem signature_eq_of_key {classParameters : List Source.TypeParameter} {d : Source.Callable}
    {e : Executable} (h : MatchKey.ofExecutable e = MatchKey.ofDeclaration classParameters d) :
    e.signature = signatureOf d.name
      (d.parameters.map fun p => Erasure.erase (d.typeParameters ++ classParameters) p.fullType) := by
  rw [MatchKey.ofExecutable, MatchKey.ofDeclaration, MatchKey.mk.injEq] at h
  obtain ⟨-, hname, htypes⟩ := h
  rw [Executable.signature, hname, htypes]

/-- **Soundness of extraction.** There is one member for each visible declaration and for each visible
executable. The member at a place joins the declaration at that place with an executable of its key.
Its parameter tags refer to the first parameters with their names, so that each of them is listed with
its parameter and no line lacks a name; the types of its throws tags are classes that were looked up;
and its signature is that of the executable and of the declaration erased. -/
theorem extract_sound (h : outcome (x.extract className root) s = (.ok members, s')) :
    ∃ handle unit declaration declared t u,
      outcome (x.introspector.load className) s = (.ok handle, t) ∧
      x.readUnit (sourcePath x.extension className root) = .ok unit ∧
      unit.findClass? (String.ofList (lastPiece (· == '.') className.toList)) = some declaration ∧
      outcome (x.introspector.declared handle) t = (.ok declared, u) ∧
      members.length = declaration.visible.length ∧
      members.length = declared.countP Executable.isVisible ∧
      ∀ (i : Nat) (m : Member), members[i]? = some m →
        ∃ (d : Source.Callable) (e : Executable), declaration.visible[i]? = some d ∧
        e ∈ declared ∧ e.isVisible = true ∧
        MatchKey.ofExecutable e = MatchKey.ofDeclaration declaration.typeParameters d ∧
        m.className = className ∧
        m.Specifies x.policy (x.introspector.LoadsBetween s s') d e ∧
        (∀ position comment, .param position comment ∈ m.tags →
          position < m.parameters.length ∧
          (∃ b ∈ documentedTags d.javadoc, b.kind = .param ∧ b.content = comment ∧
            IsLeast {i | (m.parameters[i]?.map (·.name)) = some (b.name.getD "")} position) ∧
          ∃ p, m.parameters[position]? = some p ∧
            m.tagLine (.param position comment) = "  @param " ++ p.name ++ " " ++ comment ++ "\n") ∧
        List.Forall₂ (fun tag entry => ∃ position, tag = .param position entry.2 ∧
          m.parameters[position]? = some entry.1) (m.tags.filter (·.kind == "param")) m.paramTags ∧
        (∀ exception comment, .throws exception comment ∈ m.tags →
          ∃ handle, x.introspector.LoadsBetween s s' handle ∧ exception = handle.type) ∧
        m.signature = e.signature ∧
        m.signature = signatureOf d.name (d.parameters.map fun p =>
          Erasure.erase (d.typeParameters ++ declaration.typeParameters) p.fullType) := by
  obtain ⟨handle, unit, declaration, declared, pairs, t, u, hload, hunit, hfound, hdeclared, hpairs,
    hmembers⟩ := extract_eq_ok h
  obtain ⟨hcount, hpaired⟩ := reconcile_eq_ok_iff.1 hpairs
  obtain ⟨-, hmade⟩ := membersOf_eq_ok hmembers
  have hstart : x.introspector.Reaches s u :=
    (Introspector.reaches_of_load hload).trans (Introspector.reaches_of_declared hdeclared)
  have hvisible : members.length = declaration.visible.length :=
    hmade.length_eq.symm.trans hpaired.length_eq.symm
  refine ⟨handle, unit, declaration, declared, t, u, hload, hunit, hfound, hdeclared, hvisible,
    by rw [hvisible, hcount, length_visibleExecutables], fun i m hm => ?_⟩
  obtain ⟨hi, rfl⟩ := List.getElem?_eq_some_iff.1 hm
  have hd : i < declaration.visible.length := hvisible ▸ hi
  have hp : i < pairs.length := hmade.length_eq ▸ hi
  obtain ⟨j, hj, hpair⟩ := (List.forall₂_iff_get.1 hpaired).2 i hd hp
  obtain ⟨hclass, hspec⟩ := (List.forall₂_iff_get.1 hmade).2 i hp hi
  rw [hpair] at hspec
  -- what was looked up for the member was looked up after the class itself was loaded
  have hspec := hspec.mono fun handle hloads => hloads.widen hstart .refl
  have hkey := (hj j).2 rfl
  obtain ⟨hmem, hvis⟩ := mem_visibleExecutables.1 (List.getElem_mem j.isLt)
  exact ⟨_, _, List.getElem?_eq_getElem hd, hmem, hvis, hkey, hclass, hspec,
    fun position comment htag => ⟨hspec.param_lt htag, hspec.param_isLeast htag, hspec.tagLine htag⟩,
    hspec.paramTags, fun exception comment htag => hspec.throws_loaded htag, hspec.signature,
    hspec.signature.trans (signature_eq_of_key hkey)⟩

/-- A class with a constructor, a private method and a generated one. -/
def boxClass : RegisteredClass where
  handle := ⟨"acme.Box", .publicOnly⟩
  executables :=
    [⟨.method, "put", [.reference "java.lang.Object"], some .void, ⟨0x1041⟩⟩,
     ⟨.method, "check", [], some .void, ⟨0x0002⟩⟩,
     ⟨.method, "put", [.reference "java.lang.Number"], some .void, .publicOnly⟩,
     ⟨.constructor, "Box", [.primitive .int], none, .publicOnly⟩]

/-- Its source: the parameter of `put` has the type of a type variable. -/
def boxUnit : Source.Unit where
  scope := ⟨some "acme", []⟩
  types := [{
    kind := .classType, name := "Box", modifiers := ["public"], typeParameters := [⟨"T", ["Number"]⟩]
    callables := [
      { kind := .constructor, name := "Box", modifiers := ["public"], typeParameters := []
        parameters := [⟨"int", "size", [], false, 0⟩], javadoc := none, isImplicit := false },
      { kind := .method, name := "check", modifiers := ["private"], typeParameters := []
        parameters := [], javadoc := none, isImplicit := false },
      { kind := .method, name := "put", modifiers := ["public"], typeParameters := []
        parameters := [⟨"T", "item", ["NonNull"], false, 0⟩], isImplicit := false
        javadoc := some ⟨"", [⟨.throws, none, "Error if full"⟩, ⟨.param, some "item", "what to keep"⟩,
          ⟨.param, some "size", "not there"⟩]⟩ }] }]

def boxExtractor : Extractor Registry where
  introspector := Registry.introspector
  readUnit _ := .ok boxUnit
  policy := .default
  resolver := .default
  extension := "java"

def boxRegistry : Registry := .ofList [boxClass, ⟨⟨"java.lang.Error", .publicOnly⟩, []⟩]

/-- What is extracted: the parameter tag without a parameter is dropped. -/
def boxMembers : List Member :=
  [⟨"acme.Box", .constructor, "Box", .publicOnly, none, [⟨.primitive .int, "size", .unknown⟩], []⟩,
   ⟨"acme.Box", .method, "put", .publicOnly, some .void,
     [⟨.reference "java.lang.Number", "item", .notNull⟩],
     [.throws (.reference "java.lang.Error") "if full", .param 0 "what to keep"]⟩]

theorem extract_sound_box :
    outcome (boxExtractor.extract "acme.Box" ⟨"src"⟩) boxRegistry = (.ok boxMembers, boxRegistry) ∧
      ∃ (m : Member) (classParameters : List Source.TypeParameter) (d : Source.Callable)
        (e : Executable), boxMembers[1]? = some m ∧
        MatchKey.ofExecutable e = MatchKey.ofDeclaration classParameters d ∧
        m.Specifies .default (Registry.introspector.LoadsBetween boxRegistry boxRegistry) d e ∧
        m.signature = e.signature := by
  have h : outcome (boxExtractor.extract "acme.Box" ⟨"src"⟩) boxRegistry =
      (.ok boxMembers, boxRegistry) := by decide
  obtain ⟨_, _, declaration, _, _, _, _, _, _, _, _, _, hall⟩ := extract_sound h
  obtain ⟨d, e, -, -, -, hkey, -, hspec, -, -, -, hsignature, -⟩ := hall 1 _ rfl
  exact ⟨h, _, declaration.typeParameters, d, e, rfl, hkey, hspec, hsignature⟩

end Extractor

end MemberSpec
