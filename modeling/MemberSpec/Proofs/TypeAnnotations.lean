import Mathlib
import MemberSpec.Proofs.CallableOrder
import MemberSpec.Proofs.Source.AnnotationSpans
import MemberSpec.Proofs.Spacing
import MemberSpec.Proofs.Spelling

/-!
# Annotations and matching

Types are matched without their annotations. The annotations in the types of parameters and bounds
leave nothing behind, so a file is matched like the same file written without them. There is one
exception: the dimensions behind the name of a parameter are counted by their opening brackets, and an
annotation among them can have brackets of its own.

* `Plain`: a node written without annotations. `TypePlain` relates the declarations of a type written
  with and without annotations.
* `Plain.reads`: erasure reads both the same. `Plain.count_text`: brackets are counted in both, and in the
  annotations.
* `ErasesLike`: declarations whose types are read alike; they have the same outcome against any
  compiled members (`reconciled_eq`).
* `erases_iff_of_plain`, `reconciled_eq_of_plain`: what follows for the parameters and the types of
  two trees.
* `annotations_cut_out`: the same for parsed sources; `annotation_counts` has an annotation that counts.
-/

namespace MemberSpec

open Text Source Erasure

namespace Source

variable {t t' p p' q q' m m' k k' : Tree}

/-! ### Nodes without annotations -/

/-- The text of a node without its annotations. -/
def plainText (t : Tree) : List Char :=
  splice [] (fullText t.tokens) (spanOf 0 t.tokens).stop (spanOf 0 t.tokens).start
    (t.annotationSpans 0)

/-- The node `t'` is `t` written without annotations, up to blanks. -/
@[mk_iff]
structure Plain (t t' : Tree) : Prop where
  free : t'.annotationSpans 0 = []
  text : solid t'.text.toList = solid (plainText t)

/-- The number of opening brackets in the annotations of a node. -/
def hiddenBrackets (t : Tree) : Nat :=
  ((t.annotationSpans 0).map fun s => ((fullText t.tokens).extract s.start s.stop).count '[').sum

theorem extract_text (t : Tree) :
    (fullText t.tokens).extract (spanOf 0 t.tokens).start (spanOf 0 t.tokens).stop = t.text.toList := by
  have h := Tree.extract_spanOf [] [] t.tokens
  rw [List.nil_append, List.append_nil] at h
  exact h

theorem solid_typeText_eq (ht : t.Everywhere NodeShape) :
    solid (typeText t).toList = solid (plainText t) := by
  have h := solid_typeText ht [] []
  rw [List.nil_append, List.append_nil] at h
  exact h

theorem Plain.plainText_eq (h : Plain t t') : plainText t' = t'.text.toList := by
  rw [plainText, h.free, splice, extract_text]

/-- **Erasure reads a type as it reads the type without annotations.** -/
theorem Plain.reads (h : Plain t t') (ht : t.Everywhere NodeShape) (ht' : t'.Everywhere NodeShape) :
    Reads 0 (typeText t).toList (typeText t').toList := by
  apply reads_of_solid_eq
  rw [solid_typeText_eq ht, solid_typeText_eq ht', h.plainText_eq, h.text]

theorem count_solid (cs : List Char) : (solid cs).count '[' = cs.count '[' :=
  List.count_filter (by decide)

/-- Opening brackets are counted in the node without annotations and in the annotations. -/
theorem Plain.count_text (h : Plain t t') (ht : t.Everywhere NodeShape) :
    t.text.toList.count '[' = t'.text.toList.count '[' + hiddenBrackets t := by
  have hsplit := count_splice '[' (fullText t.tokens) (Tree.inOrder_spanOf ht 0)
  rw [extract_text] at hsplit
  -- outside of the annotations the texts differ in blanks only, and no bracket is a blank
  rw [hsplit, ← count_solid t'.text.toList, h.text, count_solid]
  rfl

/-! ### Parameters -/

/-- The parameter `p'` is `p` written without annotations in its type and dimensions. -/
@[mk_iff]
structure ParameterPlain (p p' : Tree) : Prop where
  kind : p.kind? = p'.kind?
  name : (nameIn? p).map Tree.text = (nameIn? p').map Tree.text
  ahead : commentsAhead p = commentsAhead p'
  type : Option.Rel Plain (typeIn? p) (typeIn? p')
  dimensions : Option.Rel Plain (dimensionsIn? p) (dimensionsIn? p')

/-- The number of opening brackets in the annotations among the dimensions behind a name. -/
def hiddenIn (p : Tree) : Nat := ((dimensionsIn? p).map hiddenBrackets).getD 0

/-- What is the same of a parameter written with and without annotations: brackets that are hidden in
annotations count as dimensions. -/
structure Parameter.PlainReads (hidden : Nat) (a a' : Parameter) : Prop where
  name : a.name = a'.name
  isVarargs : a.isVarargs = a'.isVarargs
  extraDimensions : a.extraDimensions = a'.extraDimensions + hidden
  type : Reads 0 a.type.toList a'.type.toList

theorem everywhere_typeIn? {W : NodeKind → List Tree → Prop} (hp : p.Everywhere W)
    (h : typeIn? p = some t) : t.Everywhere W := by
  unfold typeIn? at h
  split at h <;> exact hp.child (List.mem_of_find?_eq_some h)

theorem everywhere_dimensionsIn? {W : NodeKind → List Tree → Prop} (hp : p.Everywhere W)
    (h : dimensionsIn? p = some t) : t.Everywhere W := by
  obtain ⟨d, hd, ht⟩ := Option.bind_eq_some_iff.1 h
  have hdeclared : d.Everywhere W := by
    unfold declared? at hd
    split at hd
    · exact hp.child (List.mem_of_find?_eq_some hd)
    · cases hd
      exact hp
  exact hdeclared.child (List.mem_of_find?_eq_some ht)

namespace ParameterPlain

variable (h : ParameterPlain p p') (hp : p.Everywhere NodeShape) (hp' : p'.Everywhere NodeShape)

include h

theorem isSpread_eq : isSpread p = isSpread p' := by rw [isSpread, isSpread, h.kind]

include hp

theorem extraDimensions :
    ((dimensionsIn? p).map fun d => d.text.toList.count '[').getD 0 =
      ((dimensionsIn? p').map fun d => d.text.toList.count '[').getD 0 + hiddenIn p := by
  rw [hiddenIn]
  rcases rel_iff.1 h.dimensions with ⟨hnone, hnone'⟩ | ⟨d, d', hd, hd', hplain⟩
  · rw [hnone, hnone']
    rfl
  · rw [hd, hd']
    exact hplain.count_text (everywhere_dimensionsIn? hp hd)

include hp'

theorem typeTextIn? :
    Option.Rel (fun s s' => Reads 0 s.toList s'.toList) (typeTextIn? p) (typeTextIn? p') := by
  rcases rel_iff.1 h.type with ⟨hnone, hnone'⟩ | ⟨t, t', ht, ht', hplain⟩
  · rw [Source.typeTextIn?, Source.typeTextIn?, hnone, hnone', h.ahead]
    cases (commentsAhead p').head? with
    | none => exact .none
    | some c => exact .some (Reads.refl _ _)
  · rw [typeTextIn?_of_some ht, typeTextIn?_of_some ht', h.ahead]
    cases (commentsAhead p').head? with
    | some c =>
      rw [Option.map_some, Option.getD_some, Option.getD_some]
      exact .some (Reads.refl _ _)
    | none => exact .some (hplain.reads (everywhere_typeIn? hp ht) (everywhere_typeIn? hp' ht'))

/-- **A parameter written without annotations** is the same but for brackets in them. -/
theorem parameter? :
    Option.Rel (Parameter.PlainReads (hiddenIn p)) (parameter? p) (parameter? p') := by
  have hkind : isParameter p = isParameter p' := by
    rw [isParameter, isParameter, h.kind, h.isSpread_eq]
  rw [parameter?_eq, parameter?_eq, hkind]
  split
  · rw [parameterIn?, parameterIn?]
    refine bind_rel (h.typeTextIn? hp hp') fun type type' htype => ?_
    refine map_rel (rel_of_map_eq h.name) fun n n' hname => ?_
    exact ⟨hname, h.isSpread_eq, h.extraDimensions hp, htype⟩
  · exact .none

end ParameterPlain

/-! ### Declarations that erase alike -/

/-- Type parameters with the same names and bounds that erasure reads alike. -/
structure TypeParameter.ErasesLike (a a' : TypeParameter) : Prop where
  name : a.name = a'.name
  bounds : List.Forall₂ (fun b b' => Reads 0 b.toList b'.toList) a.bounds a'.bounds

/-- Callables that are the same but for the annotations and the documentation, with types that erasure
reads alike. -/
structure Callable.ErasesLike (c c' : Callable) : Prop where
  kind : c.kind = c'.kind
  name : c.name = c'.name
  modifiers : c.modifiers = c'.modifiers
  typeParameters : List.Forall₂ TypeParameter.ErasesLike c.typeParameters c'.typeParameters
  parameters : List.Forall₂ (fun a a' => Reads 0 a.fullType.toList a'.fullType.toList)
    c.parameters c'.parameters

/-- Types whose type parameters and callables erase alike. -/
structure TypeDeclaration.ErasesLike (d d' : TypeDeclaration) : Prop where
  typeParameters : List.Forall₂ TypeParameter.ErasesLike d.typeParameters d'.typeParameters
  callables : List.Forall₂ Callable.ErasesLike d.callables d'.callables

end Source

namespace Erasure

variable {parameters parameters' : List TypeParameter} {written written' : String}

/-- Erasure reads the types and the bounds that it comes to. -/
theorem eraseWithin_congr_of_reads
    (h : List.Forall₂ TypeParameter.ErasesLike parameters parameters') (steps : Nat)
    (hwritten : Reads 0 written.toList written'.toList) :
    eraseWithin parameters steps written = eraseWithin parameters' steps written' := by
  induction steps generalizing written written' with
  | zero => rw [eraseWithin, eraseWithin, headOf_congr hwritten]
  | succ steps ih =>
    have hfound := find?_rel (p := (·.name == (headOf written').1))
      (fun a a' ha => by rw [ha.name]) h
    rw [eraseWithin, eraseWithin, headOf_congr hwritten]
    -- the same type parameter is found in both scopes, and its first bounds are read alike
    rcases rel_iff.1 hfound with ⟨hnone, hnone'⟩ | ⟨⟨name, bounds⟩, ⟨name', bounds'⟩, ha, ha', hlike⟩
    · simp only [hnone, hnone']
    · have hbounds := hlike.bounds
      simp only [ha, ha']
      cases hbounds with
      | nil => rfl
      | cons hbound _ => simp only [ih hbound]

theorem erase_congr_of_reads (h : List.Forall₂ TypeParameter.ErasesLike parameters parameters')
    (hwritten : Reads 0 written.toList written'.toList) :
    erase parameters written = erase parameters' written' := by
  rw [erase, erase, h.length_eq]
  exact eraseWithin_congr_of_reads h _ hwritten

end Erasure

theorem MatchKey.ofDeclaration_eq {c c' : Callable} {classParameters classParameters' :
    List TypeParameter} (hc : c.ErasesLike c')
    (h : List.Forall₂ TypeParameter.ErasesLike classParameters classParameters') :
    ofDeclaration classParameters c = ofDeclaration classParameters' c' := by
  have hscope := List.rel_append hc.typeParameters h
  have htypes : c.parameters.map (fun p => erase (c.typeParameters ++ classParameters) p.fullType) =
      c'.parameters.map fun p => erase (c'.typeParameters ++ classParameters') p.fullType := by
    rw [map_eq_map_iff_forall₂]
    exact hc.parameters.imp fun p p' hp => erase_congr_of_reads hscope hp
  rw [ofDeclaration, ofDeclaration, hc.kind, hc.name, htypes]

/-- **Types that erase alike are reconciled with the same outcome.** -/
theorem Source.TypeDeclaration.ErasesLike.reconciled_eq {d d' : TypeDeclaration}
    (h : d.ErasesLike d') (className : String) (executables : List Executable) :
    d.reconciled className executables = d'.reconciled className executables := by
  have hvisible : List.Forall₂ Callable.ErasesLike d.visible d'.visible := by
    refine List.rel_filter (fun c c' hc => ?_) h.callables
    simp only [Callable.isPrivate, hc.modifiers]
  rw [TypeDeclaration.reconciled, TypeDeclaration.reconciled]
  exact reconcile_outcome_of_keys
    (hvisible.imp fun c c' hc => MatchKey.ofDeclaration_eq hc h.typeParameters) className executables

namespace Source

variable {t t' p p' q q' m m' k k' : Tree}

/-! ### Members and types -/

/-- A part that counts as a bound. -/
def isBound : Tree.Part → Bool
  | .child (.leaf _) => false
  | _ => true

/-- The bounds of a type parameter. -/
def boundsIn (q : Tree) : List Tree.Part :=
  (((q.child? .typeBound).map Tree.parts).getD []).filter isBound

/-- A part written without annotations. -/
def PartPlain : Tree.Part → Tree.Part → Prop
  | .comment lexeme, .comment lexeme' => lexeme.text = lexeme'.text
  | .child t, .child t' => Plain t t'
  | _, _ => False

/-- The type parameter `q'` is `q` written without annotations in its bounds. -/
@[mk_iff]
structure TypeParameterPlain (q q' : Tree) : Prop where
  name : (q.child? .name).map Tree.text = (q'.child? .name).map Tree.text
  bounds : List.Forall₂ PartPlain (boundsIn q) (boundsIn q')

def isTypeParameter (q : Tree) : Bool := q.kind? == some .typeParameter

/-- The type parameters of a declaration. -/
def typeParametersIn (m : Tree) : List Tree :=
  (((m.child? .typeParameters).map Tree.children).getD []).filter isTypeParameter

/-- The parameters of a member. -/
def parametersIn (m : Tree) : List Tree :=
  (((m.childAs? .parameters).map Tree.children).getD []).filter isParameter

/-- The member `m'` is `m` written without annotations in the types of parameters and bounds. -/
@[mk_iff]
structure MemberPlain (m m' : Tree) : Prop where
  kind : m.kind? = m'.kind?
  name : (m.childAs? .name).map Tree.text = (m'.childAs? .name).map Tree.text
  keywords : keywordsOf m = keywordsOf m'
  typeParameters : List.Forall₂ TypeParameterPlain (typeParametersIn m) (typeParametersIn m')
  parameters : List.Forall₂ ParameterPlain (parametersIn m) (parametersIn m')

/-- The constructors and methods directly in the body of a type. -/
def callablesIn (k : Tree) : List Tree := (bodyRow k).filter Tree.isCallable

/-- The type `k'` is `k` written without annotations in the types of parameters and bounds. -/
@[mk_iff]
structure TypePlain (k k' : Tree) : Prop where
  kind : k.kind? = k'.kind?
  name : (k.childAs? .name).map Tree.text = (k'.childAs? .name).map Tree.text
  keywords : keywordsOf k = keywordsOf k'
  typeParameters : List.Forall₂ TypeParameterPlain (typeParametersIn k) (typeParametersIn k')
  callables : List.Forall₂ MemberPlain (callablesIn k) (callablesIn k')

/-- No brackets are hidden in the annotations among the dimensions behind names. -/
def Unhidden (k : Tree) : Prop := ∀ m ∈ callablesIn k, ∀ p ∈ parametersIn m, hiddenIn p = 0

theorem typeParameter?_eq (q : Tree) :
    typeParameter? q = if isTypeParameter q then
      (q.child? .name).map fun name => ⟨name.text, (boundsIn q).map partTypeText⟩ else none := by
  rw [typeParameter?, isTypeParameter]
  cases q.kind? == some .typeParameter with
  | false => rfl
  | true => cases q.child? .name <;> rfl

theorem typeParametersOf_eq (m : Tree) :
    typeParametersOf m = (typeParametersIn m).filterMap typeParameter? := by
  rw [typeParametersOf, typeParametersIn]
  cases m.child? .typeParameters with
  | none => rfl
  | some list =>
    rw [Option.map_some, Option.getD_some, Option.map_some, Option.getD_some, List.filterMap_filter]
    refine List.filterMap_congr fun q _ => ?_
    rw [typeParameter?_eq]
    split <;> rfl

theorem parametersOf_eq (m : Tree) : parametersOf m = (parametersIn m).filterMap parameter? := by
  rw [parametersOf, parametersIn]
  cases m.childAs? .parameters with
  | none => rfl
  | some list =>
    rw [Option.map_some, Option.getD_some, Option.map_some, Option.getD_some, List.filterMap_filter]
    refine List.filterMap_congr fun p _ => ?_
    rw [parameter?_eq]
    split <;> rfl

theorem membersOf_eq {node : NodeKind}
    (hnode : node = .constructorDeclaration ∨ node = .methodDeclaration) (kind : MemberKind) (k : Tree) :
    membersOf node kind k = (callablesIn k).filterMap fun m =>
      if m.kind? = some node then callableOf? kind m else none := by
  rw [membersOf, callablesIn, List.filterMap_filter, bodyRow]
  refine List.filterMap_congr fun m _ => ?_
  by_cases hkind : m.kind? = some node
  · have hcallable : m.isCallable = true := by
      rcases hnode with rfl | rfl <;> simp [Tree.isCallable, hkind]
    rw [if_pos hkind, if_pos hcallable]
  · rw [if_neg hkind, ite_self]

section Everywhere

variable {W : NodeKind → List Tree → Prop}

theorem everywhere_of_mem_child? {o : Option Tree} (ho : ∀ c ∈ o, c.Everywhere W)
    (ht : t ∈ (o.map Tree.children).getD []) : t.Everywhere W := by
  cases o with
  | none => cases ht
  | some c => exact (ho c rfl).child ht

theorem everywhere_typeParametersIn (hm : m.Everywhere W) : ∀ q ∈ typeParametersIn m, q.Everywhere W := by
  intro q hq
  refine everywhere_of_mem_child? (fun c hc => ?_) (List.mem_filter.1 hq).1
  exact hm.child (List.mem_of_find?_eq_some hc)

theorem everywhere_parametersIn (hm : m.Everywhere W) : ∀ p ∈ parametersIn m, p.Everywhere W := by
  intro p hp
  refine everywhere_of_mem_child? (fun c hc => ?_) (List.mem_filter.1 hp).1
  exact hm.child (List.mem_of_find?_eq_some hc)

theorem everywhere_callablesIn (hk : k.Everywhere W) : ∀ m ∈ callablesIn k, m.Everywhere W :=
  fun _ hm => everywhere_of_mem_bodyRow hk (List.mem_filter.1 hm).1

theorem mem_children_of_mem_parts (h : .child t ∈ q.parts) : t ∈ q.children := by
  rw [Tree.parts] at h
  split at h
  · cases h
  · next first rest hchildren =>
    rw [hchildren]
    rcases List.mem_cons.1 h with hfirst | hrest
    · cases hfirst
      exact List.mem_cons_self
    · obtain ⟨u, hu, ht⟩ := List.mem_flatMap.1 hrest
      simp only [List.mem_append, List.mem_map, List.mem_singleton, reduceCtorEq, and_false,
        exists_false, false_or, Tree.Part.child.injEq] at ht
      exact List.mem_cons_of_mem _ (ht ▸ hu)

theorem everywhere_boundsIn (hq : q.Everywhere W) : ∀ t, .child t ∈ boundsIn q → t.Everywhere W := by
  intro t ht
  have hparts := (List.mem_filter.1 ht).1
  cases hbound : q.child? .typeBound with
  | none =>
    rw [hbound] at hparts
    cases hparts
  | some b =>
    rw [hbound] at hparts
    exact (hq.child (List.mem_of_find?_eq_some hbound)).child (mem_children_of_mem_parts hparts)

end Everywhere

theorem PartPlain.reads {b b' : Tree.Part} (h : PartPlain b b')
    (hb : ∀ t, b = .child t → t.Everywhere NodeShape)
    (hb' : ∀ t, b' = .child t → t.Everywhere NodeShape) :
    Reads 0 (partTypeText b).toList (partTypeText b').toList := by
  cases b with
  | comment lexeme =>
    cases b' with
    | comment lexeme' =>
      have htext : lexeme.text = lexeme'.text := h
      rw [partTypeText, partTypeText, htext]
      exact Reads.refl _ _
    | child t' => exact h.elim
  | child t =>
    cases b' with
    | comment lexeme' => exact h.elim
    | child t' => exact Plain.reads h (hb t rfl) (hb' t' rfl)

theorem TypeParameterPlain.typeParameter? (h : TypeParameterPlain q q')
    (hkind : isTypeParameter q = isTypeParameter q')
    (hq : q.Everywhere NodeShape) (hq' : q'.Everywhere NodeShape) :
    Option.Rel TypeParameter.ErasesLike (typeParameter? q) (typeParameter? q') := by
  have hbounds : List.Forall₂ (fun b b' => Reads 0 b.toList b'.toList)
      ((boundsIn q).map partTypeText) ((boundsIn q').map partTypeText) := by
    rw [List.forall₂_map_left_iff, List.forall₂_map_right_iff]
    refine forall₂_imp_mem h.bounds fun b hb b' hb' hplain => hplain.reads ?_ ?_
    · rintro t rfl
      exact everywhere_boundsIn hq t hb
    · rintro t rfl
      exact everywhere_boundsIn hq' t hb'
  rw [typeParameter?_eq, typeParameter?_eq, hkind]
  split
  · exact map_rel (rel_of_map_eq h.name) fun n n' hname => ⟨hname, hbounds⟩
  · exact .none

theorem erasesLike_typeParametersOf (hm : m.Everywhere NodeShape) (hm' : m'.Everywhere NodeShape)
    (h : List.Forall₂ TypeParameterPlain (typeParametersIn m) (typeParametersIn m')) :
    List.Forall₂ TypeParameter.ErasesLike (typeParametersOf m) (typeParametersOf m') := by
  rw [typeParametersOf_eq, typeParametersOf_eq]
  refine List.rel_filterMap (fun q q' hrel => hrel) (forall₂_imp_mem h fun q hq q' hq' hplain => ?_)
  have hkind : isTypeParameter q = isTypeParameter q' := by
    rw [(List.mem_filter.1 hq).2, (List.mem_filter.1 hq').2]
  exact hplain.typeParameter? hkind (everywhere_typeParametersIn hm q hq)
    (everywhere_typeParametersIn hm' q' hq')

theorem Parameter.PlainReads.reads_fullType {a a' : Parameter} (h : a.PlainReads 0 a') :
    Reads 0 a.fullType.toList a'.fullType.toList := by
  rw [Parameter.fullType, Parameter.fullType, h.extraDimensions, h.isVarargs, Nat.add_zero,
    String.toList_append, String.toList_append]
  exact h.type.append (Reads.refl _ _)

/-- A member written without annotations erases alike. -/
theorem MemberPlain.callableOf? (kind : MemberKind) (h : MemberPlain m m')
    (hm : m.Everywhere NodeShape) (hm' : m'.Everywhere NodeShape)
    (hhidden : ∀ p ∈ parametersIn m, hiddenIn p = 0) :
    Option.Rel Callable.ErasesLike (callableOf? kind m) (callableOf? kind m') := by
  have htypes := erasesLike_typeParametersOf hm hm' h.typeParameters
  have hparameters : List.Forall₂ (fun a a' => Reads 0 a.fullType.toList a'.fullType.toList)
      (parametersOf m) (parametersOf m') := by
    rw [parametersOf_eq, parametersOf_eq]
    refine List.rel_filterMap (fun p p' hrel => hrel)
      (forall₂_imp_mem h.parameters fun p hp p' hp' hplain => ?_)
    have hread := hplain.parameter? (everywhere_parametersIn hm p hp)
      (everywhere_parametersIn hm' p' hp')
    -- with no bracket hidden the dimensions behind the names are the same
    rw [hhidden p hp] at hread
    exact imp_rel hread fun a a' ha => ha.reads_fullType
  exact bind_rel (rel_of_map_eq h.name) fun n n' hname =>
    .some ⟨rfl, hname, h.keywords, htypes, hparameters⟩

theorem Callable.ErasesLike.implicit {name name' : String} (hname : name = name')
    (modifiers : List String) :
    (implicitConstructor name modifiers).ErasesLike (implicitConstructor name' modifiers) :=
  ⟨rfl, hname, rfl, .nil, .nil⟩

namespace TypePlain

variable (h : TypePlain k k') (hk : k.Everywhere NodeShape) (hk' : k'.Everywhere NodeShape)
  (hhidden : Unhidden k)

include h hk hk' hhidden

theorem membersOf {node : NodeKind}
    (hnode : node = .constructorDeclaration ∨ node = .methodDeclaration) (kind : MemberKind) :
    List.Forall₂ Callable.ErasesLike (membersOf node kind k) (membersOf node kind k') := by
  rw [membersOf_eq hnode, membersOf_eq hnode]
  refine List.rel_filterMap (fun m m' hrel => hrel)
    (forall₂_imp_mem h.callables fun m hm m' hm' hplain => ?_)
  rw [hplain.kind]
  split
  · exact hplain.callableOf? kind (everywhere_callablesIn hk m hm) (everywhere_callablesIn hk' m' hm')
      (hhidden m hm)
  · exact .none

/-- A type written without annotations erases alike. -/
theorem typeDeclaration? :
    Option.Rel TypeDeclaration.ErasesLike (typeDeclaration? k) (typeDeclaration? k') := by
  have htypes := erasesLike_typeParametersOf hk hk' h.typeParameters
  have hconstructors := h.membersOf hk hk' hhidden (.inl rfl) .constructor
  have hmethods := h.membersOf hk hk' hhidden (.inr rfl) .method
  rw [Source.typeDeclaration?, Source.typeDeclaration?, h.kind, h.keywords]
  cases k'.kind? >>= typeKind? with
  | none => exact .none
  | some kind =>
    change Option.Rel _ (k.childAs? .name >>= _) (k'.childAs? .name >>= _)
    refine bind_rel (rel_of_map_eq h.name) fun n n' hname => ?_
    refine .some ⟨htypes, List.rel_append ?_ hmethods⟩
    -- a class gets its implicit constructor on both sides or on none
    rw [isEmpty_eq_of_forall₂ hconstructors]
    split
    · exact .cons (Callable.ErasesLike.implicit hname _) .nil
    · exact hconstructors

end TypePlain

theorem types_ofTree (tree : Tree) :
    (Unit.ofTree tree).types = (typesIn tree).filterMap typeDeclaration? := by
  rw [typesIn, List.filterMap_filter]
  refine List.filterMap_congr fun k _ => ?_
  by_cases htype : k.declaresType = true
  · rw [if_pos htype]
  · rw [if_neg htype, Tree.typeDeclaration?_eq_none (by simpa using htype)]

theorem erasesLike_types {tree tree' : Tree} (ht : tree.Everywhere NodeShape)
    (ht' : tree'.Everywhere NodeShape) (h : List.Forall₂ TypePlain (typesIn tree) (typesIn tree'))
    (hhidden : ∀ k ∈ typesIn tree, Unhidden k) :
    List.Forall₂ TypeDeclaration.ErasesLike (Unit.ofTree tree).types (Unit.ofTree tree').types := by
  rw [types_ofTree, types_ofTree]
  refine List.rel_filterMap (fun k k' hrel => hrel)
    (forall₂_imp_mem h fun k hk k' hk' hplain => ?_)
  exact hplain.typeDeclaration? (ht.child (List.mem_filter.1 hk).1)
    (ht'.child (List.mem_filter.1 hk').1) (hhidden k hk)

end Source

/-! ### Brackets that count -/

namespace Erasure

variable {written : String}

theorem headOf_brackets (n : Nat) (h : openAfter 0 written.toList = 0) :
    headOf (written ++ brackets n) = ((headOf written).1, (headOf written).2 + n) := by
  have hbrackets : stripArguments 0 (repeated n ['[', ']']) = repeated n ['[', ']'] := by
    have hstrips := strips_brackets n []
    rw [List.append_nil] at hstrips
    rw [hstrips]
    exact List.append_nil _
  rw [headOf, headOf, String.toList_append, stripArguments_append, h, brackets, String.toList_ofList,
    hbrackets, splitDimensions_brackets]

/-- Behind a type with no type argument open, brackets count as dimensions. -/
theorem erase_brackets (n : Nat) (h : openAfter 0 written.toList = 0)
    (parameters : List TypeParameter) :
    erase parameters (written ++ brackets n) = erase parameters written ++ brackets n := by
  rw [erase, erase]
  cases parameters.length with
  | zero =>
    rw [eraseWithin, eraseWithin, headOf_brackets n h]
    obtain ⟨name, dimensions⟩ := headOf written
    simp only [brackets_add, String.append_assoc]
  | succ steps =>
    rw [eraseWithin, eraseWithin, headOf_brackets n h]
    obtain ⟨name, dimensions⟩ := headOf written
    simp only [brackets_add, String.append_assoc]

end Erasure

namespace Source

theorem brackets_inj {m n : Nat} (h : brackets m = brackets n) : m = n := by
  have hlength := congrArg (fun s => s.toList.length) h
  simp only [brackets, String.toList_ofList, repeated, List.length_flatten, List.map_replicate,
    List.sum_replicate, List.length_cons, List.length_nil, smul_eq_mul] at hlength
  omega

/-- **Hidden brackets change the erased type**, unless a type argument is left open. -/
theorem Parameter.PlainReads.erase_eq_iff {hidden : Nat} {a a' : Parameter}
    (h : a.PlainReads hidden a') (hopen : openAfter 0 a.type.toList = 0)
    (parameters : List TypeParameter) :
    erase parameters a.fullType = erase parameters a'.fullType ↔ hidden = 0 := by
  have hopen' : openAfter 0 a'.type.toList = 0 := h.type.2 ▸ hopen
  rw [Parameter.fullType, Parameter.fullType, erase_brackets _ hopen, erase_brackets _ hopen',
    erase_congr h.type, h.extraDimensions, h.isVarargs, String.append_right_inj]
  constructor
  · intro hbrackets
    have hcount := brackets_inj hbrackets
    omega
  · rintro rfl
    rfl

/-! ### Sources with and without annotations -/

/-- A parameter written with and without annotations erases to the same type exactly if no bracket is
hidden in them. -/
theorem erases_iff_of_plain {p p' : Tree} (h : ParameterPlain p p')
    (hp : p.Everywhere NodeShape) (hp' : p'.Everywhere NodeShape) :
    Option.Rel (fun a a' => Parameter.PlainReads (hiddenIn p) a a' ∧
        (openAfter 0 a.type.toList = 0 → ∀ parameters,
          erase parameters a.fullType = erase parameters a'.fullType ↔ hiddenIn p = 0))
      (parameter? p) (parameter? p') :=
  imp_rel (h.parameter? hp hp') fun _ _ hreads =>
    ⟨hreads, fun hopen parameters => hreads.erase_eq_iff hopen parameters⟩

/-- **Trees with and without annotations** have types that are reconciled with the same outcome, if no
bracket is hidden. -/
theorem reconciled_eq_of_plain {tree tree' : Tree} (ht : tree.Everywhere NodeShape)
    (ht' : tree'.Everywhere NodeShape) (h : List.Forall₂ TypePlain (typesIn tree) (typesIn tree'))
    (hhidden : ∀ k ∈ typesIn tree, Unhidden k) (className : String) (executables : List Executable) :
    (Unit.ofTree tree).types.map (·.reconciled className executables) =
      (Unit.ofTree tree').types.map (·.reconciled className executables) := by
  rw [map_eq_map_iff_forall₂]
  exact (erasesLike_types ht ht' h hhidden).imp fun d d' hd => hd.reconciled_eq className executables

/-- **Annotations in types.** Every node of a parsed source is read as a type with exactly its outermost
annotations cut out of the source, each of them once and in order, and erases as the source does
without them. Types whose parameters and bounds are written with and without annotations in two
sources are therefore reconciled with the same outcome against any compiled members, unless an annotation
among the dimensions behind the name of a parameter has an opening bracket: every such bracket is
counted as a dimension, and changes the erased type of a parameter that leaves no type argument open. -/
theorem annotations_cut_out {source source' : String} {tree tree' : Tree}
    (h : parseTree source.toList = .ok tree) (h' : parseTree source'.toList = .ok tree') :
    (∀ before t, tree.Contains (fun _ => true) before t →
      CutsOut source.toList (fullText before).length t) ∧
    (∀ before before' p p', tree.Contains (fun _ => true) before p →
      tree'.Contains (fun _ => true) before' p' → ParameterPlain p p' →
      Option.Rel (fun a a' => Parameter.PlainReads (hiddenIn p) a a' ∧
        (openAfter 0 a.type.toList = 0 → ∀ parameters,
          erase parameters a.fullType = erase parameters a'.fullType ↔ hiddenIn p = 0))
        (parameter? p) (parameter? p')) ∧
    (List.Forall₂ TypePlain (typesIn tree) (typesIn tree') → (∀ k ∈ typesIn tree, Unhidden k) →
      ∀ path, ∃ u u', Unit.parse path source = .ok u ∧ Unit.parse path source' = .ok u' ∧
        ∀ className executables,
          u.types.map (·.reconciled className executables) =
            u'.types.map (·.reconciled className executables)) := by
  have hspells := parseTree_spells h
  have hspells' := parseTree_spells h'
  refine ⟨fun before t ht => hspells.cutsOut ht, ?_, ?_⟩
  · intro before before' p p' hp hp' hplain
    exact erases_iff_of_plain hplain (hp.everywhere hspells.shaped) (hp'.everywhere hspells'.shaped)
  · intro hplain hhidden path
    exact ⟨_, _, parse_of_parseTree h path, parse_of_parseTree h' path,
      reconciled_eq_of_plain hspells.shaped hspells'.shaped hplain hhidden⟩

instance (t t' : Tree) : Decidable (Plain t t') := decidable_of_iff _ (plain_iff t t').symm

instance : (b b' : Tree.Part) → Decidable (PartPlain b b')
  | .comment _, .comment _ => inferInstanceAs (Decidable (_ = _))
  | .child _, .child _ => inferInstanceAs (Decidable (Plain _ _))
  | .comment _, .child _ => isFalse id
  | .child _, .comment _ => isFalse id

instance (q q' : Tree) : Decidable (TypeParameterPlain q q') :=
  decidable_of_iff _ (typeParameterPlain_iff q q').symm

instance (p p' : Tree) : Decidable (ParameterPlain p p') :=
  decidable_of_iff _ (parameterPlain_iff p p').symm

instance (m m' : Tree) : Decidable (MemberPlain m m') := decidable_of_iff _ (memberPlain_iff m m').symm

instance (k k' : Tree) : Decidable (TypePlain k k') := decidable_of_iff _ (typePlain_iff k k').symm

instance (k : Tree) : Decidable (Unhidden k) :=
  inferInstanceAs (Decidable (∀ m ∈ callablesIn k, ∀ p ∈ parametersIn m, hiddenIn p = 0))

/-- Annotations with brackets of all kinds, in a bound, a type argument and a dimension. -/
def annotatedSource : String :=
  "interface I<T extends a.@A L<@B(\"<\") T>>\x7bvoid f(T x,int @C(\"[\") [] y @D []);\x7d"

def unannotatedSource : String := "interface I<T extends a.L<T>>{void f(T x,int[] y[]);}"

theorem annotations_cut_out_unannotated :
    ∃ tree tree', parseTree annotatedSource.toList = .ok tree ∧
      parseTree unannotatedSource.toList = .ok tree' ∧ CutsOut annotatedSource.toList 0 tree ∧
      List.Forall₂ TypePlain (typesIn tree) (typesIn tree') ∧
      ∃ u u', Unit.parse ⟨"I.java"⟩ annotatedSource = .ok u ∧
        Unit.parse ⟨"I.java"⟩ unannotatedSource = .ok u' ∧
        ∀ className executables, u.types.map (·.reconciled className executables) =
          u'.types.map (·.reconciled className executables) := by
  have hparse : ParseTo (fun t t' => List.Forall₂ TypePlain (typesIn t) (typesIn t') ∧
      ∀ k ∈ typesIn t, Unhidden k) annotatedSource unannotatedSource := by decide +kernel
  obtain ⟨tree, tree', htree, htree', hplain, hhidden⟩ := hparse
  obtain ⟨hcuts, -, hreconciled⟩ := annotations_cut_out htree htree'
  have hcut : CutsOut annotatedSource.toList 0 tree := hcuts [] tree (.here tree)
  exact ⟨tree, tree', htree, htree', hcut, hplain, hreconciled hplain hhidden ⟨"I.java"⟩⟩

/-- The compiled form of a method with an array of numbers as its parameter. -/
def fillExecutable : Executable :=
  ⟨.method, "f", [.array (.primitive .int) 1], some .void, ⟨0x401⟩⟩

/-- **An annotation can count**: without it the method is found, and with it the parameter has one more
dimension. -/
theorem annotation_counts :
    ParseTo (fun t t' => List.Forall₂ TypePlain (typesIn t) (typesIn t') ∧
        (Unit.ofTree t).types.map (·.reconciled "I" [fillExecutable]) = [.error "MEMBER_NOT_FOUND"] ∧
        (Unit.ofTree t').types.map (·.reconciled "I" [fillExecutable]) = [.ok [fillExecutable]])
      "interface I\x7bvoid f(int x @A(\"[\") []);\x7d" "interface I{void f(int x[]);}" := by
  decide +kernel

end Source

end MemberSpec
