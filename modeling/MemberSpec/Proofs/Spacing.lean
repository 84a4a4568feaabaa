import Mathlib
import MemberSpec.Reconcile
import MemberSpec.Source.File
import MemberSpec.Proofs.Source.NodeShapes

/-!
# Trivia in package clauses, imports and parameters

Blanks and comments are put in at many places of a declaration, and most of them do not matter. Those
that do stand where a text is cut out of the source as it is: inside the name of a package
or of an import, inside the name of an annotation or a type if they are not only blanks, behind the
modifiers of a variable-arity parameter if they are comments, and between the dimensions behind a
name if they have an opening bracket.

* `parameter?_of_alike`: what is the same of two alike parameters, and under which condition on the gaps.
* `KeepsParameter`, `KeepsName`: the trivia of a parameter or clause are the same where they count.
* `reconcile_outcome_eq`: types that agree have the same outcome against any compiled members.
* `Respaced.sameShape`, `Respaced.declarations_eq`: trees that vary in trivia only, inside clauses and
  parameters, have the same declarations if the trivia are the same where they count.
* `declarations_eq_of_respaced`: the same for parsed sources; `trivia_change_declarations` has trivia
  that count.
-/

namespace MemberSpec

open Text Source Erasure

namespace Source

/-! ### Where the parts of a parameter are -/

def isSpread (p : Tree) : Bool := p.kind? = some .spreadParameter

/-- The node with the name and the dimensions of a parameter. -/
def declared? (p : Tree) : Option Tree := if isSpread p then p.child? .declarator else some p

def nameIn? (p : Tree) : Option Tree := declared? p >>= (·.childAs? .name)

def dimensionsIn? (p : Tree) : Option Tree := declared? p >>= (·.childAs? .dimensions)

def typeIn? (p : Tree) : Option Tree :=
  if isSpread p then p.children.find? isTypeNode else p.childAs? .type

def isAnnotation (t : Tree) : Bool := t.kind? == some .annotationUse

def modifierAnnotations (t : Tree) : List Tree :=
  (((t.child? .modifiers).map Tree.children).getD []).filter isAnnotation

def annotationsIn (p : Tree) : List Tree :=
  modifierAnnotations p ++ if isSpread p then p.children.filter isAnnotation else []

/-- The comments in front of trees in a row, up to the first that can be a type. -/
def commentsUpToType : List Tree → List Lexeme
  | [] => []
  | t :: ts => t.comments ++ if isTypeNode t then [] else commentsUpToType ts

/-- The comments that a variable-arity parameter has between its start and its type. -/
def commentsAhead (p : Tree) : List Lexeme :=
  match p.children with
  | [] => []
  | first :: rest => if !isSpread p || isTypeNode first then [] else commentsUpToType rest

/-- The type of a parameter as it is read: the first comment ahead of it counts. -/
def typeTextIn? (p : Tree) : Option String :=
  ((commentsAhead p).head?.map fun c => tidyType c.text).or ((typeIn? p).map typeText)

/-! ### Readers by their gaps -/

theorem annotationName?_eq (t : Tree) :
    annotationName? t =
      (t.childAs? .name).map fun name => String.ofList (solid name.text.toList) := by
  have hsolid : ∀ c : Char, isBlank c = false → (c != ' ') = true := by
    intro c hc
    rw [bne_iff_ne]
    rintro rfl
    exact absurd hc (by decide)
  rw [annotationName?]
  refine Option.map_congr fun name _ => ?_
  rw [filter_collapseBlanks (p := (· != ' ')) (by decide) hsolid]

theorem filterMap_partsOfRow {β : Type} {f : Tree.Part → Option β}
    (hf : ∀ comment, f (.comment comment) = none) (ts : List Tree) :
    (Tree.partsOfRow ts).filterMap f = ts.filterMap fun t => f (.child t) := by
  induction ts with
  | nil => rfl
  | cons t ts ih =>
    have hcomments : (t.comments.map Tree.Part.comment).filterMap f = [] := by
      simp [hf]
    rw [Tree.partsOfRow, List.flatMap_cons, ← Tree.partsOfRow, List.filterMap_append, ih,
      List.filterMap_append, hcomments, List.nil_append]
    cases hchild : f (.child t) <;> simp [hchild]

/-- A reader that passes over comments reads the children of a node. -/
theorem filterMap_parts {β : Type} {f : Tree.Part → Option β}
    (hf : ∀ comment, f (.comment comment) = none) (t : Tree) :
    t.parts.filterMap f = t.children.filterMap fun t => f (.child t) := by
  rw [Tree.parts]
  split
  · next h => rw [h]; rfl
  · next first rest h =>
    rw [h, List.filterMap_cons, List.filterMap_cons, filterMap_partsOfRow hf]

theorem annotationsOf_eq (t : Tree) :
    annotationsOf t = (modifierAnnotations t).filterMap annotationName? := by
  rw [annotationsOf, modifierParts, modifierAnnotations]
  cases t.child? .modifiers with
  | none => rfl
  | some modifiers =>
    rw [Option.map_some, Option.map_some, Option.getD_some, Option.getD_some,
      filterMap_parts (by simp), List.filterMap_filter]
    refine List.filterMap_congr fun c _ => ?_
    cases c with
    | leaf => rfl
    | node kind role children => cases kind <;> rfl

theorem spreadType?_child (t : Tree) (rest : List Tree.Part) :
    spreadType? (.child t :: rest) =
      if isTypeNode t then some (typeText t) else spreadType? rest := by
  cases t with
  | leaf => rfl
  | node kind role children => cases kind <;> rfl

theorem spreadType?_partsOfRow (ts : List Tree) :
    spreadType? (Tree.partsOfRow ts) =
      ((commentsUpToType ts).head?.map fun c => tidyType c.text).or
        ((ts.find? isTypeNode).map typeText) := by
  induction ts with
  | nil => rfl
  | cons t ts ih =>
    rw [Tree.partsOfRow, List.flatMap_cons, ← Tree.partsOfRow, commentsUpToType, List.find?_cons]
    cases t.comments with
    | cons comment comments => rfl
    | nil =>
      rw [List.map_nil, List.nil_append, List.nil_append, List.singleton_append, spreadType?_child]
      cases isTypeNode t with
      | true => rfl
      | false => exact ih

theorem spreadType?_parts {p : Tree} (h : isSpread p = true) :
    spreadType? p.parts = typeTextIn? p := by
  rw [Tree.parts, typeTextIn?, commentsAhead, typeIn?, h]
  cases p.children with
  | nil => rfl
  | cons first rest =>
    dsimp only
    rw [spreadType?_child, if_pos rfl, List.find?_cons]
    cases isTypeNode first with
    | true => rfl
    | false => exact spreadType?_partsOfRow rest

/-- A parameter of either kind, from where its parts are. -/
def parameterIn? (p : Tree) : Option Parameter :=
  (typeTextIn? p).bind fun type => (nameIn? p).map fun name =>
    ⟨type, name.text, (annotationsIn p).filterMap annotationName?, isSpread p,
      ((dimensionsIn? p).map fun d => d.text.toList.count '[').getD 0⟩

theorem spreadParameter?_eq {p : Tree} (h : isSpread p = true) :
    spreadParameter? p = parameterIn? p := by
  have hannotations : (annotationsIn p).filterMap annotationName? =
      annotationsOf p ++ (p.children.filter isAnnotation).filterMap annotationName? := by
    rw [annotationsIn, if_pos h, List.filterMap_append, annotationsOf_eq]
  rw [spreadParameter?, parameterIn?, hannotations, spreadType?_parts h, nameIn?, dimensionsIn?,
    declared?, if_pos h]
  cases p.child? .declarator with
  | none => cases typeTextIn? p <;> rfl
  | some declarator =>
    simp only [Option.bind_eq_bind, Option.bind_some]
    cases declarator.childAs? .name with
    | none => cases typeTextIn? p <;> rfl
    | some name =>
      cases typeTextIn? p with
      | none => rfl
      | some type => rw [h]; rfl

theorem formalParameter?_eq {p : Tree} (h : isSpread p = false) :
    formalParameter? p = parameterIn? p := by
  have hannotations : (annotationsIn p).filterMap annotationName? = annotationsOf p := by
    rw [annotationsIn, h, annotationsOf_eq]
    simp
  have htype : typeTextIn? p = (p.childAs? .type).map typeText := by
    rw [typeTextIn?, commentsAhead, typeIn?, h]
    cases p.children <;> rfl
  rw [formalParameter?, parameterIn?, hannotations, htype, nameIn?, dimensionsIn?, declared?, h]
  cases p.childAs? .type with
  | none => rfl
  | some type => cases hname : p.childAs? .name <;> simp [hname, dimensionCount]

def isParameter (p : Tree) : Bool := p.kind? = some .formalParameter || isSpread p

theorem parameter?_eq (p : Tree) :
    parameter? p = if isParameter p then parameterIn? p else none := by
  by_cases hspread : isSpread p = true
  · have hkind : p.kind? = some .spreadParameter := by simpa [isSpread] using hspread
    rw [parameter?, hkind, isParameter, hspread, Bool.or_true, if_pos rfl]
    exact spreadParameter?_eq hspread
  · have hother : isSpread p = false := by simpa using hspread
    by_cases hformal : p.kind? = some .formalParameter
    · rw [parameter?, hformal, isParameter, hformal, if_pos (by simp)]
      exact formalParameter?_eq hother
    · rw [isParameter, hother, Bool.or_false, if_neg (by simpa using hformal), parameter?]
      split
      · contradiction
      · next hkind => simp [isSpread, hkind] at hother
      · rfl

/-! ### What every parameter has -/

theorem declared?_eq_some {p d : Tree} (hp : isParameter p = true) (hd : declared? p = some d) :
    ∃ kind, d.kind? = some kind ∧ kind ≠ .annotationUse := by
  rw [declared?] at hd
  split at hd
  · exact ⟨.declarator, by simpa using List.find?_some hd, by decide⟩
  · rename_i hspread
    cases hd
    rw [isParameter, Bool.or_eq_true] at hp
    exact ⟨.formalParameter, by simpa using hp.resolve_right hspread, by decide⟩

theorem everywhere_declared? {W : NodeKind → List Tree → Prop} {p d : Tree} (hp : p.Everywhere W)
    (hd : declared? p = some d) : d.Everywhere W := by
  rw [declared?] at hd
  split at hd
  · exact hp.child (List.mem_of_find?_eq_some hd)
  · cases hd
    exact hp

/-- The name of a parameter is one token. -/
theorem oneToken_nameIn? {p n : Tree} (hshape : p.Everywhere NodeShape) (hp : isParameter p = true)
    (hn : nameIn? p = some n) : n.tokens.length = 1 := by
  obtain ⟨d, hd, hn⟩ := Option.bind_eq_some_iff.1 hn
  obtain ⟨kind, hkind, hother⟩ := declared?_eq_some hp hd
  have hrole : n.role? = some .name := by simpa using List.find?_some hn
  exact ((everywhere_declared? hshape hd).holds hkind).oneToken hother n (List.mem_of_find?_eq_some hn)
    hrole

/-- A parameter of variable arity has a type. -/
theorem isSome_typeIn? {p : Tree} (hshape : p.Everywhere NodeShape) (hspread : isSpread p = true) :
    (typeIn? p).isSome = true := by
  have hkind : p.kind? = some .spreadParameter := by simpa [isSpread] using hspread
  rw [typeIn?, if_pos hspread, List.find?_isSome]
  exact (hshape.holds hkind).typed rfl

/-! ### Alike parameters -/

namespace Tree.Alike

variable {p p' : Tree}

theorem isSpread (h : p.Alike p') : isSpread p = isSpread p' := by
  rw [Source.isSpread, Source.isSpread, h.kind?]

theorem isParameter (h : p.Alike p') : isParameter p = isParameter p' := by
  rw [Source.isParameter, Source.isParameter, h.kind?, h.isSpread]

theorem isAnnotation (h : p.Alike p') : isAnnotation p = isAnnotation p' := by
  rw [Source.isAnnotation, Source.isAnnotation, h.kind?]

theorem isTypeNode (h : p.Alike p') : isTypeNode p = isTypeNode p' := by
  have hkind := h.kind?
  cases p with
  | leaf => cases p' with
    | leaf => rfl
    | node => exact absurd hkind (by simp [Tree.kind?])
  | node => cases p' with
    | leaf => exact absurd hkind (by simp [Tree.kind?])
    | node => rw [Source.isTypeNode, Source.isTypeNode, Option.some.inj hkind]

theorem declared? (h : p.Alike p') : Option.Rel Alike (declared? p) (declared? p') := by
  rw [Source.declared?, Source.declared?, h.isSpread]
  split
  · exact h.child? .declarator
  · exact .some h

theorem nameIn? (h : p.Alike p') : Option.Rel Alike (nameIn? p) (nameIn? p') :=
  bind_rel h.declared? fun _ _ hd => hd.childAs? .name

theorem dimensionsIn? (h : p.Alike p') : Option.Rel Alike (dimensionsIn? p) (dimensionsIn? p') :=
  bind_rel h.declared? fun _ _ hd => hd.childAs? .dimensions

theorem typeIn? (h : p.Alike p') : Option.Rel Alike (typeIn? p) (typeIn? p') := by
  rw [Source.typeIn?, Source.typeIn?, h.isSpread]
  split
  · exact find?_rel (fun _ _ hc => hc.isTypeNode) h.children
  · exact h.childAs? .type

theorem filter_isAnnotation {ts ts' : List Tree} (h : List.Forall₂ Alike ts ts') :
    List.Forall₂ Alike (ts.filter Source.isAnnotation) (ts'.filter Source.isAnnotation) :=
  List.rel_filter (fun _ _ hc => by simp only [hc.isAnnotation]) h

theorem annotationsIn (h : p.Alike p') :
    List.Forall₂ Alike (annotationsIn p) (annotationsIn p') := by
  refine List.rel_append ?_ ?_
  · exact filter_isAnnotation (getD_rel (h.child? .modifiers) fun _ _ hm => hm.children)
  · rw [h.isSpread]
    split
    · exact filter_isAnnotation h.children
    · exact .nil

/-- A reading of the text at a place of alike trees. -/
theorem map_text {β : Type} {f : List Char → β} (hf : Joins f) {o o' : Option Tree}
    (h : Option.Rel Alike o o') (hgaps : o.map (gapsBy f) = o'.map (gapsBy f)) :
    (o.map fun t => f t.text.toList) = o'.map fun t => f t.text.toList := by
  cases h with
  | none => rfl
  | some h => exact congrArg some (h.text_congr hf (Option.some.inj hgaps))

end Tree.Alike

/-- The gaps inside the name of an annotation without blanks. -/
def nameGaps (a : Tree) : Option (List (List Char)) := (a.childAs? .name).map (Tree.gapsBy solid)

theorem annotationName?_congr {a a' : Tree} (h : a.Alike a') (hgaps : nameGaps a = nameGaps a') :
    annotationName? a = annotationName? a' := by
  have hname := Tree.Alike.map_text joins_solid (h.childAs? .name) hgaps
  have hofList : ∀ o : Option Tree, (o.map fun n => String.ofList (solid n.text.toList)) =
      (o.map fun n => solid n.text.toList).map String.ofList := by
    intro o
    rw [Option.map_map]
    rfl
  rw [annotationName?_eq, annotationName?_eq, hofList, hofList, hname]

theorem filterMap_annotationName?_congr {as as' : List Tree} (h : List.Forall₂ Tree.Alike as as')
    (hgaps : as.map nameGaps = as'.map nameGaps) :
    as.filterMap annotationName? = as'.filterMap annotationName? := by
  induction h with
  | nil => rfl
  | cons ha _ ih =>
    obtain ⟨hgap, hgaps⟩ := List.cons.inj hgaps
    rw [List.filterMap_cons, List.filterMap_cons, annotationName?_congr ha hgap, ih hgaps]

/-- What is the same of two alike parameters: the name, the arity and the number of annotations, and
every other part if what counts of the gaps in it is the same. -/
structure ParameterReads (p p' : Tree) (a a' : Parameter) : Prop where
  name : a.name = a'.name
  isVarargs : a.isVarargs = a'.isVarargs
  annotationCount : a.annotations.length = a'.annotations.length
  annotations : (annotationsIn p).map nameGaps = (annotationsIn p').map nameGaps →
    a.annotations = a'.annotations
  extraDimensions :
    (dimensionsIn? p).map (Tree.gapsBy (List.count '[')) =
      (dimensionsIn? p').map (Tree.gapsBy (List.count '[')) →
    a.extraDimensions = a'.extraDimensions
  type : commentsAhead p = commentsAhead p' → (typeIn? p).map typeGaps = (typeIn? p').map typeGaps →
    Reads 0 a.type.toList a'.type.toList

/-- The first comment ahead is the type, or else the type itself is. -/
theorem typeTextIn?_of_some {p t : Tree} (h : typeIn? p = some t) :
    typeTextIn? p =
      some (((commentsAhead p).head?.map fun c => tidyType c.text).getD (typeText t)) := by
  rw [typeTextIn?, h]
  cases (commentsAhead p).head? <;> rfl

/-- Without a type there is nothing to read in a parameter of fixed arity. -/
theorem typeTextIn?_of_none {p : Tree} (h : typeIn? p = none) (hspread : isSpread p = false) :
    typeTextIn? p = none := by
  have hahead : commentsAhead p = [] := by
    rw [commentsAhead, hspread]
    cases p.children <;> rfl
  rw [typeTextIn?, h, hahead]
  rfl

theorem typeTextIn?_of_alike {p p' : Tree} (h : p.Alike p') (hshape : p.Everywhere NodeShape) :
    Option.Rel (fun s s' => commentsAhead p = commentsAhead p' →
        (typeIn? p).map typeGaps = (typeIn? p').map typeGaps → Reads 0 s.toList s'.toList)
      (typeTextIn? p) (typeTextIn? p') := by
  rcases rel_iff.1 h.typeIn? with ⟨hnone, hnone'⟩ | ⟨t, t', ht, ht', hrel⟩
  · have hspread : isSpread p = false := by
      by_contra hspread
      have hsome := isSome_typeIn? hshape (by simpa using hspread)
      simp [hnone] at hsome
    rw [typeTextIn?_of_none hnone hspread, typeTextIn?_of_none hnone' (h.isSpread ▸ hspread)]
    exact .none
  · rw [typeTextIn?_of_some ht, typeTextIn?_of_some ht', ht, ht']
    refine .some fun hahead hgaps => ?_
    rw [hahead]
    cases (commentsAhead p').head? with
    | some c =>
      rw [Option.map_some, Option.getD_some, Option.getD_some]
      exact Reads.refl _ _
    | none => exact hrel.reads_typeText (Option.some.inj hgaps)

/-- **What is read off alike parameters.** -/
theorem parameter?_of_alike {p p' : Tree} (h : p.Alike p') (hshape : p.Everywhere NodeShape) :
    Option.Rel (ParameterReads p p') (parameter? p) (parameter? p') := by
  rw [parameter?_eq, parameter?_eq, ← h.isParameter]
  split
  · rename_i hparameter
    rw [parameterIn?, parameterIn?]
    refine bind_rel (typeTextIn?_of_alike h hshape) fun type type' htype => ?_
    have hannotations := h.annotationsIn
    rcases rel_iff.1 h.nameIn? with ⟨hnone, hnone'⟩ | ⟨n, n', hn, hn', hrel⟩
    · rw [hnone, hnone']
      exact .none
    · rw [hn, hn']
      have hname := hrel.text_eq_of_single (oneToken_nameIn? hshape hparameter hn)
      refine .some ⟨hname, h.isSpread, ?_, ?_, ?_, htype⟩
      · have hnames : List.Forall₂ (fun _ _ => True) ((annotationsIn p).filterMap annotationName?)
            ((annotationsIn p').filterMap annotationName?) := by
          refine List.rel_filterMap (fun a a' ha => ?_) hannotations
          exact map_rel (ha.childAs? .name) fun _ _ _ => trivial
        exact hnames.length_eq
      · exact filterMap_annotationName?_congr hannotations
      · intro hgaps
        have hcount := Tree.Alike.map_text (joins_count '[') h.dimensionsIn? hgaps
        exact congrArg (Option.getD · 0) hcount
  · exact .none

/-- Parameters that are the same as far as extraction goes: only the text of the type can differ, and
it erases to the same name whichever type parameters are in scope. -/
structure Parameter.Agree (a a' : Parameter) : Prop where
  name : a.name = a'.name
  annotations : a.annotations = a'.annotations
  isVarargs : a.isVarargs = a'.isVarargs
  extraDimensions : a.extraDimensions = a'.extraDimensions
  erases : ∀ parameters, erase parameters a.fullType = erase parameters a'.fullType

/-- Parameters with the same name, the same arity and the same number of annotations. -/
def Parameter.SameShape (a a' : Parameter) : Prop :=
  a.name = a'.name ∧ a.isVarargs = a'.isVarargs ∧ a.annotations.length = a'.annotations.length

theorem Parameter.Agree.refl (a : Parameter) : a.Agree a := ⟨rfl, rfl, rfl, rfl, fun _ => rfl⟩

/-- Alike parameters with the same trivia where they count: only blanks changed inside the names of
annotations, no opening bracket between the dimensions behind the name, no comment ahead of a
variable-arity type, and inside the type only blanks or, between type arguments, comments without
angle brackets. -/
@[mk_iff]
structure KeepsParameter (p p' : Tree) : Prop where
  alike : p.Alike p'
  annotations : (annotationsIn p).map nameGaps = (annotationsIn p').map nameGaps
  dimensions : (dimensionsIn? p).map (Tree.gapsBy (List.count '[')) =
    (dimensionsIn? p').map (Tree.gapsBy (List.count '['))
  ahead : commentsAhead p = commentsAhead p'
  type : (typeIn? p).map typeGaps = (typeIn? p').map typeGaps

theorem KeepsParameter.parameter? {p p' : Tree} (h : KeepsParameter p p')
    (hshape : p.Everywhere NodeShape) :
    Option.Rel Parameter.Agree (parameter? p) (parameter? p') := by
  refine imp_rel (parameter?_of_alike h.alike hshape) fun a a' hreads => ?_
  have hvarargs := hreads.isVarargs
  have hdimensions := hreads.extraDimensions h.dimensions
  have htype := hreads.type h.ahead h.type
  refine ⟨hreads.name, hreads.annotations h.annotations, hvarargs, hdimensions, ?_⟩
  apply erase_congr
  rw [Parameter.fullType, Parameter.fullType, hdimensions, hvarargs, String.toList_append,
    String.toList_append]
  exact htype.append (Reads.refl _ _)

/-- Alike clauses with nothing changed inside their names. -/
@[mk_iff]
structure KeepsName (d d' : Tree) : Prop where
  alike : d.Alike d'
  name : (d.child? .name).map (Tree.gapsBy id) = (d'.child? .name).map (Tree.gapsBy id)

theorem KeepsName.clauseAgree {d d' : Tree} (h : KeepsName d d') : Tree.ClauseAgree Eq d d' := by
  refine ⟨h.alike, ?_⟩
  have hgaps := h.name
  rcases rel_iff.1 (h.alike.child? .name) with ⟨hnone, hnone'⟩ | ⟨n, n', hn, hn', hrel⟩
  · rw [hnone, hnone']
    exact .none
  · rw [hn, hn'] at hgaps ⊢
    exact .some (hrel.text_eq (Option.some.inj hgaps))

instance (p p' : Tree) : Decidable (KeepsParameter p p') :=
  decidable_of_iff _ (keepsParameter_iff p p').symm

instance (d d' : Tree) : Decidable (KeepsName d d') := decidable_of_iff _ (keepsName_iff d d').symm

theorem Tree.Alike.clauseAgree {d d' : Tree} (h : d.Alike d') :
    Tree.ClauseAgree (fun _ _ => True) d d' :=
  ⟨h, imp_rel (h.child? .name) fun _ _ _ => trivial⟩

end Source

/-! ### Reconciliation -/

/-- What came of a step: a value read off the result, or the status of the error. -/
def outcomeOf {α β : Type} (f : α → β) : Except ExtractError α → Except String β
  | .ok a => .ok (f a)
  | .error e => .error e.status

theorem outcomeOf_mapM_cons {α β γ : Type} (f : α → Except ExtractError β) (g : β → γ) (x : α)
    (xs : List α) :
    outcomeOf (List.map g) ((x :: xs).mapM f) =
      (do return (← outcomeOf g (f x)) :: (← outcomeOf (List.map g) (xs.mapM f))) := by
  rw [List.mapM_cons]
  cases f x with
  | error e => rfl
  | ok b => cases xs.mapM f <;> rfl

theorem outcomeOf_mapM {α β γ : Type} {f f' : α → Except ExtractError β} {g : β → γ} {xs ys : List α}
    (h : List.Forall₂ (fun x y => outcomeOf g (f x) = outcomeOf g (f' y)) xs ys) :
    outcomeOf (List.map g) (xs.mapM f) = outcomeOf (List.map g) (ys.mapM f') := by
  induction h with
  | nil => rfl
  | cons hxy _ ih => rw [outcomeOf_mapM_cons, outcomeOf_mapM_cons, hxy, ih]

theorem MatchKey.ofDeclaration_congr {c c' : Callable} (h : c.Agree Parameter.Agree c')
    (classParameters : List TypeParameter) :
    ofDeclaration classParameters c = ofDeclaration classParameters c' := by
  have hkind : c.kind = c'.kind := congrArg (·.kind) h.others
  have hname : c.name = c'.name := congrArg (·.name) h.others
  have htypes : c.typeParameters = c'.typeParameters := congrArg (·.typeParameters) h.others
  have herased : ∀ parameters, c.parameters.map (fun p => erase parameters p.fullType) =
      c'.parameters.map fun p => erase parameters p.fullType := by
    intro parameters
    exact map_eq_map_iff_forall₂.2 (h.parameters.imp fun p p' hp => hp.erases parameters)
  rw [ofDeclaration, ofDeclaration, hkind, hname, htypes, herased]

/-- Pairing sees only the key of a declaration. -/
theorem pairOne_outcome_eq {c c' : Callable} {classParameters classParameters' : List TypeParameter}
    (h : MatchKey.ofDeclaration classParameters c = MatchKey.ofDeclaration classParameters' c')
    (className : String) (executables : List Executable) :
    outcomeOf ReconciledPair.executable (pairOne className classParameters executables c) =
      outcomeOf ReconciledPair.executable (pairOne className classParameters' executables c') := by
  rw [pairOne, pairOne, h]
  split <;> rfl

theorem reconcile_outcome_of_keys {cs cs' : List Callable}
    {classParameters classParameters' : List TypeParameter}
    (h : List.Forall₂ (fun c c' => MatchKey.ofDeclaration classParameters c =
      MatchKey.ofDeclaration classParameters' c') cs cs')
    (className : String) (executables : List Executable) :
    outcomeOf (List.map ReconciledPair.executable)
        (reconcile className classParameters cs executables) =
      outcomeOf (List.map ReconciledPair.executable)
        (reconcile className classParameters' cs' executables) := by
  rw [reconcile, reconcile, h.length_eq]
  split
  · rfl
  · exact outcomeOf_mapM (h.imp fun c c' hc => pairOne_outcome_eq hc className executables)

/-- What comes of reconciling a type with compiled members: the executables, or the status of the
error. -/
def Source.TypeDeclaration.reconciled (d : TypeDeclaration) (className : String)
    (executables : List Executable) : Except String (List Executable) :=
  outcomeOf (List.map ReconciledPair.executable)
    (reconcile className d.typeParameters d.visible executables)

/-- **Types that agree are reconciled with the same outcome.** -/
theorem reconcile_outcome_eq {d d' : TypeDeclaration} (h : d.Agree Parameter.Agree d')
    (className : String) (executables : List Executable) :
    d.reconciled className executables = d'.reconciled className executables := by
  have htypes : d.typeParameters = d'.typeParameters := congrArg (·.typeParameters) h.others
  have hvisible : List.Forall₂ (Callable.Agree Parameter.Agree) d.visible d'.visible := by
    refine List.rel_filter (fun c c' hc => ?_) h.callables
    have hmodifiers : c.modifiers = c'.modifiers := congrArg (·.modifiers) hc.others
    simp only [Callable.isPrivate, hmodifiers]
  rw [TypeDeclaration.reconciled, TypeDeclaration.reconciled, htypes]
  exact reconcile_outcome_of_keys
    (hvisible.imp fun c c' hc => MatchKey.ofDeclaration_congr hc d'.typeParameters) className executables

/-! ### Files -/

theorem Source.parse_of_parseTree {source : String} {t : Tree} (h : parseTree source.toList = .ok t)
    (path : Path) : Unit.parse path source = .ok (Unit.ofTree t) := by
  unfold Unit.parse
  generalize parseTree source.toList = parsed at h
  subst h
  rfl

namespace Source.Tree.Respaced

variable {t t' : Tree}

/-- Trees that differ in trivia only, inside clauses and parameters, have the same imports up to names,
and the same types and callables with parameters of the same shape. -/
theorem sameShape (h : Respaced Alike Alike t t') (ht : t.Everywhere NodeShape) :
    (Unit.ofTree t).Agree (fun _ _ => True) Parameter.SameShape (Unit.ofTree t') := by
  refine unit (fun _ => ⟨rfl, rfl, rfl⟩) (fun p p' hp => ?_) (fun _ _ hd => hd.clauseAgree)
    (h.with_everywhere ht)
  exact imp_rel (parameter?_of_alike hp.2 hp.1) fun _ _ hreads =>
    ⟨hreads.name, hreads.isVarargs, hreads.annotationCount⟩

/-- **Trivia that are the same where they count** leave the declarations of a tree as they are, up to
the texts of types, and the outcome of reconciling each type. -/
theorem declarations_eq (h : Respaced KeepsName KeepsParameter t t') (ht : t.Everywhere NodeShape) :
    (Unit.ofTree t).scope = (Unit.ofTree t').scope ∧
    List.Forall₂ (TypeDeclaration.Agree Parameter.Agree) (Unit.ofTree t).types
      (Unit.ofTree t').types ∧
    ∀ className executables,
      (Unit.ofTree t).types.map (·.reconciled className executables) =
        (Unit.ofTree t').types.map (·.reconciled className executables) := by
  have hagree := unit Parameter.Agree.refl (fun _ _ hp => hp.2.parameter? hp.1)
    (fun _ _ hd => hd.clauseAgree) (h.with_everywhere ht)
  refine ⟨hagree.scope_eq, hagree.types, fun className executables => ?_⟩
  rw [map_eq_map_iff_forall₂]
  exact hagree.types.imp fun _ _ hd => reconcile_outcome_eq hd className executables

end Source.Tree.Respaced

/-- **Trivia inside clauses and parameters.** Let two sources parse to trees that differ in trivia
only, inside package clauses, imports and the parameters of members. They have the same imports up to
names, and the same types and callables with parameters of the same names and arity and as many
annotations. If moreover the trivia are the same where they count, packages and imports are the same,
every parameter has the same name, annotations, arity, extra dimensions and erased type, and every
type is reconciled with the same outcome. -/
theorem declarations_eq_of_respaced (path : Path) {source source' : String} {t t' : Tree}
    (h : parseTree source.toList = .ok t) (h' : parseTree source'.toList = .ok t')
    (hspaced : Tree.Respaced Tree.Alike Tree.Alike t t') :
    ∃ u u', Unit.parse path source = .ok u ∧ Unit.parse path source' = .ok u' ∧
      u.Agree (fun _ _ => True) Parameter.SameShape u' ∧
      (Tree.Respaced KeepsName KeepsParameter t t' →
        u.scope = u'.scope ∧
        List.Forall₂ (TypeDeclaration.Agree Parameter.Agree) u.types u'.types ∧
        ∀ className executables,
          u.types.map (·.reconciled className executables) =
            u'.types.map (·.reconciled className executables)) := by
  have hshape := parseTree_shaped h
  exact ⟨_, _, parse_of_parseTree h path, parse_of_parseTree h' path, hspaced.sameShape hshape,
    fun hkeeps => hkeeps.declarations_eq hshape⟩

/-- Sources that parse to related trees. -/
def Source.ParseTo (R : Tree → Tree → Prop) (source source' : String) : Prop :=
  ∃ t t', parseTree source.toList = .ok t ∧ parseTree source'.toList = .ok t' ∧ R t t'

/-- Whether two outcomes of parsing are related trees. -/
def Source.relatedTrees (R : Tree → Tree → Prop) [∀ t t', Decidable (R t t')] :
    Except Place Tree → Except Place Tree → Bool
  | .ok t, .ok t' => R t t'
  | _, _ => false

theorem Source.relatedTrees_iff {R : Tree → Tree → Prop} [∀ t t', Decidable (R t t')]
    {r r' : Except Place Tree} :
    relatedTrees R r r' = true ↔ ∃ t t', r = .ok t ∧ r' = .ok t' ∧ R t t' := by
  cases r <;> cases r' <;> simp [relatedTrees]

instance {R : Tree → Tree → Prop} [∀ t t', Decidable (R t t')] (source source' : String) :
    Decidable (ParseTo R source source') :=
  decidable_of_iff _ relatedTrees_iff

def tightSource : String := "package a.b;interface I{void f(@E.F A<K> m,int... n);}"

def looseSource : String :=
  "package /*p*/ a.b ;interface I{void f( @ E . F /*e*/ A < K /*k*/ > m /*m*/,int /*v*/ ... n );}"

theorem declarations_eq_of_respaced_loose :
    ∃ u u', Unit.parse ⟨"I.java"⟩ tightSource = .ok u ∧ Unit.parse ⟨"I.java"⟩ looseSource = .ok u' ∧
      u.scope = u'.scope ∧
      List.Forall₂ (TypeDeclaration.Agree Parameter.Agree) u.types u'.types := by
  have hparse : ParseTo (fun t t' => Tree.Respaced Tree.Alike Tree.Alike t t' ∧
      Tree.Respaced KeepsName KeepsParameter t t') tightSource looseSource := by decide +kernel
  obtain ⟨t, t', ht, ht', hspaced, hkeeps⟩ := hparse
  obtain ⟨u, u', hu, hu', -, hagree⟩ := declarations_eq_of_respaced ⟨"I.java"⟩ ht ht' hspaced
  exact ⟨u, u', hu, hu', (hagree hkeeps).1, (hagree hkeeps).2.1⟩

/-- The package of a file, and the annotations, extra dimensions and erased types of parameters. -/
def Source.Unit.reading (u : Source.Unit) : Option String × List (List String × Nat × String) :=
  (u.scope.package, (u.types.flatMap (·.callables)).flatMap fun c =>
    c.parameters.map fun p => (p.annotations, p.extraDimensions, erase [] p.fullType))

/-- Sources with trees that differ in trivia only, inside clauses and parameters, but with other
readings. -/
def ReadApart {β : Type} (f : Source.Unit → β) (source source' : String) (x x' : β) : Prop :=
  ParseTo (fun t t' => Tree.Respaced Tree.Alike Tree.Alike t t' ∧
    f (Unit.ofTree t) = x ∧ f (Unit.ofTree t') = x') source source'

instance {β : Type} [DecidableEq β] (f : Source.Unit → β) (source source' : String) (x x' : β) :
    Decidable (ReadApart f source source' x x') :=
  inferInstanceAs (Decidable (ParseTo _ _ _))

/-- **Trivia between tokens can change declarations**: blanks in the name of a package, a comment in
the name of an annotation, one with a bracket between dimensions, and one behind the modifiers of a
variable-arity parameter. -/
theorem trivia_change_declarations :
    ReadApart Unit.reading
      "package a.b;interface I{void f(@E.F int m[],final int... n);}"
      "package a . b;interface I{void f(@E./*e*/F int m[/*[*/],final /*v*/ int... n);}"
      (some "a.b", [(["E.F"], 1, "int[]"), ([], 0, "int[]")])
      (some "a . b", [(["E./*e*/F"], 2, "int[][]"), ([], 0, "/*v*/[]")]) := by
  decide +kernel

end MemberSpec
