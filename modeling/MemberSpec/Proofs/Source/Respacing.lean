import Mathlib
import MemberSpec.Proofs.Source.Building
import MemberSpec.Proofs.Source.Trivia

/-!
# Files that differ inside clauses and parameters

`Respaced C P` relates the trees of two source files that are the same but for package clauses and
imports, which are related by `C`, and what is between the parentheses of the members of the
top-level types, related by `P` one by one. Members of other kinds, such as nested types, need only
have the same kind, as nothing is read off them.

What is read off such files follows the tree: a child that is found by its kind or role is the same
in both files unless it is the one that may vary.

* `MemberRespaced.callableOf?`, `TypeRespaced.typeDeclaration?`: the same declarations, up to
  parameters.
* `Respaced.unit`: whatever `C` and `P` guarantee of names and of parameters, the two files agree on.
-/

namespace MemberSpec.Source

/-! ### Agreement of declarations -/

/-- Imports with the same flags and names related by `N`. -/
structure Import.Agree (N : String → String → Prop) (i i' : Import) : Prop where
  name : N i.name i'.name
  isStatic : i.isStatic = i'.isStatic
  isWildcard : i.isWildcard = i'.isWildcard

/-- Callables that are the same but for the parameters, which are related by `Q` one by one. -/
structure Callable.Agree (Q : Parameter → Parameter → Prop) (c c' : Callable) : Prop where
  parameters : List.Forall₂ Q c.parameters c'.parameters
  others : { c with parameters := [] } = { c' with parameters := [] }

/-- Types that are the same but for the callables, which agree one by one. -/
structure TypeDeclaration.Agree (Q : Parameter → Parameter → Prop) (d d' : TypeDeclaration) :
    Prop where
  callables : List.Forall₂ (Callable.Agree Q) d.callables d'.callables
  others : { d with callables := [] } = { d' with callables := [] }

/-- Files that agree on packages and imports, with names related by `N`, and on all types, with
parameters related by `Q`. -/
structure Unit.Agree (N : String → String → Prop) (Q : Parameter → Parameter → Prop) (u u' : Unit) :
    Prop where
  package : Option.Rel N u.scope.package u'.scope.package
  imports : List.Forall₂ (Import.Agree N) u.scope.imports u'.scope.imports
  types : List.Forall₂ (TypeDeclaration.Agree Q) u.types u'.types

theorem Unit.Agree.scope_eq {Q : Parameter → Parameter → Prop} {u u' : Unit} (h : u.Agree Eq Q u') :
    u.scope = u'.scope := by
  have hpackage : u.scope.package = u'.scope.package := by
    have hrel := h.package
    generalize u.scope.package = p at hrel ⊢
    generalize u'.scope.package = p' at hrel ⊢
    cases hrel with
    | none => rfl
    | some hname => rw [hname]
  have himports : u.scope.imports = u'.scope.imports := by
    refine List.forall₂_eq_eq_eq ▸ h.imports.imp fun i i' hi => ?_
    obtain ⟨hname, hstatic, hwildcard⟩ := hi
    cases i
    cases i'
    simp_all
  generalize u.scope = scope at hpackage himports ⊢
  generalize u'.scope = scope' at hpackage himports ⊢
  cases scope
  cases scope'
  simp_all

theorem Callable.Agree.refl {Q : Parameter → Parameter → Prop} (hQ : ∀ p, Q p p) (c : Callable) :
    c.Agree Q c :=
  ⟨List.forall₂_same.2 fun p _ => hQ p, rfl⟩

/-! ### Files that vary in trivia -/

namespace Tree

variable {C P : Tree → Tree → Prop} {t t' : Tree}

/-- Nodes of the same kind and role whose children are related one by one. -/
def Along (R : Tree → Tree → Prop) : Tree → Tree → Prop
  | node kind role children, node kind' role' children' =>
    kind = kind' ∧ role = role' ∧ List.Forall₂ R children children'
  | _, _ => False

/-- Nodes that are the same but for children of a kind in a role, which are related by `R`. -/
def VariesAt (kind : NodeKind) (role : Role) (R : Tree → Tree → Prop) : Tree → Tree → Prop :=
  Along fun c c' => if c.kind? = some kind ∧ c.role? = some role then R c c' else c = c'

/-- Constructors or methods with the same comments in front that vary in their parameters. -/
def MemberRespaced (P : Tree → Tree → Prop) (m m' : Tree) : Prop :=
  m.comments = m'.comments ∧ VariesAt .parameters .parameters (Along P) m m'

def isCallable (m : Tree) : Bool :=
  m.kind? = some .constructorDeclaration || m.kind? = some .methodDeclaration

/-- Bodies whose constructors and methods vary in their parameters. -/
def BodyRespaced (P : Tree → Tree → Prop) : Tree → Tree → Prop :=
  Along fun m m' => if m.isCallable then MemberRespaced P m m' else m.kind? = m'.kind?

/-- Types that vary in the parameters of their members. -/
def TypeRespaced (P : Tree → Tree → Prop) : Tree → Tree → Prop :=
  VariesAt .body .body (BodyRespaced P)

def isClause (d : Tree) : Bool := d.kind? = some .packageClause || d.kind? = some .importClause

def declaresType (d : Tree) : Bool := (d.kind? >>= typeKind?).isSome

/-- Declarations at the top of files that vary. -/
def DeclarationRespaced (C P : Tree → Tree → Prop) (d d' : Tree) : Prop :=
  if d.isClause then C d d'
  else if d.declaresType then TypeRespaced P d d'
  else d.kind? = d'.kind?

/-- Files that vary in package clauses and imports, related by `C`, and in the parameters of the
members of types, related by `P`. -/
def Respaced (C P : Tree → Tree → Prop) : Tree → Tree → Prop := Along (DeclarationRespaced C P)

instance [∀ c c', Decidable (P c c')] : (t t' : Tree) → Decidable (Along P t t')
  | node .., node .. => inferInstanceAs (Decidable (_ ∧ _ ∧ _))
  | leaf _, _ => isFalse id
  | node .., leaf _ => isFalse id

instance [∀ c c', Decidable (P c c')] (kind : NodeKind) (role : Role) (t t' : Tree) :
    Decidable (VariesAt kind role P t t') :=
  inferInstanceAs (Decidable (Along _ _ _))

instance [∀ c c', Decidable (P c c')] (t t' : Tree) : Decidable (MemberRespaced P t t') :=
  inferInstanceAs (Decidable (_ ∧ _))

instance [∀ c c', Decidable (P c c')] (t t' : Tree) : Decidable (BodyRespaced P t t') :=
  inferInstanceAs (Decidable (Along _ _ _))

instance [∀ c c', Decidable (P c c')] (t t' : Tree) : Decidable (TypeRespaced P t t') :=
  inferInstanceAs (Decidable (VariesAt _ _ _ _ _))

instance [∀ c c', Decidable (C c c')] [∀ c c', Decidable (P c c')] (t t' : Tree) :
    Decidable (DeclarationRespaced C P t t') := by
  unfold DeclarationRespaced
  infer_instance

instance [∀ c c', Decidable (C c c')] [∀ c c', Decidable (P c c')] (t t' : Tree) :
    Decidable (Respaced C P t t') :=
  inferInstanceAs (Decidable (Along _ _ _))

theorem Along.exists_nodes {R : Tree → Tree → Prop} (h : Along R t t') :
    ∃ kind role children children', t = node kind role children ∧ t' = node kind role children' ∧
      List.Forall₂ R children children' := by
  cases t with
  | leaf => exact h.elim
  | node kind role children =>
    cases t' with
    | leaf => exact h.elim
    | node kind' role' children' =>
      obtain ⟨rfl, rfl, hchildren⟩ := h
      exact ⟨kind, role, children, children', rfl, rfl, hchildren⟩

theorem Along.children {R : Tree → Tree → Prop} (h : Along R t t') :
    List.Forall₂ R t.children t'.children := by
  obtain ⟨_, _, _, _, rfl, rfl, hchildren⟩ := h.exists_nodes
  exact hchildren

theorem Along.kind? {R : Tree → Tree → Prop} (h : Along R t t') : t.kind? = t'.kind? := by
  obtain ⟨_, _, _, _, rfl, rfl, _⟩ := h.exists_nodes
  rfl

theorem Along.role? {R : Tree → Tree → Prop} (h : Along R t t') : t.role? = t'.role? := by
  obtain ⟨_, _, _, _, rfl, rfl, _⟩ := h.exists_nodes
  rfl

/-- What relates the children may use what is known of every node of the first tree. -/
theorem Along.imp_everywhere {W : NodeKind → List Tree → Prop} {R S : Tree → Tree → Prop}
    (h : Along R t t') (ht : t.Everywhere W) (himp : ∀ c c', c.Everywhere W → R c c' → S c c') :
    Along S t t' := by
  obtain ⟨kind, role, children, children', rfl, rfl, hchildren⟩ := h.exists_nodes
  exact ⟨rfl, rfl, forall₂_imp_mem hchildren fun c hc c' _ hR => himp c c' (ht.child hc) hR⟩

/-- Parameters of files that vary are nodes of the first file. -/
theorem Respaced.with_everywhere {W : NodeKind → List Tree → Prop} (h : Respaced C P t t')
    (ht : t.Everywhere W) : Respaced C (fun p p' => p.Everywhere W ∧ P p p') t t' := by
  refine Along.imp_everywhere h ht fun d d' hd hrespaced => ?_
  unfold DeclarationRespaced at hrespaced ⊢
  split_ifs at hrespaced ⊢
  · exact hrespaced
  · -- down to the parameters: the body of the type, its members, and their parentheses
    refine Along.imp_everywhere hrespaced hd fun b b' hb hbody => ?_
    split_ifs at hbody ⊢
    · refine Along.imp_everywhere hbody hb fun m m' hm hmember => ?_
      split_ifs at hmember ⊢
      · refine ⟨hmember.1, Along.imp_everywhere hmember.2 hm fun l l' hl hlist => ?_⟩
        split_ifs at hlist ⊢
        · exact Along.imp_everywhere hlist hl fun p p' hp hP => ⟨hp, hP⟩
        · exact hlist
      · exact hmember
    · exact hbody
  · exact hrespaced

namespace VariesAt

variable {kind : NodeKind} {role : Role} {R : Tree → Tree → Prop}

/-- A child that passes a test of kind or role is the same in both nodes if the varying child fails
it. -/
theorem find?_eq {p : Tree → Bool} (h : VariesAt kind role (Along R) t t')
    (hp : ∀ c, c.kind? = some kind → c.role? = some role → p c = false) :
    t.children.find? p = t'.children.find? p := by
  have hchildren := Along.children h
  generalize t.children = cs at hchildren ⊢
  generalize t'.children = cs' at hchildren ⊢
  induction hchildren with
  | nil => rfl
  | @cons c c' cs cs' hc _ ih =>
    rw [List.find?_cons, List.find?_cons, ih]
    split at hc
    · next hvaries =>
      have hfails := hp c hvaries.1 hvaries.2
      have hfails' := hp c' (hc.kind? ▸ hvaries.1) (hc.role? ▸ hvaries.2)
      rw [hfails, hfails']
    · rw [hc]

theorem child?_eq (h : VariesAt kind role (Along R) t t') {other : NodeKind}
    (hother : other ≠ kind) :
    t.child? other = t'.child? other :=
  h.find?_eq fun c hkind _ => by simp [hkind, hother.symm]

theorem childAs?_eq (h : VariesAt kind role (Along R) t t') {other : Role} (hother : other ≠ role) :
    t.childAs? other = t'.childAs? other :=
  h.find?_eq fun c _ hrole => by simp [hrole, hother.symm]

/-- The child in the varying role is the same in both nodes or varies. -/
theorem childAs? (h : VariesAt kind role (Along R) t t') :
    Option.Rel (fun c c' => c = c' ∨ Along R c c') (t.childAs? role) (t'.childAs? role) := by
  refine find?_rel (fun c c' hc => ?_) ((Along.children h).imp fun c c' hc => ?_)
  · rcases hc with rfl | hc
    · rfl
    · rw [hc.role?]
  · split at hc
    · exact .inr hc
    · exact .inl hc

end VariesAt

/-! ### Reading files that vary -/

variable {Q : Parameter → Parameter → Prop} (hQ : ∀ p, Q p p)
  (hP : ∀ p p', P p p' → Option.Rel Q (parameter? p) (parameter? p'))

include hQ hP in
theorem MemberRespaced.parametersOf (h : MemberRespaced P t t') :
    List.Forall₂ Q (parametersOf t) (parametersOf t') := by
  refine getD_rel (VariesAt.childAs? h.2) fun list list' hlist => ?_
  rcases hlist with rfl | hvaries
  · exact List.forall₂_same.2 fun p _ => hQ p
  · exact List.rel_filterMap (fun p p' => hP p p') hvaries.children

include hQ hP in
/-- Members that vary in their parameters declare the same callable, up to parameters. -/
theorem MemberRespaced.callableOf? (kind : MemberKind) (h : MemberRespaced P t t') :
    Option.Rel (Callable.Agree Q) (callableOf? kind t) (callableOf? kind t') := by
  have hname : t.childAs? .name = t'.childAs? .name := h.2.childAs?_eq (by decide)
  have hkeywords : keywordsOf t = keywordsOf t' := by
    rw [keywordsOf, keywordsOf, modifierParts, modifierParts, h.2.child?_eq (by decide)]
  have htypes : typeParametersOf t = typeParametersOf t' := by
    rw [typeParametersOf, typeParametersOf, h.2.child?_eq (by decide)]
  rw [Source.callableOf?, Source.callableOf?, hname, hkeywords, htypes, h.1]
  cases t'.childAs? .name with
  | none => exact .none
  | some name => exact .some ⟨h.parametersOf hQ hP, rfl⟩

include hQ hP in
theorem TypeRespaced.membersOf {node : NodeKind}
    (hnode : node = .constructorDeclaration ∨ node = .methodDeclaration) (kind : MemberKind)
    (h : TypeRespaced P t t') :
    List.Forall₂ (Callable.Agree Q) (membersOf node kind t) (membersOf node kind t') := by
  rcases rel_iff.1 (VariesAt.childAs? h) with ⟨hnone, hnone'⟩ | ⟨body, body', hbody, hbody', hrel⟩
  · rw [Source.membersOf, Source.membersOf, hnone, hnone']
    exact .nil
  rw [Source.membersOf, Source.membersOf, hbody, hbody']
  rcases hrel with rfl | hvaries
  · exact List.forall₂_same.2 fun c _ => Callable.Agree.refl hQ c
  refine List.rel_filterMap (fun m m' hm => ?_) hvaries.children
  by_cases hkind : m.kind? = some node
  · have hcallable : m.isCallable = true := by
      rcases hnode with rfl | rfl <;> simp [isCallable, hkind]
    rw [if_pos hcallable] at hm
    rw [if_pos hkind, if_pos (Along.kind? hm.2 ▸ hkind)]
    exact hm.callableOf? hQ hP kind
  · -- any other member is passed over in both bodies
    have hkinds : m.kind? = m'.kind? := by
      split at hm
      · exact Along.kind? hm.2
      · exact hm
    rw [if_neg hkind, if_neg (hkinds ▸ hkind)]
    exact .none

include hQ hP in
/-- Types that vary in the parameters of their members are the same declaration, up to parameters. -/
theorem TypeRespaced.typeDeclaration? (h : TypeRespaced P t t') :
    Option.Rel (TypeDeclaration.Agree Q) (typeDeclaration? t) (typeDeclaration? t') := by
  have hkind : t.kind? = t'.kind? := Along.kind? h
  have hname : t.childAs? .name = t'.childAs? .name := VariesAt.childAs?_eq h (by decide)
  have hkeywords : keywordsOf t = keywordsOf t' := by
    rw [keywordsOf, keywordsOf, modifierParts, modifierParts, VariesAt.child?_eq h (by decide)]
  have htypes : typeParametersOf t = typeParametersOf t' := by
    rw [typeParametersOf, typeParametersOf, VariesAt.child?_eq h (by decide)]
  have hconstructors := h.membersOf hQ hP (.inl rfl) .constructor
  have hmethods := h.membersOf hQ hP (.inr rfl) .method
  rw [Source.typeDeclaration?, Source.typeDeclaration?, hkind, hname, hkeywords, htypes]
  cases t'.kind? >>= typeKind? with
  | none => exact .none
  | some kind =>
    cases t'.childAs? .name with
    | none => exact .none
    | some name =>
      refine .some ⟨List.rel_append ?_ hmethods, rfl⟩
      -- a class gets its implicit constructor on both sides or on none
      rw [isEmpty_eq_of_forall₂ hconstructors]
      split
      · exact .cons (Callable.Agree.refl hQ _) .nil
      · exact hconstructors

/-! ### Reading whole files -/

theorem Alike.any_isToken (h : t.Alike t') (text : String) :
    t.children.any (Tree.isToken text) = t'.children.any (Tree.isToken text) := by
  have hchildren := h.children
  generalize t.children = cs at hchildren ⊢
  generalize t'.children = cs' at hchildren ⊢
  induction hchildren with
  | nil => rfl
  | cons hc _ ih => rw [List.any_cons, List.any_cons, hc.isToken, ih]

/-- Clauses that are alike and have related names. -/
structure ClauseAgree (N : String → String → Prop) (d d' : Tree) : Prop where
  alike : d.Alike d'
  names : Option.Rel (fun n n' => N n.text n'.text) (d.child? .name) (d'.child? .name)

variable {N : String → String → Prop}

theorem ClauseAgree.import? (h : ClauseAgree N t t') :
    Option.Rel (Import.Agree N) (import? t) (import? t') := by
  have hstatic := h.alike.any_isToken "static"
  have hwildcard := h.alike.any_isToken "*"
  rw [Source.import?, Source.import?, h.alike.kind?]
  by_cases hkind : t'.kind? = some .importClause
  · rw [hkind]
    rcases rel_iff.1 h.names with ⟨hnone, hnone'⟩ | ⟨n, n', hsome, hsome', hn⟩
    · rw [hnone, hnone']
      exact .none
    · rw [hsome, hsome']
      exact .some ⟨hn, hstatic, hwildcard⟩
  · have hguard : (guard (t'.kind? == some .importClause) : Option _) = none := by
      simp [guard, hkind]
    rw [hguard]
    exact .none

section Files

variable (hC : ∀ d d', C d d' → ClauseAgree N d d')

include hC in
theorem DeclarationRespaced.kind? (h : DeclarationRespaced C P t t') : t.kind? = t'.kind? := by
  unfold DeclarationRespaced at h
  split at h
  · exact (hC t t' h).alike.kind?
  · split at h
    · exact Along.kind? h
    · exact h

theorem import?_eq_none (h : t.kind? ≠ some .importClause) : import? t = none := by
  simp [import?, guard, h]

include hC in
theorem DeclarationRespaced.import? (h : DeclarationRespaced C P t t') :
    Option.Rel (Import.Agree N) (import? t) (import? t') := by
  by_cases hkind : t.kind? = some .importClause
  · have hclause : t.isClause = true := by simp [isClause, hkind]
    rw [DeclarationRespaced, if_pos hclause] at h
    exact (hC t t' h).import?
  · rw [import?_eq_none hkind, import?_eq_none (kind? hC h ▸ hkind)]
    exact .none

theorem typeDeclaration?_eq_none (h : t.declaresType = false) : typeDeclaration? t = none := by
  rw [declaresType, Option.isSome_eq_false_iff, Option.isNone_iff_eq_none] at h
  rw [typeDeclaration?, h]
  rfl

theorem declaresType_of_isClause (h : t.isClause = true) : t.declaresType = false := by
  rw [isClause, Bool.or_eq_true, decide_eq_true_eq, decide_eq_true_eq] at h
  rcases h with hkind | hkind <;> rw [declaresType, hkind] <;> rfl

include hC hQ hP in
theorem DeclarationRespaced.typeDeclaration? (h : DeclarationRespaced C P t t') :
    Option.Rel (TypeDeclaration.Agree Q) (typeDeclaration? t) (typeDeclaration? t') := by
  by_cases htype : t.declaresType = true
  · have hclause : ¬ t.isClause = true := by
      intro hclause
      rw [declaresType_of_isClause hclause] at htype
      exact Bool.false_ne_true htype
    rw [DeclarationRespaced, if_neg hclause, if_pos htype] at h
    exact h.typeDeclaration? hQ hP
  · have hother : t.declaresType = false := by simpa using htype
    have hother' : t'.declaresType = false := by rw [declaresType, ← kind? hC h]; exact hother
    rw [typeDeclaration?_eq_none hother, typeDeclaration?_eq_none hother']
    exact .none

include hC in
theorem packageOf_rel {ds ds' : List Tree} (h : List.Forall₂ (DeclarationRespaced C P) ds ds') :
    Option.Rel N (packageOf ds) (packageOf ds') := by
  have hclauses : List.Forall₂ (DeclarationRespaced C P)
      (ds.filter (·.kind? == some .packageClause)) (ds'.filter (·.kind? == some .packageClause)) :=
    List.rel_filter (fun d d' hd => by simp only [DeclarationRespaced.kind? hC hd]) h
  rw [packageOf, packageOf]
  rcases rel_iff.1 (getLast?_rel hclauses) with ⟨hnone, hnone'⟩ | ⟨d, d', hlast, hlast', hd⟩
  · rw [hnone, hnone']
    exact .none
  · have hkind : d.kind? = some .packageClause := by
      simpa using (List.mem_filter.1 (List.mem_of_getLast? hlast)).2
    have hclause : d.isClause = true := by simp [isClause, hkind]
    rw [DeclarationRespaced, if_pos hclause] at hd
    rw [hlast, hlast']
    exact map_rel (hC d d' hd).names fun _ _ hn => hn

include hC hQ hP in
/-- **Files that vary agree on all that the relations of the varying places guarantee.** -/
theorem Respaced.unit (h : Respaced C P t t') : (Unit.ofTree t).Agree N Q (Unit.ofTree t') where
  package := packageOf_rel hC h.children
  imports := List.rel_filterMap (fun _ _ hd => DeclarationRespaced.import? hC hd) h.children
  types := List.rel_filterMap
    (fun _ _ hd => DeclarationRespaced.typeDeclaration? hQ hP hC hd) h.children

end Files

end Tree

end MemberSpec.Source
