import Mathlib
import MemberSpec.Proofs.Source.Lexemes
import MemberSpec.Proofs.Source.Respacing

/-!
# Nodes of Java sources

What the grammar guarantees of the nodes that declarations are read off: types and members have names,
a name has no parts with a role of their own and is one token unless it is that of an annotation, a
parameter of variable arity has a type, the members of an enum are not directly in its body, and an
annotation has its `@`.
Each is a test on patterns that the grammar passes (`grammar_shaped`, `sourceFile_shaped`), and so holds
of every node of a tree that was parsed (`parseTree_shaped`).

* `NodeShape`: what is known of a node by its kind.
* `Tree.Spells`: a tree of nodes with these shapes whose tokens are those of a text. All that is said of
  parsed sources is said of such trees.
-/

namespace MemberSpec.Source

open Grammar

/-! ### Rules and roles -/

/-- The rules of the grammar. -/
def rules : List Rule :=
  [.typeUse, .plainType, .simpleType, .typeArguments, .dimensions, .annotationUse, .elementValue,
   .modifiers true, .modifiers false, .expression true, .expression false,
   .chain true true, .chain true false, .chain false true, .chain false false,
   .ending true, .ending false, .primary, .fieldTail, .arguments, .objectCreation, .initializer,
   .recordPattern, .switch, .block, .statement, .typeParameters,
   .formalParameters true, .formalParameters false,
   .classBody, .member, .typeDeclaration, .annotationDeclaration]

theorem mem_rules (r : Rule) : r ∈ rules := by
  cases r with
  | modifiers declaration => cases declaration <;> decide
  | expression lambda | ending lambda | formalParameters lambda => cases lambda <;> decide
  | chain lambda place => cases lambda <;> cases place <;> decide
  | _ => decide

instance : Fintype Rule := .ofList rules mem_rules

instance : Fintype Role := .ofList [.name, .type, .body, .parameters, .dimensions] fun r => by
  cases r <;> decide

/-! ### Tests -/

/-- A node that declares a type or a member. -/
def isNamed (kind : NodeKind) : Bool :=
  (typeKind? kind).isSome || kind = .constructorDeclaration || kind = .methodDeclaration

/-- The kinds of nodes that can be the type of a variable-arity parameter. -/
def isTypeKind (kind : NodeKind) : Bool :=
  !(kind = .modifiers || kind = .annotationUse || kind = .declarator)

/-- A child of a variable-arity parameter that can be its type. -/
def isTypeNode : Tree → Bool
  | .leaf _ => false
  | .node kind _ _ => isTypeKind kind

/-- A node in the role of a name. -/
def givesName : Pattern Rule → Bool :=
  Pattern.Gives (fun _ role => role == some .name) (fun _ _ => false) none

/-- A node that can be a type; the rule for types has one. -/
def givesType : Option Role → Pattern Rule → Bool :=
  Pattern.Gives (fun kind _ => isTypeKind kind) fun _ r => r == .plainType

def isOneToken : Pattern Rule → Bool
  | .token _ => true
  | _ => false

/-- Names are one token; no rule stands in the place of a name. -/
def oneTokenNames : Option Role → Pattern Rule → Bool :=
  Pattern.Each (fun _ role p => role != some .name || isOneToken p) fun role _ => role != some .name

/-- No constructors or methods; only the rule for members has them. -/
def noCallable : Option Role → Pattern Rule → Bool :=
  Pattern.Each (fun kind _ _ => kind != .constructorDeclaration && kind != .methodDeclaration)
    fun _ r => r != .member

/-- No constructors or methods directly in a body; no rule stands in the place of the body. -/
def noCallableInBody : Option Role → Pattern Rule → Bool :=
  Pattern.Each (fun _ role p => role != some .body || noCallable none p) fun role _ => role != some .body

/-- Tokens only. -/
def onlyTokens : Option Role → Pattern Rule → Bool :=
  Pattern.Each (fun _ _ _ => false) fun _ _ => false

/-- The test of the patterns below a node. -/
def shapeTest (kind : NodeKind) (p : Pattern Rule) : Bool :=
  (!isNamed kind || givesName p) && (kind != .name || onlyTokens none p) &&
    (kind == .annotationUse || oneTokenNames none p) &&
    (kind != .spreadParameter || givesType none p) &&
    (kind != .enumDeclaration || noCallableInBody none p) && (kind != .annotationUse || p.Takes "@")

theorem givesType_grammar : ∀ (role : Option Role) (r : Rule), (r == .plainType) = true →
    givesType role (grammar r) = true := by
  decide

set_option maxRecDepth 2000 in
theorem oneTokenNames_grammar : ∀ (role : Option Role) (r : Rule), (role != some .name) = true →
    oneTokenNames role (grammar r) = true := by
  decide

set_option maxRecDepth 2000 in
theorem noCallable_grammar : ∀ (role : Option Role) (r : Rule), (r != .member) = true →
    noCallable role (grammar r) = true := by
  decide

set_option maxRecDepth 2000 in
theorem noCallableInBody_grammar : ∀ (role : Option Role) (r : Rule), (role != some .body) = true →
    noCallableInBody role (grammar r) = true := by
  decide

set_option maxRecDepth 2000 in
/-- Every rule of the grammar passes. -/
theorem grammar_shaped : ∀ r, Pattern.AllNodes shapeTest (grammar r) = true := by
  decide

theorem sourceFile_shaped : Pattern.AllNodes shapeTest sourceFile = true := by
  decide

/-! ### What the tests say -/

/-- What is known of a node of a kind with the given children. -/
structure NodeShape (kind : NodeKind) (children : List Tree) : Prop where
  named : isNamed kind = true → ∃ c ∈ children, c.role? = some .name
  single : kind = .name → ∀ c ∈ children, c.role? = none
  oneToken : kind ≠ .annotationUse → ∀ c ∈ children, c.role? = some .name → c.tokens.length = 1
  typed : kind = .spreadParameter → ∃ c ∈ children, isTypeNode c = true
  enumBody : kind = .enumDeclaration → ∀ b ∈ children, b.role? = some .body →
    ∀ m ∈ b.children, m.isCallable = false
  annotated : kind = .annotationUse → ∃ u ∈ Tree.tokensAll children, u.text = "@"

variable {p : Pattern Rule} {ts : List Tree}

theorem noCallable_builds (h : Pattern.Builds grammar p ts) (hp : noCallable none p = true) :
    ∀ t ∈ ts, t.isCallable = false := by
  refine h.each (P := fun t => t.isCallable = false) (fun _ => rfl) ?_ noCallable_grammar hp
  intro kind role p ts htest _
  rw [Bool.and_eq_true, bne_iff_ne, bne_iff_ne] at htest
  simp [Tree.isCallable, Tree.kind?, htest.1, htest.2]

theorem noCallableInBody_builds (h : Pattern.Builds grammar p ts)
    (hp : noCallableInBody none p = true) :
    ∀ b ∈ ts, b.role? = some .body → ∀ m ∈ b.children, m.isCallable = false := by
  refine h.each (P := fun b => b.role? = some .body → ∀ m ∈ b.children, m.isCallable = false)
    (fun u hrole => by cases hrole) ?_ noCallableInBody_grammar hp
  intro kind role p ts htest hts hrole
  rw [Bool.or_eq_true, bne_iff_ne] at htest
  rcases htest with hother | htest
  · exact absurd hrole hother
  · exact noCallable_builds hts htest

theorem oneTokenNames_builds (h : Pattern.Builds grammar p ts) (hp : oneTokenNames none p = true) :
    ∀ c ∈ ts, c.role? = some .name → c.tokens.length = 1 := by
  refine h.each (P := fun c => c.role? = some .name → c.tokens.length = 1) (fun u _ => rfl) ?_
    oneTokenNames_grammar hp
  intro kind role p ts htest hts hrole
  rw [Bool.or_eq_true, bne_iff_ne] at htest
  rcases htest with hother | hone
  · exact absurd hrole hother
  · cases hts with
    | token u => rfl
    | _ => cases hone

theorem nodeShape_of_test {kind : NodeKind} (htest : shapeTest kind p = true)
    (h : Pattern.Builds grammar p ts) : NodeShape kind ts := by
  simp only [shapeTest, Bool.and_eq_true] at htest
  obtain ⟨⟨⟨⟨⟨hnamed, hsingle⟩, honeToken⟩, htyped⟩, henum⟩, hannotated⟩ := htest
  refine ⟨fun hkind => ?_, ?_, fun hkind => ?_, ?_, ?_, ?_⟩
  · rw [hkind] at hnamed
    exact h.gives (P := fun c => c.role? = some .name) (fun _ _ _ hrole => beq_iff_eq.1 hrole)
      (by simp) hnamed
  · rintro rfl
    exact h.each (P := fun t => t.role? = none) (fun _ => rfl) (by simp) (by simp) hsingle
  · rw [Bool.or_eq_true, beq_iff_eq] at honeToken
    exact oneTokenNames_builds h (honeToken.resolve_left hkind)
  · rintro rfl
    exact h.gives (P := fun c => isTypeNode c = true) (fun _ _ _ htype => htype) givesType_grammar
      htyped
  · rintro rfl
    exact noCallableInBody_builds h henum
  · rintro rfl
    exact h.takes hannotated

/-- **Every node of a parsed source has the shape of its kind.** -/
theorem parseTree_shaped {source : String} {t : Tree} (h : parseTree source.toList = .ok t) :
    t.Everywhere NodeShape := by
  obtain ⟨hbuilds, -⟩ := parseTree_builds h
  have htest : ∀ kind p ts, shapeTest kind p = true → Pattern.Builds grammar p ts →
      NodeShape kind ts := fun _ _ _ => nodeShape_of_test
  exact hbuilds.everywhere htest grammar_shaped sourceFile_shaped t (List.mem_singleton_self t)

/-- A tree of a text: its nodes have the shapes of their kinds, and its tokens in order are the text up
to what is behind the last one. -/
structure Tree.Spells (t : Tree) (code : List Char) : Prop where
  shaped : t.Everywhere NodeShape
  covers : ∃ trail, code = fullText t.tokens ++ trail

theorem parseTree_spells {source : String} {t : Tree} (h : parseTree source.toList = .ok t) :
    t.Spells source.toList := by
  obtain ⟨trail, htrail⟩ := exists_trail source
  rw [← (parseTree_builds h).2] at htrail
  exact ⟨parseTree_shaped h, trail, htrail⟩

end MemberSpec.Source
