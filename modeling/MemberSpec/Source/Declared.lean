import MemberSpec.Source.Parse
import MemberSpec.Source.Unit
import MemberSpec.Text.Blank

/-!
# Reading declarations off a tree

Only what stands at the top of a source file is read: the package, the imports and the types with
their constructors and methods.

* `typeText`: a type as written, without annotations and with single blanks.
* `Unit.ofTree`: the declarations of a tree.
-/

namespace MemberSpec.Source

open Text

/-! ### Text of types -/

/-- A piece of a text, with what stands in front of it. -/
structure Piece where
  lead : String
  text : String

namespace Tree

mutual

/-- The tokens of a tree, with each outermost annotation in it as one blank. -/
def pieces : Tree → List Piece
  | leaf t => [⟨t.leadText, t.text⟩]
  | node kind _ children =>
    if kind = .annotationUse then
      [⟨((tokensAll children).head?.map Token.leadText).getD "", " "⟩]
    else piecesAll children

/-- The pieces of trees in a row. -/
def piecesAll : List Tree → List Piece
  | [] => []
  | t :: ts => t.pieces ++ piecesAll ts

end

end Tree

/-- The text of pieces without what stands in front of the first. -/
def pieceText : List Piece → String
  | [] => ""
  | p :: rest => p.text ++ String.join (rest.map fun q => q.lead ++ q.text)

/-- Drops a blank behind every dot. -/
def closeDots : List Char → List Char
  | '.' :: ' ' :: rest => '.' :: closeDots rest
  | c :: rest => c :: closeDots rest
  | [] => []

/-- A text with single blanks and no blank behind dots. -/
def tidyType (s : String) : String := String.ofList (closeDots (collapseBlanks s.toList))

/-- A type as written, without the annotations in it. -/
def typeText (t : Tree) : String := tidyType (pieceText t.pieces)

/-- The text of a part where a type is expected. -/
def partTypeText : Tree.Part → String
  | .comment lexeme => tidyType lexeme.text
  | .child tree => typeText tree

/-! ### Modifiers and parameters -/

/-- The name of an annotation without blanks. -/
def annotationName? (t : Tree) : Option String :=
  (t.childAs? .name).map fun name =>
    String.ofList ((collapseBlanks name.text.toList).filter (· != ' '))

/-- The parts of the modifiers in front of a declaration. -/
def modifierParts (t : Tree) : List Tree.Part :=
  ((t.child? .modifiers).map Tree.parts).getD []

/-- The modifiers of a declaration that are no annotations. -/
def keywordsOf (t : Tree) : List String :=
  (modifierParts t).filterMap fun part =>
    match part with
    | .child (.node .annotationUse _ _) => none
    | other => some other.text

/-- The names of the annotations among the modifiers of a declaration. -/
def annotationsOf (t : Tree) : List String :=
  (modifierParts t).filterMap fun part =>
    match part with
    | .child (.node .annotationUse r children) => annotationName? (.node .annotationUse r children)
    | _ => none

/-- The number of dimensions behind a name. -/
def dimensionCount (t : Tree) : Nat :=
  ((t.childAs? .dimensions).map fun d => d.text.toList.count '[').getD 0

/-- A parameter with a fixed number of values. -/
def formalParameter? (t : Tree) : Option Parameter := do
  let type ← t.childAs? .type
  let name ← t.childAs? .name
  return ⟨typeText type, name.text, annotationsOf t, false, dimensionCount t⟩

/-- The part of a variable-arity parameter that counts as its type: the first that is neither
modifiers, an annotation nor the declared name. -/
def spreadType? : List Tree.Part → Option String
  | [] => none
  | part :: rest =>
    match part with
    | .comment _ => some (partTypeText part)
    | .child (.leaf _) => spreadType? rest
    | .child (.node kind _ _) =>
      if kind = .modifiers || kind = .annotationUse || kind = .declarator then spreadType? rest
      else some (partTypeText part)

/-- A parameter with any number of values. Annotations behind the dots count like those in front. -/
def spreadParameter? (t : Tree) : Option Parameter := do
  let declarator ← t.child? .declarator
  let name ← declarator.childAs? .name
  let type ← spreadType? t.parts
  let later := (t.children.filter (·.kind? == some .annotationUse)).filterMap annotationName?
  return ⟨type, name.text, annotationsOf t ++ later, true, dimensionCount declarator⟩

/-- A parameter. The one that stands for the object itself does not count. -/
def parameter? (t : Tree) : Option Parameter :=
  match t.kind? with
  | some .formalParameter => formalParameter? t
  | some .spreadParameter => spreadParameter? t
  | _ => none

/-! ### Types and members -/

def typeParameter? (t : Tree) : Option TypeParameter := do
  guard (t.kind? == some .typeParameter)
  let name ← t.child? .name
  let bounds := ((t.child? .typeBound).map Tree.parts).getD []
  let bounds := bounds.filter fun part =>
    match part with
    | .child (.leaf _) => false
    | _ => true
  return ⟨name.text, bounds.map partTypeText⟩

def typeParametersOf (t : Tree) : List TypeParameter :=
  ((t.child? .typeParameters).map fun list => list.children.filterMap typeParameter?).getD []

/-- The documentation among the comments in front of a declaration: the last comment that is not a line
comment, if it is a documentation comment. -/
def documentation? (comments : List Lexeme) : Option Javadoc :=
  match comments.reverse.find? (·.kind == .blockComment) with
  | some comment =>
    if ['/', '*', '*'].isPrefixOf comment.text.toList then some (Javadoc.parse comment.text)
    else none
  | none => none

def parametersOf (t : Tree) : List Parameter :=
  ((t.childAs? .parameters).map fun list => list.children.filterMap parameter?).getD []

/-- The constructor or method that a node declares. -/
def callableOf? (kind : MemberKind) (t : Tree) : Option Callable := do
  let name ← t.childAs? .name
  return ⟨kind, name.text, keywordsOf t, typeParametersOf t, parametersOf t,
    documentation? t.comments, false⟩

/-- The members of a kind in the body of a type. -/
def membersOf (node : NodeKind) (kind : MemberKind) (t : Tree) : List Callable :=
  (((t.childAs? .body).map Tree.children).getD []).filterMap fun member =>
    if member.kind? = some node then callableOf? kind member else none

def accessKeywords : List String := ["public", "protected", "private"]

/-- The constructor that a class without constructors has, with the access of the class. -/
def implicitConstructor (name : String) (modifiers : List String) : Callable :=
  { kind := .constructor, name, modifiers := modifiers.filter accessKeywords.contains,
    typeParameters := [], parameters := [], javadoc := none, isImplicit := true }

def typeKind? : NodeKind → Option TypeKind
  | .classDeclaration => some .classType
  | .interfaceDeclaration => some .interfaceType
  | .enumDeclaration => some .enumType
  | .recordDeclaration => some .recordType
  | .annotationDeclaration => some .annotationType
  | _ => none

/-- The type that a node declares. -/
def typeDeclaration? (t : Tree) : Option TypeDeclaration := do
  let kind ← t.kind? >>= typeKind?
  let name ← t.childAs? .name
  let modifiers := keywordsOf t
  let declared := membersOf .constructorDeclaration .constructor t
  let constructors :=
    if kind = .classType && declared.isEmpty then [implicitConstructor name.text modifiers]
    else declared
  return ⟨kind, name.text, modifiers, typeParametersOf t,
    constructors ++ membersOf .methodDeclaration .method t⟩

/-! ### Files -/

def import? (t : Tree) : Option Import := do
  guard (t.kind? == some .importClause)
  let name ← t.child? .name
  return ⟨name.text, t.children.any (Tree.isToken "static"), t.children.any (Tree.isToken "*")⟩

/-- The package that the last package clause names. -/
def packageOf (ts : List Tree) : Option String :=
  match (ts.filter (·.kind? == some .packageClause)).getLast? with
  | some clause => (clause.child? .name).map Tree.text
  | none => none

namespace Unit

/-- The declarations at the top of a tree. -/
def ofTree (t : Tree) : Unit :=
  ⟨⟨packageOf t.children, t.children.filterMap import?⟩, t.children.filterMap typeDeclaration?⟩

end Unit

end MemberSpec.Source
