import MemberSpec.Source.Token

/-!
# Syntax trees

A tree keeps all tokens of the text it stands for, with their trivia. Comments have no place of their
own in the tree: a comment belongs to the innermost node with a token before it and a token behind it,
so it is among the parts of that node whose child it stands in front of.

* `Tree.parts`: the children of a node with the comments between them.
* `Tree.text`: the text from the first token to the last.
-/

namespace MemberSpec.Source

/-- The kinds of nodes that are told apart. -/
inductive NodeKind where
  | program | packageClause | importClause | statement | block
  | classDeclaration | interfaceDeclaration | enumDeclaration | recordDeclaration
  | annotationDeclaration
  | constructorDeclaration | methodDeclaration | body
  | modifiers | keyword | annotationUse | name
  | typeParameters | typeParameter | typeBound | typeUse | dimensions
  | parameters | formalParameter | spreadParameter | receiverParameter | declarator
deriving DecidableEq, Repr

/-- What a node is to the node around it. -/
inductive Role where
  | name | type | body | parameters | dimensions
deriving DecidableEq, Repr

/-- A syntax tree. -/
inductive Tree where
  | leaf (token : Token)
  | node (kind : NodeKind) (role : Option Role) (children : List Tree)
deriving Repr

namespace Tree

def kind? : Tree → Option NodeKind
  | leaf _ => none
  | node kind _ _ => some kind

def role? : Tree → Option Role
  | leaf _ => none
  | node _ role _ => role

def children : Tree → List Tree
  | leaf _ => []
  | node _ _ children => children

/-- The tree with a role. Tokens have none. -/
def withRole (role : Role) : Tree → Tree
  | leaf t => leaf t
  | node kind _ children => node kind (some role) children

mutual

/-- The tokens of a tree in order. -/
def tokens : Tree → List Token
  | leaf t => [t]
  | node _ _ children => tokensAll children

/-- The tokens of trees in a row. -/
def tokensAll : List Tree → List Token
  | [] => []
  | t :: ts => t.tokens ++ tokensAll ts

end

/-- The text from the first token to the last. -/
def text (t : Tree) : String := spanText t.tokens

/-- The comments in front of a tree. -/
def comments (t : Tree) : List Lexeme := (t.tokens.head?.map Token.comments).getD []

/-- A child of a node, or a comment between two of its children. -/
inductive Part where
  | comment (lexeme : Lexeme)
  | child (tree : Tree)

def Part.text : Part → String
  | comment lexeme => lexeme.text
  | child tree => tree.text

/-- Trees in a row, each with the comments in front of it. -/
def partsOfRow (ts : List Tree) : List Part :=
  ts.flatMap fun t => t.comments.map Part.comment ++ [.child t]

/-- The children of a node with the comments between them. -/
def parts (t : Tree) : List Part :=
  match t.children with
  | [] => []
  | first :: rest => .child first :: partsOfRow rest

/-- The first child of a kind. -/
def child? (t : Tree) (kind : NodeKind) : Option Tree :=
  t.children.find? (·.kind? == some kind)

/-- The first child with a role. -/
def childAs? (t : Tree) (role : Role) : Option Tree :=
  t.children.find? (·.role? == some role)

/-- Whether a tree is a token with the given text. -/
def isToken (text : String) : Tree → Bool
  | leaf t => t.text == text
  | node .. => false

end Tree

end MemberSpec.Source
