import MemberSpec.Source.Pattern

/-!
# Rules of the Java grammar

The rules that patterns refer to by name, the words that can be keywords, and the patterns for names.

No word is a keyword everywhere. It is one where a construct can start or go on with it, and a name in
all other places, so each place has words of its own that are no names there. `noneOf` keeps them from
being taken for the name that could start there as well.
-/

namespace MemberSpec.Source.Grammar

/-- The rules of the grammar. For expressions, `lambda` says whether the expression or its last operand
can be a lambda expression, and `place` whether what precedes can be assigned to. Parameters can be
those of a lambda expression, and modifiers can be in front of a `declaration`. -/
inductive Rule where
  | typeUse
  | plainType
  | simpleType
  | typeArguments
  | dimensions
  | annotationUse
  | elementValue
  | modifiers (declaration : Bool)
  | expression (lambda : Bool)
  | chain (lambda place : Bool)
  | ending (lambda : Bool)
  | primary
  | fieldTail
  | arguments
  | objectCreation
  | initializer
  | recordPattern
  | switch
  | block
  | statement
  | typeParameters
  | formalParameters (lambda : Bool)
  | classBody
  | member
  | typeDeclaration
  | annotationDeclaration
deriving DecidableEq, Repr

abbrev P := Pattern Rule

export Pattern (row oneOf optional many separated list node role refusing)

/-- A pattern once or more. -/
def atLeastOne (p : P) : P := Pattern.some p

def rule (r : Rule) : P := .rule r

/-! ### Words -/

/-- The words for types without a declaration. -/
def basicWords : List String :=
  ["void", "byte", "short", "int", "long", "char", "float", "double", "boolean"]

/-- The other words that start an operand. -/
def operandWords : List String := ["this", "super", "new", "true", "false", "null", "switch"]

def modifierWords : List String :=
  ["public", "protected", "private", "abstract", "static", "final", "strictfp", "default",
   "synchronized", "native", "transient", "volatile"]

/-- The words that start the declaration of a type, in every type. -/
def typeWords : List String := ["class", "enum", "interface"]

/-- The words that start the declaration of a type as a member or a statement. -/
def memberWords : List String := "record" :: typeWords

/-- The other words that start a statement. -/
def statementWords : List String :=
  typeWords ++ ["assert", "break", "continue", "do", "for", "if", "import", "package", "return",
    "throw", "try", "while"]

/-- The words that start a construct in some places, and there can be names of variables as well. -/
def contextual : List String := ["open", "module", "record", "with", "sealed", "yield"]

/-- One of several words. -/
def among (words : List String) : P := .token (.among words)

/-- None of the words comes next. -/
def noneOf (words : List String) : P := refusing (among words)

/-- A word that is none of the excluded ones. -/
def wordBut (excluded : List String) : P := .token (.word excluded)

/-- Any word, where no other construct can go on. -/
def word : P := wordBut []

/-- A word that is the name of a variable or a method where an operand can start. -/
def operandName : P := wordBut (basicWords ++ operandWords)

/-- A name as a node. -/
def name : P := node .name word

/-- A name with any number of parts. -/
def qualifiedName : P := node .name (separated word ".")

/-- A token directly behind the token before it. -/
def glued (text : String) : P := .token (.glued text)

def ofKind (kind : LexemeKind) : P := .token (.ofKind kind)

/-! ### Rules with names of their own -/

def expression : P := rule (.expression true)

def annotations : P := many (rule .annotationUse)

/-- A type with annotations in front, if it has any. -/
def typeUse : P := rule .typeUse

/-- A type without annotations in front. -/
def plainType : P := rule .plainType

end MemberSpec.Source.Grammar
