import MemberSpec.Executable
import MemberSpec.Javadoc

/-!
# Declarations of a source file

What a source file declares: the package, the imports and the top-level types with their constructors
and methods, all as written.
-/

namespace MemberSpec.Source

/-- An import. The name is without `static` and without the star of a wildcard. -/
structure Import where
  name : String
  isStatic : Bool
  isWildcard : Bool
deriving DecidableEq, Repr

/-- What names in a file are looked up in. -/
structure Scope where
  package : Option String
  imports : List Import
deriving DecidableEq, Repr

/-- A name in the package of the file. -/
def Scope.qualify (scope : Scope) (name : String) : String :=
  match scope.package with
  | some package => package ++ "." ++ name
  | none => name

/-- A type parameter with its bounds as written, the first bound first. -/
structure TypeParameter where
  name : String
  bounds : List String
deriving DecidableEq, Repr

/-- A formal parameter. The type is as written, without the dots of a variable-arity parameter and
without dimensions behind the name. -/
structure Parameter where
  type : String
  name : String
  annotations : List String
  isVarargs : Bool
  extraDimensions : Nat
deriving DecidableEq, Repr

/-- The type with variable arity and dimensions behind the name written as brackets. -/
def Parameter.fullType (p : Parameter) : String :=
  p.type ++ brackets (p.extraDimensions + if p.isVarargs then 1 else 0)

/-- A constructor or method declaration. It is implicit if the file does not have it: the constructor
that a class without constructors gets. -/
structure Callable where
  kind : MemberKind
  name : String
  modifiers : List String
  typeParameters : List TypeParameter
  parameters : List Parameter
  javadoc : Option Javadoc
  isImplicit : Bool
deriving DecidableEq, Repr

namespace Callable

def isPrivate (c : Callable) : Bool := c.modifiers.contains "private"

/-- The name with the parameter types as written. -/
def signature (c : Callable) : String := signatureOf c.name (c.parameters.map Parameter.fullType)

end Callable

/-- The kinds of type declarations. -/
inductive TypeKind where
  | classType | interfaceType | enumType | recordType | annotationType
deriving DecidableEq, Repr

def TypeKind.label : TypeKind → String
  | classType => "class"
  | interfaceType => "interface"
  | enumType => "enum"
  | recordType => "record"
  | annotationType => "annotation"

/-- A top-level type. Its callables are the constructors and then the methods. -/
structure TypeDeclaration where
  kind : TypeKind
  name : String
  modifiers : List String
  typeParameters : List TypeParameter
  callables : List Callable
deriving DecidableEq, Repr

namespace TypeDeclaration

def constructors (t : TypeDeclaration) : List Callable :=
  t.callables.filter (·.kind == .constructor)

def methods (t : TypeDeclaration) : List Callable := t.callables.filter (·.kind == .method)

/-- The callables that are compared with compiled members. -/
def visible (t : TypeDeclaration) : List Callable := t.callables.filter (!·.isPrivate)

end TypeDeclaration

/-- A source file. -/
structure Unit where
  scope : Scope
  types : List TypeDeclaration
deriving DecidableEq, Repr

/-- The first top-level class or interface with the given name. -/
def Unit.findClass? (u : Unit) (name : String) : Option TypeDeclaration :=
  u.types.find? fun t => t.name == name && (t.kind == .classType || t.kind == .interfaceType)

end MemberSpec.Source
