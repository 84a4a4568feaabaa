import MemberSpec.Modifiers
import MemberSpec.Type

/-!
# Compiled members

A class handle names a compiled class; an executable is one of its constructors or methods as the
compiled form has it.
-/

namespace MemberSpec

/-- The two kinds of executable members. -/
inductive MemberKind where
  | constructor | method
deriving DecidableEq, Repr

def MemberKind.label : MemberKind → String
  | constructor => "constructor"
  | method => "method"

/-- A compiled class, by its binary name. -/
structure ClassHandle where
  name : String
  modifiers : Modifiers
deriving DecidableEq, Repr

namespace ClassHandle

def simpleName (h : ClassHandle) : String := simpleNameOf h.name

def type (h : ClassHandle) : JavaType := .reference h.name

end ClassHandle

/-- A constructor or method of a compiled class. A constructor has no return type. -/
structure Executable where
  kind : MemberKind
  name : String
  parameterTypes : List JavaType
  returnType : Option JavaType
  modifiers : Modifiers
deriving DecidableEq, Repr

/-- A name with its parameter types in parentheses. -/
def signatureOf (name : String) (types : List String) : String :=
  name ++ "(" ++ String.intercalate ", " types ++ ")"

namespace Executable

/-- The name with the simple names of the parameter types. -/
def signature (e : Executable) : String :=
  signatureOf e.name (e.parameterTypes.map JavaType.simpleName)

/-- Whether a member can have a counterpart among the declarations that are compared with it. -/
def isVisible (e : Executable) : Bool := !e.modifiers.isPrivate && !e.modifiers.isGenerated

end Executable

/-- The visible executables: constructors first, each kind in the order of the class. -/
def visibleExecutables (es : List Executable) : List Executable :=
  let visible := es.filter Executable.isVisible
  visible.filter (·.kind == .constructor) ++ visible.filter (·.kind == .method)

end MemberSpec
