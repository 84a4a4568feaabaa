import MemberSpec.Erasure
import MemberSpec.Error

/-!
# Pairing declarations with compiled members

Every declaration of a class is paired with the one executable that has the same key: kind, name and
erased parameter types.
-/

namespace MemberSpec

/-- What a declaration and its executable have in common. -/
structure MatchKey where
  kind : MemberKind
  name : String
  parameterTypes : List String
deriving DecidableEq, Repr

namespace MatchKey

def ofExecutable (e : Executable) : MatchKey :=
  ⟨e.kind, e.name, e.parameterTypes.map JavaType.simpleName⟩

/-- The key of a declaration in a class with the given type parameters. Type parameters of the
declaration itself come first, so that they hide those of the class. -/
def ofDeclaration (classParameters : List Source.TypeParameter) (d : Source.Callable) : MatchKey :=
  ⟨d.kind, d.name,
   d.parameters.map fun p => Erasure.erase (d.typeParameters ++ classParameters) p.fullType⟩

end MatchKey

/-- A declaration and the executable that it was compiled to. -/
structure ReconciledPair where
  declaration : Source.Callable
  executable : Executable
deriving DecidableEq, Repr

/-- Pairs a declaration with the executable that has its key. -/
def pairOne (className : String) (classParameters : List Source.TypeParameter)
    (executables : List Executable) (d : Source.Callable) : Except ExtractError ReconciledPair :=
  let key := MatchKey.ofDeclaration classParameters d
  match executables.filter (MatchKey.ofExecutable · == key) with
  | [] => .error (.memberNotFound className d.signature)
  | [e] => .ok ⟨d, e⟩
  | candidates => .error (.ambiguousMember className d.signature candidates.length)

/-- Pairs every declaration with its executable, in the order of the declarations. -/
def reconcile (className : String) (classParameters : List Source.TypeParameter)
    (declarations : List Source.Callable) (executables : List Executable) :
    Except ExtractError (List ReconciledPair) :=
  if declarations.length != executables.length then
    .error (.structuralMismatch className executables.length declarations.length)
  else declarations.mapM (pairOne className classParameters executables)

end MemberSpec
