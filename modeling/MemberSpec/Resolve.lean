import MemberSpec.Introspector
import MemberSpec.Source.Unit

/-!
# Resolving exception types

The name behind a throws tag is looked up in four ways, one after the other, until one of them finds a
class: the name itself, the name in the standard namespace, the first import that contains the name,
and, if the resolver is told to, the package of the file and its wildcard imports. A failure of any kind
to load a class is a miss.
-/

namespace MemberSpec

/-- How exception types are resolved. -/
structure Resolver where
  /-- The package whose types need no import. -/
  standardNamespace : String
  /-- Whether the package of the file and its wildcard imports are searched. -/
  packageFallback : Bool
deriving DecidableEq, Repr

namespace Resolver

def default : Resolver := ⟨"java.lang", false⟩

/-- One way to look a name up came to nothing. -/
structure Miss where
deriving DecidableEq, Repr

/-- A look-up that finds something or misses. -/
abbrev Lookup (σ : Type) := Session σ Miss

variable {σ : Type}

/-- The class that is loaded for a name. Why it cannot be loaded does not matter. -/
def load (source : Introspector σ) (name : String) : Lookup σ ClassHandle :=
  ExceptT.adapt (fun _ => {}) (source.load name)

/-- The name as written. -/
def direct (source : Introspector σ) (name : String) : Lookup σ ClassHandle := load source name

/-- The name in the standard namespace. -/
def inStandardNamespace (r : Resolver) (source : Introspector σ) (name : String) : Lookup σ ClassHandle :=
  load source (r.standardNamespace ++ "." ++ name)

/-- The first import whose name contains the given name. -/
def importFor? (scope : Source.Scope) (name : String) : Option Source.Import :=
  scope.imports.find? fun i => Text.hasInfix name.toList i.name.toList

/-- The import that contains the name. If it cannot be loaded, no other import is tried. -/
def fromImports (source : Introspector σ) (scope : Source.Scope) (name : String) : Lookup σ ClassHandle :=
  match importFor? scope name with
  | some i => load source i.name
  | none => throw {}

/-- The names under the package of the file and under its wildcard imports. -/
def fallbackNames (scope : Source.Scope) (name : String) : List String :=
  scope.qualify name ::
    (scope.imports.filter fun i => i.isWildcard && !i.isStatic).map fun i => i.name ++ "." ++ name

/-- The first of the names that loads. -/
def firstLoaded (source : Introspector σ) : List String → StateM σ (Option ClassHandle)
  | [] => pure none
  | name :: names => do
    match ← (load source name).run with
    | .ok handle => pure (some handle)
    | .error _ => firstLoaded source names

/-- The package of the file and its wildcard imports, if the resolver falls back on them. -/
def fromPackageOrWildcards (r : Resolver) (source : Introspector σ) (scope : Source.Scope)
    (name : String) : Lookup σ ClassHandle := do
  if !r.packageFallback then throw {}
  match ← (firstLoaded source (fallbackNames scope name) : StateM σ _) with
  | some handle => return handle
  | none => throw {}

/-- The class that a name stands for in a file with the given scope. -/
def resolve (r : Resolver) (source : Introspector σ) (scope : Source.Scope) (name : String) :
    Session σ ResolveError ClassHandle :=
  ExceptT.adapt (fun _ => .exceptionTypeNotFound name)
    (direct source name
      <|> r.inStandardNamespace source name
      <|> fromImports source scope name
      <|> r.fromPackageOrWildcards source scope name)

end Resolver

end MemberSpec
