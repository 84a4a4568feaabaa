import MemberSpec.Parameters
import MemberSpec.Source.File
import MemberSpec.Tags

/-!
# Extraction of members

The members of a class are its visible constructors and methods, each with types from the compiled
class and names, nullability and tags from the source. The first failure of any member fails the
class; classes do not affect each other.

* `sourcePath`: where the source of a class is.
* `Extractor.extract`: the members of a class.
* `Extractor.extractAll`: the members of each of several classes.
* `discover`: the classes with a source file under a root.
-/

namespace MemberSpec

open Text

/-- The file name of a stem with an extension. -/
def fileNameOf (stem extension : String) : String := stem ++ "." ++ extension

/-- Where the source of a class is below a source root: a directory for each package. -/
def sourcePlace (extension className : String) : Location :=
  (nameParts className).dropLast ++
    [fileNameOf (String.ofList (lastPiece (· == '.') className.toList)) extension]

/-- The file of a class below a source root. -/
def sourcePath (extension className : String) (root : Path) : Path :=
  root.joinAll (sourcePlace extension className)

/-- What members are extracted with. -/
structure Extractor (σ : Type) where
  introspector : Introspector σ
  /-- The declarations of a source file. -/
  readUnit : Path → Except SourceError Source.Unit
  policy : Nullability.Policy
  resolver : Resolver
  /-- The extension of source files. -/
  extension : String

/-- The members of a class, or why there are none. -/
structure ClassExtraction where
  className : String
  members : Except ExtractError (List Member)

namespace Extractor

variable {σ : Type}

/-- The member of a reconciled pair. -/
def member (x : Extractor σ) (className : String) (scope : Source.Scope) (pair : ReconciledPair) :
    Session σ ExtractError Member := do
  let parameters ← (pair.parameters className x.policy : Except ExtractError (List Parameter))
  let context : TagContext := ⟨className, pair.declaration.signature, parameters, scope⟩
  let tags ← context.tags x.introspector x.resolver pair.declaration.javadoc
  return { className, kind := pair.executable.kind, name := pair.executable.name,
           modifiers := pair.executable.modifiers, returnType := pair.executable.returnType,
           parameters, tags }

/-- The members of pairs in order, up to the first failure. -/
def membersOf (x : Extractor σ) (className : String) (scope : Source.Scope) :
    List ReconciledPair → Session σ ExtractError (List Member)
  | [] => return []
  | pair :: rest => do
    let first ← x.member className scope pair
    let others ← x.membersOf className scope rest
    return first :: others

/-- The declarations of the source of a class. -/
def unitOf (x : Extractor σ) (className : String) (path : Path) : Except ExtractError Source.Unit :=
  match x.readUnit path with
  | .ok unit => .ok unit
  | .error (.fileNotFound missing) => .error (.fileNotFound className missing)
  | .error cause => .error (.sourceParse className cause)

/-- The members of a class whose source is under a root. -/
def extract (x : Extractor σ) (className : String) (root : Path) :
    Session σ ExtractError (List Member) := do
  let handle ← ExceptT.adapt (ExtractError.classNotFound className) (x.introspector.load className)
  let path := sourcePath x.extension className root
  let unit ← (x.unitOf className path : Except ExtractError Source.Unit)
  let simple := String.ofList (lastPiece (· == '.') className.toList)
  match unit.findClass? simple with
  | none => throw (.declarationNotFound simple path)
  | some declaration =>
    let executables ←
      ExceptT.adapt (ExtractError.introspection className) (x.introspector.visible handle)
    let pairs ← (reconcile className declaration.typeParameters declaration.visible executables :
      Except ExtractError (List ReconciledPair))
    x.membersOf className unit.scope pairs

/-- The members of each of several classes, in order. -/
def extractAll (x : Extractor σ) (root : Path) : List String → StateM σ (List ClassExtraction)
  | [] => return []
  | className :: rest => do
    let members ← (x.extract className root).run
    let others ← x.extractAll root rest
    return ⟨className, members⟩ :: others

end Extractor

/-- The class whose source is at a location below a root. -/
def classNameAt (extension : String) (location : Location) : Option String :=
  match location.getLast? with
  | none => none
  | some file =>
    let (stem, found) := Path.splitExtension file
    if found != some extension || stem.toList.contains '-' then none
    else some (String.intercalate "." (location.dropLast ++ [stem]))

/-- The classes with a source file under a root, in order. -/
def discover (files : FileTree) (extension : String) (root : Path) : List String :=
  ((files.filesUnder root).filterMap (classNameAt extension)).mergeSort fun a b => decide (a ≤ b)

end MemberSpec
