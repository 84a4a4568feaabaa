import MemberSpec.Catalog
import MemberSpec.ClassFile.Basic
import MemberSpec.FileTree
import MemberSpec.Inquiry
import MemberSpec.Introspector

/-!
# Class paths

Classes are read from class files under a list of root directories. A name can be a binary name or a
canonical one, in which nested classes are divided by dots as well: the longest package is tried
first, then each shorter one with the rest of the name as nested classes. A class that was read is
kept under the name it was asked by and under its own. The cache may be shared, so a look-up is
written as an inquiry that uses the cache step by step.

* `ClassPath.candidates`: the paths of a class below a root.
* `ClassPath.read?`: the class that the files have for a name.
* `ClassPath.find?`: the same by way of the cache.
* `ClassPath.introspector`: the classes under the roots and, if asked for, those of the catalogue.
-/

namespace MemberSpec

open Text

/-- Where classes are looked for. -/
structure ClassPath where
  roots : List Path
  /-- Whether names of the catalogue count as classes. -/
  useCatalog : Bool
deriving Repr

/-- The classes that were read, by name. -/
abbrev ClassCache := List (String × ClassFile)

/-- The cache with a class under a name, in place of what was there. -/
def ClassCache.insert (cache : ClassCache) (name : String) (c : ClassFile) : ClassCache :=
  (name, c) :: cache.filter fun (key, _) => key != name

/-- One use of a cache, which nothing else comes between. -/
inductive CacheUse where
  | get (name : String)
  | insert (name : String) (c : ClassFile)

namespace CacheUse

/-- What a use gives back. -/
def Answer : CacheUse → Type
  | get _ => Option ClassFile
  | insert .. => Unit

def perform : (use : CacheUse) → StateM ClassCache use.Answer
  | get name => fun cache => (cache.lookup name, cache)
  | insert name c => fun cache => ((), cache.insert name c)

end CacheUse

/-- A computation that uses a cache. -/
abbrev CacheInquiry := Inquiry CacheUse.Answer

def CacheInquiry.get (name : String) : CacheInquiry (Option ClassFile) := .ask (.get name) .done

def CacheInquiry.insert (name : String) (c : ClassFile) : CacheInquiry Unit :=
  .ask (.insert name c) .done

namespace ClassPath

/-- The path of a class in a package, below a root. -/
def relativePath (package classes : List String) : Path :=
  ((⟨""⟩ : Path).joinAll package).join (String.intercalate "$" classes ++ ".class")

/-- The parts of a name between its dots, without empty ones. -/
def segments (name : String) : List String := (nameParts name).filter (!·.isEmpty)

/-- The paths of a class below a root, the longest package first. -/
def candidates (name : String) : List Path :=
  let parts := segments name
  (List.range parts.length).reverse.map fun n => relativePath (parts.take n) (parts.drop n)

/-- The first file that a name stands for. -/
def locate? (c : ClassPath) (files : FileTree) (name : String) : Option Path :=
  ((candidates name).flatMap fun relative => c.roots.map fun root => root.join relative.text).find?
    files.isFile

def readClass (files : FileTree) (path : Path) : Except LookupError ClassFile :=
  match files.read path with
  | .error fault => .error (.fileRead path fault)
  | .ok bytes =>
    match ClassFile.parse bytes with
    | .error fault => .error (.classFormat path fault)
    | .ok c => .ok c

/-- The class in the first file that a name stands for, if there is one. -/
def read? (c : ClassPath) (files : FileTree) (name : String) :
    Except LookupError (Option ClassFile) :=
  match c.locate? files name with
  | none => .ok none
  | some path => (readClass files path).map some

/-- Keeps a class under the name it was asked by and under its own. -/
def keep (name : String) (found : ClassFile) : CacheInquiry Unit := do
  CacheInquiry.insert name found
  if found.name != name then CacheInquiry.insert found.name found

/-- The class that a name stands for, if there is one. -/
def find? (c : ClassPath) (files : FileTree) (name : String) :
    CacheInquiry (Except LookupError (Option ClassFile)) := do
  match ← CacheInquiry.get name with
  | some found => return .ok (some found)
  | none =>
    match c.read? files name with
    | .ok (some found) =>
      keep name found
      return .ok (some found)
    | answer => return answer

/-- What is said of a name: of the class that was found, or else of the catalogue. -/
def answerOf {α : Type} (c : ClassPath) (name : String) (ofClass : ClassFile → α) (ofCatalog : α) :
    Except LookupError (Option ClassFile) → Except LookupError α
  | .error fault => .error fault
  | .ok (some found) => .ok (ofClass found)
  | .ok none =>
    if c.useCatalog && Catalog.isThrowable name then .ok ofCatalog else .error (.classNotFound name)

/-- The class that a name stands for, also in the catalogue. -/
def load (c : ClassPath) (files : FileTree) (name : String) :
    CacheInquiry (Except LookupError ClassHandle) := do
  return c.answerOf name ClassFile.handle ⟨name, .publicOnly⟩ (← c.find? files name)

/-- The executables of a class: none of a class of the catalogue. -/
def declared (c : ClassPath) (files : FileTree) (handle : ClassHandle) :
    CacheInquiry (Except LookupError (List Executable)) := do
  return c.answerOf handle.name ClassFile.executables [] (← c.find? files handle.name)

/-- The classes of a class path, with the uses of the cache answered in the given way. -/
def introspectorVia {σ : Type} (c : ClassPath) (files : FileTree)
    (answer : (use : CacheUse) → StateM σ use.Answer) : Introspector σ where
  load name := ExceptT.mk ((c.load files name).via answer)
  declared handle := ExceptT.mk ((c.declared files handle).via answer)

def introspector (c : ClassPath) (files : FileTree) : Introspector ClassCache :=
  c.introspectorVia files CacheUse.perform

end ClassPath

end MemberSpec
