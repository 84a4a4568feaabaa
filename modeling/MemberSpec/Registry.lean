import MemberSpec.Introspector

/-!
# Registered classes

Classes that are given rather than read. A class is found by its binary name or, if no class has the
name as its binary name, by its canonical name, with `.` for `$`.
-/

namespace MemberSpec

/-- A class with its executables. -/
structure RegisteredClass where
  handle : ClassHandle
  executables : List Executable
deriving DecidableEq, Repr

/-- Classes, at most one for each binary name. -/
structure Registry where
  classes : List RegisteredClass
deriving DecidableEq, Repr

namespace Registry

def empty : Registry := ⟨[]⟩

/-- Adds a class; it replaces a class with the same binary name. -/
def register (r : Registry) (c : RegisteredClass) : Registry :=
  ⟨r.classes.filter (·.handle.name != c.handle.name) ++ [c]⟩

def ofList (cs : List RegisteredClass) : Registry := cs.foldl register empty

/-- The class with a binary name. -/
def get? (r : Registry) (name : String) : Option RegisteredClass :=
  r.classes.find? (·.handle.name == name)

/-- The class that a binary or canonical name stands for. -/
def find? (r : Registry) (name : String) : Option RegisteredClass :=
  (r.get? name).orElse fun _ =>
    r.classes.find? fun c => canonicalNameOf c.handle.name == name

/-- Looks classes up in the registry that is the state. -/
def introspector : Introspector Registry where
  load name := do
    match (← get).find? name with
    | some c => return c.handle
    | none => throw (.classNotFound name)
  declared handle := do
    match (← get).find? handle.name with
    | some c => return c.executables
    | none => throw (.classNotFound handle.name)

end Registry

end MemberSpec
