import MemberSpec.Error
import MemberSpec.Executable

/-!
# Looking up compiled classes

An introspector answers two questions: which class a name stands for, and which executables a class
declares. It may remember what it has read; `σ` is what it remembers, and every question is a step
from one such state to the next.
-/

namespace MemberSpec

/-- A computation that may fail with `ε` and steps through states `σ`, also when it fails. -/
abbrev Session (σ ε : Type) := ExceptT ε (StateM σ)

/-- A source of compiled classes. -/
structure Introspector (σ : Type) where
  /-- The class that a qualified or binary name stands for. -/
  load : String → Session σ LookupError ClassHandle
  /-- All constructors and methods of a class, private and generated ones too. -/
  declared : ClassHandle → Session σ LookupError (List Executable)

namespace Introspector

variable {σ : Type}

/-- The executables of a class that its source has declarations for. -/
def visible (source : Introspector σ) (handle : ClassHandle) :
    Session σ LookupError (List Executable) := do
  return visibleExecutables (← source.declared handle)

/-- The same classes, with a list of all names that were loaded, in order. -/
def recording (source : Introspector σ) : Introspector (σ × List String) where
  load name := fun (state, names) =>
    let (answer, next) := (source.load name).run state
    (answer, next, names ++ [name])
  declared handle := fun (state, names) =>
    let (answer, next) := (source.declared handle).run state
    (answer, next, names)

end Introspector

end MemberSpec
