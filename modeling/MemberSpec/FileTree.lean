import MemberSpec.Error

/-!
# File trees

Files and directories as a value, with a working directory. A location is the list of names from the
root; a path is resolved to a location step by step, and everything but its last name has to be a
directory.

* `FileTree.locate`: the location that a path names.
* `FileTree.read`, `FileTree.readText`: the content of a file.
* `FileTree.write`, `FileTree.createDirectories`, `FileTree.remove`: the tree after a change.
* `FileTree.filesUnder`: all files under a directory.
-/

namespace MemberSpec

open Text

/-- The names from the root. -/
abbrev Location := List String

/-- What is at a location. -/
inductive Entry where
  | file (bytes : List UInt8)
  | directory
deriving DecidableEq, Repr

/-- Files and directories, and the working directory. The root is always a directory. -/
structure FileTree where
  entries : List (Location × Entry)
  here : Location
deriving Repr

namespace FileTree

/-- The non-empty starts of a location. -/
def startsOf : Location → List Location
  | [] => []
  | name :: rest => [name] :: (startsOf rest).map (name :: ·)

/-- A tree with nothing but the working directory. -/
def empty (here : Location) : FileTree :=
  ⟨(startsOf here).map fun location => (location, .directory), here⟩

def entry? (t : FileTree) (location : Location) : Option Entry :=
  if location.isEmpty then some .directory
  else (t.entries.find? (·.1 == location)).map (·.2)

/-- The longest name that a file can have, in bytes. -/
def longestName : Nat := 255

/-- The longest path that can be resolved, in bytes. -/
def longestPath : Nat := 4095

/-- The names in a path as they are gone through. A divider at the end asks for a directory, as a dot
does. -/
def steps (p : Path) : List String :=
  let pieces := (splitAt (· == '/') p.text.toList).map String.ofList
  let names := pieces.filter (!·.isEmpty)
  if pieces.length > 1 && pieces.getLast? == some "" then names ++ ["."] else names

/-- Goes through names from a location. -/
def follow (t : FileTree) : Location → List String → Except FileFault Location
  | location, [] => .ok location
  | location, name :: rest =>
    match t.entry? location with
    | none => .error .notFound
    | some (.file _) => .error .notADirectory
    | some .directory =>
      if name == "." then follow t location rest
      else if name == ".." then follow t location.dropLast rest
      else if name.utf8ByteSize > longestName then .error .nameTooLong
      else follow t (location ++ [name]) rest

/-- The location that a path names. There need not be anything. -/
def locate (t : FileTree) (p : Path) : Except FileFault Location :=
  if p.text.toList.contains (Char.ofNat 0) then .error .nameWithNul
  else if p.text.isEmpty then .error .notFound
  else if p.text.utf8ByteSize > longestPath then .error .nameTooLong
  else t.follow (if p.isAbsolute then [] else t.here) (steps p)

/-- What a path names. -/
def find (t : FileTree) (p : Path) : Except FileFault Entry := do
  match t.entry? (← t.locate p) with
  | some e => return e
  | none => throw .notFound

def isFile (t : FileTree) (p : Path) : Bool :=
  match t.find p with
  | .ok (.file _) => true
  | _ => false

def isDirectory (t : FileTree) (p : Path) : Bool :=
  match t.find p with
  | .ok .directory => true
  | _ => false

def has (t : FileTree) (p : Path) : Bool := (t.find p).toBool

/-- The bytes of a file. -/
def read (t : FileTree) (p : Path) : Except FileFault (List UInt8) := do
  match ← t.find p with
  | .file bytes => return bytes
  | .directory => throw .isADirectory

/-- The text of a file. -/
def readText (t : FileTree) (p : Path) : Except FileFault String := do
  match Utf8.decode (← t.read p) with
  | .ok cs => return String.ofList cs
  | .error _ => throw .notText

/-- Puts an entry at a location. -/
def put (t : FileTree) (location : Location) (e : Entry) : FileTree :=
  { t with entries := t.entries.filter (·.1 != location) ++ [(location, e)] }

/-- Writes a file in an existing directory. -/
def write (t : FileTree) (p : Path) (bytes : List UInt8) : Except FileFault FileTree := do
  let location ← t.locate p
  match t.entry? location with
  | some .directory => throw .isADirectory
  | _ => return t.put location (.file bytes)

def createDirectory (t : FileTree) (p : Path) : Except FileFault FileTree := do
  let location ← t.locate p
  match t.entry? location with
  | some _ => throw .alreadyExists
  | none => return t.put location .directory

/-- Creates a directory and those above it, at most `depth` of them. -/
def createUpTo : Nat → FileTree → Path → Except FileFault FileTree
  | 0, t, _ => .ok t
  | depth + 1, t, p =>
    if p.text.isEmpty then .ok t
    else
      match t.createDirectory p with
      | .ok next => .ok next
      | .error .notFound => do
        let above ← createUpTo depth t ((p.parent?).getD ⟨""⟩)
        match above.createDirectory p with
        | .ok next => return next
        | .error fault => if above.isDirectory p then return above else throw fault
      | .error fault => if t.isDirectory p then .ok t else .error fault

/-- Creates a directory and those above it. A directory that is there is left as it is. -/
def createDirectories (t : FileTree) (p : Path) : Except FileFault FileTree :=
  createUpTo (p.parts.length + 1) t p

/-- Removes what a path names, with all that is under it. -/
def remove (t : FileTree) (p : Path) : FileTree :=
  match t.locate p with
  | .ok location => { t with entries := t.entries.filter fun e => !location.isPrefixOf e.1 }
  | .error _ => t

/-- The locations of all files under a directory, from that directory on. -/
def filesUnder (t : FileTree) (p : Path) : List Location :=
  match t.locate p with
  | .ok location =>
    t.entries.filterMap fun (place, e) =>
      if e != .directory && location.isPrefixOf place && location.length < place.length then
        some (place.drop location.length)
      else none
  | .error _ => []

/-- Changes the working directory. -/
def enter (t : FileTree) (p : Path) : FileTree :=
  match t.locate p with
  | .ok location => { t with here := location }
  | .error _ => t

end FileTree

end MemberSpec
