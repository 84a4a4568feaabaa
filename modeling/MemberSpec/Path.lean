import MemberSpec.Text.Split

/-!
# Paths

A path is kept as it is written. Joining puts a divider between two paths, and a path that starts at
the root replaces what it is joined to. The parts of a path leave out empty parts and dots, except a
dot that the path starts with.
-/

namespace MemberSpec

/-- A path as written. -/
structure Path where
  text : String
deriving DecidableEq, Repr

namespace Path

open Text

/-- A part of a path. -/
inductive Part where
  | root
  | here
  | up
  | name (s : String)
deriving DecidableEq, Repr

def Part.text : Part → String
  | root => "/"
  | here => "."
  | up => ".."
  | name s => s

def isAbsolute (p : Path) : Bool := p.text.toList.head? == some '/'

/-- The path that `q` names when it is read from `p`. -/
def join (p : Path) (q : String) : Path :=
  if q.toList.head? == some '/' then ⟨q⟩
  else if p.text.isEmpty || p.text.toList.getLast? == some '/' then ⟨p.text ++ q⟩
  else ⟨p.text ++ "/" ++ q⟩

/-- All the names joined in a row. -/
def joinAll (p : Path) (names : List String) : Path := names.foldl join p

def partOf (s : String) : Part :=
  if s == "." then .here else if s == ".." then .up else .name s

/-- The parts of a path in order. -/
def parts (p : Path) : List Part :=
  let pieces := (splitAt (· == '/') p.text.toList).map String.ofList
  if p.isAbsolute then
    .root :: ((pieces.filter fun s => !s.isEmpty && s != ".").map partOf)
  else
    let first := if pieces.head? == some "." then [Part.here] else []
    first ++ ((pieces.filter fun s => !s.isEmpty && s != ".").map partOf)

/-- The path with the given parts. -/
def ofParts (ps : List Part) : Path := ps.foldl (fun p part => p.join part.text) ⟨""⟩

/-- The path without its last part: none for the root and for the empty path. -/
def parent? (p : Path) : Option Path :=
  match p.parts.getLast? with
  | none | some .root => none
  | some _ => some (ofParts p.parts.dropLast)

/-- The stem and the extension of a file name: what is before and behind its last dot. A name whose
only dot starts it has no extension. -/
def splitExtension (name : String) : String × Option String :=
  let cs := name.toList
  let extension := lastPiece (· == '.') cs
  let stem := cs.take (cs.length - extension.length - 1)
  if extension.length == cs.length || stem.isEmpty then (name, none)
  else (String.ofList stem, some (String.ofList extension))

/-- The path from `base` to `p`, both of them absolute: the part that they share is left out, and the
rest of `base` is gone up. -/
def relativeParts : List Part → List Part → List Part
  | a :: as, b :: bs =>
    if a = b then relativeParts as bs
    else List.replicate (bs.length + 1) .up ++ a :: as
  | as, bs => List.replicate bs.length .up ++ as

end Path

end MemberSpec
