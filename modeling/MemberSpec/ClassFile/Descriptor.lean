import MemberSpec.ClassFile.Reader
import MemberSpec.Type

/-!
# Method descriptors

A descriptor writes the parameter types and the return type of a method in a compact form:
`(Ljava/lang/String;[I)V`. A type is one letter for a primitive, `L` name `;` for a reference, or up
to 255 brackets before a type that is no array. Every reader takes one piece off the front of the
text and gives what is left.
-/

namespace MemberSpec.ClassFile.Descriptor

/-- The parameter types and the return type of a method. -/
structure MethodType where
  parameters : List JavaType
  returns : JavaType
deriving DecidableEq, Repr

/-- The largest number of dimensions of an array. -/
def maxDimensions : Nat := 255

/-- Reads a type that is no array. -/
def readPlain? : List Char → Option (JavaType × List Char)
  | 'L' :: cs =>
    match cs.dropWhile (· != ';') with
    | [] => none
    | _ :: rest =>
      let name := cs.takeWhile (· != ';')
      if name.isEmpty then none
      else some (.reference (String.ofList (Text.replaceChar '/' '.' name)), rest)
  | c :: cs => (Primitive.ofDescriptor? c).map fun p => (.primitive p, cs)
  | [] => none

/-- Reads a type. -/
def readType? (cs : List Char) : Option (JavaType × List Char) :=
  let dimensions := (cs.takeWhile (· == '[')).length
  let rest := cs.dropWhile (· == '[')
  if dimensions == 0 then readPlain? rest
  else if dimensions ≤ maxDimensions then
    (readPlain? rest).map fun (element, rest) =>
      (JavaType.arrayOf element (UInt8.ofNat dimensions), rest)
  else none

/-- Reads types up to the closing parenthesis. Every type takes a character at least, so `fuel` that
is no less than the length of the text never runs out. -/
def readTypes? : Nat → List Char → Option (List JavaType × List Char)
  | _, ')' :: rest => some ([], rest)
  | 0, _ => none
  | fuel + 1, cs => do
    let (type, rest) ← readType? cs
    let (types, rest) ← readTypes? fuel rest
    return (type :: types, rest)

/-- Reads a return type. -/
def readReturn? : List Char → Option (JavaType × List Char)
  | 'V' :: rest => some (.void, rest)
  | cs => readType? cs

/-- The types that a method descriptor stands for. -/
def parse? (descriptor : String) : Option MethodType :=
  match descriptor.toList with
  | '(' :: cs => do
    let (parameters, rest) ← readTypes? cs.length cs
    let (returns, rest) ← readReturn? rest
    if rest.isEmpty then some ⟨parameters, returns⟩ else none
  | _ => none

/-- The types that a method descriptor stands for; a descriptor that stands for none is the fault. -/
def parse (descriptor : String) : Except Fault MethodType :=
  match parse? descriptor with
  | some type => .ok type
  | none => .error (.badDescriptor descriptor)

end MemberSpec.ClassFile.Descriptor
