import MemberSpec.Text.Split

/-!
# Types of compiled code

The types that a compiled class names: `void`, the eight primitives, references by binary name
(`java.util.Map$Entry`) and arrays. An array holds its element type and the number of its dimensions,
and `arrayOf` keeps arrays flat: an array of arrays is one array with the dimensions added.
-/

namespace MemberSpec

/-- The primitive types. -/
inductive Primitive where
  | boolean | byte | char | short | int | long | float | double
deriving DecidableEq, Repr

namespace Primitive

/-- The keyword of a primitive type in source text. -/
def keyword : Primitive → String
  | boolean => "boolean"
  | byte => "byte"
  | char => "char"
  | short => "short"
  | int => "int"
  | long => "long"
  | float => "float"
  | double => "double"

/-- The character of a primitive type in a descriptor. -/
def descriptor : Primitive → Char
  | boolean => 'Z'
  | byte => 'B'
  | char => 'C'
  | short => 'S'
  | int => 'I'
  | long => 'J'
  | float => 'F'
  | double => 'D'

def ofDescriptor? : Char → Option Primitive
  | 'Z' => some boolean
  | 'B' => some byte
  | 'C' => some char
  | 'S' => some short
  | 'I' => some int
  | 'J' => some long
  | 'F' => some float
  | 'D' => some double
  | _ => none

@[simp] theorem ofDescriptor?_descriptor (p : Primitive) : ofDescriptor? p.descriptor = some p := by
  cases p <;> rfl

end Primitive

/-- A type as compiled code names it. The name of a reference is a binary name: packages are divided
by `.`, nested classes by `$`. -/
inductive JavaType where
  | void
  | primitive (p : Primitive)
  | reference (name : String)
  | array (element : JavaType) (dimensions : UInt8)
deriving DecidableEq, Repr

/-- The divisors of a binary name. -/
def isNameDivisor (c : Char) : Bool := c == '.' || c == '$'

/-- The last part of a binary name: without the package and the enclosing classes. -/
def simpleNameOf (name : String) : String :=
  String.ofList (Text.lastPiece isNameDivisor name.toList)

/-- A binary name as source text writes it, with `.` for `$`. -/
def canonicalNameOf (name : String) : String :=
  String.ofList (Text.replaceChar '$' '.' name.toList)

/-- `n` pairs of brackets. -/
def brackets (n : Nat) : String := String.ofList (Text.repeated n ['[', ']'])

namespace JavaType

/-- The array with the given element type; the dimensions of an element that is an array are added. -/
def arrayOf (element : JavaType) (dimensions : UInt8) : JavaType :=
  match element with
  | array inner n => array inner (n + dimensions)
  | other => array other dimensions

/-- The name without package and enclosing classes. -/
def simpleName : JavaType → String
  | void => "void"
  | primitive p => p.keyword
  | reference name => simpleNameOf name
  | array element n => element.simpleName ++ brackets n.toNat

/-- The name as source text writes it in full. -/
def canonicalName : JavaType → String
  | void => "void"
  | primitive p => p.keyword
  | reference name => canonicalNameOf name
  | array element n => element.canonicalName ++ brackets n.toNat

end JavaType

end MemberSpec
