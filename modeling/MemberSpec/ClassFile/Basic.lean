import MemberSpec.ClassFile.Constant
import MemberSpec.ClassFile.Descriptor
import MemberSpec.Executable

/-!
# Class files

Reads of a class file what is needed to list its members: the constant pool, the access flags and the
name of the class, and each method with flags, name and types. Fields and attributes are skipped, and
bytes behind the class are not looked at.
-/

namespace MemberSpec

namespace ClassFile

/-- A method of a class file. -/
structure Method where
  name : String
  access : Modifiers
  parameters : List JavaType
  returns : JavaType
deriving DecidableEq, Repr

end ClassFile

/-- What is used of a class file. The name is the binary name with `.` between packages. -/
structure ClassFile where
  name : String
  access : Modifiers
  methods : List ClassFile.Method
deriving DecidableEq, Repr

namespace ClassFile

/-- The four bytes that every class file starts with. -/
def magic : UInt32 := 0xCAFEBABE

/-- The name under which class files list constructors. -/
def constructorName : String := "<init>"

/-- The name under which class files list the static initializer. -/
def initializerName : String := "<clinit>"

def skipAttributes (count : UInt16) : Reader Unit := do
  let _ ← Reader.times count.toNat do
    let _ ← Reader.u2
    let size ← Reader.u4
    Reader.skip size.toNat

def skipField : Reader Unit := do
  Reader.skip 6
  let attributes ← Reader.u2
  skipAttributes attributes

/-- Reads a method. Its name and types are looked up before its attributes are skipped. -/
def readMethod (pool : ConstantPool) : Reader Method := do
  let access ← Reader.u2
  let nameIndex ← Reader.u2
  let descriptorIndex ← Reader.u2
  let attributes ← Reader.u2
  let name ← pool.text nameIndex
  let descriptor ← pool.text descriptorIndex
  let type ← Descriptor.parse descriptor
  skipAttributes attributes
  return ⟨name, .ofBits access, type.parameters, type.returns⟩

/-- Reads a class. The name of the class is looked up when all else is read. -/
def read : Reader ClassFile := do
  if (← Reader.u4) != magic then throw .badMagic
  let _minor ← Reader.u2
  let _major ← Reader.u2
  let pool ← ConstantPool.read
  let access ← Reader.u2
  let thisClass ← Reader.u2
  let _superClass ← Reader.u2
  let interfaces ← Reader.u2
  Reader.skip (interfaces.toNat * 2)
  let fields ← Reader.u2
  let _ ← Reader.times fields.toNat skipField
  let count ← Reader.u2
  let methods ← Reader.times count.toNat (readMethod pool)
  let attributes ← Reader.u2
  skipAttributes attributes
  let name ← pool.className thisClass
  return ⟨String.ofList (Text.replaceChar '/' '.' name.toList), .ofBits access, methods⟩

/-- The class that the bytes of a class file describe. -/
def parse (bytes : List UInt8) : Except Fault ClassFile := (read bytes).map Prod.fst

def simpleName (c : ClassFile) : String := simpleNameOf c.name

def handle (c : ClassFile) : ClassHandle := ⟨c.name, c.access⟩

/-- A method as an executable member: none for the static initializer, and a constructor goes under
the simple name of its class. -/
def executable? (c : ClassFile) (m : Method) : Option Executable :=
  if m.name == initializerName then none
  else if m.name == constructorName then
    some ⟨.constructor, c.simpleName, m.parameters, none, m.access⟩
  else some ⟨.method, m.name, m.parameters, some m.returns, m.access⟩

/-- The constructors and methods of a class in the order of the file. -/
def executables (c : ClassFile) : List Executable := c.methods.filterMap c.executable?

end ClassFile

end MemberSpec
