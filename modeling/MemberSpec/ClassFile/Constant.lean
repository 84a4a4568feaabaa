import MemberSpec.ClassFile.ModifiedUtf8
import MemberSpec.ClassFile.Reader

/-!
# The constant pool

Of the constants only strings and class references are kept; the others are skipped by their sizes.
A constant of eight bytes takes two indices, of which the second cannot be used.
-/

namespace MemberSpec.ClassFile

/-- An entry of the constant pool. -/
inductive Constant where
  | text (s : String)
  | classRef (nameIndex : UInt16)
  | other
  | unusable
deriving DecidableEq, Repr

/-- The entries of a constant pool by index; index 0 is not used. -/
structure ConstantPool where
  entries : List Constant
deriving DecidableEq, Repr

namespace ConstantPool

/-- How many bytes a constant that is not kept has behind its tag. -/
def skippedSize? : Nat → Option Nat
  | 3 | 4 | 9 | 10 | 11 | 12 | 17 | 18 => some 4
  | 8 | 16 | 19 | 20 => some 2
  | 15 => some 3
  | _ => none

/-- Reads a constant: the entries that it takes, one or two. -/
def readConstant : Reader (List Constant) := do
  let tag ← Reader.u1
  match tag.toNat with
  | 1 =>
    let size ← Reader.u2
    let bytes ← Reader.take size.toNat
    match ModifiedUtf8.decode bytes with
    | .ok s => return [.text s]
    | .error fault => throw (.badText fault)
  | 7 => return [.classRef (← Reader.u2)]
  | 5 | 6 =>
    Reader.skip 8
    return [.other, .unusable]
  | n =>
    match skippedSize? n with
    | some size =>
      Reader.skip size
      return [.other]
    | none => throw (.unsupportedConstant tag)

/-- Reads constants until `slots` indices are taken. A constant of two indices at the last one ends
the pool as well. -/
def readSlots : Nat → Reader (List Constant)
  | 0 => pure []
  | 1 => readConstant
  | slots + 2 => do
    let entry ← readConstant
    let rest ← if entry.length == 2 then readSlots slots else readSlots (slots + 1)
    return entry ++ rest

/-- Reads a constant pool with its count, which is one more than the number of indices. -/
def read : Reader ConstantPool := do
  let count ← Reader.u2
  let entries ← readSlots (count.toNat - 1)
  return ⟨.unusable :: entries⟩

/-- The string at an index. -/
def text (pool : ConstantPool) (index : UInt16) : Except Fault String :=
  match pool.entries[index.toNat]? with
  | some (.text s) => .ok s
  | _ => .error (.badConstantIndex index)

/-- The name of the class that the entry at an index refers to. -/
def className (pool : ConstantPool) (index : UInt16) : Except Fault String :=
  match pool.entries[index.toNat]? with
  | some (.classRef nameIndex) => pool.text nameIndex
  | _ => .error (.badConstantIndex index)

end ConstantPool

end MemberSpec.ClassFile
