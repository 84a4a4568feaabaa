import MemberSpec.Text.Utf8

/-!
# Strings of class files

Class files store strings in a variant of UTF-8 in which NUL is the pair `C0 80`. A supplementary
character is stored there as two surrogates; such a string is refused.
-/

namespace MemberSpec.ClassFile.ModifiedUtf8

/-- The bytes with every pair `C0 80` turned into a zero byte. -/
def unpairNul : List UInt8 → List UInt8
  | 0xC0 :: 0x80 :: rest => 0 :: unpairNul rest
  | b :: rest => b :: unpairNul rest
  | [] => []

/-- Whether the pair `C0 80` occurs somewhere. -/
def hasNulPair : List UInt8 → Bool
  | 0xC0 :: 0x80 :: _ => true
  | _ :: rest => hasNulPair rest
  | [] => false

/-- The string that bytes of a class file stand for. Bytes without a pair for NUL are decoded as they
are. -/
def decode (bytes : List UInt8) : Except Text.Utf8.Fault String :=
  (Text.Utf8.decode (if hasNulPair bytes then unpairNul bytes else bytes)).map String.ofList

end MemberSpec.ClassFile.ModifiedUtf8
