import MemberSpec.Text.Utf8

/-!
# Reading bytes of a class file

A reader takes bytes off the front. Numbers have the high byte first. The only fault that a reader of
this module meets is the end of the bytes.
-/

namespace MemberSpec.ClassFile

/-- Why bytes are no class file that can be used. -/
inductive Fault where
  | unexpectedEnd
  | badMagic
  | unsupportedConstant (tag : UInt8)
  | badConstantIndex (index : UInt16)
  | badText (fault : Text.Utf8.Fault)
  | badDescriptor (descriptor : String)
deriving DecidableEq, Repr

def Fault.message : Fault → String
  | unexpectedEnd => "unexpected end of class file"
  | badMagic => "invalid class file magic header"
  | unsupportedConstant tag => s!"unsupported constant pool tag {tag.toNat}"
  | badConstantIndex index => s!"invalid constant pool index {index.toNat}"
  | badText fault => "invalid UTF-8 string in constant pool: " ++ fault.message
  | badDescriptor descriptor => s!"malformed descriptor '{descriptor}'"

/-- Takes a value off the front of the bytes. -/
abbrev Reader := StateT (List UInt8) (Except Fault)

namespace Reader

/-- The next `n` bytes. -/
def take (n : Nat) : Reader (List UInt8) := fun bytes =>
  if n ≤ bytes.length then .ok (bytes.take n, bytes.drop n) else .error .unexpectedEnd

def skip (n : Nat) : Reader Unit := do
  let _ ← take n

/-- The number that bytes stand for, high byte first. -/
def number (bytes : List UInt8) : Nat := bytes.foldl (fun n b => n * 256 + b.toNat) 0

def u1 : Reader UInt8 := do return UInt8.ofNat (number (← take 1))

def u2 : Reader UInt16 := do return UInt16.ofNat (number (← take 2))

def u4 : Reader UInt32 := do return UInt32.ofNat (number (← take 4))

/-- `n` values in a row. -/
def times {α : Type} : Nat → Reader α → Reader (List α)
  | 0, _ => pure []
  | n + 1, r => do
    let a ← r
    let as ← times n r
    return a :: as

end Reader

end MemberSpec.ClassFile
