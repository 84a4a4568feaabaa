/-!
# Access flags

The flags of a compiled class or member as one 16-bit word. The highest bit names no flag and is
always clear.
-/

namespace MemberSpec

/-- A flag that source text writes as a keyword, with its bit. -/
structure FlagKeyword where
  bit : UInt16
  keyword : String

/-- The access flags of a class or member. -/
structure Modifiers where
  bits : UInt16
deriving DecidableEq, Repr

namespace Modifiers

/-- The bits that name a flag. -/
def namedBits : UInt16 := 0x7FFF

/-- The flags in a word; bits that name no flag are dropped. -/
def ofBits (word : UInt16) : Modifiers := ⟨word &&& namedBits⟩

def publicOnly : Modifiers := ⟨0x0001⟩

def privateBit : UInt16 := 0x0002

/-- The bits of what a compiler adds without a counterpart in the source: synthetic and bridge. -/
def generatedBits : UInt16 := 0x1040

def isPrivate (m : Modifiers) : Bool := m.bits &&& privateBit != 0

/-- Whether a member was added by the compiler and has no counterpart in the source. -/
def isGenerated (m : Modifiers) : Bool := m.bits &&& generatedBits != 0

/-- The flags with a keyword, in the order in which source text customarily has them. -/
def flagKeywords : List FlagKeyword :=
  [⟨0x0001, "public"⟩, ⟨0x0004, "protected"⟩, ⟨0x0002, "private"⟩, ⟨0x0400, "abstract"⟩,
   ⟨0x0008, "static"⟩, ⟨0x0010, "final"⟩, ⟨0x0020, "synchronized"⟩, ⟨0x0100, "native"⟩,
   ⟨0x0800, "strictfp"⟩]

/-- The keywords of the flags that are set and have one. -/
def keywords (m : Modifiers) : List String :=
  (flagKeywords.filter fun flag => m.bits &&& flag.bit != 0).map (·.keyword)

/-- The keywords with a space between them. -/
def display (m : Modifiers) : String := String.intercalate " " m.keywords

end Modifiers

end MemberSpec
