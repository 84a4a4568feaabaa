import MemberSpec.Text.CodeRange

/-!
# Blanks

The characters with the Unicode property White_Space, and the ways in which text is trimmed and cut
at them. All functions work on lists of characters.
-/

namespace MemberSpec.Text

/-- The code points with the property White_Space. -/
def blankRanges : CodeRanges :=
  [(0x9, 0xD), (0x20, 0x20), (0x85, 0x85), (0xA0, 0xA0), (0x1680, 0x1680), (0x2000, 0x200A),
   (0x2028, 0x2029), (0x202F, 0x202F), (0x205F, 0x205F), (0x3000, 0x3000)]

def isBlank (c : Char) : Bool := blankRanges.has c.toNat

def trimStart (cs : List Char) : List Char := cs.dropWhile isBlank

def trimEnd (cs : List Char) : List Char := (cs.reverse.dropWhile isBlank).reverse

/-- The text without the blanks at both ends. -/
def trim (cs : List Char) : List Char := trimEnd (trimStart cs)

/-- The maximal blank-free pieces of a text, in order; `word` is the piece read so far. -/
def wordsFrom (word : List Char) : List Char → List (List Char)
  | [] => if word.isEmpty then [] else [word]
  | c :: cs =>
    if isBlank c then
      if word.isEmpty then wordsFrom [] cs else word :: wordsFrom [] cs
    else wordsFrom (word ++ [c]) cs

/-- The maximal blank-free pieces of a text, in order. -/
def words (cs : List Char) : List (List Char) := wordsFrom [] cs

/-- The text with every run of blanks turned into one space, and none at the ends. -/
def collapseBlanks (cs : List Char) : List Char := List.intercalate [' '] (words cs)

/-- The first blank-free piece of a text and what follows it. -/
def splitWord (cs : List Char) : List Char × List Char :=
  let start := trimStart cs
  (start.takeWhile (fun c => !isBlank c), start.dropWhile (fun c => !isBlank c))

end MemberSpec.Text
