/-!
# Cutting and replacing

Cuts of a text at separator characters, its lines, and the replacement of characters. `splitAt sep`
gives one piece more than there are separators, so joining the pieces with `sep` gives the text back.
-/

namespace MemberSpec.Text

/-- The pieces between the separators: one more than there are separators. -/
def splitAt (isSep : Char → Bool) : List Char → List (List Char)
  | [] => [[]]
  | c :: cs =>
    if isSep c then [] :: splitAt isSep cs
    else match splitAt isSep cs with
      | [] => [[c]]
      | piece :: pieces => (c :: piece) :: pieces

/-- The part behind the last separator: the whole text if there is none. -/
def lastPiece (isSep : Char → Bool) (cs : List Char) : List Char :=
  (cs.reverse.takeWhile (fun c => !isSep c)).reverse

/-- The parts of a class name between its dots, empty ones too. -/
def nameParts (className : String) : List String :=
  (splitAt (· == '.') className.toList).map String.ofList

/-- Every `old` turned into `new`. -/
def replaceChar (old new : Char) (cs : List Char) : List Char :=
  cs.map fun c => if c == old then new else c

/-- A line without the carriage return that may end it. -/
def dropReturn (line : List Char) : List Char :=
  if line.getLast? == some '\r' then line.dropLast else line

/-- The lines of a text: cut at line feeds, a carriage return before one dropped with it, and no
empty line after a line feed that ends the text. -/
def lines (cs : List Char) : List (List Char) :=
  let pieces := splitAt (· == '\n') cs
  let last := pieces.getLast?.getD []
  pieces.dropLast.map dropReturn ++ (if last.isEmpty then [] else [last])

/-- Whether `part` occurs in the text without a gap. -/
def hasInfix (part : List Char) : List Char → Bool
  | [] => part.isEmpty
  | c :: cs => part.isPrefixOf (c :: cs) || hasInfix part cs

/-- The text behind `lead`, if the text starts with it. -/
def stripLead (lead cs : List Char) : Option (List Char) :=
  if lead.isPrefixOf cs then some (cs.drop lead.length) else none

/-- The text before `trail`, if the text ends with it. -/
def stripTrail (trail cs : List Char) : Option (List Char) :=
  if trail.isSuffixOf cs then some (cs.take (cs.length - trail.length)) else none

/-- `cs` repeated `n` times. -/
def repeated (n : Nat) (cs : List Char) : List Char := (List.replicate n cs).flatten

/-- The decimal digits of a number. -/
def ofNat (n : Nat) : List Char := Nat.toDigits 10 n

end MemberSpec.Text
