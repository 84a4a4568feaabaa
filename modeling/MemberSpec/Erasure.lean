import MemberSpec.Source.Unit

/-!
# Erasure of written types

A written type is compared with a compiled one by the simple name that is left when type arguments,
blanks and qualifiers are dropped and type variables are replaced by their first bounds.
-/

namespace MemberSpec.Erasure

open Text Source

/-- The text outside all `<…>` groups and without blanks; `depth` groups are open. A `>` without its
`<` is dropped. -/
def stripArguments (depth : Nat) : List Char → List Char
  | [] => []
  | c :: cs =>
    if c == '<' then stripArguments (depth + 1) cs
    else if c == '>' then stripArguments (depth - 1) cs
    else if depth == 0 && !isBlank c then c :: stripArguments depth cs
    else stripArguments depth cs

/-- The number of bracket pairs at the front of a reversed text, and the text behind them. -/
def countBrackets : List Char → Nat × List Char
  | ']' :: '[' :: cs =>
    let (n, rest) := countBrackets cs
    (n + 1, rest)
  | cs => (0, cs)

/-- The text before the bracket pairs that end it, and their number. -/
def splitDimensions (cs : List Char) : List Char × Nat :=
  let (n, rest) := countBrackets cs.reverse
  (rest.reverse, n)

/-- The last segment of a written type without arguments, and the number of its dimensions. -/
def headOf (written : String) : String × Nat :=
  let (base, dimensions) := splitDimensions (stripArguments 0 written.toList)
  (String.ofList (lastPiece (· == '.') base), dimensions)

/-- What a type variable without bounds erases to. -/
def topName : String := "Object"

/-- Erasure with at most `steps` replacements of a type variable by its first bound; a variable met
with no step left stands for itself. -/
def eraseWithin (parameters : List TypeParameter) : Nat → String → String
  | 0, written =>
    let (name, dimensions) := headOf written
    name ++ brackets dimensions
  | steps + 1, written =>
    let (name, dimensions) := headOf written
    let erased := match parameters.find? (·.name == name) with
      | some ⟨_, bound :: _⟩ => eraseWithin parameters steps bound
      | some ⟨_, []⟩ => topName
      | none => name
    erased ++ brackets dimensions

/-- The simple name that the compiled form of a written type has. The type variables in scope come
innermost first; as many replacements as there are variables are enough for bounds without a cycle. -/
def erase (parameters : List TypeParameter) (written : String) : String :=
  eraseWithin parameters parameters.length written

end MemberSpec.Erasure
