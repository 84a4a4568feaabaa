import MemberSpec.Text.Alphabetic
import MemberSpec.Text.Blank
import MemberSpec.Text.Split

/-!
# Documentation comments

A documentation comment is a main description followed by block tags. A line whose first non-blank
characters are `@` and a letter starts a block tag, which runs to the next such line. Before that the
comment marks are taken off: the delimiters, and on every line the leading blanks, one star and one
space behind it.

* `Javadoc.cleanLines`: the lines without comment marks.
* `startsTag`: whether a line starts a block tag.
* `Javadoc.parse`: description and block tags of a comment.
-/

namespace MemberSpec

/-- The kinds of block tags: twelve standard ones, and any other by its name. -/
inductive BlockTagKind where
  | author | deprecated | exception | param | returns | see | serial | serialData | serialField
  | since | throws | version
  | unknown (name : String)
deriving DecidableEq, Repr

namespace BlockTagKind

def ofName : String → BlockTagKind
  | "author" => author
  | "deprecated" => deprecated
  | "exception" => exception
  | "param" => param
  | "return" => returns
  | "see" => see
  | "serial" => serial
  | "serialData" => serialData
  | "serialField" => serialField
  | "since" => since
  | "throws" => throws
  | "version" => version
  | other => unknown other

/-- The name of a tag as comments write it. -/
def name : BlockTagKind → String
  | author => "author"
  | deprecated => "deprecated"
  | exception => "exception"
  | param => "param"
  | returns => "return"
  | see => "see"
  | serial => "serial"
  | serialData => "serialData"
  | serialField => "serialField"
  | since => "since"
  | throws => "throws"
  | version => "version"
  | unknown name => name

end BlockTagKind

/-- A block tag. Only a parameter tag has a name, which is its first word and may be empty. -/
structure BlockTag where
  kind : BlockTagKind
  name : Option String
  content : String
deriving DecidableEq, Repr

/-- A documentation comment. -/
structure Javadoc where
  description : String
  blockTags : List BlockTag
deriving DecidableEq, Repr

/-- The block tags of a documentation: none if there is no documentation. -/
def documentedTags (javadoc : Option Javadoc) : List BlockTag := (javadoc.map (·.blockTags)).getD []

namespace Javadoc

open Text

/-- A line without the star that starts it and one space behind the star. A star that closes the
comment is left. -/
def unstar (line : List Char) : List Char :=
  match line with
  | '*' :: '/' :: _ => line
  | '*' :: ' ' :: rest => rest
  | '*' :: rest => rest
  | _ => line

/-- A line without its mark and the blanks at both ends. -/
def cleanLine (line : List Char) : List Char := trimEnd (unstar (trimStart line))

/-- The text between the delimiters of a comment. -/
def body (raw : List Char) : List Char :=
  let text := trim raw
  let text := (stripLead ['/', '*', '*'] text).getD text
  (stripTrail ['*', '/'] text).getD text

/-- The lines without the empty ones at both ends. -/
def withoutEmptyEnds (ls : List (List Char)) : List (List Char) :=
  ((ls.dropWhile List.isEmpty).reverse.dropWhile List.isEmpty).reverse

/-- The lines of a comment without its marks, and without empty lines at both ends. -/
def cleanLines (raw : List Char) : List (List Char) :=
  withoutEmptyEnds ((lines (body raw)).map cleanLine)

/-- Whether a line starts a block tag. -/
def startsTag (line : List Char) : Bool :=
  match trimStart line with
  | '@' :: c :: _ => isAlphabetic c
  | _ => false

/-- The lines of each block tag, if the first line starts one. -/
def groupTags : List (List Char) → List (List (List Char))
  | [] => []
  | line :: rest =>
    match rest, groupTags rest with
    | next :: _, group :: groups =>
      if startsTag next then [line] :: group :: groups else (line :: group) :: groups
    | _, groups => [line] :: groups

def joinLines (ls : List (List Char)) : List Char := List.intercalate ['\n'] ls

/-- The block tag that a text starting with `@` stands for. -/
def parseTag (text : List Char) : BlockTag :=
  let (word, rest) := splitWord ((trimStart text).dropWhile (· == '@'))
  let kind := BlockTagKind.ofName (String.ofList word)
  if kind = .param then
    let (name, rest) := splitWord rest
    ⟨kind, some (String.ofList name), String.ofList (trim rest)⟩
  else ⟨kind, none, String.ofList (trim rest)⟩

/-- The description and the block tags in the lines of a comment. -/
def ofLines (ls : List (List Char)) : Javadoc :=
  let description := ls.takeWhile (!startsTag ·)
  let tagged := ls.dropWhile (!startsTag ·)
  ⟨String.ofList (trim (joinLines description)),
   (groupTags tagged).map fun group => parseTag (joinLines group)⟩

/-- Reads a comment with its delimiters. -/
def parse (raw : String) : Javadoc := ofLines (cleanLines raw.toList)

end Javadoc

end MemberSpec
