import MemberSpec.Toml.Document
import MemberSpec.Toml.Quoting

/-!
# Reading TOML

A document has a statement on a line, with blanks and a comment around it. Values in brackets can go
over several lines, those in braces cannot.

* `parse?`: the table that a text describes.
-/

namespace MemberSpec.Toml

def isWhite (c : Char) : Bool := c == ' ' || c == '\t'

def skipWhite (cs : List Char) : List Char := cs.dropWhile isWhite

/-- The rest behind a comment, if one starts here; its line break is left. -/
def skipComment (cs : List Char) : List Char :=
  match cs with
  | '#' :: rest => rest.dropWhile fun c => c == '\t' || 0x20 ≤ c.toNat
  | _ => cs

/-- The rest behind blanks, comments and line breaks. -/
def skipLines : Nat → List Char → List Char
  | 0, cs => cs
  | fuel + 1, cs =>
    let next := skipComment (skipWhite cs)
    match lineBreak? next with
    | some rest => skipLines fuel rest
    | none => next

def isBareKey (c : Char) : Bool :=
  isDigit c || ('a' ≤ c && c ≤ 'z') || ('A' ≤ c && c ≤ 'Z') || c == '_' || c == '-'

/-- A key without dots. -/
def key? (cs : List Char) : Option (String × List Char) :=
  match cs with
  | '"' :: rest => (basic (rest.length + 1) rest).map fun (k, more) => (String.ofList k, more)
  | '\'' :: rest => (literal rest).map fun (k, more) => (String.ofList k, more)
  | _ =>
    let word := cs.takeWhile isBareKey
    if word.isEmpty then none else some (String.ofList word, cs.drop word.length)

/-- Keys with dots between them. -/
def path? : Nat → List Char → Option (List String × List Char)
  | 0, _ => none
  | fuel + 1, cs => do
    let (key, rest) ← key? (skipWhite cs)
    match skipWhite rest with
    | '.' :: more =>
      let (keys, rest) ← path? fuel more
      return (key :: keys, rest)
    | rest => return ([key], rest)

/-- Whether a character ends a scalar. -/
def endsScalar (c : Char) : Bool :=
  isWhite c || c == '\n' || c == '\r' || c == ',' || c == ']' || c == '\x7d' || c == '#'

/-- The scalar at the start of a text. A date and a time can have a blank between them. -/
def readScalar? (cs : List Char) : Option (Value × List Char) :=
  let word := cs.takeWhile (!endsScalar ·)
  let rest := cs.drop word.length
  match rest with
  | ' ' :: more =>
    let time := more.takeWhile (!endsScalar ·)
    if dateRest? word == some [] && isDatetime (word ++ ' ' :: time) then
      some (.datetime (String.ofList (word ++ ' ' :: time)), more.drop time.length)
    else (scalar? word).map fun v => (v, rest)
  | _ => (scalar? word).map fun v => (v, rest)

/-- How deep brackets and braces can nest. -/
def deepest : Nat := 79

mutual

/-- A value, with brackets and braces at most `depth` deep. -/
def value? : Nat → Nat → List Char → Option (Value × List Char)
  | 0, _, _ => none
  | fuel + 1, depth, cs =>
    match cs with
    | '[' :: rest =>
      if depth == 0 then none
      else (items? fuel (depth - 1) rest).map fun (vs, more) => (.array vs, more)
    | '\x7b' :: rest =>
      if depth == 0 then none
      else do
        let (pairs, more) ← match skipWhite rest with
          | '\x7d' :: more => some ([], more)
          | _ => pairs? fuel (depth - 1) rest
        return (.table (← inlineTable? pairs), more)
    | '"' :: _ | '\'' :: _ => (string? cs).map fun (s, rest) => (.string s, rest)
    | _ => readScalar? cs

/-- The values up to a closing bracket. -/
def items? : Nat → Nat → List Char → Option (List Value × List Char)
  | 0, _, _ => none
  | fuel + 1, depth, cs =>
    match skipLines cs.length cs with
    | ']' :: rest => some ([], rest)
    | start => do
      let (v, rest) ← value? fuel depth start
      match skipLines rest.length rest with
      | ',' :: more =>
        let (vs, rest) ← items? fuel depth more
        return (v :: vs, rest)
      | ']' :: more => return ([v], more)
      | _ => none

/-- The assignments up to a closing brace. -/
def pairs? : Nat → Nat → List Char → Option (List (List String × Value) × List Char)
  | 0, _, _ => none
  | fuel + 1, depth, cs => do
    let (path, rest) ← path? cs.length cs
    let rest ← behind? '=' rest
    let (v, rest) ← value? fuel depth (skipWhite rest)
    match skipWhite rest with
    | ',' :: more =>
      let (others, rest) ← pairs? fuel depth more
      return ((path, v) :: others, rest)
    | '\x7d' :: more => return ([(path, v)], more)
    | _ => none

end

/-- The statement at the start of a line. -/
def statement? (cs : List Char) : Option (Statement × List Char) :=
  match cs with
  | '[' :: '[' :: rest => do
    let (path, rest) ← path? rest.length rest
    let rest ← behind? ']' rest
    return (.elementHeader path, ← behind? ']' rest)
  | '[' :: rest => do
    let (path, rest) ← path? rest.length rest
    return (.header path, ← behind? ']' rest)
  | _ => do
    let (path, rest) ← path? cs.length cs
    let rest ← behind? '=' rest
    let (v, rest) ← value? (rest.length + 1) deepest (skipWhite rest)
    return (.assign path v, rest)

/-- The rest behind the end of a line. -/
def endLine? (cs : List Char) : Option (List Char) :=
  match skipComment (skipWhite cs) with
  | [] => some []
  | rest => lineBreak? rest

/-- The statements of a text. -/
def statements? : Nat → List Char → Option (List Statement)
  | 0, _ => some []
  | fuel + 1, cs =>
    match skipLines cs.length cs with
    | [] => some []
    | start => do
      let (first, rest) ← statement? start
      let others ← statements? fuel (← endLine? rest)
      return first :: others

/-- The table that a text describes, if it is a TOML document. A byte order mark can stand in front. -/
def parse? (source : String) : Option Table :=
  let cs := source.toList
  let cs := if cs.head? == some (Char.ofNat 0xFEFF) then cs.drop 1 else cs
  (statements? (cs.length + 1) cs).bind assemble?

end MemberSpec.Toml
