import MemberSpec.Settings.Layer
import MemberSpec.Text.Blank
import MemberSpec.Toml.Quoting

/-!
# Settings from the environment

A variable whose name starts with the prefix, in any case, sets the key that the rest of its name
stands for: in lower case, with two underscores or a dot between section and key. Its value is read as
a boolean, a number, a list in brackets, a table in braces or a quoted string; a value that is none of
these as a whole is a string as it stands.

* `Environment.valueOf`: the value of a variable.
* `Environment.layer`: the layer of all variables.
-/

namespace MemberSpec.Settings.Environment

open Text

/-- A variable: name and value. -/
abbrev Variable := String × String

def namePrefix : String := "DOCSPEC_"

/-! ### Values -/

def isWhite (c : Char) : Bool := c == ' ' || c == '\t' || c == '\n' || c == '\x0c' || c == '\r'

def skipWhite (cs : List Char) : List Char := cs.dropWhile isWhite

def isDivider (c : Char) : Bool :=
  c == ',' || c == '\x7b' || c == '\x7d' || c == '[' || c == ']'

def scalar (s : Scalar) : Layered := .scalar .environment s

/-- The digits of a number in a row. -/
def digits? (cs : List Char) : Option Nat :=
  if !cs.isEmpty && cs.all Toml.isDigit then some (Toml.numberOf 10 cs) else none

/-- A whole number that fits into 64 bits: without a sign if it can be. -/
def whole? (cs : List Char) : Option Scalar :=
  match cs with
  | '-' :: rest =>
    (digits? rest).bind fun n =>
      if n ≤ 0x8000000000000000 then some (.signed (-(n : Int))) else none
  | _ =>
    let unsigned := match cs with
      | '+' :: rest => rest
      | _ => cs
    (digits? unsigned).bind fun n => if n < 0x10000000000000000 then some (.unsigned n) else none

/-- A number with a point, with digits on at least one side of it. -/
def fraction? (cs : List Char) : Option Scalar := do
  let (negative, rest) := Toml.splitSign cs
  let base := rest.takeWhile (!Toml.isExponentMark ·)
  let mark := rest.dropWhile (!Toml.isExponentMark ·)
  let before := base.takeWhile (· != '.')
  let behind := (base.dropWhile (· != '.')).drop 1
  guard (base.contains '.' && !(before ++ behind).isEmpty && (before ++ behind).all Toml.isDigit)
  guard (!mark.contains '_')
  let power ← Toml.exponent? mark
  return .float (Binary64.ofDecimal negative (Toml.numberOf 10 (before ++ behind))
    (power - behind.length))

/-- A value that stands without brackets and quotes. -/
def plain (cs : List Char) : Scalar :=
  match fraction? cs with
  | some x => x
  | none => (whole? cs).getD (.text (String.ofList cs))

/-- A string behind its opening quote. -/
def string? (cs : List Char) : Option (String × List Char) :=
  (content cs.length cs).map fun (text, rest) => (String.ofList text, rest)
where
  /-- The characters up to the closing quote, and the rest. -/
  content : Nat → List Char → Option (List Char × List Char)
    | 0, _ => none
    | _ + 1, [] => none
    | fuel + 1, c :: rest =>
      if c == '"' then some ([], rest)
      else if c == '\\' then (Toml.escape? rest).bind fun (e, more) => Toml.push e (content fuel more)
      else Toml.push c (content fuel rest)

def isKey (c : Char) : Bool := Toml.isDigit c || c.isAlpha || c == '_' || c == '-'

/-- A key in a table, with blanks around it. -/
def key? (cs : List Char) : Option (String × List Char) := do
  let (key, rest) ← match skipWhite cs with
    | '"' :: rest => string? rest
    | start =>
      let word := start.takeWhile isKey
      if word.isEmpty then none else some (String.ofList word, start.drop word.length)
  return (key, skipWhite rest)

mutual

/-- A value with blanks around it. -/
def value? : Nat → List Char → Option (Layered × List Char)
  | 0, _ => none
  | fuel + 1, cs => do
    let start := skipWhite cs
    let (v, rest) ← match start with
      | 't' :: 'r' :: 'u' :: 'e' :: rest => some (scalar (.boolean true), rest)
      | 'f' :: 'a' :: 'l' :: 's' :: 'e' :: rest => some (scalar (.boolean false), rest)
      | '\x7b' :: rest =>
        (pairs? fuel rest).map fun (entries, more) => (.table .environment entries, more)
      | '[' :: rest => (items? fuel rest).map fun (vs, more) => (.sequence .environment vs, more)
      | '"' :: rest => (string? rest).map fun (s, more) => (scalar (.text s), more)
      | '\'' :: c :: '\'' :: rest => some (scalar (.text (String.ofList [c])), rest)
      | '\'' :: _ => none
      | _ =>
        let word := start.takeWhile (!isDivider ·)
        some (scalar (plain (trim word)), start.drop word.length)
    return (v, skipWhite rest)

/-- The items up to a closing bracket. -/
def items? : Nat → List Char → Option (List Layered × List Char)
  | 0, _ => none
  | fuel + 1, cs =>
    match cs with
    | ']' :: rest => some ([], rest)
    | _ => do
      let (v, rest) ← value? fuel cs
      match rest with
      | ',' :: more =>
        let (vs, rest) ← items? fuel more
        return (v :: vs, rest)
      | ']' :: more => return ([v], more)
      | _ => none

/-- The entries up to a closing brace; of entries with one key the last counts. -/
def pairs? : Nat → List Char → Option (Entries × List Char)
  | 0, _ => none
  | fuel + 1, cs =>
    match cs with
    | '\x7d' :: rest => some ([], rest)
    | _ => do
      let (key, rest) ← key? cs
      let (v, rest) ← value? fuel (← Toml.behind? '=' rest)
      match rest with
      | ',' :: more =>
        let (others, rest) ← pairs? fuel more
        return (if (others.lookup key).isSome then others else (key, v) :: others, rest)
      | '\x7d' :: more => return ([(key, v)], more)
      | _ => none

end

/-- The value of a variable. -/
def valueOf (s : String) : Layered :=
  match value? (2 * s.length + 2) s.toList with
  | some (v, []) => v
  | _ => scalar (.text s)

/-! ### Keys -/

/-- Two underscores turned into a dot, from left to right. -/
def dotted : List Char → List Char
  | '_' :: '_' :: rest => '.' :: dotted rest
  | c :: rest => c :: dotted rest
  | [] => []

/-- A character of a name in lower case. Of the characters that are no letters of the alphabet, only the
Kelvin sign has one as its lower case, and keys have no other letters. -/
def lower (c : Char) : Char := if c == Char.ofNat 0x212A then 'k' else c.toLower

/-- The keys that the name of a variable stands for: none for a variable that sets nothing. -/
def keysOf? (name : String) : Option (List String) :=
  let lead := namePrefix.toList
  let cs := name.toList
  if (cs.take lead.length).map Char.toUpper == lead then
    let rest := dotted ((cs.drop lead.length).map lower)
    if rest.isEmpty then none else some ((splitAt (· == '.') rest).map String.ofList)
  else none

/-- A value below keys. An empty key ends the row. -/
def nest (v : Layered) : List String → Layered
  | [] => v
  | key :: rest => if key.isEmpty then v else .table .environment [(key, nest v rest)]

/-- The entries that a variable sets. -/
def entriesOf (v : Variable) : Entries :=
  match keysOf? v.1 with
  | none => []
  | some keys =>
    match nest (valueOf v.2) keys with
    | .table _ entries => entries
    | _ => []

/-- The layer of the variables, later ones on top. -/
def layer (vs : List Variable) : Entries :=
  vs.foldl (fun entries v => Layered.mergeEntries entries (entriesOf v)) []

end MemberSpec.Settings.Environment
