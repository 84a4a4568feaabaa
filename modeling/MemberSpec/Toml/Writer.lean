import MemberSpec.Toml.Value

/-!
# Writing TOML

A table is written with its plain entries first and then a section for each table in it, behind an
empty line. An array of two or more items has each item on a line, indented by four spaces and with a
comma behind it. A string stands between double quotes if nothing in it needs an escape, else between
single quotes if it can, else on several lines if that needs no escape, else with escapes.

* `render?`: the text of a table.
-/

namespace MemberSpec.Toml

open Text

/-- What decides the form of a string. -/
structure Traits where
  hasControl : Bool
  hasBackslash : Bool
  hasLineFeed : Bool
  doubleQuotes : Nat
  singleQuotes : Nat

/-- A control character other than tab and line feed. -/
def isControl (c : Char) : Bool := (c.toNat < 0x20 && c != '\t' && c != '\n') || c.toNat == 0x7F

/-- The length of the longest run of a character, where `run` of them precede the text. -/
def longestRun (c : Char) (run : Nat) : List Char → Nat
  | [] => run
  | d :: rest => if d == c then longestRun c (run + 1) rest else max run (longestRun c 0 rest)

def traitsOf (cs : List Char) : Traits where
  hasControl := cs.any isControl
  hasBackslash := cs.contains '\\'
  hasLineFeed := cs.contains '\n'
  doubleQuotes := longestRun '"' 0 cs
  singleQuotes := longestRun '\'' 0 cs

/-- A code point as an escape with four digits. -/
def numericEscape (c : Char) : List Char :=
  let digits := (Nat.toDigits 16 c.toNat).map Char.toUpper
  ['\\', 'u'] ++ List.replicate (4 - digits.length) '0' ++ digits

/-- A character between double quotes; on several lines a line feed stands for itself. -/
def escaped (onLines : Bool) (c : Char) : List Char :=
  if c == '\x08' then ['\\', 'b']
  else if c == '\t' then ['\\', 't']
  else if c == '\n' then (if onLines then ['\n'] else ['\\', 'n'])
  else if c == '\x0c' then ['\\', 'f']
  else if c == '\r' then ['\\', 'r']
  else if c == '\\' then ['\\', '\\']
  else if isControl c then numericEscape c
  else [c]

/-- Text between double quotes. The first `allowed` quotes of a run stand for themselves, and an
escape ends a run. -/
def escapeAll (onLines : Bool) (allowed run : Nat) : List Char → List Char
  | [] => []
  | c :: rest =>
    if c == '"' then
      if run < allowed then c :: escapeAll onLines allowed (run + 1) rest
      else ['\\', '"'] ++ escapeAll onLines allowed 0 rest
    else escaped onLines c ++ escapeAll onLines allowed 0 rest

def basicText (cs : List Char) : List Char := ['"'] ++ escapeAll false 0 0 cs ++ ['"']

def linesText (cs : List Char) : List Char :=
  ['"', '"', '"', '\n'] ++ escapeAll true 2 0 cs ++ ['"', '"', '"']

def literalText (cs : List Char) : List Char := ['\''] ++ cs ++ ['\'']

def literalLinesText (cs : List Char) : List Char :=
  ['\'', '\'', '\'', '\n'] ++ cs ++ ['\'', '\'', '\'']

/-- The text of a string. -/
def stringText (s : String) : String :=
  let cs := s.toList
  let t := traitsOf cs
  String.ofList <|
    if !t.hasControl && !t.hasBackslash && !t.hasLineFeed && t.doubleQuotes == 0 then basicText cs
    else if !t.hasControl && !t.hasLineFeed && t.singleQuotes == 0 then literalText cs
    else if !t.hasControl && !t.hasBackslash && t.doubleQuotes ≤ 2 then linesText cs
    else if !t.hasControl && t.singleQuotes ≤ 2 then literalLinesText cs
    else if t.hasLineFeed then linesText cs
    else basicText cs

/-- The greatest number that can be written. -/
def greatest : Int := 0x7FFFFFFFFFFFFFFF

mutual

/-- The text of a value that is not a section: none for a number that is too great. -/
def valueText? : Value → Option String
  | .string s => some (stringText s)
  | .integer n => if n ≤ greatest then some (toString n) else none
  | .float x => some x.text
  | .boolean b => some (if b then "true" else "false")
  | .datetime written => some written
  | .array items => (itemTexts? items).map arrayText
  | .table _ => none

def itemTexts? : List Value → Option (List String)
  | [] => some []
  | v :: rest => do
    let first ← valueText? v
    let others ← itemTexts? rest
    return first :: others

/-- An array by the texts of its items. -/
def arrayText (items : List String) : String :=
  match items with
  | [] => "[]"
  | [item] => "[" ++ item ++ "]"
  | _ => "[\n" ++ String.join (items.map fun item => "    " ++ item ++ ",\n") ++ "]"

end

/-- The plain entries of a table, a line each. -/
def plainText? : Table → Option String
  | [] => some ""
  | (key, v) :: rest =>
    match v with
    | .table _ => plainText? rest
    | _ => do
      let first ← valueText? v
      let others ← plainText? rest
      return key ++ " = " ++ first ++ "\n" ++ others

/-- The sections of a table. -/
def sectionsText? : Table → Option String
  | [] => some ""
  | (key, v) :: rest =>
    match v with
    | .table entries => do
      let first ← plainText? entries
      let others ← sectionsText? rest
      return "\n[" ++ key ++ "]\n" ++ first ++ others
    | _ => sectionsText? rest

/-- The text of a table of plain entries and sections of them. -/
def render? (t : Table) : Option String := do
  let plain ← plainText? t
  let sections ← sectionsText? t
  return plain ++ sections

end MemberSpec.Toml
