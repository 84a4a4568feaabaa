import MemberSpec.Text.Split

/-!
# JSON texts

JSON values with the members of objects in order, and their text with one item a line, indented by two
spaces. In strings only quotes, backslashes and control characters are escaped.
-/

namespace MemberSpec

open Text

/-- A JSON value. -/
inductive JsonValue where
  | string (s : String)
  | number (n : Nat)
  | array (items : List JsonValue)
  | object (members : List (String × JsonValue))

namespace JsonValue

def hexDigitOf (n : Nat) : Char := (Nat.digitChar n)

def escapeChar (c : Char) : List Char :=
  if c == '"' then ['\\', '"']
  else if c == '\\' then ['\\', '\\']
  else if c == '\n' then ['\\', 'n']
  else if c == '\r' then ['\\', 'r']
  else if c == '\t' then ['\\', 't']
  else if c == '\x08' then ['\\', 'b']
  else if c == '\x0c' then ['\\', 'f']
  else if c.toNat < 0x20 then
    ['\\', 'u', '0', '0', hexDigitOf (c.toNat / 16), hexDigitOf (c.toNat % 16)]
  else [c]

/-- A text between quotes. -/
def quote (s : String) : String := "\"" ++ String.ofList (s.toList.flatMap escapeChar) ++ "\""

/-- A line break and the indentation of a level. -/
def lineBreak (level : Nat) : String := "\n" ++ String.ofList (List.replicate (2 * level) ' ')

/-- Items between brackets, each on a line. -/
def bracketed (left right : String) (level : Nat) (items : List String) : String :=
  if items.isEmpty then left ++ right
  else left ++ String.intercalate "," (items.map fun item => lineBreak (level + 1) ++ item)
    ++ lineBreak level ++ right

mutual

/-- The text of a value at an indentation level. -/
def prettyAt (level : Nat) : JsonValue → String
  | string s => quote s
  | number n => String.ofList (ofNat n)
  | array items => bracketed "[" "]" level (prettyItems (level + 1) items)
  | object members => bracketed "\x7b" "\x7d" level (prettyMembers (level + 1) members)

def prettyItems (level : Nat) : List JsonValue → List String
  | [] => []
  | item :: rest => item.prettyAt level :: prettyItems level rest

def prettyMembers (level : Nat) : List (String × JsonValue) → List String
  | [] => []
  | (key, value) :: rest =>
    (quote key ++ ": " ++ value.prettyAt level) :: prettyMembers level rest

end

/-- The text of a value. -/
def pretty (v : JsonValue) : String := v.prettyAt 0

def strings (ss : List String) : JsonValue := array (ss.map string)

end JsonValue

end MemberSpec
