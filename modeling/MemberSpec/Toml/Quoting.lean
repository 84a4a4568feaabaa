import MemberSpec.Toml.Scalar

/-!
# TOML strings

The four forms of strings: between double quotes, where a backslash starts an escape, and between
single quotes, where it does not; each on one line or, between three quotes, on several. A line break
right behind three opening quotes does not count, and a carriage return before a line feed is dropped.

* `string?`: the string at the start of a text.
-/

namespace MemberSpec.Toml

/-- The characters that can stand in a string as they are. -/
def isPlain (c : Char) : Bool := c == '\t' || (0x20 ≤ c.toNat && c.toNat != 0x7F)

/-- The character with a code point in hexadecimal digits. -/
def codePoint? (digits : List Char) : Option Char :=
  let n := numberOf 16 digits
  if digits.all isHexDigit && n.isValidChar then some (Char.ofNat n) else none

/-- The character that an escape stands for, from behind the backslash. -/
def escape? : List Char → Option (Char × List Char)
  | 'b' :: rest => some ('\x08', rest)
  | 't' :: rest => some ('\t', rest)
  | 'n' :: rest => some ('\n', rest)
  | 'f' :: rest => some ('\x0c', rest)
  | 'r' :: rest => some ('\r', rest)
  | '"' :: rest => some ('"', rest)
  | '\\' :: rest => some ('\\', rest)
  | 'u' :: rest => numeric 4 rest
  | 'U' :: rest => numeric 8 rest
  | _ => none
where
  /-- An escape with a fixed number of digits. -/
  numeric (size : Nat) (rest : List Char) : Option (Char × List Char) :=
    if rest.length < size then none
    else (codePoint? (rest.take size)).map fun c => (c, rest.drop size)

def push (c : Char) (r : Option (List Char × List Char)) : Option (List Char × List Char) :=
  r.map fun (cs, rest) => (c :: cs, rest)

/-- A line break and the rest. -/
def lineBreak? : List Char → Option (List Char)
  | '\n' :: rest => some rest
  | '\r' :: '\n' :: rest => some rest
  | _ => none

/-- What follows a backslash at the end of a line: the rest behind all blanks and line breaks. -/
def continued? (cs : List Char) : Option (List Char) :=
  (lineBreak? (cs.dropWhile fun c => c == ' ' || c == '\t')).map skip
where
  /-- The rest behind blanks and line breaks. -/
  skip : List Char → List Char
    | '\r' :: '\n' :: rest => skip rest
    | c :: rest => if c == ' ' || c == '\t' || c == '\n' then skip rest else c :: rest
    | [] => []

/-- The content of a string between double quotes on one line. -/
def basic : Nat → List Char → Option (List Char × List Char)
  | 0, _ => none
  | _ + 1, [] => none
  | fuel + 1, c :: rest =>
    if c == '"' then some ([], rest)
    else if c == '\\' then (escape? rest).bind fun (e, more) => push e (basic fuel more)
    else if isPlain c then push c (basic fuel rest)
    else none

/-- The content of a string between single quotes on one line. -/
def literal : List Char → Option (List Char × List Char)
  | [] => none
  | c :: rest =>
    if c == '\'' then some ([], rest) else if isPlain c then push c (literal rest) else none

/-- The end of a string on several lines: up to two quotes of the content and the three that close. -/
def closing? (quote : Char) (cs : List Char) : Option (List Char × List Char) :=
  let quotes := (cs.takeWhile (· == quote)).length
  if 3 ≤ quotes then
    let kept := min (quotes - 3) 2
    some (List.replicate kept quote, cs.drop (kept + 3))
  else none

/-- The content of a string on several lines. -/
def block (quote : Char) : Nat → List Char → Option (List Char × List Char)
  | 0, _ => none
  | _ + 1, [] => none
  | fuel + 1, c :: rest =>
    if c == quote then
      (closing? quote (c :: rest)).orElse fun _ => push c (block quote fuel rest)
    else
      match lineBreak? (c :: rest) with
      | some more => push '\n' (block quote fuel more)
      | none =>
        if c == '\\' && quote == '"' then
          match continued? rest with
          | some more => block quote fuel more
          | none => (escape? rest).bind fun (e, more) => push e (block quote fuel more)
        else if isPlain c then push c (block quote fuel rest)
        else none

/-- The content behind three opening quotes. -/
def blockFrom (quote : Char) (cs : List Char) : Option (List Char × List Char) :=
  block quote (cs.length + 1) ((lineBreak? cs).getD cs)

/-- The string at the start of a text. -/
def string? (cs : List Char) : Option (String × List Char) :=
  let content := match cs with
    | '"' :: '"' :: '"' :: rest => blockFrom '"' rest
    | '\'' :: '\'' :: '\'' :: rest => blockFrom '\'' rest
    | '"' :: rest => basic (rest.length + 1) rest
    | '\'' :: rest => literal rest
    | _ => none
  content.map fun (text, rest) => (String.ofList text, rest)

end MemberSpec.Toml
