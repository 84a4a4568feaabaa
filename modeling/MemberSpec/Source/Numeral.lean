/-!
# Number literals

The forms of number literals, each as the ways in which it can start a text. The literal at the start
of a text is the longest one of any form.
-/

namespace MemberSpec.Source.Numeral

/-- A form of text: what can be left of a text behind it, one entry for every way it can start the
text. -/
abbrev Form := List Char → List (List Char)

/-- One character of a class. -/
def one (p : Char → Bool) : Form
  | c :: rest => if p c then [rest] else []
  | [] => []

/-- One of the given characters. -/
def anyOf (cs : List Char) : Form := one cs.contains

/-- One form behind another. -/
def andThen (f g : Form) : Form := fun cs => (f cs).flatMap g

/-- Forms in a row. -/
def row : List Form → Form
  | [] => fun cs => [cs]
  | f :: fs => andThen f (row fs)

/-- A text of any of the forms. -/
def either (fs : List Form) : Form := fun cs => fs.flatMap fun f => f cs

def optional (f : Form) : Form := fun cs => f cs ++ [cs]

/-- Characters of a class with underscores between them; `repeats` says whether several underscores
can stand together, and `gap` whether one can stand at the start. -/
def digitsFrom (p : Char → Bool) (repeats : Bool) (gap : Bool) : Form
  | [] => []
  | c :: rest =>
    if p c then rest :: digitsFrom p repeats true rest
    else if c == '_' && gap then digitsFrom p repeats repeats rest
    else []

/-- Characters of a class with single underscores between them. -/
def grouped (p : Char → Bool) : Form := digitsFrom p false false

def isDigit (c : Char) : Bool := '0' ≤ c && c ≤ '9'

def isHex (c : Char) : Bool := isDigit c || ('a' ≤ c && c ≤ 'f') || ('A' ≤ c && c ≤ 'F')

def isOctal (c : Char) : Bool := '0' ≤ c && c ≤ '7'

def isBinary (c : Char) : Bool := c == '0' || c == '1'

/-- Digits with any number of underscores between them. -/
def spaced : Form := digitsFrom isDigit true false

/-- A whole number without a leading zero. Only one underscore can follow the first digit. -/
def whole : Form :=
  either [one (· == '0'),
    andThen (one fun c => '1' ≤ c && c ≤ '9')
      (optional (andThen (optional (one (· == '_'))) spaced))]

def longMark : Form := optional (anyOf ['l', 'L'])

def floatMark : Form := anyOf ['f', 'F', 'd', 'D']

def sign : Form := optional (anyOf ['-', '+'])

def exponent : Form := row [anyOf ['e', 'E'], sign, grouped isDigit]

def zeroThen (marks : List Char) : Form := andThen (one (· == '0')) (anyOf marks)

def hexMark : Form := zeroThen ['x', 'X']

/-- The forms of integers: decimal, hexadecimal, octal and binary. -/
def integers : List Form :=
  [row [whole, longMark],
   row [hexMark, grouped isHex, longMark],
   row [either [zeroThen ['o', 'O'], one (· == '0')], grouped isOctal, longMark],
   row [zeroThen ['b', 'B'], grouped isBinary, longMark]]

/-- The forms of decimal and hexadecimal fractions. -/
def fractions : List Form :=
  [row [grouped isDigit, one (· == '.'), optional (grouped isDigit), optional exponent,
     optional floatMark],
   row [one (· == '.'), grouped isDigit, optional exponent, optional floatMark],
   row [whole, exponent, optional floatMark],
   row [whole, optional exponent, floatMark],
   row [hexMark,
     either [row [grouped isHex, optional (one (· == '.'))],
       row [optional (grouped isHex), one (· == '.'), grouped isHex]],
     optional (row [anyOf ['p', 'P'], sign, whole, optional floatMark])]]

/-- The number of characters of the longest literal at the start of a text; zero if there is none. -/
def length (cs : List Char) : Nat :=
  (either (integers ++ fractions) cs).foldl (fun n rest => max n (cs.length - rest.length)) 0

end MemberSpec.Source.Numeral
