import MemberSpec.Toml.Value

/-!
# TOML scalars

Numbers, booleans, dates and times stand without quotes and end where no character of theirs can
follow. Each is recognised by its whole text.

* `scalar?`: the value that a text stands for.
-/

namespace MemberSpec.Toml

open Text

def isDigit (c : Char) : Bool := '0' ≤ c && c ≤ '9'

def isHexDigit (c : Char) : Bool :=
  isDigit c || ('a' ≤ c && c ≤ 'f') || ('A' ≤ c && c ≤ 'F')

def isOctalDigit (c : Char) : Bool := '0' ≤ c && c ≤ '7'

def isBinaryDigit (c : Char) : Bool := c == '0' || c == '1'

/-- The value of a digit in any base up to sixteen. -/
def digitValue (c : Char) : Nat :=
  if isDigit c then c.toNat - '0'.toNat
  else if 'a' ≤ c then c.toNat - 'a'.toNat + 10
  else c.toNat - 'A'.toNat + 10

def numberOf (base : Nat) (digits : List Char) : Nat :=
  digits.foldl (fun n c => n * base + digitValue c) 0

/-- The digits of a text in which single underscores can stand between two digits. -/
def ungroup? (p : Char → Bool) (cs : List Char) : Option (List Char) :=
  let groups := splitAt (· == '_') cs
  if groups.all fun g => !g.isEmpty && g.all p then some groups.flatten else none

/-- A sign, if there is one, and the rest. -/
def splitSign : List Char → Bool × List Char
  | '-' :: rest => (true, rest)
  | '+' :: rest => (false, rest)
  | cs => (false, cs)

/-- The digits of a whole number: more than one digit do not start with a zero. -/
def wholeDigits? (cs : List Char) : Option (List Char) := do
  let digits ← ungroup? isDigit cs
  guard (digits.length == 1 || digits.head? != some '0')
  return digits

/-- A whole number that fits into 64 bits with a sign. -/
def inRange? (n : Int) : Option Int :=
  if -0x8000000000000000 ≤ n && n < 0x8000000000000000 then some n else none

def integer? (cs : List Char) : Option Int :=
  match cs with
  | '0' :: 'x' :: rest => (ungroup? isHexDigit rest).bind fun ds => inRange? (numberOf 16 ds)
  | '0' :: 'o' :: rest => (ungroup? isOctalDigit rest).bind fun ds => inRange? (numberOf 8 ds)
  | '0' :: 'b' :: rest => (ungroup? isBinaryDigit rest).bind fun ds => inRange? (numberOf 2 ds)
  | _ =>
    let (negative, rest) := splitSign cs
    (wholeDigits? rest).bind fun ds =>
      let n : Int := numberOf 10 ds
      inRange? (if negative then -n else n)

def isExponentMark (c : Char) : Bool := c == 'e' || c == 'E'

/-- The power of ten that an exponent stands for; zero if there is none. -/
def exponent? : List Char → Option Int
  | [] => some 0
  | _ :: rest =>
    let (negative, digits) := splitSign rest
    (ungroup? isDigit digits).map fun ds =>
      let n : Int := numberOf 10 ds
      if negative then -n else n

/-- A number with a fraction or an exponent, or one of the special numbers. -/
def float? (cs : List Char) : Option Binary64 :=
  let (negative, rest) := splitSign cs
  if rest == ['i', 'n', 'f'] then some (.infinite negative)
  else if rest == ['n', 'a', 'n'] then some .notANumber
  else do
    let base := rest.takeWhile (!isExponentMark ·)
    let mark := rest.dropWhile (!isExponentMark ·)
    let whole := base.takeWhile (· != '.')
    let fraction := base.dropWhile (· != '.')
    guard (!mark.isEmpty || !fraction.isEmpty)
    let wholeDigits ← wholeDigits? whole
    let fractionDigits ← if fraction.isEmpty then some [] else ungroup? isDigit (fraction.drop 1)
    let power ← exponent? mark
    match Binary64.ofDecimal negative (numberOf 10 (wholeDigits ++ fractionDigits))
        (power - fractionDigits.length) with
    | .infinite _ => none
    | x => some x

/-! ### Dates and times -/

/-- A number of exactly as many digits, within bounds, and the rest. -/
def field? (size low high : Nat) (cs : List Char) : Option (Nat × List Char) :=
  let digits := cs.take size
  let n := numberOf 10 digits
  if digits.length == size && digits.all isDigit && low ≤ n && n ≤ high then some (n, cs.drop size)
  else none

/-- What follows a given character. -/
def behind? (c : Char) : List Char → Option (List Char)
  | d :: rest => if c == d then some rest else none
  | [] => none

def isLeapYear (year : Nat) : Bool := year % 4 == 0 && (year % 100 != 0 || year % 400 == 0)

def daysIn (year month : Nat) : Nat :=
  if month == 2 then (if isLeapYear year then 29 else 28)
  else if [4, 6, 9, 11].contains month then 30 else 31

/-- The rest behind a date. -/
def dateRest? (cs : List Char) : Option (List Char) := do
  let (year, cs) ← field? 4 0 9999 cs
  let (month, cs) ← field? 2 1 12 (← behind? '-' cs)
  let (_, cs) ← field? 2 1 (daysIn year month) (← behind? '-' cs)
  return cs

/-- The rest behind a time of the day, with any number of digits for parts of seconds. -/
def timeRest? (cs : List Char) : Option (List Char) := do
  let (_, cs) ← field? 2 0 23 cs
  let (_, cs) ← field? 2 0 59 (← behind? ':' cs)
  let (_, cs) ← field? 2 0 60 (← behind? ':' cs)
  match cs with
  | '.' :: rest =>
    guard (rest.head?.any isDigit)
    return rest.dropWhile isDigit
  | _ => return cs

/-- Whether a text is a distance from universal time. -/
def isOffset (cs : List Char) : Bool :=
  match cs with
  | ['Z'] | ['z'] => true
  | c :: rest =>
    (c == '+' || c == '-') && ((do
      let (_, cs) ← field? 2 0 23 rest
      let (_, cs) ← field? 2 0 59 (← behind? ':' cs)
      return cs.isEmpty : Option Bool) == some true)
  | [] => false

/-- Whether a text is a date, a time, or both. -/
def isDatetime (cs : List Char) : Bool :=
  match dateRest? cs with
  | some [] => true
  | some (c :: rest) =>
    (c == 'T' || c == 't' || c == ' ') && (match timeRest? rest with
      | some behind => behind.isEmpty || isOffset behind
      | none => false)
  | none => timeRest? cs == some []

/-- The value that the text of a scalar stands for. -/
def scalar? (cs : List Char) : Option Value :=
  if cs == ['t', 'r', 'u', 'e'] then some (.boolean true)
  else if cs == ['f', 'a', 'l', 's', 'e'] then some (.boolean false)
  else match integer? cs with
    | some n => some (.integer n)
    | none =>
      match float? cs with
      | some x => some (.float x)
      | none => if isDatetime cs then some (.datetime (String.ofList cs)) else none

end MemberSpec.Toml
