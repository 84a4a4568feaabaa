import MemberSpec.Text.Split

/-!
# Decimal numbers in 64-bit binary

A decimal number is read as the nearest 64-bit binary number, and written with the fewest digits that
read back as the same number. The written form is positional and has no fraction if there is none.

* `Binary64.ofDecimal`: the binary number nearest to a decimal one.
* `Binary64.text`: the shortest decimal number that reads back.
-/

namespace MemberSpec

/-- A 64-bit binary number: `mantissa * 2 ^ exponent` with a sign, an infinity, or no number. -/
inductive Binary64 where
  | finite (negative : Bool) (mantissa : Nat) (exponent : Int)
  | infinite (negative : Bool)
  | notANumber
deriving DecidableEq, Repr

namespace Binary64

/-- A quotient rounded to the nearest whole number, a half to the even one. -/
def roundDiv (num den : Nat) : Nat :=
  let floor := num / den
  let rest := 2 * (num % den)
  if rest < den then floor
  else if den < rest then floor + 1
  else if floor % 2 == 0 then floor else floor + 1

/-- A quotient times a power of two, as a quotient. -/
def scaleByTwo (num den : Nat) (power : Int) : Nat × Nat :=
  if 0 ≤ power then (num * Nat.pow 2 power.toNat, den) else (num, den * Nat.pow 2 (-power).toNat)

/-- A number times a power of ten, as a quotient. -/
def scaleByTen (n : Nat) (power : Int) : Nat × Nat :=
  if 0 ≤ power then (n * Nat.pow 10 power.toNat, 1) else (n, Nat.pow 10 (-power).toNat)

/-- The bits of a mantissa. -/
def precision : Nat := 53

def leastExponent : Int := -1074

def greatestExponent : Int := 971

/-- The exponent for which a quotient has a mantissa of full length, or the least one. -/
def exponentOf (num den : Nat) : Int :=
  let guess : Int := (num.log2 : Int) - den.log2 - precision
  let fits (e : Int) : Bool :=
    let (n, d) := scaleByTwo num den (-e)
    n / d < Nat.pow 2 precision
  let e := if fits guess then guess else if fits (guess + 1) then guess + 1 else guess + 2
  max e leastExponent

/-- The positive binary number nearest to a quotient. -/
def ofRatio (negative : Bool) (num den : Nat) : Binary64 :=
  if num == 0 then finite negative 0 leastExponent
  else
    let e := exponentOf num den
    let (n, d) := scaleByTwo num den (-e)
    let m := roundDiv n d
    let (m, e) := if m == Nat.pow 2 precision then (Nat.pow 2 (precision - 1), e + 1) else (m, e)
    if greatestExponent < e then infinite negative else finite negative m e

/-- Powers of ten beyond which every number with few digits is infinite or zero. -/
def decimalLimit : Int := 400

/-- The binary number nearest to `digits * 10 ^ power`. -/
def ofDecimal (negative : Bool) (digits : Nat) (power : Int) : Binary64 :=
  let size := (Nat.toDigits 10 digits).length
  if digits == 0 || power + size < -decimalLimit then finite negative 0 leastExponent
  else if decimalLimit < power + size then infinite negative
  else
    let (num, den) := scaleByTen digits power
    ofRatio negative num den

/-- The least power of ten above a quotient, from a power on and at most `fuel` steps away. -/
def powerAbove (num den : Nat) : Nat → Int → Int
  | 0, power => power
  | fuel + 1, power =>
    let (n, d) := scaleByTen den power
    if num * d < n then power else powerAbove num den fuel (power + 1)

/-- The digits and the power of ten of the shortest decimal that reads back as the quotient's nearest
binary number, with `count` digits or more. -/
def shortestFrom (num den : Nat) (above : Int) : Nat → Nat → Nat × Int
  | 0, count => (0, above - count)
  | fuel + 1, count =>
    let power := above - count
    let (n, d) := scaleByTen den power
    let low := num * d / n
    let reads (a : Nat) : Bool := ofDecimal false a power == ofRatio false num den
    let nearest := roundDiv (num * d) n
    if reads nearest then (nearest, power)
    else if reads low then (low, power)
    else if reads (low + 1) then (low + 1, power)
    else shortestFrom num den above fuel (count + 1)

/-- The shortest digits of a positive number, and their power of ten. -/
def shortest (mantissa : Nat) (exponent : Int) : Nat × Int :=
  let (num, den) := scaleByTwo mantissa 1 exponent
  shortestFrom num den (powerAbove num den 700 (-330)) 17 1

/-- The same number without zeros at the end of the digits, at most `fuel` of them. -/
def dropZeros : Nat → Nat → Int → Nat × Int
  | 0, digits, power => (digits, power)
  | fuel + 1, digits, power =>
    if digits != 0 && digits % 10 == 0 then dropZeros fuel (digits / 10) (power + 1)
    else (digits, power)

/-- Digits times a power of ten, written without an exponent. -/
def positional (digits : Nat) (power : Int) : List Char :=
  let ds := Text.ofNat digits
  if 0 ≤ power then ds ++ List.replicate power.toNat '0'
  else
    let places := (-power).toNat
    if places < ds.length then ds.take (ds.length - places) ++ ['.'] ++ ds.drop (ds.length - places)
    else ['0', '.'] ++ List.replicate (places - ds.length) '0' ++ ds

/-- The shortest decimal that reads back as a number. -/
def text : Binary64 → String
  | notANumber => "NaN"
  | infinite negative => if negative then "-inf" else "inf"
  | finite negative mantissa exponent =>
    let sign := if negative then "-" else ""
    if mantissa == 0 then sign ++ "0"
    else
      let (digits, power) := shortest mantissa exponent
      let (digits, power) := dropZeros 17 digits power
      sign ++ String.ofList (positional digits power)

end Binary64

end MemberSpec
