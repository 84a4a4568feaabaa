/-!
# Strict UTF-8

Decoding of bytes as UTF-8 with the place and the length of the first fault. Overlong forms,
surrogates and code points above U+10FFFF are faults. The length of a fault is the length of the
longest start of a valid sequence found there; it is open if the bytes end inside what could still
become a valid sequence.
-/

namespace MemberSpec.Text.Utf8

/-- The first fault in a sequence of bytes. -/
structure Fault where
  /-- How many bytes before the fault are valid. -/
  valid : Nat
  /-- How many bytes cannot be decoded; open if the bytes end too early. -/
  length : Option Nat
deriving DecidableEq, Repr

def Fault.message (f : Fault) : String :=
  match f.length with
  | some n => s!"invalid utf-8 sequence of {n} bytes from index {f.valid}"
  | none => s!"incomplete utf-8 byte sequence from index {f.valid}"

/-- What the first bytes of a sequence are. -/
inductive Step where
  /-- A character that takes this many bytes. -/
  | char (c : Char) (length : Nat)
  /-- No character: the length of the fault. -/
  | fault (length : Option Nat)

/-- The six bits that a continuation byte carries. -/
def payload (b : UInt8) : Nat := b.toNat % 64

def isContinuation (b : UInt8) : Bool := 0x80 ≤ b && b ≤ 0xBF

/-- Whether `second` may follow the lead byte of a sequence of three bytes. -/
def secondOfThree (lead second : UInt8) : Bool :=
  if lead == 0xE0 then 0xA0 ≤ second && second ≤ 0xBF
  else if lead == 0xED then 0x80 ≤ second && second ≤ 0x9F
  else isContinuation second

/-- Whether `second` may follow the lead byte of a sequence of four bytes. -/
def secondOfFour (lead second : UInt8) : Bool :=
  if lead == 0xF0 then 0x90 ≤ second && second ≤ 0xBF
  else if lead == 0xF4 then 0x80 ≤ second && second ≤ 0x8F
  else isContinuation second

/-- The sequence that starts with `lead` and goes on with `rest`. -/
def step (lead : UInt8) (rest : List UInt8) : Step :=
  if lead < 0x80 then .char (Char.ofNat lead.toNat) 1
  else if 0xC2 ≤ lead && lead ≤ 0xDF then
    match rest with
    | [] => .fault none
    | b :: _ =>
      if isContinuation b then .char (Char.ofNat (lead.toNat % 32 * 64 + payload b)) 2
      else .fault (some 1)
  else if 0xE0 ≤ lead && lead ≤ 0xEF then
    match rest with
    | [] => .fault none
    | b :: rest =>
      if secondOfThree lead b then
        match rest with
        | [] => .fault none
        | c :: _ =>
          if isContinuation c then
            .char (Char.ofNat ((lead.toNat % 16 * 64 + payload b) * 64 + payload c)) 3
          else .fault (some 2)
      else .fault (some 1)
  else if 0xF0 ≤ lead && lead ≤ 0xF4 then
    match rest with
    | [] => .fault none
    | b :: rest =>
      if secondOfFour lead b then
        match rest with
        | [] => .fault none
        | c :: rest =>
          if isContinuation c then
            match rest with
            | [] => .fault none
            | d :: _ =>
              if isContinuation d then
                .char (Char.ofNat
                  (((lead.toNat % 8 * 64 + payload b) * 64 + payload c) * 64 + payload d)) 4
              else .fault (some 3)
          else .fault (some 2)
      else .fault (some 1)
  else .fault (some 1)

/-- The characters of `bytes`, of which the first `skip` belong to a character already decoded;
`valid` counts the bytes of all characters so far. -/
def decodeFrom (valid skip : Nat) : List UInt8 → Except Fault (List Char)
  | [] => .ok []
  | b :: rest =>
    match skip with
    | skip + 1 => decodeFrom valid skip rest
    | 0 =>
      match step b rest with
      | .char c n => (decodeFrom (valid + n) (n - 1) rest).map (c :: ·)
      | .fault n => .error ⟨valid, n⟩

/-- The characters of a sequence of bytes, or its first fault. -/
def decode (bytes : List UInt8) : Except Fault (List Char) := decodeFrom 0 0 bytes

end MemberSpec.Text.Utf8
