import MemberSpec.Source.Numeral
import MemberSpec.Source.Token
import MemberSpec.Text.Identifier

/-!
# Cutting a source text into lexemes

Every lexeme is the longest one that can stand at its place, except that `>` always stands alone, so
that it can close type arguments; the operators that start with it are rows of adjacent symbols. So are
`@interface` and `non-sealed`, which mean something else in other places. A character that can start no
lexeme is a stray.

A text literal can hold expressions in braces. What is inside the braces is cut into lexemes like
anything else; `Frames` says how many braces are open in each of the texts around a place.

* `Lexer.lexemes`: the lexemes of a source text.
-/

namespace MemberSpec.Source.Lexer

open Text

def isSpace (c : Char) : Bool :=
  c == ' ' || c == '\t' || c == '\n' || c == '\r' || c == '\x0c' || c == '\x0b'

def byteOrderMark : Char := Char.ofNat 0xFEFF

def nul : Char := Char.ofNat 0

/-- An open expression in a text literal: the braces open in it, and whether the literal is a block
between three quotes. -/
structure Frame where
  depth : Nat
  isBlock : Bool
deriving DecidableEq, Repr

/-- The open expressions around a place, the innermost first. -/
abbrev Frames := List Frame

/-- The number of characters up to the end of a block comment, from behind its opening. -/
def commentLength? : List Char → Option Nat
  | '*' :: '/' :: _ => some 2
  | c :: rest => if c == nul then none else (commentLength? rest).map (· + 1)
  | [] => none

/-- The number of characters up to the end of a character literal, from behind its opening quote. -/
def characterLength? : List Char → Option Nat
  | '\'' :: _ => some 1
  | '\\' :: _ :: rest => (characterLength? rest).map (· + 2)
  | c :: rest =>
    if c == '\n' || c == '\\' || c == nul then none else (characterLength? rest).map (· + 1)
  | [] => none

/-- How a part of a text literal ends: with the literal, or where an expression starts. -/
inductive TextEnd where
  | closed | embedded
deriving DecidableEq, Repr

/-- Whether what follows a backslash is an escape. -/
def isEscape : List Char → Bool
  | 'x' :: a :: b :: _ => Numeral.isHex a && Numeral.isHex b
  | 'u' :: '{' :: rest =>
    let digits := rest.takeWhile Numeral.isHex
    !digits.isEmpty && (rest.drop digits.length).head? == some '}'
  | 'u' :: a :: b :: c :: d :: _ => [a, b, c, d].all Numeral.isHex
  | c :: _ => c != 'x' && c != 'u'
  | [] => false

/-- The number of characters up to the end of a part of a text literal, from behind its start. In a
block every character can follow a backslash. -/
def textLength? (isBlock : Bool) : List Char → Option (Nat × TextEnd)
  | '\\' :: '{' :: _ => some (2, .embedded)
  | '\\' :: c :: rest =>
    if isBlock || isEscape (c :: rest) then
      (textLength? isBlock rest).map fun (n, stop) => (n + 2, stop)
    else none
  | '"' :: rest =>
    if !isBlock then some (1, .closed)
    else if rest.take 2 == ['"', '"'] then some (3, .closed)
    else (textLength? isBlock rest).map fun (n, stop) => (n + 1, stop)
  | c :: rest =>
    if c == '\\' || c == nul then none
    else (textLength? isBlock rest).map fun (n, stop) => (n + 1, stop)
  | [] => none

/-- The symbols, the longer ones first. -/
def symbols : List String :=
  ["...", "<<=", "->", "::", "++", "--", "&&", "||", "==", "!=", "<=",
   "+=", "-=", "*=", "/=", "&=", "|=", "^=", "%=", "<<",
   "(", ")", "\x7b", "\x7d", "[", "]", ";", ",", ".", "@", "=", ">", "<", "!", "~", "?", ":",
   "+", "-", "*", "/", "&", "|", "^", "%"]

/-- The symbol at the start of a text. -/
def symbolAt? (cs : List Char) : Option String :=
  symbols.find? fun s => s.toList.isPrefixOf cs

/-- The brace depth of the innermost expression behind a symbol. -/
def countBrace (frames : Frames) (symbol : String) : Frames :=
  match frames with
  | [] => []
  | f :: rest =>
    if symbol == "\x7b" then { f with depth := f.depth + 1 } :: rest
    else if symbol == "\x7d" then { f with depth := f.depth - 1 } :: rest
    else f :: rest

/-- Kind and length of a lexeme, and the open expressions behind it. -/
structure Cut where
  kind : LexemeKind
  length : Nat
  frames : Frames

/-- The part of a text literal whose first `start` characters are at the start of `cs`. The frames are
those around the literal; `first` tells the first part from the later ones. -/
def cutText (frames : Frames) (isBlock first : Bool) (start : Nat) (cs : List Char) : Cut :=
  match textLength? isBlock (cs.drop start) with
  | some (n, .closed) => ⟨if first then .text else .textClose, start + n, frames⟩
  | some (n, .embedded) => ⟨if first then .textOpen else .textPart, start + n, ⟨0, isBlock⟩ :: frames⟩
  | none => ⟨.stray, 1, frames⟩

def cutSymbol (frames : Frames) (cs : List Char) : Cut :=
  match symbolAt? cs with
  | some s => ⟨.symbol, s.length, countBrace frames s⟩
  | none => ⟨.stray, 1, frames⟩

/-- A literal or a symbol at the start of a text. -/
def cutOther (frames : Frames) (cs : List Char) : Cut :=
  match cs with
  | '"' :: '"' :: '"' :: _ => cutText frames true true 3 cs
  | '"' :: _ => cutText frames false true 1 cs
  | '\'' :: rest =>
    match characterLength? rest with
    | some n => if n > 1 then ⟨.character, n + 1, frames⟩ else ⟨.stray, 1, frames⟩
    | none => ⟨.stray, 1, frames⟩
  | _ =>
    let n := Numeral.length cs
    if n > 0 then ⟨.number, n, frames⟩ else cutSymbol frames cs

/-- A word or something else at the start of a text. The end of an embedded expression takes up the
text literal around it. -/
def cutLexeme (frames : Frames) (cs : List Char) : Cut :=
  match frames, cs with
  | ⟨0, isBlock⟩ :: outer, '}' :: _ => cutText outer isBlock false 1 cs
  | _, c :: rest =>
    if isIdentifierStart c then ⟨.word, 1 + (rest.takeWhile isIdentifierPart).length, frames⟩
    else cutOther frames cs
  | _, [] => ⟨.stray, 1, frames⟩

/-- The lexeme at the start of a text. -/
def cut (frames : Frames) (cs : List Char) : Cut :=
  match cs with
  | '/' :: '/' :: rest =>
    ⟨.lineComment, 2 + (rest.takeWhile fun c => c != '\n' && c != nul).length, frames⟩
  | '/' :: '*' :: rest =>
    match commentLength? rest with
    | some n => ⟨.blockComment, n + 2, frames⟩
    | none => cutLexeme frames cs
  | c :: rest =>
    if isSpace c then ⟨.blank, 1 + (rest.takeWhile isSpace).length, frames⟩
    else cutLexeme frames cs
  | [] => cutLexeme frames cs

/-- The lexemes of a text, at most `fuel` of them. -/
def lexemesFrom : Nat → Frames → List Char → List Lexeme
  | 0, _, _ => []
  | _ + 1, _, [] => []
  | fuel + 1, frames, c :: rest =>
    let step := cut frames (c :: rest)
    ⟨step.kind, String.ofList ((c :: rest).take step.length)⟩
      :: lexemesFrom fuel step.frames ((c :: rest).drop step.length)

/-- The lexemes of a source text. A byte order mark at its start is a blank. -/
def lexemes (cs : List Char) : List Lexeme :=
  match cs with
  | c :: rest =>
    if c == byteOrderMark then ⟨.blank, String.ofList [c]⟩ :: lexemesFrom rest.length [] rest
    else lexemesFrom cs.length [] cs
  | [] => []

end MemberSpec.Source.Lexer
