import MemberSpec.Source.Grammar
import MemberSpec.Source.Lexer

/-!
# Reading a source text into a tree

A source text is cut into tokens, and the tokens are matched with the grammar of a source file. If they
are no sentence, the fault is at the furthest token that was refused: at its start, or right behind the
token before it where only a `;` or `}` is missing there.

* `parseTree`: the tree of a source text, or the place of the fault.
-/

namespace MemberSpec.Source

/-- A place in a text: line and column count from one, the column in bytes. -/
structure Place where
  line : Nat
  column : Nat
deriving DecidableEq, Repr

namespace Place

def start : Place := ⟨1, 1⟩

/-- The place behind a character. -/
def next (p : Place) (c : Char) : Place :=
  if c == '\n' then ⟨p.line + 1, 1⟩ else ⟨p.line, p.column + c.utf8Size⟩

/-- The place at the end of a text. -/
def endOf (cs : List Char) : Place := cs.foldl next start

end Place

/-- Matches tokens with the grammar of a source file. Every rule passes through fewer patterns than the
fuel allows for a token. -/
def matchFile (tokens : List Token) : Outcome :=
  sourceFile.run grammar (1000 * (tokens.length + 1)) ⟨tokens, 0⟩

/-- The tree of tokens, or the index of the first token that cannot be part of a sentence. -/
def treeOf (tokens : List Token) : Except Nat Tree :=
  let outcome := matchFile tokens
  match outcome.found with
  | some ([tree], place) =>
    if place.rest.isEmpty then .ok tree else .error (max outcome.furthest place.index)
  | _ => .error outcome.furthest

/-- Whether the tokens can go on with the token at an index if a symbol is put in front of it. -/
def resumesAfter (tokens : List Token) (index : Nat) (symbol : String) : Bool :=
  let missing : Token := ⟨[], ⟨.symbol, symbol⟩⟩
  match treeOf (tokens.take index ++ missing :: tokens.drop index) with
  | .ok _ => true
  | .error furthest => furthest > index + 1

/-- The text of tokens with all trivia. -/
def fullText (tokens : List Token) : List Char :=
  (tokens.flatMap fun t => [t.leadText, t.text]).flatMap String.toList

/-- The place of the fault at the token with the given index. -/
def faultPlace (tokens : List Token) (index : Nat) : Place :=
  let before := tokens.take index
  match tokens.drop index with
  | [] => .endOf (fullText before)
  | t :: _ =>
    if resumesAfter tokens index ";" || resumesAfter tokens index "\x7d" then
      .endOf (fullText before)
    else .endOf (fullText before ++ t.leadText.toList)

/-- The tree of a source text, or the place of its first fault. -/
def parseTree (source : List Char) : Except Place Tree :=
  let tokens := (Token.ofLexemes [] (Lexer.lexemes source)).1
  match treeOf tokens with
  | .ok tree => .ok tree
  | .error index => .error (faultPlace tokens index)

end MemberSpec.Source
