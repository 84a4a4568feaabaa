import MemberSpec.Text.Split

/-!
# Lexemes and tokens

A source text is a row of lexemes, and their texts in a row are the source text again. Blanks and
comments are trivia; a token is any other lexeme together with the trivia in front of it.

* `Token.ofLexemes`: the tokens of a row of lexemes, and the trivia behind the last one.
* `spanText`: the text from the first token to the last, without the trivia in front of the first.
-/

namespace MemberSpec.Source

/-- The kinds of lexemes. A text with embedded expressions is a `textOpen`, a `textPart` between each
two of the expressions, and a `textClose`. -/
inductive LexemeKind where
  | blank | lineComment | blockComment
  | word | number | symbol | character
  | text | textOpen | textPart | textClose
  | stray
deriving DecidableEq, Repr

/-- A piece of source text. -/
structure Lexeme where
  kind : LexemeKind
  text : String
deriving DecidableEq, Repr

namespace Lexeme

def isComment (l : Lexeme) : Bool := l.kind == .lineComment || l.kind == .blockComment

def isTrivia (l : Lexeme) : Bool := l.kind == .blank || l.isComment

end Lexeme

/-- A lexeme that is no trivia, with the trivia in front of it. -/
structure Token where
  lead : List Lexeme
  lexeme : Lexeme
deriving DecidableEq, Repr

namespace Token

def text (t : Token) : String := t.lexeme.text

/-- The text of the trivia in front of a token. -/
def leadText (t : Token) : String := String.join (t.lead.map (·.text))

/-- The comments in front of a token. -/
def comments (t : Token) : List Lexeme := t.lead.filter Lexeme.isComment

/-- The tokens in a row of lexemes behind the trivia `lead`, and the trivia behind the last token. -/
def ofLexemes (lead : List Lexeme) : List Lexeme → List Token × List Lexeme
  | [] => ([], lead)
  | l :: rest =>
    if l.isTrivia then ofLexemes (lead ++ [l]) rest
    else
      let (tokens, trail) := ofLexemes [] rest
      (⟨lead, l⟩ :: tokens, trail)

end Token

/-- The text of tokens with the trivia between them. -/
def spanText : List Token → String
  | [] => ""
  | t :: rest => t.text ++ String.join (rest.map fun u => u.leadText ++ u.text)

end MemberSpec.Source
