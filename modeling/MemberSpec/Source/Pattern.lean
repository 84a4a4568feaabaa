import MemberSpec.Source.Tree

/-!
# Patterns

A grammar gives a pattern for each of its rules. Patterns are matched from left to right: a choice
takes the first alternative that matches, and a repetition goes on as long as it can. A pattern can
also look ahead and refuse what comes next. Beside the tree a match tells the furthest token that was
refused on the way, which is where a text that is no sentence goes wrong.
-/

namespace MemberSpec.Source

/-- What a single token is compared with. -/
inductive Terminal where
  /-- A token with this text. -/
  | exact (text : String)
  /-- A token with this text directly behind the token before it. -/
  | glued (text : String)
  /-- A token with one of these texts. -/
  | among (texts : List String)
  /-- A word that is not among the excluded ones. -/
  | word (excluded : List String)
  /-- A token of a kind. -/
  | ofKind (kind : LexemeKind)
deriving DecidableEq, Repr

def Terminal.accepts : Terminal → Token → Bool
  | exact text, t => t.text == text
  | glued text, t => t.text == text && t.lead.isEmpty
  | among texts, t => texts.contains t.text
  | word excluded, t => t.lexeme.kind == .word && !excluded.contains t.text
  | ofKind kind, t => t.lexeme.kind == kind

/-- A pattern of tokens, over the rules `ρ` of a grammar. -/
inductive Pattern (ρ : Type) where
  | empty
  | never
  | token (t : Terminal)
  | seq (first second : Pattern ρ)
  | choice (first second : Pattern ρ)
  | many (p : Pattern ρ)
  | node (kind : NodeKind) (p : Pattern ρ)
  | role (role : Role) (p : Pattern ρ)
  /-- No tokens, at a place where the pattern does not match. -/
  | refusing (p : Pattern ρ)
  | rule (r : ρ)
deriving Repr

namespace Pattern

variable {ρ : Type}

instance : Coe String (Pattern ρ) := ⟨fun text => token (.exact text)⟩

/-- Patterns in a row. -/
def row : List (Pattern ρ) → Pattern ρ
  | [] => empty
  | [p] => p
  | p :: ps => seq p (row ps)

/-- The first of the patterns that matches. -/
def oneOf : List (Pattern ρ) → Pattern ρ
  | [] => never
  | [p] => p
  | p :: ps => choice p (oneOf ps)

def optional (p : Pattern ρ) : Pattern ρ := choice p empty

/-- A pattern once or more. -/
def some (p : Pattern ρ) : Pattern ρ := seq p (many p)

/-- A pattern once or more, with a token between each two. -/
def separated (p : Pattern ρ) (divider : String) : Pattern ρ := seq p (many (seq divider p))

/-- A pattern any number of times, with commas between. -/
def list (p : Pattern ρ) : Pattern ρ := optional (separated p ",")

end Pattern

/-- A place between tokens: the tokens behind it, and the number of tokens before it. -/
structure Cursor where
  rest : List Token
  index : Nat

/-- What a match found: the trees and the place behind them, if there is a match, and the largest
index of a token that was refused. -/
structure Outcome where
  found : Option (List Tree × Cursor)
  furthest : Nat

namespace Outcome

/-- The outcome of a step behind trees that were found before. -/
def behind (trees : List Tree) (furthest : Nat) (o : Outcome) : Outcome :=
  ⟨o.found.map fun (more, place) => (trees ++ more, place), max furthest o.furthest⟩

def mapTrees (f : List Tree → List Tree) (o : Outcome) : Outcome :=
  ⟨o.found.map fun (trees, place) => (f trees, place), o.furthest⟩

end Outcome

namespace Pattern

variable {ρ : Type}

/-- Matches a pattern at a place. The fuel bounds how deep patterns nest, and each round of a
repetition counts as one level. -/
def run (grammar : ρ → Pattern ρ) : Nat → Pattern ρ → Cursor → Outcome
  | 0, _, place => ⟨none, place.index⟩
  | fuel + 1, pattern, place =>
    match pattern with
    | empty => ⟨Option.some ([], place), 0⟩
    | never => ⟨none, 0⟩
    | token t =>
      match place.rest with
      | first :: rest =>
        if t.accepts first then ⟨Option.some ([.leaf first], ⟨rest, place.index + 1⟩), 0⟩
        else ⟨none, place.index⟩
      | [] => ⟨none, place.index⟩
    | seq p q =>
      let o := run grammar fuel p place
      match o.found with
      | none => o
      | Option.some (trees, next) => (run grammar fuel q next).behind trees o.furthest
    | choice p q =>
      let o := run grammar fuel p place
      match o.found with
      | none => (run grammar fuel q place).behind [] o.furthest
      | Option.some _ => o
    | many p =>
      let o := run grammar fuel p place
      match o.found with
      | none => ⟨Option.some ([], place), o.furthest⟩
      | Option.some (trees, next) =>
        if next.index ≤ place.index then ⟨Option.some (trees, next), o.furthest⟩
        else (run grammar fuel (many p) next).behind trees o.furthest
    | node kind p => (run grammar fuel p place).mapTrees fun trees => [.node kind none trees]
    | role r p => (run grammar fuel p place).mapTrees fun trees => trees.map (Tree.withRole r)
    | refusing p =>
      match (run grammar fuel p place).found with
      | none => ⟨Option.some ([], place), 0⟩
      | Option.some _ => ⟨none, place.index⟩
    | rule r => run grammar fuel (grammar r) place

end Pattern

end MemberSpec.Source
