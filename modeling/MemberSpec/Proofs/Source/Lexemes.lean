import Mathlib
import MemberSpec.Proofs.Source.Building

/-!
# Source text and tokens

No character of a source text is lost: every cut takes at least one character (`cut_length_pos`), so the
lexemes in a row are the text again (`flatMap_lexemes`), and so are the tokens with the trivia in
front of them, up to the trivia behind the last token (`exists_trail`).
-/

namespace MemberSpec.Source

namespace Lexer

variable {frames : Frames} {cs : List Char}

theorem cutText_length_pos (isBlock first : Bool) {start : Nat} (h : 0 < start) :
    0 < (cutText frames isBlock first start cs).length := by
  unfold cutText
  split
  · exact Nat.add_pos_left h _
  · exact Nat.add_pos_left h _
  · exact Nat.one_pos

theorem cutSymbol_length_pos : 0 < (cutSymbol frames cs).length := by
  unfold cutSymbol
  split
  · rename_i s hs
    have hsymbols : ∀ s ∈ symbols, 0 < s.length := by decide
    exact hsymbols s (List.mem_of_find?_eq_some hs)
  · exact Nat.one_pos

theorem cutOther_length_pos : 0 < (cutOther frames cs).length := by
  unfold cutOther
  split
  · exact cutText_length_pos _ _ (by decide)
  · exact cutText_length_pos _ _ (by decide)
  · split
    · split
      · exact Nat.succ_pos _
      · exact Nat.one_pos
    · exact Nat.one_pos
  · dsimp only
    split
    · assumption
    · exact cutSymbol_length_pos

theorem cutLexeme_length_pos : 0 < (cutLexeme frames cs).length := by
  unfold cutLexeme
  split
  · exact cutText_length_pos _ _ Nat.one_pos
  · split
    · exact Nat.add_pos_left Nat.one_pos _
    · exact cutOther_length_pos
  · exact Nat.one_pos

/-- Every cut takes a character. -/
theorem cut_length_pos : 0 < (cut frames cs).length := by
  unfold cut
  split
  · exact Nat.add_pos_left Nat.two_pos _
  · split
    · exact Nat.succ_pos _
    · exact cutLexeme_length_pos
  · split
    · exact Nat.add_pos_left Nat.one_pos _
    · exact cutLexeme_length_pos
  · exact cutLexeme_length_pos

theorem flatMap_lexemesFrom {fuel : Nat} (h : cs.length ≤ fuel) :
    (lexemesFrom fuel frames cs).flatMap (·.text.toList) = cs := by
  induction fuel generalizing frames cs with
  | zero =>
    have hnil : cs = [] := List.length_eq_zero_iff.1 (Nat.le_zero.1 h)
    rw [hnil, lexemesFrom, List.flatMap_nil]
  | succ fuel ih =>
    cases cs with
    | nil => rfl
    | cons c rest =>
      -- a cut takes a character, so the fuel that is left is enough for the rest
      have hpos : 0 < (cut frames (c :: rest)).length := cut_length_pos
      have hshorter : ((c :: rest).drop (cut frames (c :: rest)).length).length ≤ fuel := by
        rw [List.length_drop]
        omega
      rw [lexemesFrom, List.flatMap_cons, ih hshorter, String.toList_ofList, List.take_append_drop]

/-- **The lexemes of a text in a row** are the text. -/
theorem flatMap_lexemes (cs : List Char) : (lexemes cs).flatMap (·.text.toList) = cs := by
  unfold lexemes
  split
  · split
    · rw [List.flatMap_cons, flatMap_lexemesFrom le_rfl, String.toList_ofList, List.singleton_append]
    · exact flatMap_lexemesFrom le_rfl
  · rfl

end Lexer

theorem fullText_cons (u : Token) (us : List Token) :
    fullText (u :: us) = u.leadText.toList ++ u.text.toList ++ fullText us := by
  simp [fullText]

theorem fullText_append (us vs : List Token) : fullText (us ++ vs) = fullText us ++ fullText vs := by
  rw [fullText, List.flatMap_append, List.flatMap_append, ← fullText, ← fullText]

theorem fullText_ofLexemes (lead ls : List Lexeme) :
    fullText (Token.ofLexemes lead ls).1 ++ (Token.ofLexemes lead ls).2.flatMap (·.text.toList) =
      lead.flatMap (·.text.toList) ++ ls.flatMap (·.text.toList) := by
  induction ls generalizing lead with
  | nil => simp [Token.ofLexemes, fullText]
  | cons l ls ih =>
    rw [Token.ofLexemes]
    split
    · rw [ih, List.flatMap_append, List.flatMap_cons, List.flatMap_cons, List.flatMap_nil,
        List.append_nil, List.append_assoc]
    · have hlead : (Token.leadText ⟨lead, l⟩).toList = lead.flatMap (·.text.toList) := by
        simp [Token.leadText, String.toList_join, List.flatMap_map]
      dsimp only
      rw [fullText_cons, List.append_assoc, ih [], hlead]
      simp [Token.text]

/-- **A source text is its tokens with their trivia**, and what is behind the last token. -/
theorem exists_trail (source : String) :
    ∃ trail, source.toList = fullText (tokensOf source) ++ trail := by
  refine ⟨(Token.ofLexemes [] (Lexer.lexemes source.toList)).2.flatMap (·.text.toList), ?_⟩
  rw [tokensOf, fullText_ofLexemes, Lexer.flatMap_lexemes]
  rfl

end MemberSpec.Source
