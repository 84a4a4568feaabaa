import Mathlib
import MemberSpec.Source.Declared
import MemberSpec.Proofs.ErasureReading
import MemberSpec.Proofs.Related

/-!
# Trees that differ in trivia

Two trees are `Alike` if they have the same nodes and lexemes. What is read off alike trees can
differ only by the trivia between their tokens, and each reader looks at them in its own way: a name
is the whole text, the name of an annotation leaves out blanks, dimensions are counted by their
opening brackets, and erasure sees neither blanks nor what is inside type arguments.

* `Alike.text_congr`: a reading of the text that goes along with joining texts is the same if the
  readings of the gaps between the tokens are.
* `Alike.reads_typeText`: alike types with the same gaps, as far as they count, are read alike by
  erasure.
-/

namespace MemberSpec.Source

open Text Erasure

/-! ### Alike trees -/

namespace Tree

mutual

/-- The tree without trivia. -/
def bare : Tree → Tree
  | leaf t => leaf ⟨[], t.lexeme⟩
  | node kind role children => node kind role (bareAll children)

/-- The trees of a row without trivia. -/
def bareAll : List Tree → List Tree
  | [] => []
  | t :: ts => t.bare :: bareAll ts

end

/-- Trees that differ in trivia only. -/
def Alike (t t' : Tree) : Prop := t.bare = t'.bare

mutual

def decideEq : (t t' : Tree) → Decidable (t = t')
  | leaf t, leaf t' => decidable_of_iff (t = t') (by simp)
  | node kind role children, node kind' role' children' =>
    have := decideEqAll children children'
    decidable_of_iff (kind = kind' ∧ role = role' ∧ children = children') (by simp)
  | leaf _, node .. => isFalse (by simp)
  | node .., leaf _ => isFalse (by simp)

def decideEqAll : (ts ts' : List Tree) → Decidable (ts = ts')
  | [], [] => isTrue rfl
  | t :: ts, t' :: ts' =>
    have := decideEq t t'
    have := decideEqAll ts ts'
    decidable_of_iff (t = t' ∧ ts = ts') (by simp)
  | [], _ :: _ => isFalse (by simp)
  | _ :: _, [] => isFalse (by simp)

end

instance : DecidableEq Tree := decideEq

instance (t t' : Tree) : Decidable (t.Alike t') := inferInstanceAs (Decidable (t.bare = t'.bare))

variable {t t' : Tree}

theorem bareAll_eq_map (ts : List Tree) : bareAll ts = ts.map bare := by
  induction ts with
  | nil => rfl
  | cons t ts ih => rw [bareAll, ih, List.map_cons]

theorem kind?_bare (t : Tree) : t.bare.kind? = t.kind? := by cases t <;> rfl

theorem role?_bare (t : Tree) : t.bare.role? = t.role? := by cases t <;> rfl

theorem isToken_bare (text : String) (t : Tree) : t.bare.isToken text = t.isToken text := by
  cases t <;> rfl

theorem children_bare (t : Tree) : t.bare.children = t.children.map bare := by
  cases t with
  | leaf => rfl
  | node kind role children => exact bareAll_eq_map children

mutual

theorem map_lexeme_tokens_bare : (t : Tree) →
    t.bare.tokens.map Token.lexeme = t.tokens.map Token.lexeme
  | leaf _ => rfl
  | node _ _ children => by
    rw [bare, tokens, tokens, map_lexeme_tokensAll_bareAll children]

theorem map_lexeme_tokensAll_bareAll : (ts : List Tree) →
    (tokensAll (bareAll ts)).map Token.lexeme = (tokensAll ts).map Token.lexeme
  | [] => rfl
  | t :: ts => by
    rw [bareAll, tokensAll, tokensAll, List.map_append, List.map_append, map_lexeme_tokens_bare t,
      map_lexeme_tokensAll_bareAll ts]

end

mutual

theorem map_text_pieces_bare : (t : Tree) → t.bare.pieces.map Piece.text = t.pieces.map Piece.text
  | leaf _ => rfl
  | node kind _ children => by
    rw [bare, pieces, pieces]
    split
    · rfl
    · exact map_text_piecesAll_bareAll children

theorem map_text_piecesAll_bareAll : (ts : List Tree) →
    (piecesAll (bareAll ts)).map Piece.text = (piecesAll ts).map Piece.text
  | [] => rfl
  | t :: ts => by
    rw [bareAll, piecesAll, piecesAll, List.map_append, List.map_append, map_text_pieces_bare t,
      map_text_piecesAll_bareAll ts]

end

namespace Alike

theorem kind? (h : t.Alike t') : t.kind? = t'.kind? := by
  rw [← kind?_bare t, h, kind?_bare]

theorem role? (h : t.Alike t') : t.role? = t'.role? := by
  rw [← role?_bare t, h, role?_bare]

theorem isToken (h : t.Alike t') (text : String) : t.isToken text = t'.isToken text := by
  rw [← isToken_bare text t, h, isToken_bare]

theorem children (h : t.Alike t') : List.Forall₂ Alike t.children t'.children := by
  have hmap : t.children.map bare = t'.children.map bare := by
    rw [← children_bare, h, children_bare]
  exact map_eq_map_iff_forall₂.1 hmap

theorem child? (h : t.Alike t') (kind : NodeKind) :
    Option.Rel Alike (t.child? kind) (t'.child? kind) :=
  find?_rel (fun _ _ hc => by rw [hc.kind?]) h.children

theorem childAs? (h : t.Alike t') (role : Role) :
    Option.Rel Alike (t.childAs? role) (t'.childAs? role) :=
  find?_rel (fun _ _ hc => by rw [hc.role?]) h.children

theorem lexemes (h : t.Alike t') : t.tokens.map Token.lexeme = t'.tokens.map Token.lexeme := by
  rw [← map_lexeme_tokens_bare t, h, map_lexeme_tokens_bare]

theorem pieceTexts (h : t.Alike t') : t.pieces.map Piece.text = t'.pieces.map Piece.text := by
  rw [← map_text_pieces_bare t, h, map_text_pieces_bare]

end Alike

/-! ### Gaps -/

/-- The readings of the gaps between the tokens of a tree. -/
def gapsBy {β : Type} (f : List Char → β) (t : Tree) : List β :=
  t.tokens.tail.map fun u => f u.leadText.toList

end Tree

/-- A reading of texts that goes along with joining them. -/
def Joins {β : Type} (f : List Char → β) : Prop :=
  ∀ {cs cs' ds ds' : List Char}, f cs = f cs' → f ds = f ds' → f (cs ++ ds) = f (cs' ++ ds')

theorem joins_id : Joins (id : List Char → List Char) := by
  intro cs cs' ds ds' hcs hds
  exact congrArg₂ (· ++ ·) hcs hds

theorem joins_solid : Joins solid := by
  intro cs cs' ds ds' hcs hds
  rw [solid_append, solid_append, hcs, hds]

theorem joins_count (c : Char) : Joins (List.count c) := by
  intro cs cs' ds ds' hcs hds
  rw [List.count_append, List.count_append, hcs, hds]

/-- Tokens with the same lexemes and gaps that are read alike have texts that are read alike. -/
theorem Joins.joined {β : Type} {f : List Char → β} (hf : Joins f) {us us' : List Token}
    (hlexemes : us.map Token.lexeme = us'.map Token.lexeme)
    (hgaps : us.map (fun u => f u.leadText.toList) = us'.map fun u => f u.leadText.toList) :
    f (String.join (us.map fun u => u.leadText ++ u.text)).toList =
      f (String.join (us'.map fun u => u.leadText ++ u.text)).toList := by
  induction us generalizing us' with
  | nil =>
    rw [List.map_nil, eq_comm, List.map_eq_nil_iff] at hlexemes
    rw [hlexemes]
  | cons u us ih =>
    obtain _ | ⟨u', us'⟩ := us'
    · simp at hlexemes
    obtain ⟨hlexeme, hlexemes⟩ := List.cons.inj hlexemes
    obtain ⟨hgap, hgaps⟩ := List.cons.inj hgaps
    have htext : u.text = u'.text := congrArg Lexeme.text hlexeme
    have htoken : f (u.leadText ++ u.text).toList = f (u'.leadText ++ u'.text).toList := by
      rw [String.toList_append, String.toList_append, htext]
      exact hf hgap rfl
    have hrest := ih hlexemes hgaps
    simp only [String.toList_join] at hrest
    simp only [String.toList_join, List.map_cons, List.flatMap_cons]
    exact hf htoken hrest

theorem Joins.spanText {β : Type} {f : List Char → β} (hf : Joins f) {us us' : List Token}
    (hlexemes : us.map Token.lexeme = us'.map Token.lexeme)
    (hgaps : us.tail.map (fun u => f u.leadText.toList) =
      us'.tail.map fun u => f u.leadText.toList) :
    f (spanText us).toList = f (spanText us').toList := by
  obtain _ | ⟨u, us⟩ := us <;> obtain _ | ⟨u', us'⟩ := us'
  · rfl
  · simp at hlexemes
  · simp at hlexemes
  · obtain ⟨hlexeme, hlexemes⟩ := List.cons.inj hlexemes
    have htext : u.text = u'.text := congrArg Lexeme.text hlexeme
    rw [Source.spanText, Source.spanText, htext, String.toList_append, String.toList_append]
    exact hf rfl (hf.joined hlexemes hgaps)

/-- **What is read off the text of a tree depends on trivia only by what is read off its gaps.** -/
theorem Tree.Alike.text_congr {β : Type} {f : List Char → β} (hf : Joins f) {t t' : Tree}
    (h : t.Alike t') (hgaps : t.gapsBy f = t'.gapsBy f) : f t.text.toList = f t'.text.toList :=
  hf.spanText h.lexemes hgaps

theorem Tree.Alike.text_eq {t t' : Tree} (h : t.Alike t') (hgaps : t.gapsBy id = t'.gapsBy id) :
    t.text = t'.text :=
  String.toList_inj.1 (h.text_congr joins_id hgaps)

/-- There is no gap in a tree of one token. -/
theorem Tree.Alike.text_eq_of_single {t t' : Tree} (h : t.Alike t') (hsingle : t.tokens.length = 1) :
    t.text = t'.text := by
  have hsingle' : t'.tokens.length = 1 := by
    rw [← List.length_map Token.lexeme, ← h.lexemes, List.length_map, hsingle]
  obtain ⟨u, hu⟩ := List.length_eq_one_iff.1 hsingle
  obtain ⟨u', hu'⟩ := List.length_eq_one_iff.1 hsingle'
  apply h.text_eq
  rw [gapsBy, gapsBy, hu, hu']
  rfl

/-! ### Types -/

theorem solid_closeDots (cs : List Char) : solid (closeDots cs) = solid cs := by
  fun_induction closeDots cs with
  | case1 rest ih =>
    have hblank : isBlank ' ' = true := by decide
    simp_all [solid, List.filter_cons]
  | case2 c rest _ ih => simp_all [solid, List.filter_cons]
  | case3 => rfl

theorem solid_tidyType (s : String) : solid (tidyType s).toList = solid s.toList := by
  have hspace : (!isBlank ' ') = false := by decide
  rw [tidyType, String.toList_ofList, solid_closeDots]
  exact filter_collapseBlanks hspace (by simp) s.toList

/-- What counts of a gap in a type behind `depth` open type arguments: the characters that are no
blanks, but inside type arguments nothing of a text without angle brackets. -/
def countedGap (depth : Nat) (gap : List Char) : List Char :=
  if 0 < depth && hasNoAngles gap then [] else solid gap

theorem reads_countedGap (depth : Nat) (gap : List Char) :
    Reads depth gap (countedGap depth gap) := by
  rw [countedGap]
  split
  · next h =>
    rw [Bool.and_eq_true, decide_eq_true_eq] at h
    exact reads_of_hasNoAngles h.2 h.1
  · exact (reads_solid depth gap).symm

/-- What counts of the gaps in front of pieces behind `depth` open type arguments. -/
def countedGaps (depth : Nat) : List Piece → List (List Char)
  | [] => []
  | p :: rest =>
    countedGap depth p.lead.toList ::
      countedGaps (openAfter depth (p.lead.toList ++ p.text.toList)) rest

/-- What counts of the gaps inside a type. -/
def typeGaps (t : Tree) : List (List Char) :=
  match t.pieces with
  | [] => []
  | p :: rest => countedGaps (openAfter 0 p.text.toList) rest

theorem reads_pieces {ps ps' : List Piece} {depth : Nat}
    (htexts : ps.map Piece.text = ps'.map Piece.text)
    (hgaps : countedGaps depth ps = countedGaps depth ps') :
    Reads depth (String.join (ps.map fun p => p.lead ++ p.text)).toList
      (String.join (ps'.map fun p => p.lead ++ p.text)).toList := by
  induction ps generalizing ps' depth with
  | nil =>
    rw [List.map_nil, eq_comm, List.map_eq_nil_iff] at htexts
    rw [htexts]
    exact Reads.refl _ _
  | cons p ps ih =>
    obtain _ | ⟨p', ps'⟩ := ps'
    · simp at htexts
    obtain ⟨htext, htexts⟩ := List.cons.inj htexts
    obtain ⟨hgap, hgaps⟩ := List.cons.inj hgaps
    have hlead : Reads depth p.lead.toList p'.lead.toList := by
      refine (reads_countedGap depth _).trans ?_
      rw [hgap]
      exact (reads_countedGap depth _).symm
    have hpiece : Reads depth (p.lead.toList ++ p.text.toList) (p'.lead.toList ++ p'.text.toList) :=
      hlead.append (htext ▸ Reads.refl _ _)
    rw [← hpiece.2] at hgaps
    have hrest := ih htexts hgaps
    simp only [String.toList_join] at hrest
    simp only [String.toList_join, List.map_cons, List.flatMap_cons, String.toList_append]
    exact hpiece.append hrest

/-- **Alike types whose gaps are the same as far as they count are read alike by erasure.** -/
theorem Tree.Alike.reads_typeText {t t' : Tree} (h : t.Alike t') (hgaps : typeGaps t = typeGaps t') :
    Reads 0 (typeText t).toList (typeText t').toList := by
  have htidy : ∀ s : String, Reads 0 (tidyType s).toList s.toList := fun s =>
    reads_of_solid_eq (solid_tidyType s) 0
  have htexts := h.pieceTexts
  have hpieces : Reads 0 (pieceText t.pieces).toList (pieceText t'.pieces).toList := by
    rw [typeGaps, typeGaps] at hgaps
    generalize t.pieces = ps at htexts hgaps ⊢
    generalize t'.pieces = ps' at htexts hgaps ⊢
    obtain _ | ⟨p, ps⟩ := ps <;> obtain _ | ⟨p', ps'⟩ := ps'
    · exact Reads.refl _ _
    · simp at htexts
    · simp at htexts
    · obtain ⟨htext, htexts⟩ := List.cons.inj htexts
      simp only [htext] at hgaps
      rw [pieceText, pieceText, htext, String.toList_append, String.toList_append]
      exact (Reads.refl 0 _).append (reads_pieces htexts hgaps)
  exact (htidy _).trans (hpieces.trans (htidy _).symm)

end MemberSpec.Source
