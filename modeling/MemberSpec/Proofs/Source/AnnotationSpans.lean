import Mathlib
import MemberSpec.Proofs.Source.Lexemes
import MemberSpec.Proofs.Source.NodeShapes

/-!
# Annotations cut out of types

A type is read off its node with a blank in the place of every outermost annotation. Here the same text
is made from the source: the spans of the annotations are collected from the tree (`annotationSpans`),
and the source is copied from span to span (`splice`).

* `InOrder`: spans that follow each other between two places.
* `Tree.Contains`: where a node stands in a tree; an annotation is outermost if no annotation is above
  it (`mem_annotationSpans`).
* `splice_annotationSpans`: the text between the spans is the text of the pieces.
* `CutsOut`, `Spells.cutsOut`: for every node of a tree that spells a text, `typeText` is the text with
  exactly the outermost annotations cut out, and it erases as the text does without them.
-/

namespace MemberSpec.Source

open Text Erasure

/-! ### Spans of a text -/

/-- A span of a text, by the places where it starts and stops. -/
structure Span where
  start : Nat
  stop : Nat
deriving DecidableEq

/-- The spans follow each other between two places, without overlap. -/
def InOrder : Nat → List Span → Nat → Prop
  | a, [], b => a ≤ b
  | a, s :: rest, b => a ≤ s.start ∧ s.start ≤ s.stop ∧ InOrder s.stop rest b

/-- The text from a place to another, with `fill` in the place of each of the spans. -/
def splice (fill code : List Char) (stop : Nat) : Nat → List Span → List Char
  | offset, [] => code.extract offset stop
  | offset, s :: rest => code.extract offset s.start ++ fill ++ splice fill code stop s.stop rest

variable {fill code : List Char} {a a' b m : Nat} {xs ys : List Span}

theorem extract_append_extract (code : List Char) (ha : a ≤ m) (hb : m ≤ b) :
    code.extract a m ++ code.extract m b = code.extract a b := by
  have hdrop : code.drop m = (code.drop a).drop (m - a) := by
    rw [List.drop_drop, Nat.add_sub_cancel' ha]
  have hlength : b - a = (m - a) + (b - m) := by omega
  rw [List.extract_eq_take_drop, List.extract_eq_take_drop, List.extract_eq_take_drop, hdrop, hlength,
    List.take_add]

theorem extract_append (pre cs post : List Char) :
    (pre ++ cs ++ post).extract pre.length (pre.length + cs.length) = cs := by
  rw [List.extract_eq_take_drop, List.append_assoc, List.drop_left, Nat.add_sub_cancel_left,
    List.take_left]

namespace InOrder

theorem le (h : InOrder a xs b) : a ≤ b := by
  induction xs generalizing a with
  | nil => exact h
  | cons s xs ih =>
    have hrest := ih h.2.2
    have hstart := h.1
    have hstop := h.2.1
    omega

theorem append (h : InOrder a xs m) (h' : InOrder m ys b) : InOrder a (xs ++ ys) b := by
  induction xs generalizing a with
  | nil =>
    have ha : a ≤ m := h
    cases ys with
    | nil => exact le_trans ha h'
    | cons s ys => exact ⟨le_trans ha h'.1, h'.2⟩
  | cons s xs ih => exact ⟨h.1, h.2.1, ih h.2.2⟩

/-- Only the first span has to do with the place where the spans begin. -/
theorem from_of_le (h : InOrder a xs b) (hb : a' ≤ b) (hs : ∀ s ∈ xs, a' ≤ s.start) :
    InOrder a' xs b := by
  cases xs with
  | nil => exact hb
  | cons s xs => exact ⟨hs s List.mem_cons_self, h.2⟩

end InOrder

theorem splice_from (ha : a ≤ a') (h : InOrder a' xs b) :
    splice fill code b a xs = code.extract a a' ++ splice fill code b a' xs := by
  cases xs with
  | nil => exact (extract_append_extract code ha h).symm
  | cons s xs =>
    rw [splice, splice, ← extract_append_extract code ha h.1, List.append_assoc, List.append_assoc,
      List.append_assoc]

theorem splice_append (h : InOrder a xs m) (h' : InOrder m ys b) :
    splice fill code b a (xs ++ ys) = splice fill code m a xs ++ splice fill code b m ys := by
  induction xs generalizing a with
  | nil => exact splice_from h h'
  | cons s xs ih =>
    rw [List.cons_append, splice, splice, ih h.2.2, List.append_assoc, List.append_assoc,
      List.append_assoc]

/-- Blanks in the place of the spans are as good as nothing. -/
theorem solid_splice (hfill : ∀ c ∈ fill, isBlank c = true) (code : List Char) (b a : Nat)
    (xs : List Span) : solid (splice fill code b a xs) = solid (splice [] code b a xs) := by
  have hsolid : solid fill = [] := by
    simpa [solid, List.filter_eq_nil_iff] using hfill
  induction xs generalizing a with
  | nil => rfl
  | cons s xs ih =>
    rw [splice, splice, solid_append, solid_append, solid_append, solid_append, hsolid, ih]
    rfl

/-- What is cut out of a text and what is left make up the text. -/
theorem count_splice (c : Char) (code : List Char) (h : InOrder a xs b) :
    (code.extract a b).count c = (splice [] code b a xs).count c +
      (xs.map fun s => (code.extract s.start s.stop).count c).sum := by
  induction xs generalizing a with
  | nil => rfl
  | cons s xs ih =>
    obtain ⟨hstart, hstop, hrest⟩ := h
    rw [← extract_append_extract code hstart (le_trans hstop hrest.le),
      ← extract_append_extract code hstop hrest.le, List.count_append, List.count_append, ih hrest,
      splice, List.count_append, List.count_append, List.map_cons, List.sum_cons]
    simp only [List.count_nil]
    omega

/-! ### Where nodes stand -/

/-- The number of characters in front of the first of the tokens. -/
def leadLength (us : List Token) : Nat := ((us.head?.map Token.leadText).getD "").toList.length

/-- The span from the first of the tokens to the last, if the trivia in front of them start at a place. -/
def spanOf (start : Nat) (us : List Token) : Span :=
  ⟨start + leadLength us, start + (fullText us).length⟩

theorem fullText_eq (us : List Token) :
    fullText us = ((us.head?.map Token.leadText).getD "").toList ++ (spanText us).toList := by
  cases us with
  | nil => rfl
  | cons u us =>
    have hrest : (String.join (us.map fun u => u.leadText ++ u.text)).toList = fullText us := by
      simp [fullText, String.toList_join, List.flatMap_map, List.flatMap_assoc]
    rw [fullText_cons, spanText, String.toList_append, hrest, List.append_assoc]
    rfl

theorem leadLength_le (us : List Token) : leadLength us ≤ (fullText us).length := by
  rw [fullText_eq us, List.length_append, leadLength]
  exact Nat.le_add_right _ _

theorem length_text_le {us : List Token} {u : Token} (hu : u ∈ us) :
    u.text.toList.length ≤ (fullText us).length := by
  obtain ⟨vs, ws, rfl⟩ := List.append_of_mem hu
  rw [fullText_append, fullText_cons]
  simp only [List.length_append]
  omega

theorem leadLength_lt {us : List Token} {u : Token} (hu : u ∈ us) (htext : u.text ≠ "") :
    leadLength us < (fullText us).length := by
  have hpos : 0 < u.text.toList.length := by
    rw [List.length_pos_iff]
    simpa using htext
  cases us with
  | nil => cases hu
  | cons v us =>
    have hlead : leadLength (v :: us) = v.leadText.toList.length := rfl
    rw [fullText_cons, List.length_append, List.length_append, hlead]
    rcases List.mem_cons.1 hu with rfl | hu
    · omega
    · have hle := length_text_le hu
      omega

theorem leadLength_append (us : List Token) {vs : List Token} (hvs : vs ≠ []) (ws : List Token) :
    leadLength (us ++ vs ++ ws) ≤ (fullText us).length + leadLength vs := by
  cases us with
  | nil =>
    obtain ⟨v, vs, rfl⟩ := List.exists_cons_of_ne_nil hvs
    exact Nat.le_add_left _ _
  | cons u us =>
    have hle := leadLength_le (u :: us)
    exact le_trans hle (Nat.le_add_right _ _)

namespace Tree

/-- The node `u` stands in a tree behind the tokens `before`, below nodes of certain kinds only. -/
inductive Contains (p : NodeKind → Bool) : Tree → List Token → Tree → Prop where
  | here (t : Tree) : Contains p t [] t
  | inside {kind : NodeKind} {role : Option Role} {xs ys : List Tree} {c u : Tree}
      {before : List Token} (hkind : p kind = true) (h : Contains p c before u) :
      Contains p (node kind role (xs ++ c :: ys)) (tokensAll xs ++ before) u

namespace Contains

variable {p : NodeKind → Bool} {t u : Tree} {before : List Token}

theorem exists_tokens (h : Contains p t before u) :
    ∃ after, t.tokens = before ++ u.tokens ++ after := by
  induction h with
  | here t => exact ⟨[], by simp⟩
  | @inside _ _ xs ys _ _ _ _ _ ih =>
    obtain ⟨after, hafter⟩ := ih
    refine ⟨after ++ tokensAll ys, ?_⟩
    rw [tokens, tokensAll_append, tokensAll, hafter]
    simp only [List.append_assoc]

theorem everywhere {W : NodeKind → List Tree → Prop} (h : Contains p t before u)
    (ht : t.Everywhere W) : u.Everywhere W := by
  induction h with
  | here t => exact ht
  | inside _ _ ih => exact ih (ht.child (by simp [children]))

end Contains

/-- Anything but an annotation. -/
def notAnnotationUse (kind : NodeKind) : Bool := kind != .annotationUse

/-- An outermost annotation of a tree, behind the tokens `before`. -/
def AnnotatedWith (t : Tree) (before : List Token) (a : Tree) : Prop :=
  Contains notAnnotationUse t before a ∧ a.kind? = some .annotationUse

mutual

/-- The spans of the outermost annotations in a tree whose trivia start at a place. -/
def annotationSpans (start : Nat) : Tree → List Span
  | leaf _ => []
  | node kind _ children =>
    if kind = .annotationUse then [spanOf start (tokensAll children)]
    else annotationSpansAll start children

/-- The spans of the outermost annotations in trees in a row. -/
def annotationSpansAll (start : Nat) : List Tree → List Span
  | [] => []
  | t :: ts =>
    annotationSpans start t ++ annotationSpansAll (start + (fullText t.tokens).length) ts

end

theorem annotatedWith_node {kind : NodeKind} {role : Option Role} {children : List Tree}
    {before : List Token} {a : Tree} (hkind : kind ≠ .annotationUse) :
    (node kind role children).AnnotatedWith before a ↔
      ∃ xs c ys ahead, children = xs ++ c :: ys ∧ before = tokensAll xs ++ ahead ∧
        c.AnnotatedWith ahead a := by
  constructor
  · rintro ⟨hcontains, huse⟩
    cases hcontains with
    | here => exact absurd (Option.some.inj huse) hkind
    | inside _ h => exact ⟨_, _, _, _, rfl, rfl, h, huse⟩
  · rintro ⟨xs, c, ys, ahead, rfl, rfl, h, huse⟩
    exact ⟨.inside (by simpa [notAnnotationUse] using hkind) h, huse⟩

theorem annotatedWith_use {role : Option Role} {children : List Tree} {before : List Token}
    {a : Tree} :
    (node .annotationUse role children).AnnotatedWith before a ↔
      before = [] ∧ a = node .annotationUse role children := by
  constructor
  · rintro ⟨hcontains, -⟩
    cases hcontains with
    | here => exact ⟨rfl, rfl⟩
    | inside hkind _ => cases hkind
  · rintro ⟨rfl, rfl⟩
    exact ⟨.here _, rfl⟩

mutual

/-- **The spans are those of the outermost annotations.** -/
theorem mem_annotationSpans {s : Span} : (start : Nat) → (t : Tree) →
    (s ∈ annotationSpans start t ↔ ∃ before a, t.AnnotatedWith before a ∧
      s = spanOf (start + (fullText before).length) a.tokens)
  | start, leaf u => by
    constructor
    · intro hs
      cases hs
    · rintro ⟨before, a, ⟨hcontains, huse⟩, -⟩
      cases hcontains
      cases huse
  | start, node kind role children => by
    rw [annotationSpans]
    split
    · next hkind =>
      subst hkind
      simp only [annotatedWith_use, List.mem_singleton]
      constructor
      · rintro rfl
        exact ⟨[], _, ⟨rfl, rfl⟩, rfl⟩
      · rintro ⟨before, a, ⟨rfl, rfl⟩, rfl⟩
        rfl
    · next hkind =>
      rw [mem_annotationSpansAll start children]
      constructor
      · rintro ⟨xs, c, ys, ahead, a, hchildren, ha, hs⟩
        exact ⟨_, a, (annotatedWith_node hkind).2 ⟨xs, c, ys, ahead, hchildren, rfl, ha⟩, hs⟩
      · rintro ⟨before, a, ha, hs⟩
        obtain ⟨xs, c, ys, ahead, hchildren, rfl, hc⟩ := (annotatedWith_node hkind).1 ha
        exact ⟨xs, c, ys, ahead, a, hchildren, hc, hs⟩

theorem mem_annotationSpansAll {s : Span} : (start : Nat) → (ts : List Tree) →
    (s ∈ annotationSpansAll start ts ↔ ∃ xs c ys ahead a, ts = xs ++ c :: ys ∧
      c.AnnotatedWith ahead a ∧
      s = spanOf (start + (fullText (tokensAll xs ++ ahead)).length) a.tokens)
  | start, [] => by
    constructor
    · intro hs
      cases hs
    · rintro ⟨xs, c, ys, ahead, a, hnil, -⟩
      simp at hnil
  | start, t :: ts => by
    rw [annotationSpansAll, List.mem_append, mem_annotationSpans start t,
      mem_annotationSpansAll (start + (fullText t.tokens).length) ts]
    -- a node that holds the annotation is the first of the row or one of the others
    constructor
    · rintro (⟨before, a, ha, hs⟩ | ⟨xs, c, ys, ahead, a, rfl, ha, hs⟩)
      · exact ⟨[], t, ts, before, a, rfl, ha, hs⟩
      · refine ⟨t :: xs, c, ys, ahead, a, rfl, ha, ?_⟩
        rw [hs, tokensAll, List.append_assoc, fullText_append t.tokens, List.length_append,
          Nat.add_assoc]
    · rintro ⟨xs, c, ys, ahead, a, hts, ha, hs⟩
      cases xs with
      | nil =>
        obtain ⟨rfl, rfl⟩ := List.cons.inj hts
        exact .inl ⟨ahead, a, ha, hs⟩
      | cons x xs =>
        obtain ⟨rfl, rfl⟩ := List.cons.inj hts
        refine .inr ⟨xs, c, ys, ahead, a, rfl, ha, ?_⟩
        rw [hs, tokensAll, List.append_assoc, fullText_append t.tokens, List.length_append,
          Nat.add_assoc]

end

mutual

theorem inOrder_annotationSpans : (start : Nat) → (t : Tree) →
    InOrder start (annotationSpans start t) (start + (fullText t.tokens).length)
  | start, leaf u => Nat.le_add_right _ _
  | start, node kind role children => by
    rw [annotationSpans, tokens]
    split
    · have hlead := leadLength_le (tokensAll children)
      exact ⟨Nat.le_add_right _ _, Nat.add_le_add_left hlead start, le_rfl⟩
    · exact inOrder_annotationSpansAll start children

theorem inOrder_annotationSpansAll : (start : Nat) → (ts : List Tree) →
    InOrder start (annotationSpansAll start ts) (start + (fullText (tokensAll ts)).length)
  | start, [] => Nat.le_add_right _ _
  | start, t :: ts => by
    rw [annotationSpansAll, tokensAll, fullText_append, List.length_append, ← Nat.add_assoc]
    exact (inOrder_annotationSpans start t).append (inOrder_annotationSpansAll _ ts)

end

/-! ### The text between the spans -/

/-- The text of pieces with what stands in front of each. -/
def pieceRow (ps : List Piece) : List Char := ps.flatMap fun p => p.lead.toList ++ p.text.toList

mutual

/-- **The text between the spans of the annotations** is that of the pieces. -/
theorem splice_annotationSpans : (pre post : List Char) → (t : Tree) →
    splice [' '] (pre ++ fullText t.tokens ++ post) (pre.length + (fullText t.tokens).length)
      pre.length (annotationSpans pre.length t) = pieceRow t.pieces
  | pre, post, leaf u => by
    rw [annotationSpans, splice, extract_append]
    simp [tokens, pieces, pieceRow, fullText]
  | pre, post, node kind role children => by
    rw [annotationSpans, pieces, tokens]
    split
    · -- up to the annotation there is only what is in front of its first token
      set us := tokensAll children
      set lead := (us.head?.map Token.leadText).getD ""
      have hfront : (pre ++ fullText us ++ post).extract pre.length (pre.length + leadLength us) =
          lead.toList := by
        rw [fullText_eq us, ← List.append_assoc pre, List.append_assoc (pre ++ lead.toList)]
        exact extract_append pre lead.toList _
      rw [spanOf, splice, splice, hfront, List.extract_eq_take_drop, Nat.sub_self, List.take_zero]
      simp [pieceRow]
    · exact splice_annotationSpansAll pre post children

theorem splice_annotationSpansAll : (pre post : List Char) → (ts : List Tree) →
    splice [' '] (pre ++ fullText (tokensAll ts) ++ post)
      (pre.length + (fullText (tokensAll ts)).length) pre.length
      (annotationSpansAll pre.length ts) = pieceRow (piecesAll ts)
  | pre, post, [] => by
    rw [annotationSpansAll, splice, extract_append]
    rfl
  | pre, post, t :: ts => by
    have hfirst := inOrder_annotationSpans pre.length t
    have hrest := inOrder_annotationSpansAll (pre.length + (fullText t.tokens).length) ts
    -- the text is cut behind the first tree, and either part is copied from the same text
    have hcode : pre ++ (fullText t.tokens ++ fullText (tokensAll ts)) ++ post =
        pre ++ fullText t.tokens ++ (fullText (tokensAll ts) ++ post) := by
      simp only [List.append_assoc]
    have hcode' : pre ++ (fullText t.tokens ++ fullText (tokensAll ts)) ++ post =
        (pre ++ fullText t.tokens) ++ fullText (tokensAll ts) ++ post := by
      simp only [List.append_assoc]
    have ih := splice_annotationSpans pre (fullText (tokensAll ts) ++ post) t
    have ihs := splice_annotationSpansAll (pre ++ fullText t.tokens) post ts
    rw [List.length_append] at ihs
    rw [annotationSpansAll, tokensAll, piecesAll, fullText_append, List.length_append, ← Nat.add_assoc,
      splice_append hfirst hrest, pieceRow, List.flatMap_append, ← pieceRow, ← pieceRow, ← ih, ← ihs,
      ← hcode, ← hcode']

end

mutual

/-- The first piece has the same in front of it as the first token. -/
theorem head?_pieces : (t : Tree) → t.Everywhere NodeShape →
    t.pieces.head?.map Piece.lead = t.tokens.head?.map Token.leadText
  | leaf u, _ => rfl
  | node kind role children, h => by
    rw [pieces, tokens]
    split
    · next hkind =>
      obtain ⟨u, hu, -⟩ := (h.holds rfl).annotated hkind
      have htokens : tokensAll children ≠ [] := List.ne_nil_of_mem hu
      obtain ⟨v, vs, hvs⟩ := List.exists_cons_of_ne_nil htokens
      rw [hvs]
      rfl
    · exact head?_piecesAll children fun c hc => h.child hc

theorem head?_piecesAll : (ts : List Tree) → (∀ t ∈ ts, t.Everywhere NodeShape) →
    (piecesAll ts).head?.map Piece.lead = (tokensAll ts).head?.map Token.leadText
  | [], _ => rfl
  | t :: ts, h => by
    rw [piecesAll, tokensAll, List.head?_append, List.head?_append, Option.map_or, Option.map_or,
      head?_pieces t (h t List.mem_cons_self),
      head?_piecesAll ts fun c hc => h c (List.mem_cons_of_mem _ hc)]

end

theorem pieceRow_eq (ps : List Piece) :
    pieceRow ps = ((ps.head?.map Piece.lead).getD "").toList ++ (pieceText ps).toList := by
  cases ps with
  | nil => rfl
  | cons p ps =>
    simp [pieceRow, pieceText, String.toList_join, List.flatMap_map, List.append_assoc]

variable {t : Tree}

theorem AnnotatedWith.exists_sign {before : List Token} {a : Tree} (h : t.AnnotatedWith before a)
    (ht : t.Everywhere NodeShape) : ∃ u ∈ a.tokens, u.text = "@" := by
  obtain ⟨hcontains, huse⟩ := h
  cases a with
  | leaf u => cases huse
  | node kind role children => exact ((hcontains.everywhere ht).holds huse).annotated rfl

theorem start_lt_stop_of_mem (ht : t.Everywhere NodeShape) {start : Nat} {s : Span}
    (hs : s ∈ annotationSpans start t) : s.start < s.stop := by
  obtain ⟨before, a, ha, rfl⟩ := (mem_annotationSpans start t).1 hs
  obtain ⟨u, hu, htext⟩ := ha.exists_sign ht
  exact Nat.add_lt_add_left (leadLength_lt hu (by simp [htext])) _

theorem le_start_of_mem (ht : t.Everywhere NodeShape) {start : Nat} {s : Span}
    (hs : s ∈ annotationSpans start t) : (spanOf start t.tokens).start ≤ s.start := by
  obtain ⟨before, a, ha, rfl⟩ := (mem_annotationSpans start t).1 hs
  obtain ⟨after, htokens⟩ := ha.1.exists_tokens
  obtain ⟨u, hu, -⟩ := ha.exists_sign ht
  -- the first token of the tree is in front of the annotation or is its `@`
  have hlead := leadLength_append before (List.ne_nil_of_mem hu) after
  rw [← htokens] at hlead
  change start + leadLength t.tokens ≤ start + (fullText before).length + leadLength a.tokens
  omega

/-- The spans of the annotations in a node are in order between its start and its end. -/
theorem inOrder_spanOf (ht : t.Everywhere NodeShape) (start : Nat) :
    InOrder (spanOf start t.tokens).start (annotationSpans start t) (spanOf start t.tokens).stop := by
  have hle := leadLength_le t.tokens
  refine (inOrder_annotationSpans start t).from_of_le ?_ fun s hs => le_start_of_mem ht hs
  exact Nat.add_le_add_left hle start

theorem extract_spanOf (pre post : List Char) (us : List Token) :
    (pre ++ fullText us ++ post).extract (spanOf pre.length us).start (spanOf pre.length us).stop =
      (spanText us).toList := by
  have hpre : (spanOf pre.length us).start =
      (pre ++ ((us.head?.map Token.leadText).getD "").toList).length := by
    rw [spanOf, List.length_append, leadLength]
  have hstop : (spanOf pre.length us).stop =
      (pre ++ ((us.head?.map Token.leadText).getD "").toList).length + (spanText us).toList.length := by
    rw [spanOf, fullText_eq us, List.length_append, List.length_append, Nat.add_assoc]
  rw [hpre, hstop, fullText_eq us, ← List.append_assoc pre]
  exact extract_append _ _ _

/-- The text of the pieces of a node is its text with a blank in the place of each span. -/
theorem splice_spanOf (ht : t.Everywhere NodeShape) (pre post : List Char) :
    splice [' '] (pre ++ fullText t.tokens ++ post) (spanOf pre.length t.tokens).stop
      (spanOf pre.length t.tokens).start (annotationSpans pre.length t) =
        (pieceText t.pieces).toList := by
  have hrow : splice [' '] (pre ++ fullText t.tokens ++ post) (spanOf pre.length t.tokens).stop
      pre.length (annotationSpans pre.length t) = pieceRow t.pieces :=
    splice_annotationSpans pre post t
  have hfront : (pre ++ fullText t.tokens ++ post).extract pre.length
      (spanOf pre.length t.tokens).start = ((t.pieces.head?.map Piece.lead).getD "").toList := by
    rw [head?_pieces t ht, fullText_eq, ← List.append_assoc pre, List.append_assoc (pre ++ _)]
    exact extract_append pre _ _
  -- up to the first token there is no span, so the front is the same on both sides
  rw [splice_from (Nat.le_add_right _ _) (inOrder_spanOf ht pre.length), pieceRow_eq, ← hfront] at hrow
  exact List.append_cancel_left hrow

end Tree

/-- What becomes of a node whose trivia start at a place of a text: **its type text is the text with
the outermost annotations cut out**, each of them once and in order, and erases as that text does,
whatever blanks stand in their place. -/
structure CutsOut (code : List Char) (start : Nat) (t : Tree) : Prop where
  text : code.extract (spanOf start t.tokens).start (spanOf start t.tokens).stop = t.text.toList
  inOrder : InOrder (spanOf start t.tokens).start (t.annotationSpans start)
    (spanOf start t.tokens).stop
  nonempty : ∀ s ∈ t.annotationSpans start, s.start < s.stop
  outermost : ∀ s, s ∈ t.annotationSpans start ↔ ∃ before a, t.AnnotatedWith before a ∧
    s = spanOf (start + (fullText before).length) a.tokens
  typeText : typeText t = tidyType (String.ofList (splice [' '] code (spanOf start t.tokens).stop
    (spanOf start t.tokens).start (t.annotationSpans start)))
  erases : ∀ fill, (∀ c ∈ fill, isBlank c = true) → ∀ parameters,
    erase parameters (Source.typeText t) =
      erase parameters (String.ofList (splice fill code (spanOf start t.tokens).stop
        (spanOf start t.tokens).start (t.annotationSpans start)))

/-- Up to blanks, a type text is the text between the spans. -/
theorem solid_typeText {t : Tree} (ht : t.Everywhere NodeShape) (pre post : List Char) :
    solid (typeText t).toList = solid (splice [] (pre ++ fullText t.tokens ++ post)
      (spanOf pre.length t.tokens).stop (spanOf pre.length t.tokens).start
      (t.annotationSpans pre.length)) := by
  have hspace : ∀ c ∈ [' '], isBlank c = true := by
    intro c hc
    rw [List.mem_singleton.1 hc]
    decide
  rw [typeText, solid_tidyType, ← Tree.splice_spanOf ht pre post, solid_splice hspace]

theorem cutsOut {t : Tree} (ht : t.Everywhere NodeShape) (pre post : List Char) :
    CutsOut (pre ++ fullText t.tokens ++ post) pre.length t := by
  refine ⟨Tree.extract_spanOf pre post t.tokens, Tree.inOrder_spanOf ht pre.length,
    fun s hs => Tree.start_lt_stop_of_mem ht hs, fun s => Tree.mem_annotationSpans pre.length t, ?_,
    fun fill hfill parameters => ?_⟩
  · rw [Tree.splice_spanOf ht pre post, String.ofList_toList, typeText]
  · -- erasure sees no blanks, so it does not matter which of them stand in the place of annotations
    refine erase_congr (reads_of_solid_eq ?_ 0) parameters
    rw [solid_typeText ht pre post, String.toList_ofList, solid_splice hfill]

/-- **Annotations in the types of a text**: every node of a tree that spells the text is read with
exactly its outermost annotations cut out of it. -/
theorem Tree.Spells.cutsOut {code : List Char} {tree t : Tree} {before : List Token}
    {p : NodeKind → Bool} (h : tree.Spells code) (ht : tree.Contains p before t) :
    CutsOut code (fullText before).length t := by
  obtain ⟨trail, htrail⟩ := h.covers
  obtain ⟨after, htokens⟩ := ht.exists_tokens
  rw [htokens, fullText_append, fullText_append, List.append_assoc] at htrail
  rw [htrail]
  exact Source.cutsOut (ht.everywhere h.shaped) (fullText before) (fullText after ++ trail)

end MemberSpec.Source
