import Mathlib
import MemberSpec.Proofs.Javadoc.Reading

/-!
# Line ends and indentation of documentation comments

Two texts are the same comment if they differ only in the ends of their lines, a line feed alone or behind
a carriage return, and in the blanks before the lines (`Relaid`). The blanks may be any but line feeds, also
carriage returns.

The relation is kept by every step of reading. Nothing changes inside a line, so characters that are not
blank stay next to each other, and both texts have the same marks at their ends (`Relaid.stripLead`,
`Relaid.stripTrail`). What remains differs at the ends of lines in blanks only, and cleaning a line does not see
these (`cleanLine_indent`, `cleanLine_append_of_blank`).

* `Relaid.split`, `Relaid.split_at`: cuts of the one text and of the other.
* `Relaid.body`: the texts between the marks are laid out differently, and no more than that.
* `parse_relaid`: both texts are read alike.
-/

namespace MemberSpec.Javadoc

open Text

/-- Blanks that can be put before a line. -/
def IsIndent (bs : List Char) : Prop := ∀ c ∈ bs, isBlank c = true ∧ c ≠ '\n'

/-- The ends of lines, as the text before a line is laid out. -/
inductive IsLineEnd : List Char → Prop where
  | feed : IsLineEnd ['\n']
  | returnFeed : IsLineEnd ['\r', '\n']

/-- The second text is the first one with other line ends and with more blanks before the lines behind
them. -/
inductive Relaid : List Char → List Char → Prop where
  | nil : Relaid [] []
  | char {c : Char} {cs ds : List Char} : c ≠ '\n' → Relaid cs ds → Relaid (c :: cs) (c :: ds)
  | line {lineEnd indent cs ds : List Char} : IsLineEnd lineEnd → IsIndent indent → Relaid cs ds →
      Relaid ('\n' :: cs) (lineEnd ++ indent ++ ds)

variable {cs ds a b d lead trail : List Char} {c : Char}

theorem isBlank_return : ∀ c ∈ ['\r'], isBlank c = true := by
  rw [List.forall_mem_singleton]
  decide

theorem IsLineEnd.blank (h : IsLineEnd d) : ∀ c ∈ d, isBlank c = true := by
  cases h with
  | feed =>
    rw [List.forall_mem_singleton]
    decide
  | returnFeed =>
    rw [List.forall_mem_cons, List.forall_mem_singleton]
    decide

theorem isBlank_of_mem_line {lineEnd indent : List Char} (hend : IsLineEnd lineEnd)
    (hindent : IsIndent indent) (h : c ∈ lineEnd ++ indent) : isBlank c = true := by
  rcases List.mem_append.1 h with h | h
  · exact hend.blank c h
  · exact (hindent c h).1

namespace Relaid

theorem of_free (h : '\n' ∉ cs) : Relaid cs cs := by
  induction cs with
  | nil => exact .nil
  | cons c cs ih =>
    rw [List.mem_cons, not_or] at h
    exact .char (Ne.symm h.1) (ih h.2)

theorem append (h : Relaid a cs) (h' : Relaid b ds) : Relaid (a ++ b) (cs ++ ds) := by
  induction h with
  | nil => exact h'
  | char hc _ ih => exact .char hc ih
  | line hend hindent _ ih =>
    rw [List.append_assoc]
    exact .line hend hindent ih

theorem blank (h : Relaid cs ds) (hcs : ∀ c ∈ cs, isBlank c = true) : ∀ c ∈ ds, isBlank c = true := by
  induction h with
  | nil => exact hcs
  | char _ _ ih =>
    rw [List.forall_mem_cons] at hcs ⊢
    exact ⟨hcs.1, ih hcs.2⟩
  | line hend hindent _ ih =>
    intro c hc
    rcases List.mem_append.1 hc with hc | hc
    · exact isBlank_of_mem_line hend hindent hc
    · exact ih (fun c hc => hcs c (List.mem_cons_of_mem _ hc)) c hc

/-- A cut of the first text is one of the second. -/
theorem split (h : Relaid (a ++ b) ds) : ∃ as bs, ds = as ++ bs ∧ Relaid a as ∧ Relaid b bs := by
  induction a generalizing ds with
  | nil => exact ⟨[], ds, rfl, .nil, h⟩
  | cons c a ih =>
    cases h with
    | char hc hrest =>
      obtain ⟨as, bs, rfl, ha, hb⟩ := ih hrest
      exact ⟨c :: as, bs, rfl, .char hc ha, hb⟩
    | @line lineEnd indent _ ds hend hindent hrest =>
      obtain ⟨as, bs, rfl, ha, hb⟩ := ih hrest
      exact ⟨lineEnd ++ indent ++ as, bs, by simp, .line hend hindent ha, hb⟩

/-- A cut of the second text before a character that is not blank is one of the first. -/
theorem split_at (hc : isBlank c = false) (h : Relaid cs (a ++ c :: b)) :
    ∃ as bs, cs = as ++ c :: bs ∧ Relaid as a ∧ Relaid bs b := by
  generalize hds : a ++ c :: b = ds at h
  induction h generalizing a with
  | nil => simp at hds
  | @char c' cs ds hbreak hrest ih =>
    cases a with
    | nil =>
      obtain ⟨rfl, rfl⟩ := List.cons.inj hds
      exact ⟨[], cs, rfl, .nil, hrest⟩
    | cons a' a =>
      obtain ⟨rfl, hmore⟩ := List.cons.inj hds
      obtain ⟨as, bs, rfl, ha, hb⟩ := ih hmore
      exact ⟨a' :: as, bs, rfl, .char hbreak ha, hb⟩
  | @line lineEnd indent cs ds hend hindent hrest ih =>
    -- the character is behind the blanks between the two lines
    obtain ⟨a', rfl, hmore⟩ : ∃ a', a = lineEnd ++ indent ++ a' ∧ a' ++ c :: b = ds := by
      rcases List.append_eq_append_iff.1 hds with ⟨blanks, hblanks, hmore⟩ | ⟨a', ha', hmore⟩
      · cases blanks with
        | nil => exact ⟨[], by simpa using hblanks.symm, by simpa using hmore⟩
        | cons d blanks =>
          obtain ⟨rfl, -⟩ := List.cons.inj hmore
          have hmem : c ∈ lineEnd ++ indent := hblanks ▸ List.mem_append_right _ List.mem_cons_self
          rw [isBlank_of_mem_line hend hindent hmem] at hc
          cases hc
      · exact ⟨a', ha', hmore.symm⟩
    obtain ⟨as, bs, rfl, ha, hb⟩ := ih hmore
    exact ⟨'\n' :: as, bs, rfl, .line hend hindent ha, hb⟩

theorem eq_nil (h : Relaid cs []) : cs = [] := by
  generalize hds : ([] : List Char) = ds at h
  cases h with
  | nil => rfl
  | char => cases hds
  | line hend => cases hend <;> simp at hds

/-- A word stays as it is. -/
theorem eq_of_word (h : Relaid a ds) (ha : ∀ c ∈ a, isBlank c = false) : ds = a := by
  induction a generalizing ds with
  | nil =>
    cases h
    rfl
  | cons c a ih =>
    rw [List.forall_mem_cons] at ha
    cases h with
    | char _ hrest => rw [ih hrest ha.2]
    | line => exact absurd ha.1 (by decide)

/-- A word at the start of the second text is at the start of the first. -/
theorem start_of_word (h : Relaid cs (a ++ b)) (ha : ∀ c ∈ a, isBlank c = false) :
    ∃ bs, cs = a ++ bs ∧ Relaid bs b := by
  induction a generalizing cs with
  | nil => exact ⟨cs, rfl, h⟩
  | cons c a ih =>
    rw [List.forall_mem_cons] at ha
    obtain ⟨as, bs, rfl, has, hbs⟩ := h.split_at (a := []) ha.1
    obtain ⟨rest, rfl, hrest⟩ := ih hbs ha.2
    rw [has.eq_nil]
    exact ⟨rest, rfl, hrest⟩

theorem end_of_word (h : Relaid cs (a ++ b)) (hb : ∀ c ∈ b, isBlank c = false) :
    ∃ as, cs = as ++ b ∧ Relaid as a := by
  cases b with
  | nil => exact ⟨cs, by simp, by simpa using h⟩
  | cons c b =>
    rw [List.forall_mem_cons] at hb
    obtain ⟨as, bs, rfl, has, hbs⟩ := h.split_at hb.1
    obtain ⟨rest, rfl, hrest⟩ := start_of_word (a := b) (b := []) (by simpa using hbs) hb.2
    rw [hrest.eq_nil, List.append_nil]
    exact ⟨as, rfl, has⟩

/-! ## Trimming and marks -/

theorem trimStart (h : Relaid cs ds) : Relaid (trimStart cs) (trimStart ds) := by
  obtain ⟨bs, hbs, hblank⟩ := exists_trimStart cs
  rw [hbs] at h
  obtain ⟨bs', core, rfl, hstart, hcore⟩ := h.split
  rw [trimStart_append_of_blank (hstart.blank hblank)]
  -- the first character that is left is not blank, so nothing more comes off
  have hfixed : Text.trimStart core = core := by
    rcases hstart' : Text.trimStart cs with _ | ⟨c, rest⟩
    · rw [hstart'] at hcore
      cases hcore
      rfl
    · have hc : isBlank c = false :=
        trimStart_eq_self_iff.1 (trimStart_trimStart cs) c (by rw [hstart', List.head?_cons])
      rw [hstart', ← List.singleton_append] at hcore
      obtain ⟨first, rest', rfl, hfirst, -⟩ := hcore.split
      rw [hfirst.eq_of_word (by simpa using hc), List.singleton_append, trimStart_eq_self_iff]
      simpa using hc
  rwa [hfixed]

theorem trimEnd (h : Relaid cs ds) : Relaid (trimEnd cs) (trimEnd ds) := by
  obtain ⟨bs, hbs, hblank⟩ := exists_trimEnd cs
  rw [hbs] at h
  obtain ⟨core, bs', rfl, hcore, hend⟩ := h.split
  rw [trimEnd_append_of_blank (hend.blank hblank)]
  have hfixed : Text.trimEnd core = core := by
    rcases List.eq_nil_or_concat' (Text.trimEnd cs) with hnil | ⟨start, c, hconcat⟩
    · rw [hnil] at hcore
      cases hcore
      rfl
    · have hc : isBlank c = false :=
        trimEnd_eq_self_iff.1 (trimEnd_trimEnd cs) c (by rw [hconcat, List.getLast?_concat])
      rw [hconcat] at hcore
      obtain ⟨start', last, rfl, -, hlast⟩ := hcore.split
      rw [hlast.eq_of_word (by simpa using hc), trimEnd_eq_self_iff]
      simpa using hc
  rwa [hfixed]

theorem stripLead (h : Relaid cs ds) (hlead : ∀ c ∈ lead, isBlank c = false) :
    Relaid ((stripLead lead cs).getD cs) ((stripLead lead ds).getD ds) := by
  unfold Text.stripLead
  simp only [List.isPrefixOf_iff_prefix]
  by_cases hcs : lead <+: cs
  · obtain ⟨rest, rfl⟩ := hcs
    obtain ⟨lead', rest', rfl, hsame, hrest⟩ := h.split
    rw [hsame.eq_of_word hlead]
    simpa using hrest
  · have hds : ¬ lead <+: ds := by
      rintro ⟨rest', rfl⟩
      obtain ⟨rest, rfl, -⟩ := h.start_of_word hlead
      exact hcs (List.prefix_append _ _)
    rw [if_neg hcs, if_neg hds]
    exact h

theorem stripTrail (h : Relaid cs ds) (htrail : ∀ c ∈ trail, isBlank c = false) :
    Relaid ((stripTrail trail cs).getD cs) ((stripTrail trail ds).getD ds) := by
  unfold Text.stripTrail
  simp only [List.isSuffixOf_iff_suffix]
  by_cases hcs : trail <:+ cs
  · obtain ⟨rest, rfl⟩ := hcs
    obtain ⟨rest', trail', rfl, hrest, hsame⟩ := h.split
    rw [hsame.eq_of_word htrail]
    simpa using hrest
  · have hds : ¬ trail <:+ ds := by
      rintro ⟨rest', rfl⟩
      obtain ⟨rest, rfl, -⟩ := h.end_of_word htrail
      exact hcs (List.suffix_append _ _)
    rw [if_neg hcs, if_neg hds]
    exact h

/-- **The texts between the marks** differ in their layout only. -/
theorem body (h : Relaid cs ds) {indent : List Char} (hindent : IsIndent indent) :
    Relaid (body cs) (body (indent ++ ds)) := by
  have htrim : trim (indent ++ ds) = trim ds := by
    rw [trim, trimStart_append_of_blank fun c hc => (hindent c hc).1, trim]
  unfold Javadoc.body
  rw [htrim]
  exact (h.trimStart.trimEnd.stripLead (isBlank_eq_false_of_all (by decide))).stripTrail
    (isBlank_eq_false_of_all (by decide))

end Relaid

/-! ## Cleaning lines -/

theorem exists_unstar_append {line bs : List Char} (hne : line ≠ [])
    (h : ∀ c ∈ bs, isBlank c = true) :
    ∃ bs', unstar (line ++ bs) = unstar line ++ bs' ∧ ∀ c ∈ bs', isBlank c = true := by
  obtain ⟨c, rest, rfl⟩ := List.exists_cons_of_ne_nil hne
  by_cases hc : c = '*'
  · subst hc
    cases rest with
    | nil =>
      -- the star is all there is, so the space behind it may be one of the blanks
      refine ⟨unstar ('*' :: bs), rfl, fun c hc => ?_⟩
      unfold unstar at hc
      split at hc
      · rename_i heq
        obtain ⟨-, rfl⟩ := List.cons.inj heq
        exact absurd (h '/' List.mem_cons_self) (by decide)
      · rename_i heq
        obtain ⟨-, rfl⟩ := List.cons.inj heq
        exact h c (List.mem_cons_of_mem _ hc)
      · rename_i heq
        obtain ⟨-, rfl⟩ := List.cons.inj heq
        exact h c hc
      · rename_i hother
        exact absurd rfl (hother bs)
    | cons d rest =>
      refine ⟨bs, ?_, h⟩
      by_cases hslash : d = '/'
      · subst hslash
        rfl
      · by_cases hspace : d = ' '
        · subst hspace
          rfl
        · simp [unstar, hslash, hspace]
  · refine ⟨bs, ?_, h⟩
    simp [unstar, hc]

theorem cleanLine_append_of_blank {bs : List Char} (h : ∀ c ∈ bs, isBlank c = true)
    (line : List Char) : cleanLine (line ++ bs) = cleanLine line := by
  rw [cleanLine, cleanLine]
  by_cases hline : trimStart line = []
  · obtain ⟨blanks, hblanks, hblank⟩ := exists_trimStart line
    rw [hline, List.append_nil] at hblanks
    have hbs : trimStart bs = [] := List.dropWhile_eq_nil_iff.2 h
    rw [hline, hblanks, trimStart_append_of_blank hblank, hbs]
  · obtain ⟨bs', hunstar, hblank⟩ := exists_unstar_append hline h
    rw [trimStart_append_of_ne_nil hline, hunstar, trimEnd_append_of_blank hblank]

theorem cleanLine_indent {bs : List Char} (h : ∀ c ∈ bs, isBlank c = true) (line : List Char) :
    cleanLine (bs ++ line) = cleanLine line := by
  rw [cleanLine, cleanLine, trimStart_append_of_blank h]

theorem cleanLine_dropReturn (line : List Char) : cleanLine (dropReturn line) = cleanLine line := by
  unfold dropReturn
  split
  · rename_i hreturn
    obtain ⟨start, rfl⟩ := List.getLast?_eq_some_iff.1 (beq_iff_eq.1 hreturn)
    rw [List.dropLast_concat, cleanLine_append_of_blank isBlank_return]
  · rfl

theorem withoutEmptyEnds_concat_nil (ls : List (List Char)) :
    withoutEmptyEnds (ls ++ [[]]) = withoutEmptyEnds ls := by
  unfold withoutEmptyEnds
  rw [List.dropWhile_append]
  split
  · rename_i hempty
    rw [List.isEmpty_iff.1 hempty]
    rfl
  · rw [List.reverse_append]
    rfl

/-- Carriage returns and a last line without text make no difference for the lines of a comment. -/
theorem cleanLines_eq (raw : List Char) :
    cleanLines raw = withoutEmptyEnds ((splitAt (· == '\n') (body raw)).map cleanLine) := by
  have hdrop : ∀ ls : List (List Char), (ls.map dropReturn).map cleanLine = ls.map cleanLine := by
    intro ls
    rw [List.map_map]
    exact List.map_congr_left fun line _ => cleanLine_dropReturn line
  rw [cleanLines, lines, getLast?_splitAt, Option.getD_some, List.map_append, hdrop]
  conv_rhs => rw [splitAt_eq_concat, List.map_append]
  split
  · rename_i hempty
    rw [List.isEmpty_iff.1 hempty, List.map_nil, List.append_nil]
    exact (withoutEmptyEnds_concat_nil _).symm
  · rfl

/-- Texts that differ in their layout have the same lines without marks. -/
theorem Relaid.map_cleanLine (h : Relaid cs ds) :
    (splitAt (· == '\n') ds).map cleanLine = (splitAt (· == '\n') cs).map cleanLine := by
  -- inside a line the first pieces are equal, up to the carriage return that may end the line
  suffices hpieces : ∃ first rest tail rest', splitAt (· == '\n') cs = first :: rest ∧
      splitAt (· == '\n') ds = (first ++ tail) :: rest' ∧ (∀ c ∈ tail, isBlank c = true) ∧
      rest'.map cleanLine = rest.map cleanLine by
    obtain ⟨first, rest, tail, rest', hcs, hds, htail, hrest⟩ := hpieces
    rw [hcs, hds, List.map_cons, List.map_cons, cleanLine_append_of_blank htail, hrest]
  induction h with
  | nil => exact ⟨[], [], [], [], rfl, rfl, by simp, rfl⟩
  | @char c cs ds hc _ ih =>
    obtain ⟨first, rest, tail, rest', hcs, hds, htail, hrest⟩ := ih
    have hfree : ∀ c' ∈ [c], (c' == '\n') = false := by simpa using hc
    exact ⟨c :: first, rest, tail, rest', splitAt_append_of_free hfree hcs,
      splitAt_append_of_free hfree hds, htail, hrest⟩
  | @line lineEnd indent cs ds hend hindent _ ih =>
    obtain ⟨first, rest, tail, rest', hcs, hds, htail, hrest⟩ := ih
    have hfree : ∀ c ∈ indent, (c == '\n') = false := by
      intro c hc
      simpa using (hindent c hc).2
    have hnext : splitAt (· == '\n') (indent ++ ds) = (indent ++ (first ++ tail)) :: rest' :=
      splitAt_append_of_free hfree hds
    have hclean : cleanLine (indent ++ (first ++ tail)) = cleanLine first := by
      rw [cleanLine_indent fun c hc => (hindent c hc).1, cleanLine_append_of_blank htail]
    have hlater : ((indent ++ (first ++ tail)) :: rest').map cleanLine =
        (first :: rest).map cleanLine := by
      rw [List.map_cons, List.map_cons, hclean, hrest]
    have hbreak : splitAt (· == '\n') ('\n' :: cs) = [] :: first :: rest := by
      rw [← hcs]
      rfl
    cases hend with
    | feed => exact ⟨[], _, [], _, hbreak, by rw [List.nil_append, ← hnext]; rfl, by simp, hlater⟩
    | returnFeed =>
      exact ⟨[], _, ['\r'], _, hbreak, by rw [List.nil_append, ← hnext]; rfl, isBlank_return, hlater⟩

/-- **Reading ignores line ends and indentation.** -/
theorem parse_relaid (raw : String) {indent ds : List Char} (hindent : IsIndent indent)
    (h : Relaid raw.toList ds) : parse (String.ofList (indent ++ ds)) = parse raw := by
  have hlines : cleanLines (indent ++ ds) = cleanLines raw.toList := by
    rw [cleanLines_eq, cleanLines_eq, (h.body hindent).map_cleanLine]
  rw [parse, String.toList_ofList, hlines, parse]

/-- A comment with line feeds and without indentation. -/
def plainComment : String := "/**\n* Opens\n\n@see Lid\n*/"

/-- The same comment with three carriage returns, and with blanks before two lines. -/
def relaidComment : String := "/**\r\n\u2003* Opens\r\n\r\n@see Lid\n \r*/"

theorem parse_relaid_box :
    IsIndent ['\t'] ∧ Relaid plainComment.toList relaidComment.toList ∧
      parse (String.ofList (['\t'] ++ relaidComment.toList)) = parse plainComment := by
  have hindent : ∀ bs : List Char, bs.all (fun c => isBlank c && c != '\n') = true → IsIndent bs :=
    fun bs h c hc => by simpa using List.all_eq_true.1 h c hc
  have hplain : plainComment.toList = "/**".toList ++ '\n' :: ("* Opens".toList ++
      '\n' :: ([] ++ '\n' :: ("@see Lid".toList ++ '\n' :: "*/".toList))) := by decide +kernel
  have hlaid : relaidComment.toList = "/**".toList ++ (['\r', '\n'] ++ ['\u2003'] ++
      ("* Opens".toList ++ (['\r', '\n'] ++ [] ++ ([] ++ (['\r', '\n'] ++ [] ++
      ("@see Lid".toList ++ (['\n'] ++ [' ', '\r'] ++ "*/".toList))))))) := by decide +kernel
  have hrelaid : Relaid plainComment.toList relaidComment.toList := by
    rw [hplain, hlaid]
    refine (Relaid.of_free (by decide)).append (.line .returnFeed (hindent _ (by decide)) ?_)
    refine (Relaid.of_free (by decide)).append (.line .returnFeed (hindent _ (by decide)) ?_)
    refine (Relaid.of_free (by decide)).append (.line .returnFeed (hindent _ (by decide)) ?_)
    refine (Relaid.of_free (by decide)).append (.line .feed (hindent _ (by decide)) ?_)
    exact Relaid.of_free (by decide)
  exact ⟨hindent _ (by decide), hrelaid, parse_relaid _ (hindent _ (by decide)) hrelaid⟩

end MemberSpec.Javadoc
