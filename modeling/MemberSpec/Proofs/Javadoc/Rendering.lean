import Mathlib
import MemberSpec.Javadoc
import MemberSpec.Proofs.Blanks
import MemberSpec.Proofs.Pieces

/-!
# Writing documentation comments

A description and block tags are written as a comment with a star before every line. Reading the
comment gives them back (`Javadoc.parse_render`), if they are in the form that reading gives: trimmed,
without blanks at the ends of lines, and with no line that would be taken for the start of a tag.

* `cleanLines_frame`: the marks come off again, whatever the lines look like.
* `groupTags_flatten`: the lines of the tags are told apart again.
* `parseTag_text`: a tag is read as it was written.
-/

namespace MemberSpec

open Text

namespace BlockTagKind

/-- The kinds that have a name of their own. -/
def standard : List BlockTagKind :=
  [author, deprecated, exception, param, returns, see, serial, serialData, serialField, since,
   throws, version]

/-- The name of an unknown kind is a word that starts with a letter, and not a standard name. -/
def IsNormal : BlockTagKind → Prop
  | unknown name =>
    (∀ c ∈ name.toList, isBlank c = false) ∧
      (∃ c, name.toList.head? = some c ∧ isAlphabetic c = true) ∧
      name ∉ standard.map BlockTagKind.name
  | _ => True

end BlockTagKind

namespace BlockTag

/-- A tag as reading gives it. A parameter tag has a name, which is empty only if nothing follows. -/
structure IsNormal (tag : BlockTag) : Prop where
  kind : tag.kind.IsNormal
  param_name : tag.kind = .param → ∃ name, tag.name = some name ∧
    (∀ c ∈ name.toList, isBlank c = false) ∧ (name = "" → tag.content = "")
  other_name : tag.kind ≠ .param → tag.name = none
  trimmed : trim tag.content.toList = tag.content.toList
  line_ends : ∀ line ∈ splitAt (· == '\n') tag.content.toList, trimEnd line = line
  no_tag : ∀ line ∈ (splitAt (· == '\n') tag.content.toList).tail, Javadoc.startsTag line = false

/-- A word behind a space, if there is one. -/
def spaced (word : List Char) : List Char := if word = [] then [] else ' ' :: word

/-- What is written before the content of a tag: `@`, the tag and the name that it may have. -/
def start (tag : BlockTag) : List Char :=
  '@' :: tag.kind.name.toList ++ spaced (tag.name.getD "").toList

/-- A tag as it is written. -/
def text (tag : BlockTag) : List Char := tag.start ++ spaced tag.content.toList

end BlockTag

namespace Javadoc

/-- The lines of a text: none of the empty text. -/
def textLines (text : List Char) : List (List Char) :=
  if text = [] then [] else splitAt (· == '\n') text

/-- The lines of a description and of its tags. -/
def allLines (doc : Javadoc) : List (List Char) :=
  textLines doc.description.toList ++ doc.blockTags.flatMap fun tag => textLines tag.text

/-- A line behind a star and a space. -/
def starred (line : List Char) : List Char := ' ' :: '*' :: ' ' :: line

/-- Lines between the marks of a comment. -/
def frame (ls : List (List Char)) : List Char :=
  joinLines (['/', '*', '*'] :: (ls.map starred ++ [[' ', '*', '/']]))

/-- Writes a comment. -/
def render (doc : Javadoc) : String := String.ofList (frame doc.allLines)

/-- A comment as reading gives it. -/
structure IsNormal (doc : Javadoc) : Prop where
  trimmed : trim doc.description.toList = doc.description.toList
  line_ends : ∀ line ∈ splitAt (· == '\n') doc.description.toList, trimEnd line = line
  no_tag : ∀ line ∈ splitAt (· == '\n') doc.description.toList, startsTag line = false
  tags : ∀ tag ∈ doc.blockTags, tag.IsNormal

/-! ## The marks of a comment -/

theorem body_frame (middle : List Char) :
    body (['/', '*', '*'] ++ middle ++ ['*', '/']) = middle := by
  have htrim : trim (['/', '*', '*'] ++ middle ++ ['*', '/']) =
      ['/', '*', '*'] ++ middle ++ ['*', '/'] := by
    rw [trim_eq_self_iff, trimStart_eq_self_iff, trimEnd_eq_self_iff]
    constructor
    · intro c hc
      cases hc
      decide
    · intro c hc
      rw [List.getLast?_append_of_ne_nil _ (by simp)] at hc
      cases hc
      decide
  have hlead : stripLead ['/', '*', '*'] (['/', '*', '*'] ++ middle ++ ['*', '/']) =
      some (middle ++ ['*', '/']) := by
    simp [stripLead, List.isPrefixOf]
  have htrail : stripTrail ['*', '/'] (middle ++ ['*', '/']) = some middle := by
    have hsuffix : ['*', '/'].isSuffixOf (middle ++ ['*', '/']) = true := by
      rw [List.isSuffixOf_iff_suffix]
      exact List.suffix_append middle _
    simp [stripTrail, hsuffix]
  simp only [body, htrim, hlead, htrail, Option.getD_some]

theorem joinLines_cons (l : List Char) {ls : List (List Char)} (hne : ls ≠ []) :
    joinLines (l :: ls) = l ++ '\n' :: joinLines ls := by
  unfold joinLines
  rw [List.intercalate_cons_of_ne_nil hne, List.append_assoc, List.singleton_append]

theorem joinLines_concat_append (ls : List (List Char)) (last trail : List Char) :
    joinLines (ls ++ [last ++ trail]) = joinLines (ls ++ [last]) ++ trail := by
  induction ls with
  | nil => simp [joinLines]
  | cons l ls ih =>
    rw [List.cons_append, List.cons_append, joinLines_cons l (by simp), joinLines_cons l (by simp), ih,
      List.append_assoc, List.cons_append]

/-- The text between the delimiters has an empty line before and a blank one behind the lines. -/
theorem body_frame_lines (ls : List (List Char)) :
    body (frame ls) = joinLines ([] :: ls.map starred ++ [[' ']]) := by
  have hlast : joinLines (ls.map starred ++ [[' ', '*', '/']]) =
      joinLines (ls.map starred ++ [[' ']]) ++ ['*', '/'] :=
    joinLines_concat_append _ [' '] ['*', '/']
  have hframe : frame ls = ['/', '*', '*'] ++ joinLines ([] :: (ls.map starred ++ [[' ']])) ++
      ['*', '/'] := by
    unfold frame
    rw [joinLines_cons ['/', '*', '*'] (by simp), joinLines_cons [] (by simp), hlast]
    simp
  rw [hframe, body_frame, List.cons_append]

/-- Lines that are joined come back, if the last one is not empty. -/
theorem lines_joinLines {ls : List (List Char)} {last : List Char}
    (hfree : ∀ line ∈ ls ++ [last], '\n' ∉ line) (hne : last ≠ [])
    (hreturn : ∀ line ∈ ls, line.getLast? ≠ some '\r') :
    lines (joinLines (ls ++ [last])) = ls ++ [last] := by
  have hpieces : splitAt (· == '\n') (joinLines (ls ++ [last])) = ls ++ [last] :=
    splitAt_intercalate rfl (by simp) fun line hline => beq_eq_false_of_notMem (hfree line hline)
  have hkeep : ls.map dropReturn = ls := by
    conv_rhs => rw [← List.map_id ls]
    refine List.map_congr_left fun line hline => ?_
    unfold dropReturn
    rw [if_neg (by simpa using hreturn line hline), id]
  simp [lines, hpieces, hkeep, hne]

theorem cleanLine_starred {line : List Char} (h : trimEnd line = line) :
    cleanLine (starred line) = line := by
  have hstart : trimStart (starred line) = '*' :: ' ' :: line := rfl
  simp only [cleanLine, hstart]
  exact h

theorem getLast?_starred_ne {line : List Char} (h : trimEnd line = line) :
    (starred line).getLast? ≠ some '\r' := by
  rcases eq_or_ne line [] with rfl | hne
  · decide
  · intro hlast
    rw [starred, List.getLast?_cons_of_ne_nil (by simp), List.getLast?_cons_of_ne_nil (by simp),
      List.getLast?_cons_of_ne_nil hne] at hlast
    exact absurd (trimEnd_eq_self_iff.1 h _ hlast) (by decide)

theorem dropWhile_isEmpty_eq_self {ls : List (List Char)} (h : ls.head? ≠ some []) :
    ls.dropWhile List.isEmpty = ls := by
  cases ls with
  | nil => rfl
  | cons l ls =>
    have hl : l.isEmpty = false := by simpa using h
    simp [hl]

theorem lines_body_frame {ls : List (List Char)} (hfree : ∀ line ∈ ls, '\n' ∉ line)
    (hends : ∀ line ∈ ls, trimEnd line = line) :
    lines (body (frame ls)) = [] :: ls.map starred ++ [[' ']] := by
  rw [body_frame_lines]
  apply lines_joinLines
  · intro line hline
    rcases List.mem_append.1 hline with hline | hline
    · rcases List.mem_cons.1 hline with rfl | hline
      · simp
      · obtain ⟨line, hmem, rfl⟩ := List.mem_map.1 hline
        simpa [starred] using hfree line hmem
    · rw [List.mem_singleton.1 hline]
      decide
  · simp
  · intro line hline
    rcases List.mem_cons.1 hline with rfl | hline
    · simp
    · obtain ⟨line, hmem, rfl⟩ := List.mem_map.1 hline
      exact getLast?_starred_ne (hends line hmem)

/-- Empty lines are dropped at both ends, and no others. -/
theorem dropWhile_isEmpty_ends {ls : List (List Char)} (hfirst : ls.head? ≠ some [])
    (hlast : ls.getLast? ≠ some []) :
    ((([] :: (ls ++ [[]])).dropWhile List.isEmpty).reverse.dropWhile List.isEmpty).reverse = ls := by
  rcases eq_or_ne ls [] with rfl | hne
  · rfl
  have hdrop : ∀ ms : List (List Char),
      ([] :: ms).dropWhile List.isEmpty = ms.dropWhile List.isEmpty := fun _ => rfl
  have hhead : (ls ++ [[]]).head? ≠ some [] := by rwa [List.head?_append_of_ne_nil _ hne]
  have hback : ls.reverse.head? ≠ some [] := by rwa [List.head?_reverse]
  rw [hdrop, dropWhile_isEmpty_eq_self hhead, List.reverse_append, List.reverse_singleton,
    List.singleton_append, hdrop, dropWhile_isEmpty_eq_self hback, List.reverse_reverse]

/-- **The marks come off again.** -/
theorem cleanLines_frame {ls : List (List Char)} (hfree : ∀ line ∈ ls, '\n' ∉ line)
    (hends : ∀ line ∈ ls, trimEnd line = line) (hfirst : ls.head? ≠ some [])
    (hlast : ls.getLast? ≠ some []) : cleanLines (frame ls) = ls := by
  have hmap : (ls.map starred).map cleanLine = ls := by
    conv_rhs => rw [← List.map_id ls]
    rw [List.map_map]
    exact List.map_congr_left fun line hline => cleanLine_starred (hends line hline)
  -- the two lines of the delimiters are left empty
  have hclean : (lines (body (frame ls))).map cleanLine = [] :: (ls ++ [[]]) := by
    rw [lines_body_frame hfree hends, List.cons_append, List.map_cons, List.map_append, hmap]
    rfl
  simp only [cleanLines, hclean]
  exact dropWhile_isEmpty_ends hfirst hlast

/-! ## The lines of a text -/

variable {t : List Char}

theorem joinLines_textLines (t : List Char) : joinLines (textLines t) = t := by
  unfold textLines
  split
  · rename_i hempty
    rw [hempty]
    rfl
  · exact intercalate_splitAt '\n' t

theorem mem_splitAt_of_mem_textLines {line : List Char} (h : line ∈ textLines t) :
    line ∈ splitAt (· == '\n') t := by
  unfold textLines at h
  split at h
  · cases h
  · exact h

theorem free_of_mem_textLines {line : List Char} (h : line ∈ textLines t) : '\n' ∉ line :=
  fun hmem => by simpa using (of_mem_splitAt (mem_splitAt_of_mem_textLines h) _ hmem).2

/-- The first line of a trimmed text is not empty. -/
theorem head?_textLines_ne (h : trim t = t) : (textLines t).head? ≠ some [] := by
  unfold textLines
  split
  · simp
  · rename_i hne
    obtain ⟨c, cs, rfl⟩ := List.exists_cons_of_ne_nil hne
    have hc : isBlank c = false := trimStart_eq_self_iff.1 (trim_eq_self_iff.1 h).1 c rfl
    have hbreak : (c == '\n') = false := by
      rw [beq_eq_false_iff_ne]
      rintro rfl
      exact absurd hc (by decide)
    obtain ⟨first, rest, hpieces⟩ : ∃ first rest, splitAt (· == '\n') cs = first :: rest :=
      List.exists_cons_of_ne_nil (splitAt_ne_nil cs)
    rw [splitAt, hbreak, hpieces]
    simp

/-- The last line of a trimmed text is not empty. -/
theorem getLast?_textLines_ne (h : trim t = t) : (textLines t).getLast? ≠ some [] := by
  unfold textLines
  split
  · simp
  · rename_i hne
    rw [getLast?_splitAt]
    intro hempty
    have hempty : lastPiece (· == '\n') t = [] := by simpa using hempty
    obtain ⟨-, hall | ⟨before, s, hs, hall⟩⟩ := lastPiece_cases (· == '\n') t
    · exact hne (hall.trans hempty)
    · rw [hempty] at hall
      have hblank : isBlank s = false :=
        trimEnd_eq_self_iff.1 (trim_eq_self_iff.1 h).2 s (by rw [hall, List.getLast?_concat])
      have hbreak : s = '\n' := by simpa using hs
      rw [hbreak] at hblank
      exact absurd hblank (by decide)

theorem getLast?_flatMap_ne {tags : List BlockTag} {f : BlockTag → List (List Char)}
    (h : ∀ tag ∈ tags, (f tag).getLast? ≠ some []) : (tags.flatMap f).getLast? ≠ some [] := by
  induction tags with
  | nil => simp
  | cons tag tags ih =>
    rw [List.flatMap_cons, List.getLast?_append, Ne, Option.or_eq_some_iff]
    rintro (hlast | ⟨-, hlast⟩)
    · exact ih (fun tag htag => h tag (List.mem_cons_of_mem _ htag)) hlast
    · exact h tag List.mem_cons_self hlast

/-! ## Telling tags apart -/

/-- The lines of one tag: the first one starts it, and no other one starts a tag. -/
def IsGroup (ls : List (List Char)) : Prop :=
  ∃ first rest, ls = first :: rest ∧ startsTag first = true ∧ ∀ line ∈ rest, startsTag line = false

theorem groupTags_cons_ne_nil (line : List Char) (rest : List (List Char)) :
    groupTags (line :: rest) ≠ [] := by
  rw [groupTags.eq_def]
  simp only
  split
  · split <;> simp
  · simp

theorem groupTags_cons_cons {line next : List Char} {rest group : List (List Char)}
    {groups : List (List (List Char))} (h : groupTags (next :: rest) = group :: groups) :
    groupTags (line :: next :: rest) =
      if startsTag next then [line] :: group :: groups else (line :: group) :: groups := by
  rw [groupTags.eq_def]
  simp only [h]

/-- A tag goes on up to the next line that starts one. -/
theorem groupTags_append {first : List Char} {rest others : List (List Char)}
    (hrest : ∀ line ∈ rest, startsTag line = false)
    (hothers : ∀ line, others.head? = some line → startsTag line = true) :
    groupTags (first :: (rest ++ others)) = (first :: rest) :: groupTags others := by
  induction rest generalizing first with
  | nil =>
    cases others with
    | nil => rfl
    | cons next others =>
      obtain ⟨group, groups, hgroups⟩ :=
        List.exists_cons_of_ne_nil (groupTags_cons_ne_nil next others)
      rw [List.nil_append, groupTags_cons_cons hgroups, hothers next rfl, if_pos rfl, hgroups]
  | cons next rest ih =>
    have hgroups := @ih next fun line hline => hrest line (List.mem_cons_of_mem _ hline)
    rw [List.cons_append, groupTags_cons_cons hgroups, hrest next List.mem_cons_self]
    rfl

theorem startsTag_of_head?_flatten {groups : List (List (List Char))} (h : ∀ g ∈ groups, IsGroup g)
    {line : List Char} (hline : groups.flatten.head? = some line) : startsTag line = true := by
  cases groups with
  | nil => cases hline
  | cons g groups =>
    obtain ⟨first, rest, rfl, hfirst, -⟩ := h g List.mem_cons_self
    cases hline
    exact hfirst

/-- **The lines of tags are told apart again.** -/
theorem groupTags_flatten {groups : List (List (List Char))} (h : ∀ g ∈ groups, IsGroup g) :
    groupTags groups.flatten = groups := by
  induction groups with
  | nil => rfl
  | cons g groups ih =>
    have hothers : ∀ g ∈ groups, IsGroup g := fun g hg => h g (List.mem_cons_of_mem _ hg)
    obtain ⟨first, rest, rfl, -, hrest⟩ := h g List.mem_cons_self
    rw [List.flatten_cons, List.cons_append, groupTags_append hrest fun line hline =>
      startsTag_of_head?_flatten hothers hline, ih hothers]

end Javadoc

namespace BlockTagKind

theorem ofName_name {kind : BlockTagKind} (h : kind.IsNormal) : ofName kind.name = kind := by
  cases kind with
  | unknown name =>
    -- in each standard case the name is the standard one
    obtain ⟨-, -, hother⟩ := h
    have hname : (unknown name).name = name := rfl
    rw [hname, ofName.eq_def]
    split
    case h_13 => rfl
    all_goals exact absurd (by decide) hother
  | _ => rfl

/-- The name of a tag is a word that starts with a letter. -/
theorem IsNormal.name {kind : BlockTagKind} (h : kind.IsNormal) :
    (∀ c ∈ kind.name.toList, isBlank c = false) ∧
      ∃ c cs, kind.name.toList = c :: cs ∧ isAlphabetic c = true := by
  cases kind with
  | unknown name =>
    obtain ⟨hfree, ⟨c, hc, halpha⟩, -⟩ := h
    obtain ⟨cs, hname⟩ := List.head?_eq_some_iff.1 hc
    exact ⟨hfree, c, cs, hname, halpha⟩
  | _ => exact ⟨isBlank_eq_false_of_all (by decide), _, _, rfl, by decide⟩

end BlockTagKind

namespace BlockTag

theorem trim_spaced {word : List Char} (h : trim word = word) : trim (spaced word) = word := by
  unfold spaced
  split
  · rename_i hempty
    rw [hempty]
    rfl
  · exact h

theorem isBlank_of_head?_spaced {word : List Char} {c : Char} (h : (spaced word).head? = some c) :
    isBlank c = true := by
  unfold spaced at h
  split at h
  · cases h
  · cases h
    decide

/-- A word is cut off from what stands behind it. -/
theorem splitWord_spaced {word rest : List Char} (hfree : ∀ c ∈ word, isBlank c = false)
    (hempty : word = [] → rest = []) :
    splitWord (spaced word ++ spaced rest) = (word, spaced rest) := by
  rcases eq_or_ne word [] with rfl | hne
  · rw [hempty rfl]
    rfl
  · rw [spaced, if_neg hne, List.cons_append, splitWord_space]
    exact splitWord_append hfree (fun c hc => isBlank_of_head?_spaced hc) (.inl hne)

namespace IsNormal

variable {tag : BlockTag} (h : tag.IsNormal)
include h

theorem name_free : ∀ c ∈ (tag.name.getD "").toList, isBlank c = false := by
  by_cases hparam : tag.kind = .param
  · obtain ⟨name, hname, hfree, -⟩ := h.param_name hparam
    rw [hname]
    exact hfree
  · rw [h.other_name hparam]
    simp

theorem break_notMem_start : '\n' ∉ tag.start := by
  have hword : ∀ word : List Char, (∀ c ∈ word, isBlank c = false) → '\n' ∉ word :=
    fun word hfree hmem => absurd (hfree _ hmem) (by decide)
  unfold start
  rw [List.mem_append, List.mem_cons]
  rintro ((hat | hkind) | hname)
  · exact absurd hat (by decide)
  · exact hword _ h.kind.name.1 hkind
  · unfold spaced at hname
    split at hname
    · cases hname
    · rcases List.mem_cons.1 hname with hspace | hname
      · exact absurd hspace (by decide)
      · exact hword _ h.name_free hname

theorem trimEnd_start : trimEnd tag.start = tag.start := by
  rw [trimEnd_eq_self_iff]
  intro c hc
  -- the last character is one of the tag or, if there is a name, of the name
  unfold start spaced at hc
  split at hc
  · rw [List.append_nil] at hc
    rcases List.mem_cons.1 (List.mem_of_getLast? hc) with rfl | hmem
    · decide
    · exact h.kind.name.1 c hmem
  · rename_i hne
    rw [List.getLast?_append_of_ne_nil _ (by simp), List.getLast?_cons_of_ne_nil hne] at hc
    exact h.name_free c (List.mem_of_getLast? hc)

theorem startsTag_start (rest : List Char) : Javadoc.startsTag (tag.start ++ rest) = true := by
  obtain ⟨c, cs, hname, halpha⟩ := h.kind.name.2
  have hstart : trimStart (tag.start ++ rest) =
      '@' :: c :: (cs ++ spaced (tag.name.getD "").toList ++ rest) := by
    unfold start
    rw [hname]
    rfl
  unfold Javadoc.startsTag
  rw [hstart]
  exact halpha

theorem trim_text : trim tag.text = tag.text := by
  rw [trim_eq_self_iff]
  constructor
  · rfl
  · rw [trimEnd_eq_self_iff]
    unfold text spaced
    split
    · rw [List.append_nil]
      exact trimEnd_eq_self_iff.1 h.trimEnd_start
    · rename_i hne
      rw [List.getLast?_append_of_ne_nil _ (by simp), List.getLast?_cons_of_ne_nil hne]
      exact trimEnd_eq_self_iff.1 (trim_eq_self_iff.1 h.trimmed).2

/-- The content goes on in the first line, and its other lines follow. -/
theorem textLines_text :
    ∃ first rest, Javadoc.textLines tag.text = (tag.start ++ first) :: rest ∧
      trimEnd (tag.start ++ first) = tag.start ++ first ∧
      rest = (splitAt (· == '\n') tag.content.toList).tail := by
  have hfree := beq_eq_false_of_notMem h.break_notMem_start
  have hne : tag.text ≠ [] := by simp [text, start]
  unfold Javadoc.textLines
  rw [if_neg hne]
  unfold text spaced
  split
  · -- nothing follows: the tag is one line
    rename_i hempty
    refine ⟨[], [], splitAt_append_of_free hfree rfl, ?_, by rw [hempty]; rfl⟩
    rw [List.append_nil]
    exact h.trimEnd_start
  · rename_i hcontent
    obtain ⟨first, rest, hpieces⟩ : ∃ first rest,
        splitAt (· == '\n') tag.content.toList = first :: rest :=
      List.exists_cons_of_ne_nil (splitAt_ne_nil tag.content.toList)
    have hspace : splitAt (· == '\n') ([' '] ++ tag.content.toList) = ([' '] ++ first) :: rest :=
      splitAt_append_of_free (by simp) hpieces
    have hfirst : first ≠ [] := by
      have hhead := Javadoc.head?_textLines_ne h.trimmed
      rw [Javadoc.textLines, if_neg hcontent, hpieces] at hhead
      simpa using hhead
    refine ⟨' ' :: first, rest, splitAt_append_of_free hfree hspace, ?_, by rw [hpieces]; rfl⟩
    rw [trimEnd_eq_self_iff, List.getLast?_append_of_ne_nil _ (by simp),
      List.getLast?_cons_of_ne_nil hfirst]
    exact trimEnd_eq_self_iff.1 (h.line_ends first (hpieces ▸ List.mem_cons_self))

theorem isGroup_text : Javadoc.IsGroup (Javadoc.textLines tag.text) := by
  obtain ⟨first, rest, hlines, -, hrest⟩ := h.textLines_text
  exact ⟨_, rest, hlines, h.startsTag_start first, hrest ▸ h.no_tag⟩

theorem line_ends_text : ∀ line ∈ Javadoc.textLines tag.text, trimEnd line = line := by
  obtain ⟨first, rest, hlines, hfirst, hrest⟩ := h.textLines_text
  intro line hline
  rw [hlines] at hline
  rcases List.mem_cons.1 hline with rfl | hline
  · exact hfirst
  · rw [hrest] at hline
    exact h.line_ends line (List.mem_of_mem_tail hline)

/-- **A tag is read as it was written.** -/
theorem parseTag_text : Javadoc.parseTag tag.text = tag := by
  obtain ⟨hkind, c, cs, hcons, halpha⟩ := h.kind.name
  set behind := spaced (tag.name.getD "").toList ++ spaced tag.content.toList with hbehind
  -- one `@` comes off, as a letter follows
  have hat : (trimStart tag.text).dropWhile (· == '@') = tag.kind.name.toList ++ behind := by
    have hne : (c == '@') = false := by
      rw [beq_eq_false_iff_ne]
      rintro rfl
      exact absurd halpha (by decide)
    have htext : tag.text = '@' :: c :: (cs ++ behind) := by simp [text, start, hcons, hbehind]
    rw [(trim_eq_self_iff.1 h.trim_text).1, htext, hcons]
    simp [hne]
  have hblank : ∀ c, behind.head? = some c → isBlank c = true := by
    intro c hc
    rw [hbehind, List.head?_append, Option.or_eq_some_iff] at hc
    rcases hc with hc | ⟨-, hc⟩
    · exact isBlank_of_head?_spaced hc
    · exact isBlank_of_head?_spaced hc
  have hword : splitWord (tag.kind.name.toList ++ behind) = (tag.kind.name.toList, behind) :=
    splitWord_append hkind hblank (.inl (by simp [hcons]))
  have hcontent : String.ofList (trim (spaced tag.content.toList)) = tag.content := by
    rw [trim_spaced h.trimmed, String.ofList_toList]
  simp only [Javadoc.parseTag, hat, hword, String.ofList_toList, BlockTagKind.ofName_name h.kind]
  split
  · rename_i hparam
    obtain ⟨name, hname, hfree, hempty⟩ := h.param_name hparam
    have hsplit : splitWord behind = (name.toList, spaced tag.content.toList) := by
      rw [hbehind, hname]
      exact splitWord_spaced hfree fun hnil => by rw [hempty (String.toList_eq_nil_iff.1 hnil)]; rfl
    rw [hsplit, hcontent, String.ofList_toList, ← hname]
  · rename_i hparam
    have hname := h.other_name hparam
    have hnone : behind = spaced tag.content.toList := by
      rw [hbehind, hname]
      rfl
    rw [hnone, hcontent, ← hname]

end IsNormal

end BlockTag

namespace Javadoc

variable {doc : Javadoc}

theorem isGroup_of_isNormal (h : doc.IsNormal) :
    ∀ g ∈ doc.blockTags.map fun tag => textLines tag.text, IsGroup g := by
  intro g hg
  obtain ⟨tag, htag, rfl⟩ := List.mem_map.1 hg
  exact (h.tags tag htag).isGroup_text

/-- Lines are read as description and tags as they were written. -/
theorem ofLines_allLines (h : doc.IsNormal) : ofLines doc.allLines = doc := by
  have hgroups := isGroup_of_isNormal h
  -- the description ends where the first line starts a tag
  have hlines : doc.allLines = textLines doc.description.toList ++
      (doc.blockTags.map fun tag => textLines tag.text).flatten := by
    rw [allLines, List.flatMap_def]
  have hdescription : ∀ line ∈ textLines doc.description.toList, (!startsTag line) = true := by
    intro line hline
    simpa using h.no_tag line (mem_splitAt_of_mem_textLines hline)
  have htags : ∀ line, (doc.blockTags.map fun tag => textLines tag.text).flatten.head? = some line →
      (!startsTag line) = false := by
    intro line hline
    simpa using startsTag_of_head?_flatten hgroups hline
  obtain ⟨htake, hdrop⟩ := takeWhile_dropWhile_append hdescription htags
  have hparsed : (doc.blockTags.map fun tag => textLines tag.text).map
      (fun group => parseTag (joinLines group)) = doc.blockTags := by
    rw [List.map_map]
    conv_rhs => rw [← List.map_id doc.blockTags]
    refine List.map_congr_left fun tag htag => ?_
    rw [Function.comp_apply, joinLines_textLines, (h.tags tag htag).parseTag_text, id]
  rw [hlines]
  simp only [ofLines, htake, hdrop]
  rw [joinLines_textLines, h.trimmed, String.ofList_toList, groupTags_flatten hgroups, hparsed]

/-- What is written for a comment can be taken out of its marks again. -/
theorem cleanLines_frame_allLines (h : doc.IsNormal) :
    cleanLines (frame doc.allLines) = doc.allLines := by
  have hmem : ∀ line ∈ doc.allLines, line ∈ textLines doc.description.toList ∨
      ∃ tag ∈ doc.blockTags, line ∈ textLines tag.text := by
    intro line hline
    simpa [allLines] using hline
  apply cleanLines_frame
  · intro line hline
    rcases hmem line hline with hline | ⟨tag, -, hline⟩
    · exact free_of_mem_textLines hline
    · exact free_of_mem_textLines hline
  · intro line hline
    rcases hmem line hline with hline | ⟨tag, htag, hline⟩
    · exact h.line_ends line (mem_splitAt_of_mem_textLines hline)
    · exact (h.tags tag htag).line_ends_text line hline
  · rw [allLines, List.flatMap_def, List.head?_append, Ne, Option.or_eq_some_iff]
    rintro (hfirst | ⟨-, hfirst⟩)
    · exact head?_textLines_ne h.trimmed hfirst
    · exact absurd (startsTag_of_head?_flatten (isGroup_of_isNormal h) hfirst) (by decide)
  · rw [allLines, List.getLast?_append, Ne, Option.or_eq_some_iff]
    rintro (hlast | ⟨-, hlast⟩)
    · exact getLast?_flatMap_ne (fun tag htag => getLast?_textLines_ne (h.tags tag htag).trim_text) hlast
    · exact getLast?_textLines_ne h.trimmed hlast

/-- **Reading undoes writing.** -/
theorem parse_render (doc : Javadoc) (h : doc.IsNormal) : parse doc.render = doc := by
  rw [parse, render, String.toList_ofList, cleanLines_frame_allLines h, ofLines_allLines h]

/-- A comment whose lines look like marks, tags and blank lines. -/
def boxJavadoc : Javadoc where
  description := "Opens the box.\n\n  * not a mark\n*/ @see"
  blockTags := [
    ⟨.param, some "lid", "the lid,\n\n    kept\n@ 1"⟩,
    ⟨.param, some "", ""⟩,
    ⟨.unknown "apiNote", none, "@return\n/**"⟩,
    ⟨.returns, none, ""⟩]

theorem isNormal_boxJavadoc : boxJavadoc.IsNormal where
  trimmed := by decide
  line_ends := by decide
  no_tag := by decide
  tags := by
    simp only [boxJavadoc, List.forall_mem_cons, List.not_mem_nil, false_implies, implies_true, and_true]
    refine ⟨⟨trivial, fun _ => ?_, fun h => absurd rfl h, by decide, by decide, by decide⟩,
      ⟨trivial, fun _ => ?_, fun h => absurd rfl h, by decide, by decide, by decide⟩,
      ⟨?_, fun h => (by cases h), fun _ => rfl, by decide, by decide, by decide⟩,
      ⟨trivial, fun h => (by cases h), fun _ => rfl, by decide, by decide, by decide⟩⟩
    · exact ⟨"lid", rfl, isBlank_eq_false_of_all (by decide), by decide⟩
    · exact ⟨"", rfl, isBlank_eq_false_of_all (by decide), by decide⟩
    · exact ⟨isBlank_eq_false_of_all (by decide), ⟨'a', by decide, by decide⟩, by decide⟩

theorem parse_render_box :
    boxJavadoc.IsNormal ∧
      boxJavadoc.render = "/**\n * Opens the box.\n * \n *   * not a mark\n * */ @see\n" ++
        " * @param lid the lid,\n * \n *     kept\n * @ 1\n * @param\n * @apiNote @return\n" ++
        " * /**\n * @return\n */" ∧
      parse boxJavadoc.render = boxJavadoc :=
  ⟨isNormal_boxJavadoc, by cbv, parse_render boxJavadoc isNormal_boxJavadoc⟩

end Javadoc

end MemberSpec
