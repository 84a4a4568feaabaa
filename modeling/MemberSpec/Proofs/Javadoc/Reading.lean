import Mathlib
import MemberSpec.Proofs.Javadoc.Rendering

/-!
# What reading a documentation comment gives

A comment can be any text, also one without its marks or with half of them. Whatever it is, reading gives a
description and tags in the form that writing asks for (`Javadoc.IsNormal`), with one tag for each line that
starts one (`parse_isNormal`).

The description and the content of a tag are cut out of lines that have no break and no blanks at their
ends (`mem_cleanLines`). Cutting off a start or the blanks at the end of a text leaves the lines behind the
cut as they were (`Text.splitAt_append`), so that what holds of all lines holds of those that are left.

* `exists_groupTags`: the lines from the first tag on are the lines of the tags, in order.
* `line_ends_trim`, `no_tag_trim`, `no_tag_tail_trim`: what trimming leaves of the lines.
* `isNormal_parseTag`: the lines of a tag are read as a tag in normal form.
-/

namespace MemberSpec

open Text

namespace Javadoc

variable {raw line t s : List Char}

theorem startsTag_iff :
    startsTag line = true ↔ ∃ c cs, trimStart line = '@' :: c :: cs ∧ isAlphabetic c = true := by
  unfold startsTag
  constructor
  · intro h
    split at h
    · rename_i c cs hstart
      exact ⟨c, cs, hstart, h⟩
    · cases h
  · rintro ⟨c, cs, hstart, halpha⟩
    rw [hstart]
    exact halpha

theorem startsTag_append (h : startsTag line = true) (rest : List Char) :
    startsTag (line ++ rest) = true := by
  obtain ⟨c, cs, hstart, halpha⟩ := startsTag_iff.1 h
  rw [startsTag_iff]
  refine ⟨c, cs ++ rest, ?_, halpha⟩
  rw [trimStart_append_of_ne_nil (by simp [hstart]), hstart]
  rfl

theorem startsTag_append_of_blank {bs : List Char} (h : ∀ c ∈ bs, isBlank c = true) :
    startsTag (bs ++ line) = startsTag line := by
  unfold startsTag
  rw [trimStart_append_of_blank h]

/-! ## Lines without marks -/

theorem break_notMem_of_mem_lines (h : line ∈ lines t) : '\n' ∉ line := by
  have hpieces : ∀ piece ∈ splitAt (· == '\n') t, '\n' ∉ piece := fun piece hpiece hmem => by
    simpa using (of_mem_splitAt hpiece _ hmem).2
  rcases List.mem_append.1 h with hline | hline
  · obtain ⟨piece, hpiece, rfl⟩ := List.mem_map.1 hline
    have hfree := hpieces piece (List.dropLast_subset _ hpiece)
    unfold dropReturn
    split
    · exact fun hmem => hfree (List.dropLast_subset _ hmem)
    · exact hfree
  · split at hline
    · cases hline
    · rw [List.mem_singleton.1 hline, getLast?_splitAt, Option.getD_some]
      intro hmem
      simpa using (lastPiece_cases (· == '\n') t).1 _ hmem

theorem unstar_isSuffix (line : List Char) : unstar line <:+ line := by
  unfold unstar
  split
  · exact List.suffix_refl _
  · exact List.suffix_append ['*', ' '] _
  · exact List.suffix_append ['*'] _
  · exact List.suffix_refl _

theorem cleanLine_subset (line : List Char) : cleanLine line ⊆ line := by
  intro c hc
  have hunstar := (trimEnd_isPrefix _).subset hc
  exact (trimStart_isSuffix line).subset ((unstar_isSuffix _).subset hunstar)

/-- **Lines without marks** have no break in them and no blanks at their ends. -/
theorem mem_cleanLines (h : line ∈ cleanLines raw) : '\n' ∉ line ∧ trimEnd line = line := by
  have hmem : line ∈ (lines (body raw)).map cleanLine := by
    have hback := (List.dropWhile_suffix _).subset (List.mem_reverse.1 h)
    exact (List.dropWhile_suffix _).subset (List.mem_reverse.1 hback)
  obtain ⟨l, hl, rfl⟩ := List.mem_map.1 hmem
  refine ⟨fun hbreak => break_notMem_of_mem_lines hl (cleanLine_subset l hbreak), ?_⟩
  rw [cleanLine, trimEnd_trimEnd]

/-! ## Telling tags apart -/

/-- The first group starts with the first line, and every other one with a line that starts a tag. -/
theorem exists_groupTags_cons (line : List Char) (rest : List (List Char)) :
    ∃ more groups, groupTags (line :: rest) = (line :: more) :: groups ∧
      rest = more ++ groups.flatten ∧ (∀ l ∈ more, startsTag l = false) ∧ ∀ g ∈ groups, IsGroup g := by
  induction rest generalizing line with
  | nil => exact ⟨[], [], rfl, rfl, by simp, by simp⟩
  | cons next rest ih =>
    obtain ⟨more, groups, hgroups, hrest, hmore, hothers⟩ := ih next
    rw [groupTags_cons_cons hgroups]
    cases hnext : startsTag next with
    | true =>
      refine ⟨[], (next :: more) :: groups, rfl, by rw [hrest]; rfl, by simp, ?_⟩
      intro g hg
      rcases List.mem_cons.1 hg with rfl | hg
      · exact ⟨next, more, rfl, hnext, hmore⟩
      · exact hothers g hg
    | false =>
      refine ⟨next :: more, groups, rfl, by rw [hrest]; rfl, ?_, hothers⟩
      intro l hl
      rcases List.mem_cons.1 hl with rfl | hl
      · exact hnext
      · exact hmore l hl

/-- **The lines of the tags**: from the first line that starts a tag on, all lines belong to a tag, and
each tag has one line that starts it. -/
theorem exists_groupTags {ls : List (List Char)}
    (h : ∀ line, ls.head? = some line → startsTag line = true) :
    (groupTags ls).flatten = ls ∧ ∀ g ∈ groupTags ls, IsGroup g := by
  cases ls with
  | nil => exact ⟨rfl, by simp [groupTags]⟩
  | cons line rest =>
    obtain ⟨more, groups, hgroups, hrest, hmore, hothers⟩ := exists_groupTags_cons line rest
    rw [hgroups, hrest]
    refine ⟨rfl, fun g hg => ?_⟩
    rcases List.mem_cons.1 hg with rfl | hg
    · exact ⟨line, more, rfl, h line rfl, hmore⟩
    · exact hothers g hg

theorem IsGroup.countP_eq {g : List (List Char)} (h : IsGroup g) : g.countP startsTag = 1 := by
  obtain ⟨first, rest, rfl, hfirst, hrest⟩ := h
  rw [List.countP_cons_of_pos hfirst, List.countP_eq_zero.2 (by simpa using hrest)]

theorem countP_flatten_eq_length {groups : List (List (List Char))} (h : ∀ g ∈ groups, IsGroup g) :
    groups.flatten.countP startsTag = groups.length := by
  induction groups with
  | nil => rfl
  | cons g groups ih =>
    rw [List.flatten_cons, List.countP_append, (h g List.mem_cons_self).countP_eq,
      ih fun g hg => h g (List.mem_cons_of_mem _ hg), List.length_cons, Nat.add_comm]

/-! ## The lines of a part of a text -/

theorem line_ends_of_suffix (h : ∀ line ∈ splitAt (· == '\n') t, trimEnd line = line) (hs : s <:+ t) :
    ∀ line ∈ splitAt (· == '\n') s, trimEnd line = line := by
  obtain ⟨start, rfl⟩ := hs
  obtain ⟨first, rest, hpieces⟩ := exists_splitAt_eq_cons (· == '\n') s
  rw [splitAt_append start hpieces] at h
  intro line hline
  rw [hpieces] at hline
  rcases List.mem_cons.1 hline with rfl | hline
  · exact trimEnd_of_append (h _ (List.mem_append_right _ List.mem_cons_self))
  · exact h line (List.mem_append_right _ (List.mem_cons_of_mem _ hline))

theorem no_tag_tail_of_suffix (h : ∀ line ∈ (splitAt (· == '\n') t).tail, startsTag line = false)
    (hs : s <:+ t) : ∀ line ∈ (splitAt (· == '\n') s).tail, startsTag line = false := by
  obtain ⟨start, rfl⟩ := hs
  obtain ⟨first, rest, hpieces⟩ := exists_splitAt_eq_cons (· == '\n') s
  rw [splitAt_append start hpieces] at h
  intro line hline
  rw [hpieces, List.tail_cons] at hline
  apply h
  cases (splitAt (· == '\n') start).dropLast with
  | nil => exact hline
  | cons l ls => exact List.mem_append_right _ (List.mem_cons_of_mem _ hline)

/-- Without the blanks at its end, a text has the lines up to some line, of which a start is left. -/
theorem exists_splitAt_trimEnd (t : List Char) :
    ∃ before last blanks after, splitAt (· == '\n') t = before ++ (last ++ blanks) :: after ∧
      splitAt (· == '\n') (trimEnd t) = before ++ [last] ∧ trimEnd last = last := by
  obtain ⟨bs, hbs, -⟩ := exists_trimEnd t
  obtain ⟨first, rest, hpieces⟩ := exists_splitAt_eq_cons (· == '\n') bs
  refine ⟨_, lastPiece (· == '\n') (trimEnd t), first, rest, ?_, splitAt_eq_concat _, ?_⟩
  · conv_lhs => rw [hbs]
    exact splitAt_append (trimEnd t) hpieces
  · rcases eq_or_ne (lastPiece (· == '\n') (trimEnd t)) [] with hnil | hne
    · rw [hnil]
      rfl
    · have hlast := trimEnd_eq_self_iff.1 (trimEnd_trimEnd t)
      rw [getLast?_eq_getLast?_lastPiece hne] at hlast
      exact trimEnd_eq_self_iff.2 hlast

theorem line_ends_trim (h : ∀ line ∈ splitAt (· == '\n') t, trimEnd line = line) :
    ∀ line ∈ splitAt (· == '\n') (trim t), trimEnd line = line := by
  have hstart := line_ends_of_suffix h (trimStart_isSuffix t)
  obtain ⟨before, last, blanks, after, hpieces, htrim, hlast⟩ := exists_splitAt_trimEnd (trimStart t)
  intro line hline
  rw [trim, htrim] at hline
  rcases List.mem_append.1 hline with hline | hline
  · exact hstart line (hpieces ▸ List.mem_append_left _ hline)
  · rw [List.mem_singleton.1 hline]
    exact hlast

theorem startsTag_eq_false_of_append {rest : List Char} (h : startsTag (line ++ rest) = false) :
    startsTag line = false := by
  rw [Bool.eq_false_iff] at h ⊢
  exact fun hline => h (startsTag_append hline rest)

/-- A text none of whose lines starts a tag is trimmed to one of this kind. -/
theorem no_tag_trim (h : ∀ line ∈ splitAt (· == '\n') t, startsTag line = false) :
    ∀ line ∈ splitAt (· == '\n') (trim t), startsTag line = false := by
  -- the blanks at the start are whole lines and the start of another line
  have hstart : ∀ line ∈ splitAt (· == '\n') (trimStart t), startsTag line = false := by
    obtain ⟨bs, hbs, hblank⟩ := exists_trimStart t
    obtain ⟨first, rest, hpieces⟩ := exists_splitAt_eq_cons (· == '\n') (trimStart t)
    rw [hbs, splitAt_append bs hpieces] at h
    have hlast : ∀ c ∈ lastPiece (· == '\n') bs, isBlank c = true := by
      intro c hc
      have hmem := List.mem_of_getLast? (getLast?_splitAt (· == '\n') bs)
      exact hblank c (of_mem_splitAt hmem c hc).1
    intro line hline
    rw [hpieces] at hline
    rcases List.mem_cons.1 hline with rfl | hline
    · rw [← startsTag_append_of_blank hlast]
      exact h _ (List.mem_append_right _ List.mem_cons_self)
    · exact h line (List.mem_append_right _ (List.mem_cons_of_mem _ hline))
  obtain ⟨before, last, blanks, after, hpieces, htrim, -⟩ := exists_splitAt_trimEnd (trimStart t)
  rw [hpieces] at hstart
  intro line hline
  rw [trim, htrim] at hline
  rcases List.mem_append.1 hline with hline | hline
  · exact hstart line (List.mem_append_left _ hline)
  · rw [List.mem_singleton.1 hline]
    exact startsTag_eq_false_of_append (hstart _ (List.mem_append_right _ List.mem_cons_self))

/-- Likewise for the lines behind the first one. -/
theorem no_tag_tail_trim (h : ∀ line ∈ (splitAt (· == '\n') t).tail, startsTag line = false) :
    ∀ line ∈ (splitAt (· == '\n') (trim t)).tail, startsTag line = false := by
  have hstart := no_tag_tail_of_suffix h (trimStart_isSuffix t)
  obtain ⟨before, last, blanks, after, hpieces, htrim, -⟩ := exists_splitAt_trimEnd (trimStart t)
  rw [hpieces] at hstart
  intro line hline
  rw [trim, htrim] at hline
  cases before with
  | nil => cases hline
  | cons l before =>
    rcases List.mem_append.1 hline with hline | hline
    · exact hstart line (List.mem_append_left _ hline)
    · rw [List.mem_singleton.1 hline]
      exact startsTag_eq_false_of_append (hstart _ (List.mem_append_right _ List.mem_cons_self))

end Javadoc

/-! ## Reading a tag -/

theorem BlockTagKind.isNormal_ofName {name : String} (hfree : ∀ c ∈ name.toList, isBlank c = false)
    (halpha : ∃ c, name.toList.head? = some c ∧ isAlphabetic c = true) : (ofName name).IsNormal := by
  rw [ofName.eq_def]
  split
  case h_13 =>
    refine ⟨hfree, halpha, ?_⟩
    simp only [standard, List.map_cons, List.map_nil, List.mem_cons, List.not_mem_nil, or_false, not_or]
    refine ⟨?_, ?_, ?_, ?_, ?_, ?_, ?_, ?_, ?_, ?_, ?_, ?_⟩ <;> assumption
  all_goals trivial

namespace Javadoc

variable {raw line t s : List Char}

/-- A text that starts a tag goes on behind the `@` with a letter. -/
theorem exists_dropWhile_at {first : List Char} (h : startsTag first = true) (rest : List Char) :
    ∃ c cs, (trimStart (first ++ rest)).dropWhile (· == '@') = c :: cs ∧ isAlphabetic c = true := by
  obtain ⟨c, cs, hstart, halpha⟩ := startsTag_iff.1 (startsTag_append h rest)
  have hc : (c == '@') = false := by
    rw [beq_eq_false_iff_ne]
    rintro rfl
    exact absurd halpha (by decide)
  refine ⟨c, cs, ?_, halpha⟩
  rw [hstart]
  simp [hc]

theorem exists_joinLines_cons (first : List Char) (rest : List (List Char)) :
    ∃ more, joinLines (first :: rest) = first ++ more := by
  rcases eq_or_ne rest [] with rfl | hne
  · exact ⟨[], by simp [joinLines]⟩
  · exact ⟨_, joinLines_cons first hne⟩

theorem splitAt_joinLines {ls : List (List Char)} (hne : ls ≠ []) (hfree : ∀ line ∈ ls, '\n' ∉ line) :
    splitAt (· == '\n') (joinLines ls) = ls :=
  splitAt_intercalate rfl hne fun line hline => beq_eq_false_of_notMem (hfree line hline)

/-- The content of a tag ends its text, and its name is a word. -/
theorem parseTag_cases (text : List Char) :
    ∃ word rest content, splitWord ((trimStart text).dropWhile (· == '@')) = (word, rest) ∧
      (parseTag text).kind = .ofName (String.ofList word) ∧
      (parseTag text).content = String.ofList (trim content) ∧ content <:+ text ∧
      ((parseTag text).kind = .param → ∃ name, (parseTag text).name = some (String.ofList name) ∧
        (∀ c ∈ name, isBlank c = false) ∧ (name = [] → content = [])) ∧
      ((parseTag text).kind ≠ .param → (parseTag text).name = none) := by
  obtain ⟨word, rest, hword⟩ : ∃ word rest,
      splitWord ((trimStart text).dropWhile (· == '@')) = (word, rest) := ⟨_, _, rfl⟩
  have hrest : rest <:+ text := by
    have h := (splitWord_cases ((trimStart text).dropWhile (· == '@'))).2.1
    rw [hword] at h
    exact h.trans ((List.dropWhile_suffix _).trans (trimStart_isSuffix text))
  obtain ⟨hfree, hsuffix, hempty⟩ := splitWord_cases rest
  unfold parseTag
  simp only [hword]
  split
  · rename_i hkind
    exact ⟨word, rest, (splitWord rest).2, rfl, rfl, rfl, hsuffix.trans hrest,
      fun _ => ⟨_, rfl, hfree, hempty⟩, fun hne => absurd hkind hne⟩
  · rename_i hkind
    exact ⟨word, rest, rest, rfl, rfl, rfl, hrest, fun h => absurd h hkind, fun _ => rfl⟩

/-- **The lines of a tag are read as a tag in normal form.** -/
theorem isNormal_parseTag {g : List (List Char)} (hg : IsGroup g) (hfree : ∀ line ∈ g, '\n' ∉ line)
    (hends : ∀ line ∈ g, trimEnd line = line) : (parseTag (joinLines g)).IsNormal := by
  obtain ⟨first, more, rfl, hfirst, hmore⟩ := hg
  have hpieces := splitAt_joinLines (List.cons_ne_nil first more) hfree
  obtain ⟨word, rest, content, hword, hkind, hcontent, hsuffix, hparam, hother⟩ :=
    parseTag_cases (joinLines (first :: more))
  -- the word behind the `@` starts with the letter that makes the line start a tag
  have hnormal : (BlockTagKind.ofName (String.ofList word)).IsNormal := by
    obtain ⟨behind, hbehind⟩ := exists_joinLines_cons first more
    obtain ⟨c, cs, hat, halpha⟩ := exists_dropWhile_at hfirst behind
    rw [hbehind, hat] at hword
    have hfree := (splitWord_cases (c :: cs)).1
    have hhead := head?_splitWord (isBlank_of_isAlphabetic halpha) cs
    rw [hword] at hfree hhead
    exact BlockTagKind.isNormal_ofName (by rwa [String.toList_ofList])
      ⟨c, by rwa [String.toList_ofList], halpha⟩
  refine ⟨hkind ▸ hnormal, fun h => ?_, hother, ?_, ?_, ?_⟩
  · obtain ⟨name, hname, hblank, hempty⟩ := hparam h
    refine ⟨_, hname, by rwa [String.toList_ofList], fun hnil => ?_⟩
    have hnil : name = [] := by simpa using congrArg String.toList hnil
    rw [hcontent, hempty hnil]
    rfl
  · rw [hcontent, String.toList_ofList, trim_trim]
  · rw [hcontent, String.toList_ofList]
    refine line_ends_trim (line_ends_of_suffix ?_ hsuffix)
    rwa [hpieces]
  · rw [hcontent, String.toList_ofList]
    refine no_tag_tail_trim (no_tag_tail_of_suffix ?_ hsuffix)
    rwa [hpieces, List.tail_cons]

theorem mem_splitAt_joinLines {ls : List (List Char)} (hfree : ∀ line ∈ ls, '\n' ∉ line)
    (h : line ∈ splitAt (· == '\n') (joinLines ls)) : line ∈ ls ∨ line = [] := by
  rcases eq_or_ne ls [] with rfl | hne
  · exact .inr (List.mem_singleton.1 h)
  · rw [splitAt_joinLines hne hfree] at h
    exact .inl h

section OfLines

variable (ls : List (List Char))

/-- The lines behind the description are those of the tags. -/
theorem groupTags_dropWhile :
    (groupTags (ls.dropWhile (!startsTag ·))).flatten = ls.dropWhile (!startsTag ·) ∧
      ∀ g ∈ groupTags (ls.dropWhile (!startsTag ·)), IsGroup g := by
  apply exists_groupTags
  intro line hline
  have h := List.head?_dropWhile_not (!startsTag ·) ls
  rw [hline] at h
  simpa using h

theorem startsTag_of_mem_takeWhile :
    ∀ line ∈ ls.takeWhile (!startsTag ·), startsTag line = false := by
  intro line hline
  simpa using List.mem_takeWhile_imp hline

/-- There is one tag for each line that starts one. -/
theorem length_blockTags_ofLines : (ofLines ls).blockTags.length = ls.countP startsTag := by
  obtain ⟨hflatten, hgroups⟩ := groupTags_dropWhile ls
  have hbefore : (ls.takeWhile (!startsTag ·)).countP startsTag = 0 := by
    rw [List.countP_eq_zero]
    simpa using startsTag_of_mem_takeWhile ls
  calc (ofLines ls).blockTags.length
      = (groupTags (ls.dropWhile (!startsTag ·))).length := List.length_map _
    _ = (ls.dropWhile (!startsTag ·)).countP startsTag := by
        rw [← countP_flatten_eq_length hgroups, hflatten]
    _ = (ls.takeWhile (!startsTag ·) ++ ls.dropWhile (!startsTag ·)).countP startsTag := by
        rw [List.countP_append, hbefore, Nat.zero_add]
    _ = ls.countP startsTag := by rw [List.takeWhile_append_dropWhile]

variable {ls}

/-- The description and the tags in lines without breaks and blanks at their ends are in normal form. -/
theorem isNormal_ofLines (hfree : ∀ line ∈ ls, '\n' ∉ line)
    (hends : ∀ line ∈ ls, trimEnd line = line) : (ofLines ls).IsNormal := by
  obtain ⟨hflatten, hgroups⟩ := groupTags_dropWhile ls
  have hbefore : ls.takeWhile (!startsTag ·) ⊆ ls := List.takeWhile_subset _
  have hdescription : (ofLines ls).description.toList =
      trim (joinLines (ls.takeWhile (!startsTag ·))) := String.toList_ofList
  refine ⟨?_, ?_, ?_, fun tag htag => ?_⟩
  · rw [hdescription, trim_trim]
  · rw [hdescription]
    refine line_ends_trim fun line hline => ?_
    rcases mem_splitAt_joinLines (fun line hline => hfree line (hbefore hline)) hline with hline | rfl
    · exact hends line (hbefore hline)
    · rfl
  · rw [hdescription]
    refine no_tag_trim fun line hline => ?_
    rcases mem_splitAt_joinLines (fun line hline => hfree line (hbefore hline)) hline with hline | rfl
    · exact startsTag_of_mem_takeWhile ls line hline
    · rfl
  · obtain ⟨g, hg, rfl⟩ := List.mem_map.1 htag
    have hlines : ∀ line ∈ g, line ∈ ls := by
      intro line hline
      have hmem : line ∈ ls.dropWhile (!startsTag ·) := hflatten ▸ List.mem_flatten.2 ⟨g, hg, hline⟩
      exact (List.dropWhile_suffix _).subset hmem
    exact isNormal_parseTag (hgroups g hg) (fun line hline => hfree line (hlines line hline))
      fun line hline => hends line (hlines line hline)

end OfLines

/-- **Reading gives comments in normal form**, whatever the text is: the description and the content of
every tag are trimmed, with no line that starts another tag, exactly parameter tags have a name, which is a
word, and a tag of unknown kind has a word for its kind that starts with a letter and is no standard name.
There is one tag for each line that starts one. -/
theorem parse_isNormal (raw : String) :
    (parse raw).blockTags.length = (cleanLines raw.toList).countP startsTag ∧ (parse raw).IsNormal :=
  ⟨length_blockTags_ofLines _,
    isNormal_ofLines (fun _ hline => (mem_cleanLines hline).1) fun _ hline => (mem_cleanLines hline).2⟩

end Javadoc

end MemberSpec
