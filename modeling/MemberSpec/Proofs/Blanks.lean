import Mathlib
import MemberSpec.Text.Alphabetic
import MemberSpec.Text.Blank

/-!
# Trimmed text

A text is trimmed if no blank is at its ends (`trim_eq_self_iff`), trimming gives such a text
(`trim_trim`) and does not see the blanks that are put at the ends (`trimStart_append_of_blank`,
`trimEnd_append_of_blank`). A blank-free word is cut off as it is (`splitWord_append`), and what is cut off
is blank-free (`splitWord_cases`). No blank is a letter (`isBlank_of_isAlphabetic`). The characters that are
no blanks are `solid`; collapsing blanks keeps them (`filter_collapseBlanks`).
-/

namespace MemberSpec.Text

variable {cs word rest : List Char}

/-- A list is cut where a test fails for the first time. -/
theorem takeWhile_dropWhile_append {α : Type} {p : α → Bool} {xs ys : List α}
    (hxs : ∀ x ∈ xs, p x = true) (hys : ∀ y, ys.head? = some y → p y = false) :
    (xs ++ ys).takeWhile p = xs ∧ (xs ++ ys).dropWhile p = ys := by
  rw [List.takeWhile_append_of_pos hxs, List.dropWhile_append_of_pos hxs]
  cases ys with
  | nil => simp
  | cons y ys => simp [hys y rfl]

theorem trimStart_eq_self_iff :
    trimStart cs = cs ↔ ∀ c, cs.head? = some c → isBlank c = false := by
  unfold trimStart
  cases cs with
  | nil => simp
  | cons c cs => simp [List.dropWhile_eq_self_iff]

theorem trimEnd_eq_self_iff :
    trimEnd cs = cs ↔ ∀ c, cs.getLast? = some c → isBlank c = false := by
  have h : trimEnd cs = cs ↔ ∀ hne : cs ≠ [], ¬ isBlank (cs.getLast hne) = true :=
    List.rdropWhile_eq_self_iff
  rw [h]
  rcases eq_or_ne cs [] with rfl | hne
  · simp
  · simp [hne, List.getLast?_eq_some_getLast hne]

theorem trim_eq_self_iff : trim cs = cs ↔ trimStart cs = cs ∧ trimEnd cs = cs := by
  constructor
  · intro h
    have hstart : trimStart cs = cs := by
      apply (List.dropWhile_suffix isBlank).eq_of_length_le
      calc cs.length = (trim cs).length := by rw [h]
        _ ≤ (trimStart cs).length := (List.rdropWhile_prefix isBlank _).length_le
    refine ⟨hstart, ?_⟩
    rw [trim, hstart] at h
    exact h
  · rintro ⟨hstart, hend⟩
    rw [trim, hstart, hend]

theorem trimStart_isSuffix (cs : List Char) : trimStart cs <:+ cs := List.dropWhile_suffix isBlank

theorem trimEnd_isPrefix (cs : List Char) : trimEnd cs <+: cs := List.rdropWhile_prefix isBlank cs

theorem exists_trimStart (cs : List Char) :
    ∃ bs, cs = bs ++ trimStart cs ∧ ∀ c ∈ bs, isBlank c = true :=
  ⟨cs.takeWhile isBlank, List.takeWhile_append_dropWhile.symm, fun _ => List.mem_takeWhile_imp⟩

theorem exists_trimEnd (cs : List Char) :
    ∃ bs, cs = trimEnd cs ++ bs ∧ ∀ c ∈ bs, isBlank c = true := by
  refine ⟨(cs.reverse.takeWhile isBlank).reverse, ?_, fun c hc => ?_⟩
  · rw [trimEnd, ← List.reverse_append, List.takeWhile_append_dropWhile, List.reverse_reverse]
  · exact List.mem_takeWhile_imp (List.mem_reverse.1 hc)

theorem trimStart_append_of_blank {bs : List Char} (h : ∀ c ∈ bs, isBlank c = true)
    (cs : List Char) : trimStart (bs ++ cs) = trimStart cs :=
  List.dropWhile_append_of_pos h

theorem trimEnd_append_of_blank {bs : List Char} (h : ∀ c ∈ bs, isBlank c = true) (cs : List Char) :
    trimEnd (cs ++ bs) = trimEnd cs := by
  rw [trimEnd, List.reverse_append,
    List.dropWhile_append_of_pos fun c hc => h c (List.mem_reverse.1 hc), trimEnd]

/-- What follows does not matter for the start of a text that is not blank. -/
theorem trimStart_append_of_ne_nil (h : trimStart cs ≠ []) (rest : List Char) :
    trimStart (cs ++ rest) = trimStart cs ++ rest := by
  rw [trimStart, List.dropWhile_append, if_neg (by simpa [trimStart] using h)]
  rfl

theorem trimStart_trimStart (cs : List Char) : trimStart (trimStart cs) = trimStart cs :=
  List.dropWhile_idempotent isBlank cs

theorem trimEnd_trimEnd (cs : List Char) : trimEnd (trimEnd cs) = trimEnd cs :=
  List.rdropWhile_idempotent isBlank cs

/-- **A text is trimmed once and for all.** -/
theorem trim_trim (cs : List Char) : trim (trim cs) = trim cs := by
  rw [trim_eq_self_iff]
  refine ⟨?_, trimEnd_trimEnd _⟩
  rw [trimStart_eq_self_iff]
  intro c hc
  -- what is left starts as the text does that was trimmed at its start
  obtain ⟨bs, hbs⟩ : trim cs <+: trimStart cs := trimEnd_isPrefix (trimStart cs)
  have hne : trim cs ≠ [] := by
    intro hnil
    rw [hnil] at hc
    cases hc
  have hhead : (trimStart cs).head? = some c := by
    rw [← hbs, List.head?_append_of_ne_nil _ hne]
    exact hc
  exact trimStart_eq_self_iff.1 (trimStart_trimStart cs) c hhead

theorem trimEnd_of_append {bs : List Char} (h : trimEnd (bs ++ cs) = bs ++ cs) :
    trimEnd cs = cs := by
  rcases eq_or_ne cs [] with rfl | hne
  · rfl
  · rw [trimEnd_eq_self_iff] at h ⊢
    rwa [List.getLast?_append_of_ne_nil _ hne] at h

theorem CodeRanges.mem_of_has {ranges : CodeRanges} {n : Nat} (h : ranges.has n = true) :
    ∃ range ∈ ranges, n ∈ List.range' range.1 (range.2 + 1 - range.1) := by
  induction ranges with
  | nil => cases h
  | cons range ranges ih =>
    obtain ⟨lo, hi⟩ := range
    rw [CodeRanges.has] at h
    split at h
    · cases h
    · rename_i hlo
      rcases Bool.or_eq_true_iff.1 h with hhi | hrest
      · refine ⟨_, List.mem_cons_self, List.mem_range'_1.2 ?_⟩
        have := of_decide_eq_true hhi
        simp only
        omega
      · obtain ⟨range, hmem, hn⟩ := ih hrest
        exact ⟨range, List.mem_cons_of_mem _ hmem, hn⟩

theorem isBlank_of_isAlphabetic {c : Char} (h : isAlphabetic c = true) : isBlank c = false := by
  have htable : ∀ range ∈ blankRanges, ∀ n ∈ List.range' range.1 (range.2 + 1 - range.1),
      alphabeticRanges.has n = false := by decide +kernel
  rw [Bool.eq_false_iff]
  intro hblank
  obtain ⟨range, hrange, hn⟩ := CodeRanges.mem_of_has hblank
  exact absurd h (by rw [isAlphabetic, htable range hrange _ hn]; decide)

theorem isBlank_eq_false_of_all (h : cs.all (!isBlank ·) = true) : ∀ c ∈ cs, isBlank c = false := by
  simpa using h

theorem splitWord_space (cs : List Char) : splitWord (' ' :: cs) = splitWord cs := rfl

/-- **The first word** of a text that starts with one. -/
theorem splitWord_append (hword : ∀ c ∈ word, isBlank c = false)
    (hrest : ∀ c, rest.head? = some c → isBlank c = true) (hne : word ≠ [] ∨ rest = []) :
    splitWord (word ++ rest) = (word, rest) := by
  have hstart : trimStart (word ++ rest) = word ++ rest := by
    rw [trimStart_eq_self_iff]
    intro c hc
    cases word with
    | nil => simp [hne.resolve_left (by simp)] at hc
    | cons d word => exact hword c (by simp at hc; simp [hc])
  have hpos : ∀ c ∈ word, (!isBlank c) = true := by simpa using hword
  have hneg : ∀ c, rest.head? = some c → (!isBlank c) = false := by simpa using hrest
  obtain ⟨htake, hdrop⟩ := takeWhile_dropWhile_append hpos hneg
  simp only [splitWord, hstart, htake, hdrop]

/-- What is cut off is a word, the rest ends the text, and nothing is left behind an empty word. -/
theorem splitWord_cases (cs : List Char) :
    (∀ c ∈ (splitWord cs).1, isBlank c = false) ∧ (splitWord cs).2 <:+ cs ∧
      ((splitWord cs).1 = [] → (splitWord cs).2 = []) := by
  refine ⟨fun c hc => ?_, ?_, fun hword => ?_⟩
  · simpa using List.mem_takeWhile_imp hc
  · exact (List.dropWhile_suffix _).trans (trimStart_isSuffix cs)
  · cases hstart : trimStart cs with
    | nil =>
      rw [splitWord, hstart]
      rfl
    | cons c start =>
      -- the first character is not blank, so it is in the word
      have hc : isBlank c = false := by
        apply trimStart_eq_self_iff.1 (trimStart_trimStart cs)
        rw [hstart, List.head?_cons]
      rw [splitWord, hstart] at hword
      simp [hc] at hword

theorem head?_splitWord {c : Char} (hc : isBlank c = false) (cs : List Char) :
    (splitWord (c :: cs)).1.head? = some c := by
  simp [splitWord, trimStart, hc]

/-- The characters of a text that are no blanks. -/
def solid (cs : List Char) : List Char := cs.filter (!isBlank ·)

theorem isBlank_of_mem_solid {c : Char} (h : c ∈ solid cs) : isBlank c = false := by
  simpa using (List.mem_filter.1 h).2

theorem solid_append (cs ds : List Char) : solid (cs ++ ds) = solid cs ++ solid ds :=
  List.filter_append ..

theorem flatten_wordsFrom (word cs : List Char) :
    (wordsFrom word cs).flatten = word ++ solid cs := by
  fun_induction wordsFrom word cs <;> simp_all [solid]

/-- Collapsed blanks are spaces, so a test that only spaces fail leaves the solid characters. -/
theorem filter_collapseBlanks {p : Char → Bool} (hspace : p ' ' = false)
    (hsolid : ∀ c, isBlank c = false → p c = true) (cs : List Char) :
    (collapseBlanks cs).filter p = solid cs := by
  have hwords : (words cs).flatten = solid cs := flatten_wordsFrom [] cs
  have hp : ∀ word ∈ words cs, ∀ c ∈ word, p c = true := fun word hword c hc =>
    hsolid c (isBlank_of_mem_solid (hwords ▸ List.mem_flatten_of_mem hword hc))
  rw [← hwords, collapseBlanks]
  generalize words cs = pieces at hp ⊢
  induction pieces with
  | nil => rfl
  | cons word rest ih =>
    have hword : word.filter p = word := List.filter_eq_self.2 (hp word List.mem_cons_self)
    have hrest := ih fun word hword => hp word (List.mem_cons_of_mem _ hword)
    rcases eq_or_ne rest [] with rfl | hne
    · simpa using hword
    · rw [List.intercalate_cons_of_ne_nil hne]
      simp [hword, hrest, hspace]

end MemberSpec.Text
