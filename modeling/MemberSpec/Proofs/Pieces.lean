import Mathlib
import MemberSpec.Text.Split

/-!
# Pieces of a text

A text cut at its separators: a text without separators is one piece (`splitAt_of_free`), a separator
divides the pieces of both sides (`splitAt_append_cons`, and `splitAt_append` for any two texts), cutting
and joining undo each other (`splitAt_intercalate`, `intercalate_splitAt`), and the part behind the last
separator is the last piece (`getLast?_splitAt`), whatever is before it (`lastPiece_append_cons`). Replacing
a character is undone by replacing it back, if the new one was not in the text (`replaceChar_replaceChar`).
A part without gaps is an infix (`hasInfix_iff`).
-/

namespace MemberSpec.Text

variable {isSep : Char → Bool}

theorem splitAt_ne_nil (cs : List Char) : splitAt isSep cs ≠ [] := by
  cases cs with
  | nil => simp [splitAt]
  | cons c cs =>
    rw [splitAt]
    split
    · simp
    · split <;> simp

theorem exists_splitAt_eq_cons (isSep : Char → Bool) (cs : List Char) :
    ∃ first rest, splitAt isSep cs = first :: rest :=
  List.exists_cons_of_ne_nil (splitAt_ne_nil cs)

theorem beq_eq_false_of_notMem {s : Char} {cs : List Char} (h : s ∉ cs) :
    ∀ c ∈ cs, (c == s) = false := by
  intro c hc
  rw [beq_eq_false_iff_ne]
  rintro rfl
  exact h hc

theorem splitAt_of_free {cs : List Char} (h : ∀ c ∈ cs, isSep c = false) :
    splitAt isSep cs = [cs] := by
  induction cs with
  | nil => rfl
  | cons c cs ih =>
    rw [splitAt, h c List.mem_cons_self, ih fun c hc => h c (List.mem_cons_of_mem _ hc)]
    rfl

/-- A piece has no separators, and its characters are from the text. -/
theorem of_mem_splitAt {cs piece : List Char} (h : piece ∈ splitAt isSep cs) :
    ∀ c ∈ piece, c ∈ cs ∧ isSep c = false := by
  induction cs generalizing piece with
  | nil =>
    intro c hc
    rw [splitAt, List.mem_singleton] at h
    rw [h] at hc
    cases hc
  | cons d cs ih =>
    intro c hc
    rw [splitAt] at h
    split at h
    · rcases List.mem_cons.1 h with rfl | h
      · cases hc
      · exact ⟨List.mem_cons_of_mem _ (ih h c hc).1, (ih h c hc).2⟩
    · rename_i hd
      have hd' : isSep d = false := by simpa using hd
      split at h
      · rw [List.mem_singleton.1 h, List.mem_singleton] at hc
        exact ⟨hc ▸ List.mem_cons_self, hc ▸ hd'⟩
      · rename_i first rest hpieces
        rcases List.mem_cons.1 h with rfl | h
        · rcases List.mem_cons.1 hc with rfl | hc
          · exact ⟨List.mem_cons_self, hd'⟩
          · have hfirst := ih (hpieces ▸ List.mem_cons_self) c hc
            exact ⟨List.mem_cons_of_mem _ hfirst.1, hfirst.2⟩
        · have hlater := ih (hpieces ▸ List.mem_cons_of_mem _ h) c hc
          exact ⟨List.mem_cons_of_mem _ hlater.1, hlater.2⟩

theorem splitAt_append_cons {s : Char} (hs : isSep s = true) (cs ds : List Char) :
    splitAt isSep (cs ++ s :: ds) = splitAt isSep cs ++ splitAt isSep ds := by
  induction cs with
  | nil => simp [splitAt, hs]
  | cons c cs ih =>
    rw [List.cons_append, splitAt, splitAt, ih]
    split
    · rfl
    · cases hcs : splitAt isSep cs with
      | nil => exact absurd hcs (splitAt_ne_nil cs)
      | cons piece pieces => rfl

/-- A start without separators belongs to the first piece. -/
theorem splitAt_append_of_free {start cs first : List Char} {rest : List (List Char)}
    (hstart : ∀ c ∈ start, isSep c = false) (h : splitAt isSep cs = first :: rest) :
    splitAt isSep (start ++ cs) = (start ++ first) :: rest := by
  induction start with
  | nil => exact h
  | cons c start ih =>
    have hrest := ih fun c hc => hstart c (List.mem_cons_of_mem _ hc)
    rw [List.cons_append, splitAt, hstart c List.mem_cons_self, hrest]
    rfl

/-- Joining the pieces gives the text back. -/
theorem intercalate_splitAt (s : Char) (cs : List Char) :
    List.intercalate [s] (splitAt (· == s) cs) = cs := by
  induction cs with
  | nil => rfl
  | cons c cs ih =>
    obtain ⟨first, rest, hpieces⟩ := exists_splitAt_eq_cons (· == s) cs
    rw [hpieces] at ih
    by_cases hc : c = s
    · rw [hc, splitAt, hpieces]
      simp only [beq_self_eq_true, if_true]
      rw [List.intercalate_cons_of_ne_nil (by simp), ih]
      rfl
    · rw [splitAt, hpieces]
      simp only [beq_iff_eq, hc, if_false]
      rcases eq_or_ne rest [] with rfl | hrest
      · rw [List.intercalate_singleton] at ih ⊢
        rw [ih]
      · rw [List.intercalate_cons_of_ne_nil hrest] at ih ⊢
        rw [List.cons_append, List.cons_append, ih]

/-- Exchanging separators for others leaves the pieces as they are. -/
theorem splitAt_map {isSep' : Char → Bool} {f : Char → Char}
    (hsep : ∀ c, isSep' (f c) = isSep c) (hkeep : ∀ c, isSep c = false → f c = c) (cs : List Char) :
    splitAt isSep' (cs.map f) = splitAt isSep cs := by
  induction cs with
  | nil => rfl
  | cons c cs ih =>
    rw [List.map_cons, splitAt, splitAt, hsep, ih]
    cases hc : isSep c with
    | true => rfl
    | false => rw [hkeep c hc]

theorem splitAt_intercalate {s : Char} (hs : isSep s = true) {pieces : List (List Char)}
    (hne : pieces ≠ []) (hfree : ∀ piece ∈ pieces, ∀ c ∈ piece, isSep c = false) :
    splitAt isSep (List.intercalate [s] pieces) = pieces := by
  induction pieces with
  | nil => exact absurd rfl hne
  | cons piece pieces ih =>
    have hpiece := splitAt_of_free (hfree piece List.mem_cons_self)
    rcases eq_or_ne pieces [] with rfl | hpieces
    · rwa [List.intercalate_singleton]
    · have hrest := ih hpieces fun piece hp => hfree piece (List.mem_cons_of_mem _ hp)
      rw [List.intercalate_cons_of_ne_nil hpieces, List.append_assoc, List.singleton_append,
        splitAt_append_cons hs, hpiece, hrest, List.singleton_append]

/-- The last piece has no separator, and it is the whole text or stands behind a separator. -/
theorem lastPiece_cases (isSep : Char → Bool) (cs : List Char) :
    (∀ c ∈ lastPiece isSep cs, isSep c = false) ∧
      (cs = lastPiece isSep cs ∨
        ∃ before s, isSep s = true ∧ cs = before ++ s :: lastPiece isSep cs) := by
  have hfree : ∀ c ∈ lastPiece isSep cs, isSep c = false := by
    intro c hc
    have := List.mem_takeWhile_imp (List.mem_reverse.1 hc)
    simpa using this
  refine ⟨hfree, ?_⟩
  -- read from the end: what is taken is the last piece, what is dropped starts with its separator
  have hsplit : cs = (cs.reverse.dropWhile fun c => !isSep c).reverse ++ lastPiece isSep cs := by
    rw [lastPiece, ← List.reverse_append, List.takeWhile_append_dropWhile, List.reverse_reverse]
  cases hdrop : cs.reverse.dropWhile fun c => !isSep c with
  | nil =>
    left
    rw [hdrop] at hsplit
    exact hsplit
  | cons s rest =>
    right
    rw [hdrop, List.reverse_cons, List.append_assoc] at hsplit
    have hs := List.head?_dropWhile_not (fun c => !isSep c) cs.reverse
    rw [hdrop] at hs
    exact ⟨rest.reverse, s, by simpa using hs, hsplit⟩

/-- **The part behind the last separator is the last piece.** -/
theorem getLast?_splitAt (isSep : Char → Bool) (cs : List Char) :
    (splitAt isSep cs).getLast? = some (lastPiece isSep cs) := by
  obtain ⟨hfree, h | ⟨before, s, hs, h⟩⟩ := lastPiece_cases isSep cs
  · rw [← h] at hfree
    rw [splitAt_of_free hfree, ← h]
    rfl
  · conv_lhs => rw [h, splitAt_append_cons hs, splitAt_of_free hfree]
    rw [List.getLast?_concat]

theorem getLast?_eq_getLast?_lastPiece {cs : List Char} (h : lastPiece isSep cs ≠ []) :
    cs.getLast? = (lastPiece isSep cs).getLast? := by
  obtain ⟨-, hcs | ⟨before, s, -, hcs⟩⟩ := lastPiece_cases isSep cs
  · rw [← hcs]
  · conv_lhs => rw [hcs]
    rw [List.getLast?_append_of_ne_nil _ (by simp), List.getLast?_cons_of_ne_nil h]

theorem splitAt_eq_concat (cs : List Char) :
    splitAt isSep cs = (splitAt isSep cs).dropLast ++ [lastPiece isSep cs] :=
  (List.dropLast_append_getLast? _ (getLast?_splitAt isSep cs)).symm

/-- **Two texts put together** have the pieces of both, and one piece from the last of the one and the
first of the other. -/
theorem splitAt_append (cs : List Char) {ds first : List Char} {rest : List (List Char)}
    (h : splitAt isSep ds = first :: rest) :
    splitAt isSep (cs ++ ds) =
      (splitAt isSep cs).dropLast ++ (lastPiece isSep cs ++ first) :: rest := by
  obtain ⟨hfree, hcs | ⟨before, s, hs, hcs⟩⟩ := lastPiece_cases isSep cs
  · rw [← hcs] at hfree ⊢
    rw [splitAt_append_of_free hfree h, splitAt_of_free hfree]
    rfl
  · have hpieces : splitAt isSep cs = splitAt isSep before ++ [lastPiece isSep cs] := by
      conv_lhs => rw [hcs, splitAt_append_cons hs, splitAt_of_free hfree]
    rw [hpieces, List.dropLast_concat]
    conv_lhs => rw [hcs, List.append_assoc, List.cons_append, splitAt_append_cons hs,
      splitAt_append_of_free hfree h]

theorem lastPiece_append_cons {s : Char} (hs : isSep s = true) (cs ds : List Char) :
    lastPiece isSep (cs ++ s :: ds) = lastPiece isSep ds := by
  have h := getLast?_splitAt isSep (cs ++ s :: ds)
  rw [splitAt_append_cons hs, List.getLast?_append_of_ne_nil _ (splitAt_ne_nil ds),
    getLast?_splitAt] at h
  exact (Option.some.inj h).symm

theorem lastPiece_eq_self_iff {cs : List Char} :
    lastPiece isSep cs = cs ↔ ∀ c ∈ cs, isSep c = false := by
  constructor
  · intro h
    have hfree := (lastPiece_cases isSep cs).1
    rwa [h] at hfree
  · intro h
    have hlast := getLast?_splitAt isSep cs
    rw [splitAt_of_free h] at hlast
    exact (Option.some.inj hlast).symm

theorem mem_replaceChar {old new c : Char} {cs : List Char} (h : c ∈ replaceChar old new cs) :
    c = new ∨ c ∈ cs ∧ c ≠ old := by
  obtain ⟨d, hd, rfl⟩ := List.mem_map.1 h
  by_cases hold : d = old
  · simp [hold]
  · simp [hold, hd]

theorem replaceChar_replaceChar {old new : Char} {cs : List Char} (h : new ∉ cs) :
    replaceChar new old (replaceChar old new cs) = cs := by
  have hback : ∀ c ∈ cs, (if (if c == old then new else c) == new then old
      else (if c == old then new else c)) = c := by
    intro c hc
    have hnew : c ≠ new := by
      rintro rfl
      exact h hc
    by_cases hold : c = old <;> simp [hold, hnew]
  unfold replaceChar
  rw [List.map_map]
  exact (List.map_congr_left hback).trans (List.map_id cs)

theorem hasInfix_iff {part cs : List Char} : hasInfix part cs = true ↔ part <:+: cs := by
  induction cs with
  | nil => simp [hasInfix]
  | cons c cs ih =>
    rw [hasInfix, Bool.or_eq_true, List.isPrefixOf_iff_prefix, ih, List.infix_cons_iff]

end MemberSpec.Text
