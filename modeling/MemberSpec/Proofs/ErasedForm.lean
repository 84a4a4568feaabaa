import Mathlib
import MemberSpec.Proofs.ErasureReading
import MemberSpec.Proofs.Spelling

/-!
# Erased text

What erasure gives for any text at all, also for text that is no type: brackets without their partners,
a depth that stays at zero, dimensions in the middle of a name.

An erased text has no angle brackets, no dots and no blanks, and a text without them is its own erasure
(`erase_nil_eq_self_iff`). So erasing again changes nothing. A balanced group is not seen at any depth
(`stripArguments_append_group`), and erasure sees no more of a text than its head (`eraseWithin_congr`).

* `erase_isErased`: every text erases to an erased one, and groups do not matter.
-/

namespace MemberSpec.Erasure

open Text Source

variable {parameters : List TypeParameter} {cs : List Char} {s w : String}

/-- Text as erasure leaves it. -/
def IsErased (s : String) : Prop :=
  ∀ c ∈ s.toList, c ≠ '<' ∧ c ≠ '>' ∧ c ≠ '.' ∧ isBlank c = false

theorem IsErased.append {t : String} (hs : IsErased s) (ht : IsErased t) : IsErased (s ++ t) := by
  intro c hc
  rw [String.toList_append] at hc
  exact (List.mem_append.1 hc).elim (hs c) (ht c)

theorem isErased_brackets (n : Nat) : IsErased (brackets n) := by
  intro c hc
  rw [brackets, String.toList_ofList] at hc
  obtain ⟨piece, hpiece, hc⟩ := List.mem_flatten.1 hc
  rw [List.eq_of_mem_replicate hpiece] at hc
  rcases List.mem_pair.1 hc with rfl | rfl <;> decide

theorem isErased_topName : IsErased topName := by
  have hall : topName.toList.all (fun c => c != '<' && c != '>' && c != '.' && !isBlank c) = true := by
    decide +kernel
  intro c hc
  simpa [and_assoc] using List.all_eq_true.1 hall c hc

/-! ## The parts of a written type -/

theorem isKept_of_mem_stripArguments {depth : Nat} {c : Char} (h : c ∈ stripArguments depth cs) :
    IsKept c := by
  induction cs generalizing depth with
  | nil => cases h
  | cons d cs ih =>
    rw [stripArguments] at h
    split at h
    · exact ih h
    · split at h
      · exact ih h
      · rename_i hopen hclose
        split at h
        · rename_i hkept
          rw [Bool.and_eq_true, Bool.not_eq_true'] at hkept
          rcases List.mem_cons.1 h with rfl | h
          · exact ⟨by simpa using hopen, by simpa using hclose, hkept.2⟩
          · exact ih h
        · exact ih h

theorem countBrackets_eq (cs : List Char) :
    repeated (countBrackets cs).1 [']', '['] ++ (countBrackets cs).2 = cs := by
  fun_induction countBrackets cs with
  | case1 cs n rest heq ih =>
    rw [heq] at ih
    rw [repeated, List.replicate_succ, List.flatten_cons, List.append_assoc]
    exact congrArg ([']', '['] ++ ·) ih
  | case2 cs => rfl

/-- The brackets that are split off are those that end the text. -/
theorem splitDimensions_eq (cs : List Char) :
    (splitDimensions cs).1 ++ repeated (splitDimensions cs).2 ['[', ']'] = cs := by
  have hreverse : repeated (countBrackets cs.reverse).1 ['[', ']'] =
      (repeated (countBrackets cs.reverse).1 [']', '[']).reverse := by
    simp [repeated, List.reverse_flatten]
  have hcount := congrArg List.reverse (countBrackets_eq cs.reverse)
  rw [List.reverse_append, List.reverse_reverse, ← hreverse] at hcount
  exact hcount

theorem isErased_headOf (w : String) : IsErased (headOf w).1 := by
  intro c hc
  rw [headOf, String.toList_ofList] at hc
  obtain ⟨hfree, hcases⟩ :=
    lastPiece_cases (· == '.') (splitDimensions (stripArguments 0 w.toList)).1
  have hbase : c ∈ (splitDimensions (stripArguments 0 w.toList)).1 := by
    rcases hcases with hall | ⟨before, dot, -, hall⟩
    · rwa [hall]
    · rw [hall]
      exact List.mem_append_right _ (List.mem_cons_of_mem _ hc)
  have hstripped : c ∈ stripArguments 0 w.toList := by
    rw [← splitDimensions_eq (stripArguments 0 w.toList)]
    exact List.mem_append_left _ hbase
  obtain ⟨hopen, hclose, hblank⟩ := isKept_of_mem_stripArguments hstripped
  exact ⟨hopen, hclose, by simpa using hfree c hc, hblank⟩

/-- Of an erased text the head is everything. -/
theorem IsErased.headOf_eq (h : IsErased s) : (headOf s).1 ++ brackets (headOf s).2 = s := by
  have hstrip : stripArguments 0 s.toList = s.toList := by
    have hkept : ∀ c ∈ s.toList, IsKept c := fun c hc =>
      ⟨(h c hc).1, (h c hc).2.1, (h c hc).2.2.2⟩
    have := strips_kept hkept []
    rwa [List.append_nil, stripArguments, List.append_nil] at this
  have hsplit := splitDimensions_eq s.toList
  have hlast : lastPiece (· == '.') (splitDimensions s.toList).1 = (splitDimensions s.toList).1 := by
    refine lastPiece_eq_self_iff.2 fun c hc => ?_
    rw [beq_eq_false_iff_ne]
    refine (h c ?_).2.2.1
    rw [← hsplit]
    exact List.mem_append_left _ hc
  rw [headOf, hstrip]
  simp only [hlast, brackets]
  rw [← String.ofList_append, hsplit, String.ofList_toList]

/-! ## Normal forms -/

theorem isErased_eraseWithin (steps : Nat) (w : String) : IsErased (eraseWithin parameters steps w) := by
  induction steps generalizing w with
  | zero => exact (isErased_headOf w).append (isErased_brackets _)
  | succ steps ih =>
    rw [eraseWithin]
    refine IsErased.append ?_ (isErased_brackets _)
    split
    · exact ih _
    · exact isErased_topName
    · exact isErased_headOf w

/-- **The erased texts** are those that erasure leaves alone. -/
theorem erase_nil_eq_self_iff : erase [] s = s ↔ IsErased s := by
  constructor
  · intro h
    rw [← h]
    exact isErased_eraseWithin _ _
  · exact IsErased.headOf_eq

/-- **A balanced group is not seen**, whatever depth the text before it leads to. -/
theorem stripArguments_append_group {inner : List Char} (h : Balanced inner) (depth : Nat)
    (before after : List Char) :
    stripArguments depth (before ++ '<' :: (inner ++ '>' :: after)) =
      stripArguments depth (before ++ after) := by
  induction before generalizing depth with
  | nil => exact stripArguments_group h depth after
  | cons c before ih =>
    rw [List.cons_append, List.cons_append, stripArguments, stripArguments, ih, ih, ih]

theorem headOf_group (before after : String) {inner : String} (h : Balanced inner.toList) :
    headOf (before ++ "<" ++ inner ++ ">" ++ after) = headOf (before ++ after) := by
  have hstrip := stripArguments_append_group h 0 before.toList after.toList
  have htext : (before ++ "<" ++ inner ++ ">" ++ after).toList =
      before.toList ++ '<' :: (inner.toList ++ '>' :: after.toList) := by
    simp [String.toList_append]
  rw [headOf, headOf, htext, hstrip, String.toList_append]

/-- **Erasure gives a normal form of every text.** What it gives has no angle brackets, dots or blanks,
and such texts are exactly those that erasure without type parameters leaves as they are. A balanced
group can be put anywhere into a text and does not change its erasure. -/
theorem erase_isErased (parameters : List TypeParameter) (w : String) :
    IsErased (erase parameters w) ∧
      erase [] (erase parameters w) = erase parameters w ∧
      (erase [] w = w ↔ IsErased w) ∧
      ∀ a g b : String, Balanced g.toList →
        erase parameters (a ++ "<" ++ g ++ ">" ++ b) = erase parameters (a ++ b) := by
  have herased : IsErased (erase parameters w) := isErased_eraseWithin _ _
  exact ⟨herased, erase_nil_eq_self_iff.2 herased, erase_nil_eq_self_iff,
    fun a _ b hg => eraseWithin_congr (headOf_group a b hg) _ _⟩

/-- Text with brackets that have no partners, and a type parameter with a bound of that kind. -/
theorem erase_isErased_stray :
    Balanced "<,> ?".toList ∧
      erase [⟨"T", ["]a>. List[ ]<"]⟩] (">x.T[][" ++ "<" ++ "<,> ?" ++ ">" ++ "]<[].") =
        erase [⟨"T", ["]a>. List[ ]<"]⟩] (">x.T[][" ++ "]<[].") ∧
      erase [⟨"T", ["]a>. List[ ]<"]⟩] (">x.T[][" ++ "]<[].") = "List[][][]" := by
  have hg : Balanced "<,> ?".toList :=
    .group (show Balanced [','] from .cons (by decide) (by decide) .nil)
      (.cons (by decide) (by decide) (.cons (by decide) (by decide) .nil))
  exact ⟨hg, (erase_isErased [⟨"T", ["]a>. List[ ]<"]⟩] "").2.2.2 (">x.T[][") _ "]<[]." hg,
    by decide +kernel⟩

end MemberSpec.Erasure
