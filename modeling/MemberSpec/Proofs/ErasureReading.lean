import Mathlib
import MemberSpec.Erasure
import MemberSpec.Proofs.Blanks

/-!
# What erasure reads of a text

Erasure reads a text from left to right and only counts the type arguments that are open. So the texts
that it reads alike can be put together from parts that it reads alike, behind the same number of open
type arguments.

* `Reads depth cs ds`: with `depth` type arguments open, erasure keeps the same of `cs` and `ds` and
  has as many of them open behind.
* `reads_solid`, `reads_of_hasNoAngles`: blanks are not read, nor is what is inside type arguments.
* `erase_congr`: texts that are read alike have the same erasure.
-/

namespace MemberSpec.Erasure

open Text

/-- The number of type arguments open behind a text. -/
def openAfter (depth : Nat) : List Char → Nat
  | [] => depth
  | c :: cs =>
    if c == '<' then openAfter (depth + 1) cs
    else if c == '>' then openAfter (depth - 1) cs
    else openAfter depth cs

/-- With `depth` type arguments open, erasure keeps the same of two texts and has as many of them
open behind. -/
def Reads (depth : Nat) (cs ds : List Char) : Prop :=
  stripArguments depth cs = stripArguments depth ds ∧ openAfter depth cs = openAfter depth ds

theorem stripArguments_append (depth : Nat) (cs ds : List Char) :
    stripArguments depth (cs ++ ds) =
      stripArguments depth cs ++ stripArguments (openAfter depth cs) ds := by
  fun_induction stripArguments depth cs <;> simp_all [stripArguments, openAfter]

theorem openAfter_append (depth : Nat) (cs ds : List Char) :
    openAfter depth (cs ++ ds) = openAfter (openAfter depth cs) ds := by
  fun_induction openAfter depth cs <;> simp_all [openAfter]

theorem Reads.refl (depth : Nat) (cs : List Char) : Reads depth cs cs := ⟨rfl, rfl⟩

theorem Reads.symm {depth : Nat} {cs ds : List Char} (h : Reads depth cs ds) : Reads depth ds cs :=
  ⟨h.1.symm, h.2.symm⟩

theorem Reads.trans {depth : Nat} {cs ds es : List Char} (h : Reads depth cs ds)
    (h' : Reads depth ds es) : Reads depth cs es :=
  ⟨h.1.trans h'.1, h.2.trans h'.2⟩

theorem Reads.append {depth : Nat} {cs cs' ds ds' : List Char} (h : Reads depth cs cs')
    (h' : Reads (openAfter depth cs) ds ds') : Reads depth (cs ++ ds) (cs' ++ ds') := by
  obtain ⟨hkept, hopen⟩ := h
  constructor
  · rw [stripArguments_append, stripArguments_append, hkept, ← hopen, h'.1]
  · rw [openAfter_append, openAfter_append, ← hopen, h'.2]

/-- Erasure sees no blanks. -/
theorem reads_solid (depth : Nat) (cs : List Char) : Reads depth (solid cs) cs := by
  induction cs generalizing depth with
  | nil => exact Reads.refl _ _
  | cons c cs ih =>
    by_cases hblank : isBlank c = true
    · have hopen : c ≠ '<' := by rintro rfl; exact absurd hblank (by decide)
      have hclose : c ≠ '>' := by rintro rfl; exact absurd hblank (by decide)
      have hsolid : solid (c :: cs) = solid cs := by simp [solid, hblank]
      rw [hsolid]
      refine (ih depth).trans ⟨?_, ?_⟩
      · simp [stripArguments, hopen, hclose, hblank]
      · simp [openAfter, hopen, hclose]
    · have hsolid : solid (c :: cs) = [c] ++ solid cs := by simp [solid, hblank]
      rw [hsolid, ← List.singleton_append]
      exact (Reads.refl depth [c]).append (ih _)

theorem reads_of_solid_eq {cs ds : List Char} (h : solid cs = solid ds) (depth : Nat) :
    Reads depth cs ds :=
  (reads_solid depth cs).symm.trans (h ▸ reads_solid depth ds)

/-- A text without angle brackets. -/
def hasNoAngles (cs : List Char) : Bool := cs.all fun c => c != '<' && c != '>'

/-- Inside type arguments erasure sees no text without angle brackets. -/
theorem reads_of_hasNoAngles {cs : List Char} (h : hasNoAngles cs = true) {depth : Nat}
    (hdepth : 0 < depth) : Reads depth cs [] := by
  induction cs with
  | nil => exact Reads.refl _ _
  | cons c cs ih =>
    rw [hasNoAngles, List.all_cons, Bool.and_eq_true] at h
    obtain ⟨hc, hcs⟩ := h
    rw [Bool.and_eq_true, bne_iff_ne, bne_iff_ne] at hc
    obtain ⟨hkept, hopen⟩ := ih hcs
    have hne : depth ≠ 0 := by omega
    have hkeptCons : stripArguments depth (c :: cs) = stripArguments depth cs := by
      simp [stripArguments, hc, hne]
    have hopenCons : openAfter depth (c :: cs) = openAfter depth cs := by simp [openAfter, hc]
    exact ⟨hkeptCons.trans hkept, hopenCons.trans hopen⟩

theorem eraseWithin_congr {written written' : String} (h : headOf written = headOf written')
    (parameters : List Source.TypeParameter) (steps : Nat) :
    eraseWithin parameters steps written = eraseWithin parameters steps written' := by
  cases steps with
  | zero => rw [eraseWithin, eraseWithin, h]
  | succ steps => rw [eraseWithin, eraseWithin, h]

theorem headOf_congr {written written' : String} (h : Reads 0 written.toList written'.toList) :
    headOf written = headOf written' := by
  rw [headOf, headOf, h.1]

theorem erase_congr {written written' : String} (h : Reads 0 written.toList written'.toList)
    (parameters : List Source.TypeParameter) :
    erase parameters written = erase parameters written' :=
  eraseWithin_congr (headOf_congr h) parameters parameters.length

end MemberSpec.Erasure
