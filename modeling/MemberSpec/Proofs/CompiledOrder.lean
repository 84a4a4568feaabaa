import Mathlib
import MemberSpec.Proofs.Extraction

/-!
# Compiled order and members without a declaration

A compiler may list the members of a class in any order, and among them members that no visible
declaration stands for. The pairing of declarations does not depend on either.

* `Relisted`: two lists of the members of a class that differ in order and in hidden members only.
* `Relisted.perm_visible`: each such change keeps the visible members, up to order.
* `reconcile_eq_of_perm`: a pairing depends on the executables up to order only, in its failures too.
* `reconcile_visible_eq_of_relisted`: hence the declarations of a class are paired alike.
-/

namespace MemberSpec

namespace Modifiers

def syntheticBit : UInt16 := 0x1000

def bridgeBit : UInt16 := 0x0040

theorem isGenerated_of_bit {m : Modifiers} {bit : UInt16} (hbit : generatedBits &&& bit = bit)
    (h : m.bits &&& bit ≠ 0) : m.isGenerated = true := by
  unfold isGenerated
  rw [bne_iff_ne]
  intro hnone
  apply h
  calc m.bits &&& bit = m.bits &&& (generatedBits &&& bit) := by rw [hbit]
    _ = (m.bits &&& generatedBits) &&& bit := (UInt16.and_assoc _ _ _).symm
    _ = 0 := by rw [hnone, UInt16.zero_and]

end Modifiers

namespace Executable

/-- A member that is not compared with declarations: private, synthetic or a bridge. -/
def IsHidden (e : Executable) : Prop :=
  e.modifiers.isPrivate = true ∨ e.modifiers.bits &&& Modifiers.syntheticBit ≠ 0 ∨
    e.modifiers.bits &&& Modifiers.bridgeBit ≠ 0

instance (e : Executable) : Decidable e.IsHidden :=
  inferInstanceAs (Decidable (_ ∨ _ ∨ _))

theorem IsHidden.isVisible {e : Executable} (h : e.IsHidden) : e.isVisible = false := by
  unfold Executable.isVisible
  obtain hprivate | hsynthetic | hbridge := h
  · simp [hprivate]
  · simp [Modifiers.isGenerated_of_bit (by decide) hsynthetic]
  · simp [Modifiers.isGenerated_of_bit (by decide) hbridge]

end Executable

/-- The second list is the first one in another order, with hidden members put in or taken out. -/
inductive Relisted : List Executable → List Executable → Prop
  | reorder {es es' : List Executable} : es.Perm es' → Relisted es es'
  | insert (before behind : List Executable) {e : Executable} :
      e.IsHidden → Relisted (before ++ behind) (before ++ e :: behind)
  | remove (before behind : List Executable) {e : Executable} :
      e.IsHidden → Relisted (before ++ e :: behind) (before ++ behind)
  | trans {es es' es'' : List Executable} : Relisted es es' → Relisted es' es'' → Relisted es es''

theorem filter_isVisible_insert (before behind : List Executable) {e : Executable}
    (he : e.IsHidden) :
    (before ++ e :: behind).filter Executable.isVisible =
      (before ++ behind).filter Executable.isVisible := by
  have hdropped : ¬ e.isVisible = true := by simp [he.isVisible]
  rw [List.filter_append, List.filter_append, List.filter_cons_of_neg hdropped]

/-- No change of the list touches its visible members. -/
theorem Relisted.perm_visible {es es' : List Executable} (h : Relisted es es') :
    (visibleExecutables es).Perm (visibleExecutables es') := by
  have hfilter : (es.filter Executable.isVisible).Perm (es'.filter Executable.isVisible) := by
    induction h with
    | reorder hperm => exact hperm.filter _
    | insert before behind he => rw [filter_isVisible_insert before behind he]
    | remove before behind he => rw [filter_isVisible_insert before behind he]
    | trans _ _ ih ih' => exact ih.trans ih'
  exact ((visibleExecutables_perm es).trans hfilter).trans (visibleExecutables_perm es').symm

variable {className : String} {classParameters : List Source.TypeParameter}
variable {es es' : List Executable}

/-- **One declaration.** The candidates are the same up to order: none, the same one, or equally many. -/
theorem pairOne_eq_of_perm (h : es.Perm es') (d : Source.Callable) :
    pairOne className classParameters es d = pairOne className classParameters es' d := by
  have hcandidates :=
    h.filter (MatchKey.ofExecutable · == MatchKey.ofDeclaration classParameters d)
  unfold pairOne
  simp only
  generalize es.filter (MatchKey.ofExecutable · == MatchKey.ofDeclaration classParameters d) = found,
    es'.filter (MatchKey.ofExecutable · == MatchKey.ofDeclaration classParameters d) = found'
    at hcandidates ⊢
  match found, hcandidates with
  | [], hperm => rw [List.nil_perm.1 hperm]
  | [e], hperm => rw [List.singleton_perm.1 hperm]
  | e :: e₂ :: rest, hperm =>
    have hlen := hperm.length_eq
    match found', hlen with
    | e' :: e₂' :: rest', hlen => simp only [hlen]

/-- **All declarations.** Pairs and failures are those of any other order of the executables. -/
theorem reconcile_eq_of_perm (h : es.Perm es') (declarations : List Source.Callable) :
    reconcile className classParameters declarations es =
      reconcile className classParameters declarations es' := by
  have hpair : pairOne className classParameters es = pairOne className classParameters es' :=
    funext (pairOne_eq_of_perm h)
  unfold reconcile
  rw [hpair, h.length_eq]

/-- **Pairing ignores the compiled order and the compiler's additions.** Whatever the declarations of a
class are, its members in another order and with other hidden members among them give the same
outcome: the same pairs, or the same failure with the same counts and signature. -/
theorem reconcile_visible_eq_of_relisted (h : Relisted es es')
    (declarations : List Source.Callable) :
    reconcile className classParameters declarations (visibleExecutables es) =
      reconcile className classParameters declarations (visibleExecutables es') :=
  reconcile_eq_of_perm h.perm_visible declarations

/-- A second member with the same key is ambiguous with the first one wherever the class lists it, with
or without a bridge among them. -/
theorem reconcile_visible_eq_of_relisted_overloads :
    let first := publicExecutable "put" [.reference "java.util.Date"]
    let second := publicExecutable "put" [.reference "java.sql.Date"]
    let bridge : Executable := ⟨.method, "put", [.reference "java.lang.Object"], some .void, ⟨0x1041⟩⟩
    let declarations := [publicDeclaration "put" ["Date"], publicDeclaration "clear" []]
    Relisted [first, second] [second, bridge, first] ∧
      reconcile "Box" [] declarations (visibleExecutables [second, bridge, first]) =
        .error (.ambiguousMember "Box" "put(Date)" 2) := by
  intro first second bridge declarations
  have hrelisted : Relisted [first, second] [second, bridge, first] :=
    .trans (.reorder (List.Perm.swap second first [])) (.insert [second] [first] (by decide))
  refine ⟨hrelisted, ?_⟩
  rw [← reconcile_visible_eq_of_relisted hrelisted declarations]
  decide

end MemberSpec
