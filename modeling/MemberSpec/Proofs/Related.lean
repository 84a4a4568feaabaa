import Mathlib

/-!
# Related options and lists

Two readings of the same kind give options and lists whose entries correspond. These lemmas carry a
relation through the functions that readers are built from.
-/

namespace MemberSpec

instance decidableOptionRel {α : Type} {R : α → α → Prop} [∀ x y, Decidable (R x y)] :
    (o o' : Option α) → Decidable (Option.Rel R o o')
  | none, none => isTrue .none
  | some x, some y => decidable_of_iff (R x y) ⟨.some, fun h => by cases h; assumption⟩
  | none, some _ => isFalse fun h => by cases h
  | some _, none => isFalse fun h => by cases h

variable {α β : Type} {R : α → α → Prop} {S : β → β → Prop} {o o' : Option α} {xs ys : List α}

theorem rel_iff :
    Option.Rel R o o' ↔ o = none ∧ o' = none ∨ ∃ x y, o = some x ∧ o' = some y ∧ R x y := by
  constructor
  · intro h
    cases h with
    | none => exact .inl ⟨rfl, rfl⟩
    | some h => exact .inr ⟨_, _, rfl, rfl, h⟩
  · rintro (⟨rfl, rfl⟩ | ⟨x, y, rfl, rfl, h⟩)
    · exact .none
    · exact .some h

theorem map_rel {f g : α → β} (h : Option.Rel R o o') (hf : ∀ x y, R x y → S (f x) (g y)) :
    Option.Rel S (o.map f) (o'.map g) := by
  cases h with
  | none => exact .none
  | some hxy => exact .some (hf _ _ hxy)

theorem bind_rel {f g : α → Option β} (h : Option.Rel R o o')
    (hf : ∀ x y, R x y → Option.Rel S (f x) (g y)) : Option.Rel S (o >>= f) (o' >>= g) := by
  cases h with
  | none => exact .none
  | some hxy => exact hf _ _ hxy

theorem imp_rel {R' : α → α → Prop} (h : Option.Rel R o o') (himp : ∀ x y, R x y → R' x y) :
    Option.Rel R' o o' := by
  cases h with
  | none => exact .none
  | some hxy => exact .some (himp _ _ hxy)

/-- Lists that are read off related values, or are empty without one. -/
theorem getD_rel {f g : α → List β} (h : Option.Rel R o o')
    (hf : ∀ x y, R x y → List.Forall₂ S (f x) (g y)) :
    List.Forall₂ S ((o.map f).getD []) ((o'.map g).getD []) := by
  cases h with
  | none => exact .nil
  | some hxy => exact hf _ _ hxy

/-- The first elements that pass a test are related if related elements pass it together. -/
theorem find?_rel {p : α → Bool} (hp : ∀ x y, R x y → p x = p y) (h : List.Forall₂ R xs ys) :
    Option.Rel R (xs.find? p) (ys.find? p) := by
  induction h with
  | nil => exact .none
  | @cons x y xs ys hxy _ ih =>
    rw [List.find?_cons, List.find?_cons, hp x y hxy]
    cases p y with
    | true => exact .some hxy
    | false => exact ih

theorem getLast?_rel (h : List.Forall₂ R xs ys) : Option.Rel R xs.getLast? ys.getLast? := by
  rw [List.getLast?_eq_head?_reverse, List.getLast?_eq_head?_reverse]
  have hreverse := List.forall₂_reverse_iff.2 h
  generalize xs.reverse = xs' at hreverse ⊢
  generalize ys.reverse = ys' at hreverse ⊢
  cases hreverse with
  | nil => exact .none
  | cons hfirst _ => exact .some hfirst

theorem isEmpty_eq_of_forall₂ (h : List.Forall₂ R xs ys) : xs.isEmpty = ys.isEmpty := by
  cases h <;> rfl

theorem rel_of_map_eq {f : α → β} (h : o.map f = o'.map f) :
    Option.Rel (fun x y => f x = f y) o o' := by
  cases o <;> cases o' <;> simp at h
  · exact .none
  · exact .some h

/-- Lists have the same images exactly if their elements do, one by one. -/
theorem map_eq_map_iff_forall₂ {γ : Type} {f : α → γ} {g : β → γ} {zs : List β} :
    xs.map f = zs.map g ↔ List.Forall₂ (fun x z => f x = g z) xs zs := by
  rw [← List.forall₂_eq_eq_eq, List.forall₂_map_left_iff, List.forall₂_map_right_iff]

/-- Related elements can be told to be among the elements of their lists. -/
theorem forall₂_imp_mem {T U : α → β → Prop} {zs : List β} (h : List.Forall₂ T xs zs)
    (himp : ∀ x ∈ xs, ∀ z ∈ zs, T x z → U x z) : List.Forall₂ U xs zs := by
  induction h with
  | nil => exact .nil
  | cons hxz _ ih =>
    refine .cons (himp _ List.mem_cons_self _ List.mem_cons_self hxz) (ih fun x hx z hz => ?_)
    exact himp x (List.mem_cons_of_mem _ hx) z (List.mem_cons_of_mem _ hz)

end MemberSpec
