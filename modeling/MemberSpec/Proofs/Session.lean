import Mathlib
import MemberSpec.Introspector

/-!
# Outcomes of computations

What a computation that may fail gives, and what it takes to succeed: a sequence succeeds iff each
part does (`bind_eq_ok_iff`, `outcome_bind_eq_ok`). A session also leaves a state behind, and
`Introspector.Reaches` relates the states between which nothing but look-ups happens.
-/

namespace MemberSpec

section Except

variable {α β ε : Type}

theorem bind_eq_ok_iff {x : Except ε α} {f : α → Except ε β} {b : β} :
    x >>= f = .ok b ↔ ∃ a, x = .ok a ∧ f a = .ok b := by
  cases x <;> simp [bind, Except.bind]

theorem mapM_eq_ok_iff {f : α → Except ε β} {xs : List α} {ys : List β} :
    xs.mapM f = .ok ys ↔ List.Forall₂ (fun x y => f x = .ok y) xs ys := by
  induction xs generalizing ys with
  | nil =>
    rw [List.mapM_nil, List.forall₂_nil_left_iff]
    simp [pure, Except.pure, eq_comm]
  | cons x xs ih =>
    rw [List.mapM_cons, bind_eq_ok_iff, List.forall₂_cons_left_iff]
    constructor
    · rintro ⟨y, hy, h⟩
      obtain ⟨rest, hrest, h⟩ := bind_eq_ok_iff.1 h
      cases h
      exact ⟨y, rest, hy, ih.1 hrest, rfl⟩
    · rintro ⟨y, rest, hy, hrest, rfl⟩
      exact ⟨y, hy, bind_eq_ok_iff.2 ⟨rest, ih.2 hrest, rfl⟩⟩

end Except

namespace Session

variable {σ ε α β : Type}

/-- What a computation gives when it starts in a state, and the state that it leaves. -/
def outcome (m : Session σ ε α) (s : σ) : Except ε α × σ := m.run s

@[simp] theorem outcome_pure (a : α) (s : σ) :
    outcome (pure a : Session σ ε α) s = (.ok a, s) := rfl

@[simp] theorem outcome_throw (e : ε) (s : σ) :
    outcome (throw e : Session σ ε α) s = (.error e, s) := rfl

@[simp] theorem outcome_liftExcept (x : Except ε α) (s : σ) :
    outcome (liftM x : Session σ ε α) s = (x, s) := rfl

@[simp] theorem outcome_liftState (x : StateM σ α) (s : σ) :
    outcome (liftM x : Session σ ε α) s = (.ok (x.run s).1, (x.run s).2) := rfl

@[simp] theorem outcome_get (s : σ) : outcome (get : Session σ ε σ) s = (.ok s, s) := rfl

@[simp] theorem outcome_adapt {ε' : Type} (f : ε → ε') (m : Session σ ε α) (s : σ) :
    outcome (ExceptT.adapt f m) s = ((outcome m s).1.mapError f, (outcome m s).2) := rfl

theorem outcome_bind (m : Session σ ε α) (f : α → Session σ ε β) (s : σ) :
    outcome (m >>= f) s = match outcome m s with
      | (.ok a, t) => outcome (f a) t
      | (.error e, t) => (.error e, t) := by
  have h : outcome (m >>= f) s =
      (ExceptT.bindCont (fun a => f a) (outcome m s).1 : StateM σ (Except ε β)) (outcome m s).2 := rfl
  rw [h]
  rcases outcome m s with ⟨e | a, t⟩ <;> rfl

/-- What comes second is tried in the state that the first one leaves when it fails. -/
theorem outcome_orElse (m m' : Session σ ε α) (s : σ) :
    outcome (m <|> m') s = match outcome m s with
      | (.ok a, t) => (.ok a, t)
      | (.error _, t) => outcome m' t := by
  have h : outcome (m <|> m') s = (ExceptT.tryCatch m fun _ => m').run.run s := rfl
  rw [h, ExceptT.tryCatch, ExceptT.run_mk, StateT.run_bind]
  rcases hm : outcome m s with ⟨e | a, t⟩
  · have hrun : StateT.run m s = (.error e, t) := hm
    rw [hrun]
    rfl
  · have hrun : StateT.run m s = (.ok a, t) := hm
    rw [hrun]
    rfl

theorem outcome_bind_eq_ok {m : Session σ ε α} {f : α → Session σ ε β} {s s' : σ} {b : β} :
    outcome (m >>= f) s = (.ok b, s') ↔
      ∃ a t, outcome m s = (.ok a, t) ∧ outcome (f a) t = (.ok b, s') := by
  rw [outcome_bind]
  rcases outcome m s with ⟨e | a, t⟩
  · simp
  · constructor
    · intro h
      exact ⟨a, t, rfl, h⟩
    · rintro ⟨a', t', h, h'⟩
      cases h
      exact h'

theorem outcome_adapt_eq_ok {ε' : Type} {f : ε → ε'} {m : Session σ ε α} {a : α} {s s' : σ} :
    outcome (ExceptT.adapt f m) s = (.ok a, s') ↔ outcome m s = (.ok a, s') := by
  rw [outcome_adapt]
  rcases outcome m s with ⟨e | a, t⟩ <;> simp [Except.mapError]

end Session

namespace Introspector

variable {σ : Type}

/-- Look-ups lead from one state to the other. -/
inductive Reaches (source : Introspector σ) (s : σ) : σ → Prop
  | refl : Reaches source s s
  | load {t : σ} (name : String) : Reaches source s t →
      Reaches source s (Session.outcome (source.load name) t).2
  | declared {t : σ} (handle : ClassHandle) : Reaches source s t →
      Reaches source s (Session.outcome (source.declared handle) t).2

theorem Reaches.trans {source : Introspector σ} {s t u : σ} (h : source.Reaches s t)
    (h' : source.Reaches t u) : source.Reaches s u := by
  induction h' with
  | refl => exact h
  | load name _ ih => exact ih.load name
  | declared handle _ ih => exact ih.declared handle

theorem reaches_of_load {source : Introspector σ} {name : String} {s t : σ}
    {r : Except LookupError ClassHandle} (h : Session.outcome (source.load name) s = (r, t)) :
    source.Reaches s t := by
  have hreach : source.Reaches s (Session.outcome (source.load name) s).2 := Reaches.refl.load name
  rwa [h] at hreach

theorem reaches_of_declared {source : Introspector σ} {handle : ClassHandle} {s t : σ}
    {r : Except LookupError (List Executable)}
    (h : Session.outcome (source.declared handle) s = (r, t)) : source.Reaches s t := by
  have hreach : source.Reaches s (Session.outcome (source.declared handle) s).2 :=
    Reaches.refl.declared handle
  rwa [h] at hreach

/-- On the way from one state to the other, a name was looked up and stood for the class. -/
def LoadsBetween (source : Introspector σ) (s s' : σ) (handle : ClassHandle) : Prop :=
  ∃ name t t', source.Reaches s t ∧ Session.outcome (source.load name) t = (.ok handle, t') ∧
    source.Reaches t' s'

theorem LoadsBetween.widen {source : Introspector σ} {s s' t t' : σ} {handle : ClassHandle}
    (h : source.LoadsBetween s s' handle) (hs : source.Reaches t s) (hs' : source.Reaches s' t') :
    source.LoadsBetween t t' handle := by
  obtain ⟨name, u, u', h1, h2, h3⟩ := h
  exact ⟨name, u, u', hs.trans h1, h2, h3.trans hs'⟩

theorem LoadsBetween.reaches {source : Introspector σ} {s s' : σ} {handle : ClassHandle}
    (h : source.LoadsBetween s s' handle) : source.Reaches s s' := by
  obtain ⟨name, t, t', hst, hload, hts⟩ := h
  exact (hst.trans (reaches_of_load hload)).trans hts

end Introspector

end MemberSpec
