import Mathlib
import MemberSpec.Extract
import MemberSpec.Inquiry
import MemberSpec.Proofs.Tags

/-!
# Extractions as inquiries

An extraction learns of compiled classes only what it asks its introspector: there is one inquiry that
it makes of every introspector, whatever that remembers (`Extractor.extract_isInquiry`). What holds of
all inquiries, by induction on them, holds of extractions.

* `Inquiry.via_bind`: answering a sequence is answering its parts.
* `Inquiry.eq_of_via`: inquiries that no answers tell apart are equal.
* `Inquiry.AsksLoaded`: only classes that were loaded are asked for their executables.
* `IsInquiry`: a computation that does nothing but ask for classes in this way, with one lemma for each
  way to build such a computation.
-/

namespace MemberSpec

open Session

namespace Inquiry

variable {Q : Type} {Answer : Q → Type} {α β γ : Type}

theorem bind_done (p : Inquiry Answer α) : p.bind done = p := by
  induction p with
  | done a => rfl
  | ask q next ih => simp only [bind, ih]

theorem bind_assoc (p : Inquiry Answer α) (f : α → Inquiry Answer β) (g : β → Inquiry Answer γ) :
    (p.bind f).bind g = p.bind fun a => (f a).bind g := by
  induction p with
  | done a => rfl
  | ask q next ih => simp only [bind, ih]

instance : LawfulMonad (Inquiry Answer) :=
  LawfulMonad.mk' _ bind_done (fun _ _ => rfl) bind_assoc

theorem via_bind {m : Type → Type} [Monad m] [LawfulMonad m] (answer : (q : Q) → m (Answer q))
    (p : Inquiry Answer α) (f : α → Inquiry Answer β) :
    (p.bind f).via answer = (p.via answer >>= fun a => (f a).via answer) := by
  induction p with
  | done a => simp [bind, via]
  | ask q next ih => simp [bind, via, ih]

/-- The second part of a sequence goes on in the state that the first one leaves. -/
theorem run_via_bind {σ : Type} (answer : (q : Q) → StateM σ (Answer q)) (p : Inquiry Answer α)
    (f : α → Inquiry Answer β) (s : σ) :
    ((p.bind f).via answer).run s =
      ((f ((p.via answer).run s).1).via answer).run ((p.via answer).run s).2 :=
  congrFun (via_bind answer p f) s

/-- Answers that are themselves inquiries can be answered in turn. -/
theorem via_via {Q' : Type} {Answer' : Q' → Type} {m : Type → Type} [Monad m] [LawfulMonad m]
    (reply : (q : Q) → Inquiry Answer' (Answer q)) (answer : (q : Q') → m (Answer' q))
    (p : Inquiry Answer α) :
    (p.via reply).via answer = p.via fun q => (reply q).via answer := by
  induction p with
  | done a => rfl
  | ask q next ih =>
    have hbind : (ask q next).via reply = (reply q).bind fun a => (next a).via reply := rfl
    rw [hbind, via_bind]
    simp only [via, ih]

section Unique

variable [∀ q, Inhabited (Answer q)]

/-- Gives any answers, and notes the first question. -/
def noteFirst (q : Q) : StateM (Option Q) (Answer q) := fun
  | none => (default, some q)
  | some first => (default, some first)

theorem run_noteFirst_some (p : Inquiry Answer α) (first : Q) :
    ((p.via noteFirst).run (some first)).2 = some first := by
  induction p with
  | done a => rfl
  | ask q next ih => exact ih default

/-- Gives the answer `a` to a first question `q`, then those of `answer` from the state `s` on. -/
noncomputable def answerFirst {σ : Type} {q : Q} (a : Answer q) (answer : (q : Q) → StateM σ (Answer q))
    (s : σ) (q' : Q) : StateM (Option σ) (Answer q') := open Classical in fun
  | none => (if h : q = q' then h ▸ a else default, some s)
  | some t => (((answer q').run t).1, some ((answer q').run t).2)

theorem run_answerFirst_some {σ : Type} {q : Q} (a : Answer q)
    (answer : (q : Q) → StateM σ (Answer q)) (s t : σ) (p : Inquiry Answer α) :
    (p.via (answerFirst a answer s)).run (some t) =
      (((p.via answer).run t).1, some ((p.via answer).run t).2) := by
  induction p generalizing t with
  | done b => rfl
  | ask q' next ih => exact ih ((answer q').run t).1 ((answer q').run t).2

theorem run_answerFirst_ask {σ : Type} {q : Q} (a : Answer q)
    (answer : (q : Q) → StateM σ (Answer q)) (s : σ) (next : Answer q → Inquiry Answer α) :
    ((ask q next).via (answerFirst a answer s)).run none =
      ((((next a).via answer).run s).1, some (((next a).via answer).run s).2) := by
  have hrun : ((ask q next).via (answerFirst a answer s)).run none =
      ((next (answerFirst a answer s q none).1).via (answerFirst a answer s)).run (some s) := rfl
  have hfirst : (answerFirst a answer s q none).1 = a := by simp [answerFirst]
  rw [hrun, hfirst, run_answerFirst_some]

/-- **Inquiries that no answers tell apart are equal**: some answers show the first question, and with
it any answer can be given and the rest be looked at. -/
theorem eq_of_via {p p' : Inquiry Answer α}
    (h : ∀ (σ : Type) (answer : (q : Q) → StateM σ (Answer q)) (s : σ),
      (p.via answer).run s = (p'.via answer).run s) : p = p' := by
  induction p generalizing p' with
  | done a =>
    have hnote := h (Option Q) noteFirst none
    cases p' with
    | done a' => rw [show a = a' from congrArg Prod.fst hnote]
    | ask q' next' =>
      have hstate : none = some q' :=
        (congrArg Prod.snd hnote).trans (run_noteFirst_some (next' default) q')
      cases hstate
  | ask q next ih =>
    -- the first question is the same, and the rest is compared after each answer to it
    have hnote := congrArg Prod.snd (h (Option Q) noteFirst none)
    have hfirst : ((ask q next).via noteFirst |>.run none).2 = some q :=
      run_noteFirst_some (next default) q
    cases p' with
    | done a' =>
      have hstate : some q = none := hfirst.symm.trans hnote
      cases hstate
    | ask q' next' =>
      obtain rfl : q = q' :=
        Option.some.inj (hfirst.symm.trans (hnote.trans (run_noteFirst_some (next' default) q')))
      congr 1
      funext a
      refine ih a fun σ answer s => ?_
      have hrest := h (Option σ) (answerFirst a answer s) none
      rw [run_answerFirst_ask, run_answerFirst_ask, Prod.mk.injEq, Option.some_inj] at hrest
      exact Prod.ext hrest.1 hrest.2

end Unique

end Inquiry

/-- A question about compiled classes. -/
inductive Lookup where
  | load (name : String)
  | declared (handle : ClassHandle)

namespace Lookup

def Answer : Lookup → Type
  | load _ => Except LookupError ClassHandle
  | declared _ => Except LookupError (List Executable)

/-- The name that is looked up. -/
def name : Lookup → String
  | load name => name
  | declared handle => handle.name

/-- The name of a class that is to be loaded. -/
def loaded : Lookup → List String
  | load name => [name]
  | declared _ => []

end Lookup

def Introspector.answer {σ : Type} (source : Introspector σ) : (q : Lookup) → StateM σ q.Answer
  | .load name => (source.load name).run
  | .declared handle => (source.declared handle).run

namespace Introspector

variable {σ α : Type} (source : Introspector σ)

theorem run_ask (q : Lookup) (next : q.Answer → Inquiry Lookup.Answer α) (s : σ) :
    ((Inquiry.ask q next).via source.answer).run s =
      ((next ((source.answer q).run s).1).via source.answer).run ((source.answer q).run s).2 := rfl

theorem run_recording_ask (q : Lookup) (next : q.Answer → Inquiry Lookup.Answer α) (s : σ)
    (names : List String) :
    ((Inquiry.ask q next).via source.recording.answer).run (s, names) =
      ((next ((source.answer q).run s).1).via source.recording.answer).run
        (((source.answer q).run s).2, names ++ q.loaded) := by
  cases q with
  | load name => rfl
  | declared handle =>
    rw [show (Lookup.declared handle).loaded = [] from rfl, List.append_nil]
    rfl

/-- **Recording changes no answer**: it adds the names that are loaded to those that were there. -/
theorem exists_run_recording (d : Inquiry Lookup.Answer α) (s : σ) :
    ∃ loaded, ∀ names, (d.via source.recording.answer).run (s, names) =
      (((d.via source.answer).run s).1, ((d.via source.answer).run s).2, names ++ loaded) := by
  induction d generalizing s with
  | done a =>
    refine ⟨[], fun names => ?_⟩
    rw [List.append_nil]
    rfl
  | ask q next ih =>
    obtain ⟨loaded, hloaded⟩ := ih ((source.answer q).run s).1 ((source.answer q).run s).2
    refine ⟨q.loaded ++ loaded, fun names => ?_⟩
    rw [run_recording_ask, hloaded, run_ask, List.append_assoc]

theorem subset_run_recording (d : Inquiry Lookup.Answer α) (s : σ) (names : List String) :
    names ⊆ ((d.via source.recording.answer).run (s, names)).2.2 := by
  obtain ⟨loaded, hloaded⟩ := source.exists_run_recording d s
  rw [hloaded]
  exact List.subset_append_left names loaded

end Introspector

namespace Lookup

/-- The question is not about the executables of a class that is not among the known ones. -/
def IsAbout (known : List ClassHandle) : Lookup → Prop
  | load _ => True
  | declared handle => handle ∈ known

/-- The class that an answer makes known. -/
def learnt : (q : Lookup) → q.Answer → List ClassHandle
  | load _ => fun answer : Except LookupError ClassHandle => answer.toOption.toList
  | declared _ => fun _ => []

theorem IsAbout.mono {known known' : List ClassHandle} {q : Lookup} (h : q.IsAbout known)
    (hsub : known ⊆ known') : q.IsAbout known' := by
  cases q with
  | load name => trivial
  | declared handle => exact hsub h

end Lookup

namespace Inquiry

variable {α β : Type} {known known' : List ClassHandle}

/-- Executables are asked for only of classes that are known or were loaded before. -/
def AsksLoaded : List ClassHandle → Inquiry Lookup.Answer α → Prop
  | _, done _ => True
  | known, ask q next => q.IsAbout known ∧ ∀ answer, AsksLoaded (q.learnt answer ++ known) (next answer)

theorem AsksLoaded.mono {d : Inquiry Lookup.Answer α} (h : d.AsksLoaded known)
    (hsub : known ⊆ known') : d.AsksLoaded known' := by
  induction d generalizing known known' with
  | done a => trivial
  | ask q next ih =>
    exact ⟨h.1.mono hsub, fun answer =>
      ih answer (h.2 answer) (List.append_subset.2
        ⟨List.subset_append_left _ _, List.subset_append_of_subset_right _ hsub⟩)⟩

theorem AsksLoaded.bind {d : Inquiry Lookup.Answer α} {f : α → Inquiry Lookup.Answer β}
    (h : d.AsksLoaded known) (hf : ∀ a, (f a).AsksLoaded known) : (d.bind f).AsksLoaded known := by
  induction d generalizing known with
  | done a => exact hf a
  | ask q next ih =>
    exact ⟨h.1, fun answer => ih answer (h.2 answer) fun a =>
      (hf a).mono (List.subset_append_right _ _)⟩

end Inquiry

/-- One inquiry says what the computation does with every introspector. It asks for the executables of
no other classes than those that it loaded and the known ones. -/
def IsInquiry {ε α : Type} (known : List ClassHandle)
    (m : (σ : Type) → Introspector σ → Session σ ε α) : Prop :=
  ∃ d : Inquiry Lookup.Answer (Except ε α), d.AsksLoaded known ∧
    ∀ (σ : Type) (source : Introspector σ) (s : σ),
      outcome (m σ source) s = (d.via source.answer).run s

namespace IsInquiry

variable {ε ε' α β : Type} {known : List ClassHandle}

theorem liftExcept (x : Except ε α) : IsInquiry known fun σ _ => (liftM x : Session σ ε α) :=
  ⟨.done x, trivial, fun _ _ _ => rfl⟩

theorem pure (a : α) : IsInquiry known fun σ _ => (Pure.pure a : Session σ ε α) :=
  liftExcept (.ok a)

theorem throw (e : ε) : IsInquiry known fun σ _ => (MonadExcept.throw e : Session σ ε α) :=
  liftExcept (.error e)

theorem declared {handle : ClassHandle} (h : handle ∈ known) :
    IsInquiry known fun _ source => source.declared handle :=
  ⟨.ask (.declared handle) .done, ⟨h, fun _ => trivial⟩, fun _ _ _ => rfl⟩

/-- A computation that goes on from the outcome of an inquiry, by an inquiry for each outcome. -/
theorem continued {m : (σ : Type) → Introspector σ → Session σ ε α} (h : IsInquiry known m)
    {k : Except ε α → (σ : Type) → Introspector σ → Session σ ε' β}
    (hk : ∀ r, IsInquiry known (k r)) {n : (σ : Type) → Introspector σ → Session σ ε' β}
    (hn : ∀ σ source s, outcome (n σ source) s =
      outcome (k (outcome (m σ source) s).1 σ source) (outcome (m σ source) s).2) :
    IsInquiry known n := by
  obtain ⟨d, hloaded, hd⟩ := h
  choose next hnextLoaded hnext using hk
  refine ⟨d.bind next, hloaded.bind hnextLoaded, fun σ source s => ?_⟩
  rw [hn, hnext, hd, Inquiry.run_via_bind]

/-- A computation that loads a class first and may then ask for its executables. -/
theorem loading (name : String)
    {k : Except LookupError ClassHandle → (σ : Type) → Introspector σ → Session σ ε β}
    (hk : ∀ r, IsInquiry (r.toOption.toList ++ known) (k r))
    {n : (σ : Type) → Introspector σ → Session σ ε β}
    (hn : ∀ σ source s, outcome (n σ source) s =
      outcome (k (outcome (source.load name) s).1 σ source) (outcome (source.load name) s).2) :
    IsInquiry known n := by
  choose next hnextLoaded hnext using hk
  refine ⟨.ask (.load name) next, ⟨trivial, hnextLoaded⟩, fun σ source s => ?_⟩
  rw [hn, hnext]
  rfl

/-- What a sequence goes on with: after a failure, the failure in its own words. -/
def rest (e : ε → ε') (f : α → (σ : Type) → Introspector σ → Session σ ε' β) :
    Except ε α → (σ : Type) → Introspector σ → Session σ ε' β
  | .ok a => f a
  | .error fault => fun _ _ => MonadExcept.throw (e fault)

theorem bind {m : (σ : Type) → Introspector σ → Session σ ε α} (h : IsInquiry known m)
    {f : α → (σ : Type) → Introspector σ → Session σ ε β} (hf : ∀ a, IsInquiry known (f a)) :
    IsInquiry known fun σ source => m σ source >>= fun a => f a σ source := by
  apply h.continued (k := rest id f)
  · intro r
    cases r with
    | ok a => exact hf a
    | error fault => exact throw fault
  · intro σ source s
    rw [outcome_bind]
    rcases outcome (m σ source) s with ⟨e | a, t⟩ <;> rfl

/-- A sequence that starts by loading a class, where the rest may ask for its executables. -/
theorem load_bind (name : String) (e : LookupError → ε)
    {f : ClassHandle → (σ : Type) → Introspector σ → Session σ ε β}
    (hf : ∀ handle, IsInquiry (handle :: known) (f handle)) :
    IsInquiry known fun σ source =>
      ExceptT.adapt e (source.load name) >>= fun handle => f handle σ source := by
  apply loading name (k := rest e f)
  · intro r
    cases r with
    | ok handle => exact hf handle
    | error fault => exact throw (e fault)
  · intro σ source s
    rw [outcome_bind, outcome_adapt]
    rcases outcome (source.load name) s with ⟨fault | handle, t⟩ <;> rfl

theorem adapt {m : (σ : Type) → Introspector σ → Session σ ε α} (h : IsInquiry known m)
    (f : ε → ε') : IsInquiry known fun σ source => ExceptT.adapt f (m σ source) :=
  h.continued (fun r => liftExcept (r.mapError f)) fun _ _ _ => rfl

end IsInquiry

variable {known : List ClassHandle}

theorem Introspector.visible_isInquiry {handle : ClassHandle} (h : handle ∈ known) :
    IsInquiry known fun _ source => source.visible handle :=
  (IsInquiry.declared h).bind fun declared => .pure (visibleExecutables declared)

namespace Resolver

/-- What a search goes on with, after a name was looked up. -/
def searchRest {ε : Type} (names : List String) :
    Except LookupError ClassHandle → (σ : Type) → Introspector σ → Session σ ε (Option ClassHandle)
  | .ok handle => fun _ _ => pure (some handle)
  | .error _ => fun _ source => liftM (firstLoaded source names)

theorem firstLoaded_isInquiry {ε : Type} (names : List String) :
    IsInquiry known fun σ source => (liftM (firstLoaded source names) :
      Session σ ε (Option ClassHandle)) := by
  induction names with
  | nil => exact .pure none
  | cons name names ih =>
    apply IsInquiry.loading name (k := searchRest names)
    · intro r
      cases r with
      | ok handle => exact .pure (some handle)
      | error _ => exact ih
    · intro σ source s
      rw [outcome_liftState, firstLoaded_cons]
      rcases outcome (source.load name) s with ⟨e | handle, t⟩ <;> rfl

theorem resolve_isInquiry (r : Resolver) (scope : Source.Scope) (name : String) :
    IsInquiry known fun _ source => r.resolve source scope name := by
  have hsearch : IsInquiry known fun σ source =>
      (liftM (firstLoaded source (r.candidates scope name)) : Session σ ResolveError _) :=
    firstLoaded_isInquiry _
  refine hsearch.continued
    (fun found => .liftExcept (found >>= answerOf (.exceptionTypeNotFound name))) fun σ source s => ?_
  exact outcome_resolve r source scope name s

end Resolver

namespace TagContext

variable (c : TagContext) (r : Resolver)

theorem throwsTag_isInquiry (b : BlockTag) :
    IsInquiry known fun _ source => c.throwsTag source r b := by
  unfold throwsTag
  simp only
  by_cases hname : (splitException b.content).1.isEmpty = true
  · simp only [hname, if_true]
    exact .throw _
  · simp only [hname]
    exact ((r.resolve_isInquiry c.scope _).adapt _).bind fun handle => .pure _

theorem tag?_isInquiry (b : BlockTag) : IsInquiry known fun _ source => c.tag? source r b := by
  unfold tag?
  cases b.kind with
  | param => exact .pure (c.paramTag? b)
  | returns => exact .pure (some (Tag.returns b.content))
  | throws => exact (c.throwsTag_isInquiry r b).bind fun tag => .pure (some tag)
  | _ => exact .pure none

theorem ofBlockTags_isInquiry (bs : List BlockTag) :
    IsInquiry known fun _ source => c.ofBlockTags source r bs := by
  induction bs with
  | nil => exact .pure []
  | cons b bs ih =>
    exact (c.tag?_isInquiry r b).bind fun first => ih.bind fun others => .pure (first.toList ++ others)

end TagContext

namespace Extractor

/-- The same extractor with another source of classes. -/
def withSource {σ τ : Type} (x : Extractor σ) (source : Introspector τ) : Extractor τ :=
  ⟨source, x.readUnit, x.policy, x.resolver, x.extension⟩

variable {σ₀ : Type} (x : Extractor σ₀) (className : String)

theorem member_isInquiry (scope : Source.Scope) (pair : ReconciledPair) :
    IsInquiry known fun _ source => (x.withSource source).member className scope pair :=
  (IsInquiry.liftExcept (pair.parameters className x.policy)).bind fun parameters =>
    (TagContext.ofBlockTags_isInquiry ⟨className, pair.declaration.signature, parameters, scope⟩
      x.resolver _).bind fun _ => .pure _

theorem membersOf_isInquiry (scope : Source.Scope) (pairs : List ReconciledPair) :
    IsInquiry known fun _ source => (x.withSource source).membersOf className scope pairs := by
  induction pairs with
  | nil => exact .pure []
  | cons pair pairs ih =>
    exact (x.member_isInquiry className scope pair).bind fun first =>
      ih.bind fun others => .pure (first :: others)

/-- **An extraction is an inquiry of its introspector.** -/
theorem extract_isInquiry (root : Path) :
    IsInquiry [] fun _ source => (x.withSource source).extract className root := by
  refine IsInquiry.load_bind className (ExtractError.classNotFound className) fun handle => ?_
  refine (IsInquiry.liftExcept
    (x.unitOf className (sourcePath x.extension className root))).bind fun unit => ?_
  simp only
  cases unit.findClass? (String.ofList (Text.lastPiece (· == '.') className.toList)) with
  | none => exact .throw (ExtractError.declarationNotFound _ (sourcePath x.extension className root))
  | some declaration =>
    refine ((Introspector.visible_isInquiry List.mem_cons_self).adapt
      (ExtractError.introspection className)).bind fun executables => ?_
    refine (IsInquiry.liftExcept (reconcile className declaration.typeParameters declaration.visible
      executables)).bind fun pairs => ?_
    exact x.membersOf_isInquiry className unit.scope pairs

end Extractor

end MemberSpec
