import Mathlib
import MemberSpec.Extract
import MemberSpec.Proofs.Extraction
import MemberSpec.Proofs.Resolution

/-!
# A wider search

A search goes on only until it succeeds. So a success stays as it is when further candidates are put
behind the old ones: those of the package and the wildcard imports, or a later import. It stays a success,
though maybe with another class, when more names can be loaded.

* `Session.Keeps`: a computation that does the same as another one wherever that one succeeds. It goes
  through sequences, so what holds of resolutions holds of extractions (`Extractor.extract_keeps`).
* `Introspector.Covers`: a source of classes that loads whatever another one loads.
* `success_survives_widening`: what is kept in each case.
-/

namespace MemberSpec

open Session

namespace Session

variable {σ ε ε' α β : Type}

/-- Where the first computation succeeds, the second one gives the same and leaves the same state. -/
def Keeps (m m' : Session σ ε α) : Prop :=
  ∀ s a s', outcome m s = (.ok a, s') → outcome m' s = (.ok a, s')

theorem Keeps.refl (m : Session σ ε α) : Keeps m m := fun _ _ _ h => h

theorem Keeps.bind {m m' : Session σ ε α} {f f' : α → Session σ ε β} (h : Keeps m m')
    (hf : ∀ a, Keeps (f a) (f' a)) : Keeps (m >>= f) (m' >>= f') := by
  intro s b s' hok
  obtain ⟨a, t, hfirst, hrest⟩ := outcome_bind_eq_ok.1 hok
  exact outcome_bind_eq_ok.2 ⟨a, t, h s a t hfirst, hf a t b s' hrest⟩

theorem Keeps.adapt {m m' : Session σ ε α} (h : Keeps m m') (f : ε → ε') :
    Keeps (ExceptT.adapt f m) (ExceptT.adapt f m') := by
  intro s a s' hok
  exact outcome_adapt_eq_ok.2 (h s a s' (outcome_adapt_eq_ok.1 hok))

end Session

namespace Resolver

variable {σ : Type} {source : Introspector σ} {r r' : Resolver} {scope scope' : Source.Scope}
variable {name : String}

/-- **Candidates behind the old ones** do not matter once one of the old ones loads. -/
theorem resolve_keeps_of_prefix (h : r.candidates scope name <+: r'.candidates scope' name) :
    Keeps (r.resolve source scope name) (r'.resolve source scope' name) := by
  intro s handle s' hok
  obtain ⟨more, hmore⟩ := h
  obtain ⟨before, hit, after, t, hnames, hmiss, hhit⟩ :=
    firstLoaded_eq_some_iff.1 (resolve_eq_ok_iff.1 hok)
  have hwider : r'.candidates scope' name = before ++ hit :: (after ++ more) := by
    rw [← hmore, hnames, List.append_assoc, List.cons_append]
  exact resolve_eq_ok_iff.2 (firstLoaded_eq_some_iff.2
    ⟨before, hit, after ++ more, t, hwider, hmiss, hhit⟩)

/-- The resolver with its fallback on or off. -/
def withFallback (r : Resolver) (on : Bool) : Resolver := { r with packageFallback := on }

theorem candidates_withFallback_prefix (r : Resolver) (scope : Source.Scope) (name : String) :
    (r.withFallback false).candidates scope name <+: (r.withFallback true).candidates scope name := by
  refine ⟨fallbackNames scope name, ?_⟩
  simp [candidates, withFallback]

end Resolver

/-- The scope with further imports at the end. -/
def Source.Scope.withImports (scope : Source.Scope) (more : List Source.Import) : Source.Scope :=
  { scope with imports := scope.imports ++ more }

namespace Resolver

/-- A later import is a candidate only if no import was one before. -/
theorem candidates_withImports_prefix (r : Resolver) (scope : Source.Scope)
    (more : List Source.Import) (name : String) :
    (r.withFallback false).candidates scope name <+:
      (r.withFallback false).candidates (scope.withImports more) name := by
  have hfind : importFor? (scope.withImports more) name =
      (importFor? scope name).or (importFor? ⟨none, more⟩ name) := List.find?_append
  cases himport : importFor? scope name with
  | none =>
    refine ⟨((importFor? ⟨none, more⟩ name).map (·.name)).toList, ?_⟩
    simp [candidates, withFallback, hfind, himport]
  | some i =>
    refine ⟨[], ?_⟩
    simp [candidates, withFallback, hfind, himport]

end Resolver

namespace TagContext

variable {σ : Type} {source : Introspector σ} {r r' : Resolver} (c : TagContext)

theorem throwsTag_keeps
    (h : ∀ scope name, Keeps (r.resolve source scope name) (r'.resolve source scope name))
    (b : BlockTag) : Keeps (c.throwsTag source r b) (c.throwsTag source r' b) := by
  unfold throwsTag
  simp only
  by_cases hname : (splitException b.content).1.isEmpty = true
  · simp only [hname, if_true]
    exact .refl _
  · simp only [hname]
    exact ((h c.scope _).adapt _).bind fun handle => .refl _

theorem tag?_keeps
    (h : ∀ scope name, Keeps (r.resolve source scope name) (r'.resolve source scope name))
    (b : BlockTag) : Keeps (c.tag? source r b) (c.tag? source r' b) := by
  unfold tag?
  cases b.kind with
  | throws => exact (c.throwsTag_keeps h b).bind fun tag => .refl _
  | _ => exact .refl _

theorem ofBlockTags_keeps
    (h : ∀ scope name, Keeps (r.resolve source scope name) (r'.resolve source scope name))
    (bs : List BlockTag) : Keeps (c.ofBlockTags source r bs) (c.ofBlockTags source r' bs) := by
  induction bs with
  | nil => exact .refl _
  | cons b bs ih => exact (c.tag?_keeps h b).bind fun first => ih.bind fun others => .refl _

end TagContext

namespace Extractor

variable {σ : Type} {r r' : Resolver} (x : Extractor σ)

/-- The same extractor with another resolver. -/
def withResolver (r : Resolver) : Extractor σ := { x with resolver := r }

theorem member_keeps
    (h : ∀ scope name, Keeps (r.resolve x.introspector scope name)
      (r'.resolve x.introspector scope name))
    (className : String) (scope : Source.Scope) (pair : ReconciledPair) :
    Keeps ((x.withResolver r).member className scope pair)
      ((x.withResolver r').member className scope pair) := by
  refine Keeps.bind (.refl _) fun parameters => ?_
  exact (TagContext.ofBlockTags_keeps _ h _).bind fun tags => .refl _

theorem membersOf_keeps
    (h : ∀ scope name, Keeps (r.resolve x.introspector scope name)
      (r'.resolve x.introspector scope name))
    (className : String) (scope : Source.Scope) (pairs : List ReconciledPair) :
    Keeps ((x.withResolver r).membersOf className scope pairs)
      ((x.withResolver r').membersOf className scope pairs) := by
  induction pairs with
  | nil => exact .refl _
  | cons pair pairs ih =>
    exact (x.member_keeps h className scope pair).bind fun first => ih.bind fun others => .refl _

/-- **An extraction keeps its success** if its resolutions do: nothing else in it asks the resolver. -/
theorem extract_keeps
    (h : ∀ scope name, Keeps (r.resolve x.introspector scope name)
      (r'.resolve x.introspector scope name))
    (className : String) (root : Path) :
    Keeps ((x.withResolver r).extract className root)
      ((x.withResolver r').extract className root) := by
  refine Keeps.bind (.refl _) fun handle => ?_
  refine Keeps.bind (.refl _) fun unit => ?_
  simp only
  cases unit.findClass? (String.ofList (Text.lastPiece (· == '.') className.toList)) with
  | none => exact .refl _
  | some declaration =>
    refine Keeps.bind (.refl _) fun executables => ?_
    refine Keeps.bind (.refl _) fun pairs => ?_
    exact x.membersOf_keeps h className unit.scope pairs

end Extractor

namespace Introspector

variable {σ τ : Type} {source : Introspector σ} {source' : Introspector τ} {s : σ} {t : τ}

/-- The state after names were loaded one after the other. -/
def afterLoads (source : Introspector σ) (s : σ) (names : List String) : σ :=
  names.foldl (fun t name => (outcome (source.load name) t).2) s

/-- Whatever both were asked before, the one source loads each name that the other one loads. -/
def Covers (source' : Introspector τ) (t : τ) (source : Introspector σ) (s : σ) : Prop :=
  ∀ asked name handle u, outcome (source.load name) (source.afterLoads s asked) = (.ok handle, u) →
    ∃ handle' u', outcome (source'.load name) (source'.afterLoads t asked) = (.ok handle', u')

theorem Covers.step (h : source'.Covers t source s) (name : String) :
    source'.Covers (outcome (source'.load name) t).2 source (outcome (source.load name) s).2 :=
  fun asked => h (name :: asked)

/-- A search of the wider source ends no later than that of the other one. -/
theorem Covers.firstLoaded {names : List String} {handle : ClassHandle} {u : σ}
    (h : source'.Covers t source s)
    (hfound : (Resolver.firstLoaded source names).run s = (some handle, u)) :
    ∃ handle' u', (Resolver.firstLoaded source' names).run t = (some handle', u') := by
  induction names generalizing s t with
  | nil => cases hfound
  | cons name names ih =>
    have hstep := h.step name
    rw [Resolver.firstLoaded_cons] at hfound ⊢
    rcases hload' : outcome (source'.load name) t with ⟨fault' | found', t'⟩
    · rcases hload : outcome (source.load name) s with ⟨fault | found, s'⟩
      · rw [hload] at hfound hstep
        rw [hload'] at hstep
        exact ih hstep hfound
      · obtain ⟨handle', u', hok⟩ := h [] name found s' hload
        have hclash := hload'.symm.trans hok
        cases hclash
    · exact ⟨found', t', rfl⟩

end Introspector

/-- The same extractor with the fallback of its resolver on or off. -/
def Extractor.withFallback {σ : Type} (x : Extractor σ) (on : Bool) : Extractor σ :=
  x.withResolver (x.resolver.withFallback on)

/-- **A wider search never changes a success.** What is resolved without the fallback is resolved to the
same class with it, so that an extraction that succeeds without it gives the same members with it. Without
the fallback, imports at the end of a file change no success. And what is resolved with one source of
classes is resolved with every source that covers it. -/
theorem success_survives_widening :
    (∀ (σ : Type) (source : Introspector σ) (r : Resolver) (scope : Source.Scope) (name : String)
      (s s' : σ) (handle : ClassHandle),
      outcome ((r.withFallback false).resolve source scope name) s = (.ok handle, s') →
      outcome ((r.withFallback true).resolve source scope name) s = (.ok handle, s')) ∧
    (∀ (σ : Type) (x : Extractor σ) (className : String) (root : Path) (s s' : σ)
      (members : List Member),
      outcome ((x.withFallback false).extract className root) s = (.ok members, s') →
      outcome ((x.withFallback true).extract className root) s = (.ok members, s')) ∧
    (∀ (σ : Type) (source : Introspector σ) (r : Resolver) (scope : Source.Scope)
      (more : List Source.Import) (name : String) (s s' : σ) (handle : ClassHandle),
      outcome ((r.withFallback false).resolve source scope name) s = (.ok handle, s') →
      outcome ((r.withFallback false).resolve source (scope.withImports more) name) s =
        (.ok handle, s')) ∧
    (∀ (σ τ : Type) (source : Introspector σ) (source' : Introspector τ) (r : Resolver)
      (scope : Source.Scope) (name : String) (s s' : σ) (t : τ) (handle : ClassHandle),
      source'.Covers t source s →
      outcome (r.resolve source scope name) s = (.ok handle, s') →
      ∃ handle' t', outcome (r.resolve source' scope name) t = (.ok handle', t')) := by
  have hfallback : ∀ (σ : Type) (source : Introspector σ) (r : Resolver) (scope : Source.Scope)
      (name : String), Keeps ((r.withFallback false).resolve source scope name)
        ((r.withFallback true).resolve source scope name) := by
    intro σ source r scope name
    exact Resolver.resolve_keeps_of_prefix (r.candidates_withFallback_prefix scope name)
  refine ⟨?_, ?_, ?_, ?_⟩
  · intro σ source r scope name s s' handle hok
    exact hfallback σ source r scope name s handle s' hok
  · intro σ x className root s s' members hok
    exact x.extract_keeps (hfallback σ x.introspector x.resolver) className root s members s' hok
  · intro σ source r scope more name s s' handle hok
    exact Resolver.resolve_keeps_of_prefix (r.candidates_withImports_prefix scope more name)
      s handle s' hok
  · intro σ τ source source' r scope name s s' t handle hcovers hok
    obtain ⟨handle', t', hfound⟩ := hcovers.firstLoaded (Resolver.resolve_eq_ok_iff.1 hok)
    exact ⟨handle', t', Resolver.resolve_eq_ok_iff.2 hfound⟩

/-- A source that has a class of every name. -/
def Introspector.boundless : Introspector Unit where
  load name := pure ⟨name, .publicOnly⟩
  declared _ := pure []

/-- A class that is imported, in a registry that also has one of a later import. -/
def fullRegistry : Registry :=
  .ofList [⟨⟨"acme.Full", .publicOnly⟩, []⟩, ⟨⟨"other.Fuller", .publicOnly⟩, []⟩]

def fullScope : Source.Scope := ⟨some "acme", [⟨"acme.Full", false, false⟩]⟩

theorem success_survives_widening_full :
    outcome ((Resolver.default.withFallback true).resolve Registry.introspector fullScope "Full")
      fullRegistry = (.ok ⟨"acme.Full", .publicOnly⟩, fullRegistry) ∧
    outcome ((Extractor.boxExtractor.withFallback true).extract "acme.Box" ⟨"src"⟩)
      Extractor.boxRegistry = (.ok Extractor.boxMembers, Extractor.boxRegistry) ∧
    outcome ((Resolver.default.withFallback false).resolve Registry.introspector
      (fullScope.withImports [⟨"other.Fuller", false, false⟩]) "Full") fullRegistry =
        (.ok ⟨"acme.Full", .publicOnly⟩, fullRegistry) ∧
    ∃ handle t, outcome (Resolver.default.resolve Introspector.boundless fullScope "Full") () =
      (.ok handle, t) := by
  obtain ⟨hfallback, hextract, himports, hcovers⟩ := success_survives_widening
  have hfull : outcome ((Resolver.default.withFallback false).resolve Registry.introspector fullScope
      "Full") fullRegistry = (.ok ⟨"acme.Full", .publicOnly⟩, fullRegistry) := by decide
  have hbox : outcome ((Extractor.boxExtractor.withFallback false).extract "acme.Box" ⟨"src"⟩)
      Extractor.boxRegistry = (.ok Extractor.boxMembers, Extractor.boxRegistry) := by decide
  have hboundless : Introspector.boundless.Covers () Registry.introspector fullRegistry :=
    fun asked name handle u _ => ⟨_, _, rfl⟩
  exact ⟨hfallback _ _ _ _ _ _ _ _ hfull, hextract _ _ _ _ _ _ _ hbox,
    himports _ _ _ _ _ _ _ _ _ hfull, hcovers _ _ _ _ _ _ _ _ _ _ _ hboundless hfull⟩

end MemberSpec
