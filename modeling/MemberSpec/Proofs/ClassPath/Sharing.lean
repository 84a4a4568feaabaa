import Mathlib
import MemberSpec.ClassPath
import MemberSpec.Proofs.ClassPath.Cache
import MemberSpec.Proofs.Inquiry

/-!
# Inquiries that share a cache

A cache is faithful if every entry is what the files have for its name. Inquiries may use a faithful
cache in turn, each without knowing what the others do between its own uses: as long as none of them
enters a class under a name that the files have another class for, the answers of the cache are those
of the files.

* `Gives`: an inquiry that, whatever faithful answers it gets, makes faithful entries only and ends
  with the given result.
* `gives_find?`: a look-up of a name gives what the files have for it, if the class found is also found
  under its own name.
* `gives_via_reply`: hence a whole inquiry about classes gives what it gives when it has the cache for
  itself.
-/

namespace MemberSpec

namespace ClassPath

variable (c : ClassPath) (files : FileTree)

/-- Every entry is what the files have for its name. -/
def Faithful (cache : ClassCache) : Prop :=
  ∀ name found, cache.lookup name = some found → c.read? files name = .ok (some found)

/-- The use makes no entry that the files do not have. -/
def IsRight : CacheUse → Prop
  | .get _ => True
  | .insert name found => c.read? files name = .ok (some found)

/-- A faithful cache can give the answer. -/
def Fits : (use : CacheUse) → use.Answer → Prop
  | .get name => fun answer : Option ClassFile =>
      ∀ found, answer = some found → c.read? files name = .ok (some found)
  | .insert .. => fun _ => True

/-- With faithful answers, the inquiry makes faithful entries only and ends with `r`. -/
def Gives {α : Type} (r : α) : CacheInquiry α → Prop
  | .done a => a = r
  | .ask use next => c.IsRight files use ∧ ∀ answer, c.Fits files use answer → Gives r (next answer)

/-- The class that the files have for a name, they have for its own name too. -/
def FindsOwn (name : String) : Prop :=
  ∀ found, c.read? files name = .ok (some found) → c.read? files found.name = .ok (some found)

variable {c : ClassPath} {files : FileTree} {cache : ClassCache} {α β : Type} {r : α}

theorem faithful_nil : c.Faithful files [] := by
  intro name found h
  cases h

/-- **One use of a faithful cache** is answered faithfully and leaves the cache faithful. -/
theorem Faithful.perform (h : c.Faithful files cache) {use : CacheUse}
    (huse : c.IsRight files use) :
    c.Fits files use (use.perform.run cache).1 ∧ c.Faithful files (use.perform.run cache).2 := by
  cases use with
  | get name => exact ⟨fun found hfound => h name found hfound, h⟩
  | insert name found =>
    refine ⟨trivial, fun key found' hkey => ?_⟩
    have hlookup : (cache.insert name found).lookup key = some found' := hkey
    rw [ClassCache.lookup_insert] at hlookup
    split at hlookup
    · rename_i hname
      cases hlookup
      rw [hname]
      exact huse
    · exact h key found' hlookup

theorem Gives.bind {p : CacheInquiry α} {f : α → CacheInquiry β} {b : β} (hp : c.Gives files r p)
    (hf : c.Gives files b (f r)) : c.Gives files b (p.bind f) := by
  induction p with
  | done a =>
    have ha : a = r := hp
    rw [ha]
    exact hf
  | ask use next ih => exact ⟨hp.1, fun answer hanswer => ih answer (hp.2 answer hanswer)⟩

/-- **The whole of an inquiry**, if it has a faithful cache for itself. -/
theorem Gives.run {p : CacheInquiry α} (hp : c.Gives files r p) (h : c.Faithful files cache) :
    ((p.via CacheUse.perform).run cache).1 = r ∧
      c.Faithful files ((p.via CacheUse.perform).run cache).2 := by
  induction p generalizing cache with
  | done a => exact ⟨hp, h⟩
  | ask use next ih =>
    obtain ⟨hfits, hfaithful⟩ := h.perform hp.1
    exact ih _ (hp.2 _ hfits) hfaithful

theorem gives_insert {name : String} {found : ClassFile}
    (h : c.read? files name = .ok (some found)) :
    c.Gives files () (CacheInquiry.insert name found) :=
  ⟨h, fun _ _ => rfl⟩

/-- A class that is found under its own name too may be kept under both names. -/
theorem gives_keep {name : String} {found : ClassFile} (h : c.read? files name = .ok (some found))
    (hown : c.read? files found.name = .ok (some found)) :
    c.Gives files () (keep name found) := by
  unfold keep
  refine (gives_insert h).bind ?_
  split
  · exact gives_insert hown
  · exact rfl

theorem gives_pure (a : α) : c.Gives files a (pure a) := rfl

theorem gives_get_bind {name : String} {f : Option ClassFile → CacheInquiry α}
    (h : ∀ answer, c.Fits files (.get name) answer → c.Gives files r (f answer)) :
    c.Gives files r (CacheInquiry.get name >>= f) :=
  ⟨trivial, h⟩

/-- **A look-up** gives what the files have for the name. -/
theorem gives_find? {name : String} (hown : c.FindsOwn files name) :
    c.Gives files (c.read? files name) (c.find? files name) := by
  unfold find?
  apply gives_get_bind
  intro answer hanswer
  cases answer with
  | some found =>
    have hfound : c.read? files name = .ok (some found) := hanswer found rfl
    rw [hfound]
    exact gives_pure _
  | none =>
    -- the cache may lack the name at any time, so the files may be read again
    rcases hread : c.read? files name with fault | _ | found
    · exact gives_pure _
    · exact gives_pure _
    · exact (gives_keep hread (hown found hread)).bind (gives_pure _)

/-- A question about classes, by uses of a cache. -/
def reply (c : ClassPath) (files : FileTree) : (q : Lookup) → CacheInquiry q.Answer
  | .load name => c.load files name
  | .declared handle => c.declared files handle

theorem answer_introspectorVia {σ : Type} (answer : (use : CacheUse) → StateM σ use.Answer) :
    (c.introspectorVia files answer).answer = fun q => (c.reply files q).via answer := by
  funext q
  cases q <;> rfl

theorem answer_introspector (q : Lookup) :
    (c.introspector files).answer q = (c.reply files q).via CacheUse.perform :=
  congrFun (answer_introspectorVia CacheUse.perform) q

/-- The answer that the files give to a question. -/
def fresh (c : ClassPath) (files : FileTree) : (q : Lookup) → q.Answer
  | .load name => c.answerOf name ClassFile.handle ⟨name, .publicOnly⟩ (c.read? files name)
  | .declared handle =>
    c.answerOf handle.name ClassFile.executables [] (c.read? files handle.name)

theorem gives_reply {q : Lookup} (hown : c.FindsOwn files q.name) :
    c.Gives files (c.fresh files q) (c.reply files q) := by
  cases q with
  | load name =>
    simp only [fresh, reply, load]
    exact (gives_find? hown).bind (gives_pure _)
  | declared handle =>
    simp only [fresh, reply, declared]
    exact (gives_find? hown).bind (gives_pure _)

/-- A class that a name makes known is found under its own name. -/
theorem FindsOwn.learnt {q : Lookup} (hown : c.FindsOwn files q.name) {handle : ClassHandle}
    (h : handle ∈ q.learnt (c.fresh files q)) : c.FindsOwn files handle.name := by
  cases q with
  | declared _ => cases h
  | load name =>
    simp only [Lookup.learnt, fresh] at h
    rcases hread : c.read? files name with fault | _ | found
    · rw [hread] at h
      cases h
    · -- the class is one of the catalogue, under the name that was asked
      rw [hread] at h
      simp only [answerOf] at h
      split at h
      · cases List.mem_singleton.1 h
        exact hown
      · cases h
    · rw [hread] at h
      cases List.mem_singleton.1 h
      intro found' hfound'
      have hfound : c.read? files found.name = .ok (some found) := hown found hread
      obtain rfl : found = found' := by simpa using hfound.symm.trans hfound'
      exact hfound

/-- **An inquiry about classes** gives what it gives when it has a faithful cache for itself, if each
class that it loads then is also found under its own name. -/
theorem gives_via_reply {d : Inquiry Lookup.Answer α} {known : List ClassHandle}
    {names : List String} (hd : d.AsksLoaded known)
    (hknown : ∀ handle ∈ known, c.FindsOwn files handle.name) (h : c.Faithful files cache)
    (hnames : ∀ name ∈ ((d.via (c.introspector files).recording.answer).run (cache, names)).2.2,
      c.FindsOwn files name) :
    c.Gives files ((d.via (c.introspector files).answer).run cache).1 (d.via (c.reply files)) := by
  induction d generalizing known cache names with
  | done a => exact rfl
  | ask q next ih =>
    rw [Introspector.run_recording_ask] at hnames
    -- the name is listed or, if executables are asked for, that of a class that was loaded
    have hq : c.FindsOwn files q.name := by
      cases q with
      | declared handle => exact hknown handle hd.1
      | load name =>
        exact hnames name (Introspector.subset_run_recording _ (next _) _ _ (by simp [Lookup.loaded]))
    obtain ⟨hanswer, hfaithful⟩ := (gives_reply hq).run h
    rw [Introspector.run_ask]
    simp only [answer_introspector, hanswer] at hnames ⊢
    refine (gives_reply hq).bind (ih _ (hd.2 _) ?_ hfaithful hnames)
    intro handle hhandle
    rcases List.mem_append.1 hhandle with hlearnt | hold
    · exact hq.learnt hlearnt
    · exact hknown handle hold

end ClassPath

end MemberSpec
