import Mathlib
import MemberSpec.Extract
import MemberSpec.Proofs.ClassPath.Layout
import MemberSpec.Proofs.ClassPath.Sharing

/-!
# Extracting classes side by side

Several workers extract classes at the same time. They share the cache of classes, and between two uses
of it by one worker there may be any number of uses by the others. Where class files are at their own
places and no name with a slash is looked up, none of this shows: every class comes out as it does by
itself, with nothing in the cache.

* `Job.exists_isProgram`: what a worker does is one sequence of uses of the cache.
* `Batch.Sound.step`: what every use of the cache preserves, by whichever worker.
* `Batch.acc_step`: no batch goes on for ever.
* `batch_eq_map_alone`: what a batch ends with.
-/

namespace MemberSpec

open Session

/-- What classes are extracted from, and how. -/
structure Job where
  classPath : ClassPath
  files : FileTree
  /-- The declarations of a source file. -/
  readUnit : Path → Except SourceError Source.Unit
  policy : Nullability.Policy
  resolver : Resolver
  /-- The extension of source files. -/
  extension : String
  /-- The directory of the sources. -/
  root : Path

namespace Job

variable (j : Job)

def extractor {σ : Type} (source : Introspector σ) : Extractor σ :=
  ⟨source, j.readUnit, j.policy, j.resolver, j.extension⟩

def introspector : Introspector ClassCache := j.classPath.introspector j.files

/-- A class extracted by itself, with nothing in the cache. -/
def alone (className : String) : ClassExtraction :=
  ⟨className, (outcome ((j.extractor j.introspector).extract className j.root) []).1⟩

/-- The names that are looked up for a class that is extracted by itself. -/
def lookedUp (className : String) : List String :=
  (outcome ((j.extractor j.introspector.recording).extract className j.root) ([], [])).2.2

/-- The inquiry uses the cache as the extraction of a class does, whatever the cache answers. -/
def IsProgram (className : String)
    (program : CacheInquiry (Except ExtractError (List Member))) : Prop :=
  ∀ (σ : Type) (answer : (use : CacheUse) → StateM σ use.Answer) (s : σ),
    (program.via answer).run s = outcome
      ((j.extractor (j.classPath.introspectorVia j.files answer)).extract className j.root) s

end Job

/-- A worker, with what it has still to do for its class. -/
structure Worker where
  className : String
  program : CacheInquiry (Except ExtractError (List Member))

def Worker.result? (w : Worker) : Option ClassExtraction :=
  match w.program with
  | .done members => some ⟨w.className, members⟩
  | .ask .. => none

/-- Workers that share a cache, in the order of their classes. -/
structure Batch where
  cache : ClassCache
  workers : List Worker

namespace Batch

/-- One of the workers uses the cache once. -/
inductive Step : Batch → Batch → Prop
  | first {cache : ClassCache} {className : String} {use : CacheUse}
      {next : use.Answer → CacheInquiry (Except ExtractError (List Member))} {rest : List Worker} :
      Step ⟨cache, ⟨className, .ask use next⟩ :: rest⟩
        ⟨(use.perform.run cache).2, ⟨className, next (use.perform.run cache).1⟩ :: rest⟩
  | later {cache cache' : ClassCache} {w : Worker} {rest rest' : List Worker} :
      Step ⟨cache, rest⟩ ⟨cache', rest'⟩ → Step ⟨cache, w :: rest⟩ ⟨cache', w :: rest'⟩

/-- What the workers end with, if all of them are done. -/
def results? (b : Batch) : Option (List ClassExtraction) := b.workers.mapM Worker.result?

/-- A worker for each class, and nothing in the cache. -/
def Starts (j : Job) (classNames : List String) (b : Batch) : Prop :=
  b.cache = [] ∧ List.Forall₂
    (fun className w => w.className = className ∧ j.IsProgram className w.program)
    classNames b.workers

end Batch

instance (use : CacheUse) : Inhabited use.Answer :=
  match use with
  | .get _ => inferInstanceAs (Inhabited (Option ClassFile))
  | .insert .. => inferInstanceAs (Inhabited Unit)

namespace Job

variable {j : Job} {className : String} {classNames : List String}
variable {program : CacheInquiry (Except ExtractError (List Member))}

/-- The extraction of a class, as questions about classes and then as uses of the cache. -/
theorem exists_inquiry (j : Job) (className : String) :
    ∃ d : Inquiry Lookup.Answer (Except ExtractError (List Member)), d.AsksLoaded [] ∧
      (∀ (σ : Type) (source : Introspector σ) (s : σ),
        outcome ((j.extractor source).extract className j.root) s = (d.via source.answer).run s) ∧
      j.IsProgram className (d.via (j.classPath.reply j.files)) := by
  obtain ⟨d, hloaded, hd⟩ := (j.extractor j.introspector).extract_isInquiry className j.root
  have hd : ∀ (σ : Type) (source : Introspector σ) (s : σ),
      outcome ((j.extractor source).extract className j.root) s = (d.via source.answer).run s := hd
  refine ⟨d, hloaded, hd, fun σ answer s => ?_⟩
  rw [hd, ClassPath.answer_introspectorVia, Inquiry.via_via]

theorem exists_isProgram (j : Job) (className : String) : ∃ program, j.IsProgram className program :=
  let ⟨d, _, _, h⟩ := j.exists_inquiry className
  ⟨d.via (j.classPath.reply j.files), h⟩

/-- **A program gives what the class gives by itself**, with whatever faithful answers. -/
theorem IsProgram.gives (hprogram : j.IsProgram className program)
    (hlaid : j.classPath.LaidOut j.files)
    (hslash : ∀ name ∈ j.lookedUp className, '/' ∉ name.toList) :
    j.classPath.Gives j.files (j.alone className).members program := by
  obtain ⟨d, hloaded, hd, hd'⟩ := j.exists_inquiry className
  -- nothing but its uses of the cache is known of the program, and they determine it
  obtain rfl : program = d.via (j.classPath.reply j.files) :=
    Inquiry.eq_of_via fun σ answer s => (hprogram σ answer s).trans (hd' σ answer s).symm
  simp only [lookedUp, hd] at hslash
  simp only [alone, hd]
  exact ClassPath.gives_via_reply hloaded (by simp) ClassPath.faithful_nil
    fun name hname _ hread => hlaid.read?_own (hslash name hname) hread

/-- One class after the other, with a cache that is kept in between. -/
theorem extractAll_eq_map_alone (hlaid : j.classPath.LaidOut j.files)
    (hslash : ∀ className ∈ classNames, ∀ name ∈ j.lookedUp className, '/' ∉ name.toList)
    {cache : ClassCache} (h : j.classPath.Faithful j.files cache) :
    (((j.extractor j.introspector).extractAll j.root classNames).run cache).1 =
      classNames.map j.alone := by
  induction classNames generalizing cache with
  | nil => rfl
  | cons className classNames ih =>
    obtain ⟨program, hprogram⟩ := j.exists_isProgram className
    have hgives := hprogram.gives hlaid (hslash className List.mem_cons_self)
    obtain ⟨hfirst, hfaithful⟩ := hgives.run h
    have hrun : (program.via CacheUse.perform).run cache =
        outcome ((j.extractor j.introspector).extract className j.root) cache :=
      hprogram ClassCache CacheUse.perform cache
    rw [hrun] at hfirst hfaithful
    have hrest := ih (fun n hn => hslash n (List.mem_cons_of_mem _ hn)) hfaithful
    have hcons : (((j.extractor j.introspector).extractAll j.root (className :: classNames)).run
        cache).1 =
          ⟨className, (outcome ((j.extractor j.introspector).extract className j.root) cache).1⟩ ::
            (((j.extractor j.introspector).extractAll j.root classNames).run
              (outcome ((j.extractor j.introspector).extract className j.root) cache).2).1 := rfl
    simp only [alone] at hfirst
    rw [hcons, hfirst, hrest, List.map_cons, alone]

end Job

namespace Batch

variable {j : Job} {classNames : List String} {results : List ClassExtraction} {b b' : Batch}

/-- The cache is faithful, and every worker will end with its result. -/
structure Sound (j : Job) (results : List ClassExtraction) (b : Batch) : Prop where
  faithful : j.classPath.Faithful j.files b.cache
  gives : List.Forall₂ (fun r w => w.className = r.className ∧
    j.classPath.Gives j.files r.members w.program) results b.workers

/-- **One use of the cache**, by any worker, leaves the batch sound. -/
theorem Sound.step (h : Sound j results b) (hstep : Step b b') : Sound j results b' := by
  induction hstep generalizing results with
  | first =>
    -- the answer is faithful, so the worker goes on to its result; the others are as they were
    obtain ⟨hfaithful, hgives⟩ := h
    cases hgives with
    | cons hfirst hrest =>
      obtain ⟨hanswer, hnext⟩ := hfaithful.perform hfirst.2.1
      exact ⟨hnext, .cons ⟨hfirst.1, hfirst.2.2 _ hanswer⟩ hrest⟩
  | later _ ih =>
    obtain ⟨hfaithful, hgives⟩ := h
    cases hgives with
    | cons hfirst hrest =>
      obtain ⟨hnext, hrest'⟩ := ih ⟨hfaithful, hrest⟩
      exact ⟨hnext, .cons hfirst hrest'⟩

/-- **Any number of uses** leaves the batch sound. -/
theorem Sound.steps (h : Sound j results b) (hsteps : Relation.ReflTransGen Step b b') :
    Sound j results b' := by
  induction hsteps with
  | refl => exact h
  | tail _ hstep ih => exact ih.step hstep

theorem Starts.sound (h : Starts j classNames b) (hlaid : j.classPath.LaidOut j.files)
    (hslash : ∀ className ∈ classNames, ∀ name ∈ j.lookedUp className, '/' ∉ name.toList) :
    Sound j (classNames.map j.alone) b := by
  obtain ⟨hcache, hworkers⟩ := h
  refine ⟨hcache ▸ ClassPath.faithful_nil, ?_⟩
  rw [List.forall₂_map_left_iff]
  refine ((List.forall₂_and_left _ _).2 ⟨hslash, hworkers⟩).imp ?_
  rintro className w ⟨hnames, hname, hprogram⟩
  exact ⟨hname, hprogram.gives hlaid hnames⟩

/-- A worker that is not done can go on, so where none can all are done. -/
theorem Sound.results? (h : Sound j results b) (hend : ∀ b', ¬ Step b b') :
    b.results? = some results := by
  obtain ⟨cache, workers⟩ := b
  obtain ⟨-, hgives⟩ := h
  simp only at hgives
  induction hgives with
  | nil => rfl
  | @cons r w results workers hw _ ih =>
    have hrest := ih fun b' hstep => hend ⟨b'.cache, w :: b'.workers⟩ (.later hstep)
    obtain ⟨className, program⟩ := w
    cases program with
    | ask use next => exact absurd .first (hend _)
    | done members =>
      obtain ⟨rfl, hmembers⟩ := hw
      have hfirst : Worker.result? ⟨r.className, .done members⟩ = some r := by
        rw [show members = r.members from hmembers]
        rfl
      simp only [Batch.results?] at hrest ⊢
      rw [List.mapM_cons, hfirst, hrest]
      rfl

/-- The workers before and after a use of some cache. -/
def Moves (workers' workers : List Worker) : Prop :=
  ∃ cache cache', Step ⟨cache, workers⟩ ⟨cache', workers'⟩

theorem acc_moves_cons {workers : List Worker} (h : Acc Moves workers) (className : String)
    (program : CacheInquiry (Except ExtractError (List Member))) :
    Acc Moves (⟨className, program⟩ :: workers) := by
  -- either the program gets smaller, or the other workers move with the program as it is
  induction program generalizing workers with
  | done members =>
    induction h with
    | intro workers _ ih =>
      constructor
      rintro _ ⟨cache, cache', hstep⟩
      cases hstep with
      | later hstep => exact ih _ ⟨cache, cache', hstep⟩
  | ask use next ihNext =>
    induction h with
    | intro workers h ih =>
      constructor
      rintro _ ⟨cache, cache', hstep⟩
      cases hstep with
      | first => exact ihNext _ (.intro workers h)
      | later hstep => exact ih _ ⟨cache, cache', hstep⟩

theorem acc_moves (workers : List Worker) : Acc Moves workers := by
  induction workers with
  | nil =>
    constructor
    rintro _ ⟨cache, cache', hstep⟩
    cases hstep
  | cons w workers ih => exact acc_moves_cons ih w.className w.program

/-- **No batch goes on for ever.** -/
theorem acc_step (b : Batch) : Acc (fun b' b => Step b b') b :=
  Subrelation.accessible (fun hstep => ⟨_, _, hstep⟩) (InvImage.accessible workers (acc_moves b.workers))

theorem exists_starts (j : Job) (classNames : List String) : ∃ b, Starts j classNames b := by
  choose program hprogram using j.exists_isProgram
  refine ⟨⟨[], classNames.map fun className => ⟨className, program className⟩⟩, rfl, ?_⟩
  rw [List.forall₂_map_right_iff]
  exact List.forall₂_same.2 fun className _ => ⟨rfl, hprogram className⟩

end Batch

/-- **Classes that are extracted side by side come out as each does by itself.** Let class files be at
their own places, and let no name with a slash be looked up. Then workers that share a cache, one for
each class, come to an end in whatever order they use it; and whatever that order was, the results are
those of the classes by themselves, each with nothing in the cache, in the order of the classes. It is
the same if one class is extracted after the other. -/
theorem batch_eq_map_alone (j : Job) (classNames : List String)
    (hlaid : j.classPath.LaidOut j.files)
    (hslash : ∀ className ∈ classNames, ∀ name ∈ j.lookedUp className, '/' ∉ name.toList) :
    (∃ b, Batch.Starts j classNames b) ∧
      (∀ b, Batch.Starts j classNames b →
        (¬ ∃ run : ℕ → Batch, run 0 = b ∧ ∀ k, Batch.Step (run k) (run (k + 1))) ∧
        ∀ b', Relation.ReflTransGen Batch.Step b b' → (∀ b'', ¬ Batch.Step b' b'') →
          b'.results? = some (classNames.map j.alone)) ∧
      (((j.extractor j.introspector).extractAll j.root classNames).run []).1 =
        classNames.map j.alone := by
  refine ⟨Batch.exists_starts j classNames, fun b hstarts => ⟨?_, ?_⟩,
    Job.extractAll_eq_map_alone hlaid hslash ClassPath.faithful_nil⟩
  · intro hendless
    exact not_acc_iff_exists_descending_chain.2 hendless (Batch.acc_step b)
  · intro b' hsteps hend
    exact ((hstarts.sound hlaid hslash).steps hsteps).results? hend

/-- A class of the package `b` with one public constructor. Its name is one letter. -/
def smallClass (letter : UInt8) : List UInt8 :=
  [0xCA, 0xFE, 0xBA, 0xBE, 0, 0, 0, 52, 0, 7, 1, 0, 3, 0x62, 0x2F, letter, 7, 0, 1,
   1, 0, 16, 0x6A, 0x61, 0x76, 0x61, 0x2F, 0x6C, 0x61, 0x6E, 0x67, 0x2F, 0x4F, 0x62, 0x6A, 0x65,
   0x63, 0x74, 7, 0, 3, 1, 0, 6, 0x3C, 0x69, 0x6E, 0x69, 0x74, 0x3E, 1, 0, 3, 0x28, 0x29, 0x56,
   0, 0x21, 0, 2, 0, 4, 0, 0, 0, 0, 0, 1, 0, 1, 0, 5, 0, 6, 0, 0, 0, 0]

/-- A class declaration with one constructor. -/
def smallDeclaration (name : String) (javadoc : Option Javadoc) : Source.TypeDeclaration where
  kind := .classType
  name := name
  modifiers := ["public"]
  typeParameters := []
  callables := [{
    kind := .constructor, name := name, modifiers := ["public"], typeParameters := []
    parameters := [], javadoc := javadoc, isImplicit := false }]

/-- Two classes, where the documentation of `b.Y` leads to `b.Z`. -/
def smallJob : Job where
  classPath := ⟨[⟨"classes"⟩], false⟩
  files := ⟨[(["classes"], .directory), (["classes", "b"], .directory),
    (["classes", "b", "Y.class"], .file (smallClass 0x59)),
    (["classes", "b", "Z.class"], .file (smallClass 0x5A))], []⟩
  readUnit _ := .ok ⟨⟨some "b", []⟩,
    [smallDeclaration "Y" (some ⟨"", [⟨.throws, none, "Z if closed"⟩]⟩), smallDeclaration "Z" none]⟩
  policy := .default
  resolver := ⟨"java.lang", true⟩
  extension := "java"
  root := ⟨"src"⟩

theorem smallJob_laidOut : smallJob.classPath.LaidOut smallJob.files := by
  apply ClassPath.laidOut_of_entries
  intro root hroot base hbase location bytes found hmem hparse
  cases List.mem_singleton.1 hroot
  have hclasses : smallJob.files.follow [] (Path.names ⟨"classes"⟩) = .ok ["classes"] := by
    decide +kernel
  obtain rfl : ["classes"] = base := by simpa using hclasses.symm.trans hbase
  have hname : ∀ letter name, (ClassFile.parse (smallClass letter)).map ClassFile.name = .ok name →
      ClassFile.parse (smallClass letter) = .ok found → found.name = name := by
    intro letter name hname hfound
    simpa [hfound, Except.map] using hname
  simp only [smallJob, List.mem_cons, List.not_mem_nil, or_false, Prod.mk.injEq] at hmem
  rcases hmem with ⟨-, h⟩ | ⟨-, h⟩ | ⟨hplace, h⟩ | ⟨hplace, h⟩
  · cases h
  · cases h
  · cases h
    refine ⟨["b"], "Y", by simpa using hplace, ?_⟩
    exact hname 0x59 "b.Y" (by decide +kernel) hparse
  · cases h
    refine ⟨["b"], "Z", by simpa using hplace, ?_⟩
    exact hname 0x5A "b.Z" (by decide +kernel) hparse

/-- Three workers: the first looks up what the second one extracts, and the third finds no class. -/
theorem batch_eq_map_alone_small :
    smallJob.classPath.LaidOut smallJob.files ∧
      smallJob.lookedUp "b.Y" = ["b.Y", "Z", "java.lang.Z", "b.Z"] ∧
      (smallJob.alone "b.Y").members = .ok [⟨"b.Y", .constructor, "Y", .publicOnly, none, [],
        [.throws (.reference "b.Z") "if closed"]⟩] ∧
      (smallJob.alone "b.W").members = .error (.classNotFound "b.W" (.classNotFound "b.W")) ∧
      ∀ b b', Batch.Starts smallJob ["b.Y", "b.Z", "b.W"] b →
        Relation.ReflTransGen Batch.Step b b' → (∀ b'', ¬ Batch.Step b' b'') →
          b'.results? = some (["b.Y", "b.Z", "b.W"].map smallJob.alone) := by
  have hslash : ∀ className ∈ ["b.Y", "b.Z", "b.W"], ∀ name ∈ smallJob.lookedUp className,
      '/' ∉ name.toList := by decide +kernel
  refine ⟨smallJob_laidOut, by decide +kernel, by decide +kernel, by decide +kernel, ?_⟩
  intro b b' hstarts hsteps hend
  exact ((batch_eq_map_alone smallJob _ smallJob_laidOut hslash).2.1 b hstarts).2 b' hsteps hend

end MemberSpec
