import Mathlib
import MemberSpec.Proofs.Settings.Layers
import MemberSpec.Proofs.Toml.Documents
import MemberSpec.Proofs.Writing

/-!
# Settings saved and loaded again

Saved settings are a document of plain entries and sections, which is read back as the table that it was
made from. The file is found again by its full path, so that must not be too long, and then each leaf is
that of the file.

* `sheet`: settings as a document.
* `outcome_save_eq_ok`: what saving does to the files.
* `exists_findFile?_eq`: a file that a path leads to is the one that the path stands for.
* `loadFrom_save`: what is loaded after it was saved.
* `loadFrom_misses_saved`: a path for which something else is loaded.
-/

namespace MemberSpec.Settings

open Keyed (keys)
open Toml (Value Sheet Plain IsBare Writable Simple)

/-! ## Settings as a document -/

/-- Numbers that can be saved: they fit where they are read, and can be written. -/
structure Storable (s : Settings) : Prop where
  version_le : s.version ≤ limit32
  threads_le : s.extraction.parallelThreads ≤ 0x7FFFFFFFFFFFFFFF

theorem Storable.inRange {s : Settings} (h : s.Storable) : s.InRange :=
  ⟨h.version_le, h.threads_le.trans (by decide)⟩

section Plain

variable {es : Toml.Table} {key : String} {v : Value}

theorem plain_nil : Plain [] := ⟨by simp, by simp, List.nodup_nil⟩

theorem plain_cons (hkey : IsBare key) (hv : Writable v) (hnew : key ∉ keys es) (h : Plain es) :
    Plain ((key, v) :: es) :=
  ⟨List.forall_mem_cons.2 ⟨hkey, h.bare⟩, List.forall_mem_cons.2 ⟨hv, h.writable⟩,
    List.nodup_cons.2 ⟨hnew, h.distinct⟩⟩

end Plain

theorem writable_natural {n : Nat} (h : n ≤ 0x7FFFFFFFFFFFFFFF) : Writable (.integer n) :=
  .simple (.integer ⟨by omega, by unfold Toml.greatest; omega⟩)

theorem writable_ofTexts (ss : List String) : Writable (ofTexts ss) := by
  refine .array fun v hv => ?_
  obtain ⟨s, -, rfl⟩ := List.mem_map.1 hv
  exact .string s

theorem Leaf.isBare_key (l : Leaf) : IsBare l.key := by
  cases l <;> exact ⟨by decide, by decide⟩

/-- The entries outside of all sections. -/
def plainEntries (s : Settings) : Toml.Table :=
  ("version", .integer s.version) ::
    ((s.workspaceRoot.map fun p => ("workspace_root", Value.string p.text)).toList ++
      [("debug", .boolean s.debug)])

theorem plain_plainEntries {s : Settings} (h : s.Storable) : Plain s.plainEntries := by
  have hversion : Writable (.integer s.version) :=
    writable_natural (h.version_le.trans (by decide))
  have hdebug : Plain [("debug", .boolean s.debug)] :=
    plain_cons Leaf.debug.isBare_key (.simple (.boolean _)) (by simp [keys]) plain_nil
  unfold plainEntries
  cases s.workspaceRoot with
  | none => exact plain_cons Leaf.version.isBare_key hversion (by simp [keys]) hdebug
  | some p =>
    exact plain_cons Leaf.version.isBare_key hversion (by simp [keys])
      (plain_cons Leaf.workspaceRoot.isBare_key (.simple (.string _)) (by simp [keys]) hdebug)

/-- The sections with their entries. -/
def sectionTables (s : Settings) : List (String × Toml.Table) :=
  [("source", [("extension", .string s.source.extension)]),
    ("introspection", [("classpath", ofTexts (s.introspection.classpath.map Path.text)),
      ("jdk_catalog", .boolean s.introspection.jdkCatalog)]),
    ("nullability", [("not_null", ofTexts s.nullability.notNull),
      ("nullable", ofTexts s.nullability.nullable)]),
    ("resolution", [("standard_namespace", .string s.resolution.standardNamespace),
      ("package_fallback", .boolean s.resolution.packageFallback)]),
    ("extraction", [("parallel_threads", .integer s.extraction.parallelThreads)])]

theorem keys_sectionTables (s : Settings) : keys s.sectionTables = sections := rfl

theorem plain_sectionTables {s : Settings} (h : s.Storable) : ∀ e ∈ s.sectionTables, Plain e.2 := by
  simp only [sectionTables, List.forall_mem_cons, List.not_mem_nil, false_imp_iff, implies_true, and_true]
  refine ⟨?_, ?_, ?_, ?_, ?_⟩
  · exact plain_cons Leaf.extension.isBare_key (.simple (.string _)) (by simp [keys]) plain_nil
  · exact plain_cons Leaf.classpath.isBare_key (writable_ofTexts _) (by simp [keys])
      (plain_cons Leaf.jdkCatalog.isBare_key (.simple (.boolean _)) (by simp [keys]) plain_nil)
  · exact plain_cons Leaf.notNull.isBare_key (writable_ofTexts _) (by simp [keys])
      (plain_cons Leaf.nullable.isBare_key (writable_ofTexts _) (by simp [keys]) plain_nil)
  · exact plain_cons Leaf.standardNamespace.isBare_key (.simple (.string _)) (by simp [keys])
      (plain_cons Leaf.packageFallback.isBare_key (.simple (.boolean _)) (by simp [keys]) plain_nil)
  · exact plain_cons Leaf.parallelThreads.isBare_key (writable_natural h.threads_le) (by simp [keys])
      plain_nil

/-- Settings as a document. -/
def sheet (s : Settings) (h : s.Storable) : Sheet where
  plain := s.plainEntries
  sections := s.sectionTables
  plain_plain := plain_plainEntries h
  sections_bare := by
    intro e he
    have hkey : e.1 ∈ sections := s.keys_sectionTables ▸ Keyed.mem_keys_of_mem he
    simp only [sections, List.mem_cons, List.not_mem_nil, or_false] at hkey
    rcases hkey with hkey | hkey | hkey | hkey | hkey <;> rw [hkey] <;> exact ⟨by decide, by decide⟩
  sections_plain := plain_sectionTables h
  distinct := by
    rw [keys_sectionTables]
    unfold plainEntries
    cases s.workspaceRoot <;> simp [keys, sections]

theorem table_sheet {s : Settings} (h : s.Storable) : (s.sheet h).table = s.toToml := by
  change s.plainEntries ++ Sheet.sectionEntries s.sectionTables = s.toToml
  unfold plainEntries toToml
  cases s.workspaceRoot <;> rfl

/-- **Settings are read back** from the text in which they are saved. -/
theorem exists_render?_eq {s : Settings} (h : s.Storable) :
    ∃ text, Toml.render? s.toToml = some text ∧ Toml.parse? text = some s.toToml := by
  have hsheet := (s.sheet h).parse?_render?
  rwa [table_sheet] at hsheet

/-! ## Saving -/

section Saving

variable {files files' : FileTree} {p : Path} {s : Settings}

theorem outcome_changeFiles (change : FileTree → Except FileFault FileTree) (files : FileTree) :
    Session.outcome (changeFiles change) files =
      match change files with
      | .ok next => (.ok (), next)
      | .error fault => (.error (.file fault), files) := by
  rw [changeFiles, Session.outcome_bind, Session.outcome_get]
  dsimp only
  cases change files <;> rfl

theorem outcome_changeFiles_eq_ok {change : FileTree → Except FileFault FileTree} {u : Unit} :
    Session.outcome (changeFiles change) files = (.ok u, files') ↔ change files = .ok files' := by
  rw [outcome_changeFiles]
  cases change files <;> simp

/-- **What saving does**: the directories above the file are made, and then the file is written. -/
theorem outcome_save_eq_ok {text : String} (htext : Toml.render? s.toToml = some text) {u : Unit} :
    Session.outcome (s.save p) files = (.ok u, files') ↔
      ∃ parent made, p.parent? = some parent ∧ files.createDirectories parent = .ok made ∧
        made.write p (bytesOf text) = .ok files' := by
  unfold save
  cases hparent : p.parent? with
  | none => simp
  | some parent =>
    simp only [htext, Session.outcome_bind_eq_ok, outcome_changeFiles_eq_ok]
    constructor
    · rintro ⟨-, made, hmade, hwrite⟩
      exact ⟨parent, made, rfl, hmade, hwrite⟩
    · rintro ⟨parent', made, hparent', hmade, hwrite⟩
      cases hparent'
      exact ⟨(), made, hmade, hwrite⟩

/-- Saving never fails because a number is too large. Every path here is text: a path in the settings
that is not, which could not be written either, is nothing that `Path` can express. -/
theorem outcome_save_ne_numberTooLarge (hs : s.Storable) (p : Path) (files : FileTree) :
    (Session.outcome (s.save p) files).1 ≠ .error .numberTooLarge := by
  obtain ⟨text, htext, -⟩ := exists_render?_eq hs
  unfold save
  cases p.parent? with
  | none => simp
  | some parent =>
    simp only [htext, Session.outcome_bind, outcome_changeFiles]
    cases files.createDirectories parent with
    | error fault => simp
    | ok made =>
      simp only
      cases made.write p (bytesOf text) <;> simp

end Saving

/-! ## Finding the file again -/

/-- The full path of a path can be used in its place: the working directory is where its own path leads,
and the full path is not too long. -/
structure HasFullPath (files : FileTree) (p : Path) : Prop where
  here : files.locate (pathOf files.here) = .ok files.here
  short : ((pathOf files.here).join p.text).text.utf8ByteSize ≤ FileTree.longestPath

theorem isAbsolute_pathOf (location : Location) : (pathOf location).isAbsolute = true := by
  simp [pathOf, Path.isAbsolute, String.toList_append]

theorem HasFullPath.extends {files files' : FileTree} {p : Path} (h : HasFullPath files p)
    (hextends : files.Extends files') : HasFullPath files' p := by
  constructor
  · rw [hextends.here]
    exact hextends.locate_eq h.here
  · rw [hextends.here]
    exact h.short

/-- **A file that a path leads to** is the one that the path stands for. -/
theorem exists_findFile?_eq {files : FileTree} {p : Path} {place : Location} {bytes : List UInt8}
    (hplace : files.locate p = .ok place) (hentry : files.entry? place = some (.file bytes))
    (hpath : p.isAbsolute = true ∨ HasFullPath files p) :
    ∃ found, findFile? files p = some found ∧ files.locate found = .ok place := by
  unfold findFile?
  cases habsolute : p.isAbsolute with
  | true =>
    refine ⟨p, ?_, hplace⟩
    rw [if_pos rfl, if_pos (FileTree.isFile_of_locate hplace hentry)]
  | false =>
    have hfull := hpath.resolve_left (by simp [habsolute])
    -- The working directory is the first place that is looked at, and the file is there.
    have hjoined := FileTree.locate_join hfull.here (isAbsolute_pathOf _) habsolute hfull.short hplace
    refine ⟨_, ?_, hjoined⟩
    rw [if_neg (by simp), ancestors, List.cons_append, List.map_cons, List.find?_cons,
      FileTree.isFile_of_locate hjoined hentry]

theorem fileTable?_eq {files : FileTree} {p : Path} {place : Location} {text : String} {t : Toml.Table}
    (hplace : files.locate p = .ok place) (hentry : files.entry? place = some (.file (bytesOf text)))
    (hpath : p.isAbsolute = true ∨ HasFullPath files p) (htext : Toml.parse? text = some t) :
    fileTable? files p = some t := by
  obtain ⟨found, hfound, hlocate⟩ := exists_findFile?_eq hplace hentry hpath
  simp only [fileTable?, hfound, FileTree.readText_of_locate hlocate hentry, htext]

/-- **Settings survive saving and loading.** If no variable is for settings, then all that can be stored is
loaded as it was saved, field by field: from any absolute path, and from any relative path that still can
be resolved when it is written out from the root. That something is not saved is up to the files. -/
theorem loadFrom_save {s : Settings} {files : FileTree} {machine : Machine} {p : Path} (hs : s.Storable)
    (hprocessors : machine.processors ≤ limit64)
    (hnames : ∀ v ∈ machine.environment, Environment.isSetting v.1 = false)
    (hpath : p.isAbsolute = true ∨ HasFullPath files p) :
    (Session.outcome (s.save p) files).1 ≠ .error .numberTooLarge ∧
      ∀ u files', Session.outcome (s.save p) files = (.ok u, files') →
        loadFrom files' machine p = .ok s := by
  refine ⟨outcome_save_ne_numberTooLarge hs p files, fun u files' hsave => ?_⟩
  obtain ⟨text, htext, hparse⟩ := exists_render?_eq hs
  obtain ⟨parent, made, -, hmade, hwrite⟩ := (outcome_save_eq_ok htext).1 hsave
  obtain ⟨hwritten, place, hplace, hentry⟩ := FileTree.write_extends hwrite
  -- The working directory is still there after that, so the full path leads to the new file.
  have hextends := (FileTree.createDirectories_extends hmade).trans hwritten
  have hfile := fileTable?_eq hplace hentry (hpath.imp_right fun h => h.extends hextends) hparse
  have hleaves : NamesLeaves machine.environment := fun v hv h => by
    rw [hnames v hv] at h
    cases h
  rw [loadFrom_eq_ok_iff hprocessors hfile s.hasSections_toToml hleaves]
  intro l
  have htable := l.inTable?_toToml hs.inRange (default machine.processors) rfl
  rw [Leaf.resolve?, l.inEnvironment?_eq_none hnames]
  cases hv : l.inTable? s.toToml <;> rwa [hv] at htable

/-- Settings with texts that need quotes of every kind, in a file below the working directory. -/
def quotedSettings : Settings :=
  ⟨4294967295, some ⟨"C:\\w \"x\" 'y'"⟩, true, ⟨"\n\t\x00"⟩, ⟨[⟨"a"⟩, ⟨"é\"\"\""⟩], false⟩, ⟨[], ["#", "'''"]⟩,
    ⟨"", true⟩, ⟨9223372036854775807⟩⟩

theorem loadFrom_save_quoted :
    quotedSettings.Storable ∧ HasFullPath (.empty ["w"]) ⟨"./d/s.toml"⟩ ∧
      ∃ files', Session.outcome (quotedSettings.save ⟨"./d/s.toml"⟩) (.empty ["w"]) = (.ok (), files') ∧
        loadFrom files' ⟨[("HOME", "/")], 4⟩ ⟨"./d/s.toml"⟩ = .ok quotedSettings := by
  have hs : quotedSettings.Storable := ⟨by decide, by decide⟩
  have hpath : HasFullPath (.empty ["w"]) ⟨"./d/s.toml"⟩ := ⟨by decide +kernel, by decide +kernel⟩
  have hsaved : (Session.outcome (quotedSettings.save ⟨"./d/s.toml"⟩) (.empty ["w"])).1 = .ok () := by
    decide +kernel
  have hsave := (loadFrom_save hs (show Machine.processors ⟨[("HOME", "/")], 4⟩ ≤ limit64 by decide)
    (by decide) (.inr hpath)).2
  exact ⟨hs, hpath, _, Prod.ext hsaved rfl, hsave () _ (Prod.ext hsaved rfl)⟩

/-! ## A path that is too long from the root -/

/-- A path to a file in the working directory, with `n + 1` dividers in front of its name. -/
def spreadPath (n : Nat) : Path := ⟨"." ++ String.ofList (List.replicate (n + 1) '/') ++ "s"⟩

section SpreadPath

variable {files : FileTree} (n : Nat)

theorem toList_spreadPath :
    (spreadPath n).text.toList = ['.'] ++ '/' :: (List.replicate n '/' ++ ['s']) := by
  simp [spreadPath, String.toList_append, List.replicate_succ]

theorem size_spreadPath : (spreadPath n).text.utf8ByteSize = n + 3 := by
  have hdividers : ∀ n, (String.ofList (List.replicate n '/')).utf8ByteSize = n := by
    intro n
    induction n with
    | zero => rfl
    | succ n ih =>
      have hone : (String.ofList ['/']).utf8ByteSize = 1 := rfl
      rw [List.replicate_succ, ← List.singleton_append, String.ofList_append, String.utf8ByteSize_append,
        ih, hone, Nat.add_comm]
  have hdot : ".".utf8ByteSize = 1 := rfl
  have hname : "s".utf8ByteSize = 1 := rfl
  rw [spreadPath, String.utf8ByteSize_append, String.utf8ByteSize_append, hdividers, hdot, hname]
  omega

theorem namesOf_dividers (cs : List Char) : namesOf (List.replicate n '/' ++ cs) = namesOf cs := by
  induction n with
  | zero => rfl
  | succ n ih =>
    have hfirst := namesOf_append_divider [] (List.replicate n '/' ++ cs)
    rw [List.replicate_succ, List.cons_append]
    exact hfirst.trans ih

theorem names_spreadPath : (spreadPath n).names = [".", "s"] := by
  rw [Path.names, toList_spreadPath, namesOf_append_divider, namesOf_dividers]
  decide

theorem isAbsolute_spreadPath : (spreadPath n).isAbsolute = false := by
  rw [Path.isAbsolute, toList_spreadPath]
  rfl

theorem parent?_spreadPath : (spreadPath n).parent? = some ⟨"."⟩ := by
  have hparts : (spreadPath n).parts = [.here, .name "s"] := by
    rw [Path.parts_eq, Path.lead, isAbsolute_spreadPath, names_spreadPath, toList_spreadPath,
      Text.splitAt_append_cons rfl]
    rfl
  rw [Path.parent?, hparts]
  decide

theorem locate_spreadPath (hshort : n + 3 ≤ FileTree.longestPath) (hhere : files.here = []) :
    files.locate (spreadPath n) = .ok ["s"] := by
  have hnul : Char.ofNat 0 ∉ (spreadPath n).text.toList := by
    rw [toList_spreadPath]
    simp
  have hempty : (spreadPath n).text ≠ "" := by
    intro hempty
    have hlist := toList_spreadPath n
    rw [hempty] at hlist
    cases hlist
  have hlast : (spreadPath n).text.toList.getLast? ≠ some '/' := by
    rw [toList_spreadPath, ← List.cons_append, ← List.append_assoc, List.getLast?_concat]
    decide
  rw [FileTree.locate_eq hnul hempty (by rwa [size_spreadPath]), FileTree.startOf, isAbsolute_spreadPath,
    hhere, FileTree.steps_eq_names hlast, names_spreadPath]
  rfl

/-- From the root the path is one byte longer, so the file cannot be found if that is too long. -/
theorem findFile?_spreadPath (hlong : FileTree.longestPath < n + 4) (hhere : files.here = []) :
    findFile? files (spreadPath n) = none := by
  have hjoin : (pathOf []).join (spreadPath n).text = ⟨"/" ++ (spreadPath n).text⟩ := by
    rw [Path.join, if_neg (by rw [toList_spreadPath]; simp), if_pos (by decide)]
    rfl
  have hsize : ("/" ++ (spreadPath n).text).utf8ByteSize = n + 4 := by
    have hroot : "/".utf8ByteSize = 1 := rfl
    rw [String.utf8ByteSize_append, hroot, size_spreadPath, Nat.add_comm]
  have hfile : files.isFile ⟨"/" ++ (spreadPath n).text⟩ = false := by
    rw [Bool.eq_false_iff]
    intro hfile
    obtain ⟨place, bytes, hlocate, -⟩ := FileTree.of_isFile hfile
    have hshort := (FileTree.of_locate hlocate).2.2.1
    rw [hsize] at hshort
    omega
  have hancestors : ancestors files.here = [[]] := by
    rw [hhere]
    rfl
  rw [findFile?, isAbsolute_spreadPath, hancestors, List.map_singleton, hjoin, List.find?_singleton, hfile]
  rfl

end SpreadPath

/-- **A saved file can be missed**: a relative path of the greatest length is written to, but its full
path is too long, and then the defaults are loaded. -/
theorem loadFrom_misses_saved :
    ∃ (s : Settings) (files' : FileTree), s.Storable ∧
      (FileTree.empty []).locate (pathOf []) = .ok [] ∧
      Session.outcome (s.save (spreadPath 4092)) (.empty []) = (.ok (), files') ∧
      loadFrom files' ⟨[], 4⟩ (spreadPath 4092) = .ok (default 4) ∧ s ≠ default 4 := by
  have hs : Storable { default 4 with debug := true } := ⟨by decide, by decide⟩
  obtain ⟨text, htext, -⟩ := exists_render?_eq hs
  have hmade : (FileTree.empty []).createDirectories ⟨"."⟩ = .ok (.empty []) := by rfl
  have hwritten : (FileTree.empty []).write (spreadPath 4092) (bytesOf text) =
      .ok (FileTree.put (.empty []) ["s"] (.file (bytesOf text))) := by
    rw [FileTree.write, locate_spreadPath 4092 (by decide) rfl]
    rfl
  have hfile : fileTable? (FileTree.put (.empty []) ["s"] (.file (bytesOf text))) (spreadPath 4092) =
      some [] := by
    rw [fileTable?, findFile?_spreadPath 4092 (by decide) rfl]
  refine ⟨_, _, hs, by decide, (outcome_save_eq_ok htext).2 ⟨_, _, parent?_spreadPath 4092, hmade, hwritten⟩,
    (loadFrom_eq_ok_iff (by decide) hfile (by decide) (by decide)).2 fun l => ?_, by decide⟩
  cases l <;> rfl

end MemberSpec.Settings
