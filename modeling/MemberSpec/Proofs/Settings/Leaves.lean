import Mathlib
import MemberSpec.Proofs.Keyed
import MemberSpec.Proofs.Session
import MemberSpec.Settings.Store

/-!
# The leaves of settings

Settings are a record of sections, and what a user sets is a leaf of it: a value under a key, outside of
all sections or in one of them. A leaf has a type, and a value of a layer is of that type or it is not.

* `Leaf`: the leaves, with their keys, types and values.
* `Tidy`: entries in which sections are tables and no key is there twice.
* `ofEntries_eq_ok_iff`: settings are read exactly if every leaf can be read, each one by itself.
-/

namespace MemberSpec.Settings

open Keyed (keys)

/-! ## Values of a type -/

namespace Layered

def boolean? : Layered → Option Bool
  | .scalar _ (.boolean b) => some b
  | _ => none

/-- A number from zero up to a limit. -/
def natural? (limit : Nat) : Layered → Option Nat
  | .scalar _ (.signed n) => if 0 ≤ n ∧ n ≤ limit then some n.toNat else none
  | .scalar _ (.unsigned n) => if n ≤ limit then some n else none
  | _ => none

def text? : Layered → Option String
  | .scalar _ (.text s) => some s
  | _ => none

def path? (v : Layered) : Option Path := v.text?.map Path.mk

def items? {α : Type} (view : Layered → Option α) : Layered → Option (List α)
  | .sequence _ items => items.mapM view
  | _ => none

end Layered

/-- A reader accepts the values that a view shows, and reads what it shows. -/
def Reader.Reads {α : Type} (read : Reader α) (view : Layered → Option α) : Prop :=
  ∀ keys v a, read keys v = .ok a ↔ view v = some a

namespace Reader

variable {α : Type}

/-- A value of a wrong type is read as nothing, as long as no view shows it. -/
theorem wrongType_eq_ok_iff {expected : String} {keys : List String} {v : Layered} {a : α}
    {shown : Option α} (h : shown = none) : wrongType expected keys v = .ok a ↔ shown = some a := by
  simp [wrongType, h]

theorem reads_boolean : Reads boolean Layered.boolean? := by
  intro keys v a
  cases v with
  | scalar m s =>
    cases s with
    | boolean b => simp only [boolean, Layered.boolean?, Except.ok.injEq, Option.some.injEq]
    | _ => exact wrongType_eq_ok_iff rfl
  | _ => exact wrongType_eq_ok_iff rfl

theorem reads_natural (expected : String) (limit : Nat) :
    Reads (natural expected limit) (Layered.natural? limit) := by
  intro keys v a
  cases v with
  | scalar m s =>
    cases s with
    | signed n =>
      by_cases hn : 0 ≤ n ∧ n ≤ limit
      · simp [natural, Layered.natural?, hn]
      · simp only [natural, Layered.natural?]
        rw [if_neg (by simpa using hn), if_neg hn]
        simp
    | unsigned n => by_cases hn : n ≤ limit <;> simp [natural, Layered.natural?, hn]
    | _ => exact wrongType_eq_ok_iff rfl
  | _ => exact wrongType_eq_ok_iff rfl

theorem reads_text (expected : String) : Reads (text expected) Layered.text? := by
  intro keys v a
  cases v with
  | scalar m s =>
    cases s with
    | text s => simp only [text, Layered.text?, Except.ok.injEq, Option.some.injEq]
    | _ => exact wrongType_eq_ok_iff rfl
  | _ => exact wrongType_eq_ok_iff rfl

theorem Reads.map {β : Type} {read : Reader α} {view : Layered → Option α} (h : Reads read view)
    (f : α → β) : Reads (fun keys v => (read keys v).map f) fun v => (view v).map f := by
  intro keys v b
  have hmap : (read keys v).map f = .ok b ↔ ∃ a, read keys v = .ok a ∧ f a = b := by
    cases read keys v <;> simp [Except.map]
  rw [hmap, Option.map_eq_some_iff]
  simp only [h keys v]

theorem reads_string : Reads string Layered.text? := reads_text "a string"

theorem reads_path : Reads path Layered.path? := (reads_text "path string").map Path.mk

theorem Reads.itemsFrom_eq {read : Reader α} {view : Layered → Option α} (h : Reads read view)
    (keys : List String) (position : Nat) (items : List Layered) (as : List α) :
    itemsFrom read keys position items = .ok as ↔ items.mapM view = some as := by
  induction items generalizing position as with
  | nil => simp [itemsFrom, eq_comm]
  | cons v items ih =>
    rw [itemsFrom, bind_eq_ok_iff, List.mapM_cons, Option.bind_eq_bind, Option.bind_eq_some_iff]
    simp only [bind_eq_ok_iff, h _ v, ih, Option.bind_eq_bind, Option.bind_eq_some_iff, pure,
      Except.pure, Except.ok.injEq, Option.some.injEq]

theorem Reads.sequence {read : Reader α} {view : Layered → Option α} (h : Reads read view) :
    Reads (sequence read) (Layered.items? view) := by
  intro keys v as
  cases v with
  | sequence m items => exact h.itemsFrom_eq keys 0 items as
  | _ => exact wrongType_eq_ok_iff rfl

end Reader

/-! ## Leaves -/

/-- What can be set. -/
inductive Leaf where
  | version | workspaceRoot | debug
  | extension
  | classpath | jdkCatalog
  | notNull | nullable
  | standardNamespace | packageFallback
  | parallelThreads
deriving DecidableEq, Repr

/-- The names of the sections. -/
def sections : List String := ["source", "introspection", "nullability", "resolution", "extraction"]

namespace Leaf

/-- The section of a leaf, unless it is outside of all sections. -/
def group? : Leaf → Option String
  | version | workspaceRoot | debug => none
  | extension => some "source"
  | classpath | jdkCatalog => some "introspection"
  | notNull | nullable => some "nullability"
  | standardNamespace | packageFallback => some "resolution"
  | parallelThreads => some "extraction"

def key : Leaf → String
  | version => "version"
  | workspaceRoot => "workspace_root"
  | debug => "debug"
  | extension => "extension"
  | classpath => "classpath"
  | jdkCatalog => "jdk_catalog"
  | notNull => "not_null"
  | nullable => "nullable"
  | standardNamespace => "standard_namespace"
  | packageFallback => "package_fallback"
  | parallelThreads => "parallel_threads"

@[reducible] def Content : Leaf → Type
  | version | parallelThreads => Nat
  | workspaceRoot => Option Path
  | debug | jdkCatalog | packageFallback => Bool
  | extension | standardNamespace => String
  | classpath => List Path
  | notNull | nullable => List String

/-- The value of a leaf in settings. -/
def get : (l : Leaf) → Settings → l.Content
  | version, s => s.version
  | workspaceRoot, s => s.workspaceRoot
  | debug, s => s.debug
  | extension, s => s.source.extension
  | classpath, s => s.introspection.classpath
  | jdkCatalog, s => s.introspection.jdkCatalog
  | notNull, s => s.nullability.notNull
  | nullable, s => s.nullability.nullable
  | standardNamespace, s => s.resolution.standardNamespace
  | packageFallback, s => s.resolution.packageFallback
  | parallelThreads, s => s.extraction.parallelThreads

/-- A value of a layer as a value of the leaf, if it is of its type. -/
def of? : (l : Leaf) → Layered → Option l.Content
  | version => Layered.natural? limit32
  | workspaceRoot => fun v => v.path?.map some
  | debug | jdkCatalog | packageFallback => Layered.boolean?
  | extension | standardNamespace => Layered.text?
  | classpath => Layered.items? Layered.path?
  | notNull | nullable => Layered.items? Layered.text?
  | parallelThreads => Layered.natural? limit64

/-- Settings that have the given value at each leaf. -/
def settings (value : (l : Leaf) → l.Content) : Settings where
  version := value version
  workspaceRoot := value workspaceRoot
  debug := value debug
  source := ⟨value extension⟩
  introspection := ⟨value classpath, value jdkCatalog⟩
  nullability := ⟨value notNull, value nullable⟩
  resolution := ⟨value standardNamespace, value packageFallback⟩
  extraction := ⟨value parallelThreads⟩

theorem get_settings (value : (l : Leaf) → l.Content) (l : Leaf) : l.get (settings value) = value l := by
  cases l <;> rfl

instance instFintype : Fintype Leaf :=
  .ofList [version, workspaceRoot, debug, extension, classpath, jdkCatalog, notNull, nullable,
    standardNamespace, packageFallback, parallelThreads] fun l => by cases l <;> decide

theorem key_injective : Function.Injective key := by decide

theorem mem_sections {l : Leaf} {g : String} (h : l.group? = some g) : g ∈ sections := by
  cases l <;> cases h <;> decide

theorem key_notMem_sections (l : Leaf) : l.key ∉ sections := by cases l <;> decide

end Leaf

/-! ## Entries of layers -/

/-- The value under a key, outside of all sections or in a section. -/
def below? (entries : Entries) (group : Option String) (key : String) : Option Layered :=
  match group with
  | none => entries.lookup key
  | some g =>
    match entries.lookup g with
    | some (.table _ inner) => inner.lookup key
    | _ => none

/-- No key is there twice, and sections are tables in which no key is there twice. -/
structure Tidy (entries : Entries) : Prop where
  nodup : (keys entries).Nodup
  table : ∀ g ∈ sections, ∀ v, entries.lookup g = some v →
    ∃ m inner, v = .table m inner ∧ (keys inner).Nodup

theorem Tidy.nil : Tidy [] := ⟨List.nodup_nil, fun _ _ _ h => by cases h⟩

/-- What a value is seen as; one that is missing stands for another. -/
def viewOr {α : Type} (view : Layered → Option α) (other : α) (found : Option Layered) : Option α :=
  (found.map view).getD (some other)

section Reading

variable {α : Type} {read : Reader α} {view : Layered → Option α} {other a : α} {entries : Entries}

theorem entry_eq_ok_iff (entries : Entries) (h : read.Reads view) (key : String) (other a : α) :
    entry entries key read other = .ok a ↔ viewOr view other (below? entries none key) = some a := by
  unfold entry below? viewOr
  cases entries.lookup key with
  | none => exact ⟨fun h => by cases h; rfl, fun h => by cases h; rfl⟩
  | some v => exact h [key] v a

/-- The fields of a section that is a table. -/
abbrev Fields.ofTable (inner : Entries) : Fields :=
  ⟨fun key _ => (inner.lookup key).map fun v => (key, v), false⟩

theorem Fields.get_ofTable (h : read.Reads view) (inner : Entries) (keys : List String) (key : String)
    (position : Nat) :
    (Fields.ofTable inner).get keys key position read other = .ok a ↔
      viewOr view other (inner.lookup key) = some a := by
  unfold Fields.get viewOr
  dsimp only
  cases inner.lookup key with
  | none => exact ⟨fun h => by cases h; rfl, fun h => by cases h; rfl⟩
  | some v => exact h (keys ++ [key]) v a

/-- **A section** that is missing is one without fields. -/
theorem exists_entry_eq (h : Tidy entries) {g : String} (hg : g ∈ sections) (read : Reader α) (other : α)
    (hempty : ∀ m, read [g] (.table m []) = .ok other) :
    ∃ m inner, entry entries g read other = read [g] (.table m inner) ∧
      ∀ key, below? entries (some g) key = inner.lookup key := by
  cases hv : entries.lookup g with
  | none => exact ⟨.defaults, [], by rw [entry, hv, hempty], fun key => by simp only [below?, hv]; rfl⟩
  | some v =>
    obtain ⟨m, inner, rfl, -⟩ := h.table g hg v hv
    exact ⟨m, inner, by rw [entry, hv], fun key => by simp only [below?, hv]⟩

end Reading

/-! ## Settings as leaves -/

section Sections

open Reader (reads_boolean reads_natural reads_string reads_path)

variable {entries : Entries}

theorem fieldsOf_table (name : String) (keys : List String) (m : Mark) (inner : Entries) :
    fieldsOf name keys (.table m inner) = .ok (Fields.ofTable inner) := rfl

theorem entry_source_eq_ok_iff (h : Tidy entries) (other a : SourceSection) :
    entry entries "source" (sourceSection other) other = .ok a ↔
      viewOr Layered.text? other.extension (below? entries (some "source") "extension") =
        some a.extension := by
  obtain ⟨m, inner, heq, hbelow⟩ :=
    exists_entry_eq h (show "source" ∈ sections by decide) (sourceSection other) other fun _ => rfl
  cases a
  simp [heq, hbelow, sourceSection, fieldsOf_table, bind_eq_ok_iff, Fields.get_ofTable reads_string, pure,
    Except.pure]

theorem entry_introspection_eq_ok_iff (h : Tidy entries) (other a : IntrospectionSection) :
    entry entries "introspection" (introspectionSection other) other = .ok a ↔
      viewOr (Layered.items? Layered.path?) other.classpath
          (below? entries (some "introspection") "classpath") = some a.classpath ∧
        viewOr Layered.boolean? other.jdkCatalog
          (below? entries (some "introspection") "jdk_catalog") = some a.jdkCatalog := by
  obtain ⟨m, inner, heq, hbelow⟩ :=
    exists_entry_eq h (show "introspection" ∈ sections by decide) (introspectionSection other) other
      fun _ => rfl
  cases a
  simp [heq, hbelow, introspectionSection, fieldsOf_table, bind_eq_ok_iff,
    Fields.get_ofTable reads_path.sequence, Fields.get_ofTable reads_boolean, pure, Except.pure]

theorem entry_nullability_eq_ok_iff (h : Tidy entries) (other a : NullabilitySection) :
    entry entries "nullability" (nullabilitySection other) other = .ok a ↔
      viewOr (Layered.items? Layered.text?) other.notNull
          (below? entries (some "nullability") "not_null") = some a.notNull ∧
        viewOr (Layered.items? Layered.text?) other.nullable
          (below? entries (some "nullability") "nullable") = some a.nullable := by
  obtain ⟨m, inner, heq, hbelow⟩ :=
    exists_entry_eq h (show "nullability" ∈ sections by decide) (nullabilitySection other) other
      fun _ => rfl
  cases a
  simp [heq, hbelow, nullabilitySection, fieldsOf_table, bind_eq_ok_iff,
    Fields.get_ofTable reads_string.sequence, pure, Except.pure]

theorem entry_resolution_eq_ok_iff (h : Tidy entries) (other a : ResolutionSection) :
    entry entries "resolution" (resolutionSection other) other = .ok a ↔
      viewOr Layered.text? other.standardNamespace
          (below? entries (some "resolution") "standard_namespace") = some a.standardNamespace ∧
        viewOr Layered.boolean? other.packageFallback
          (below? entries (some "resolution") "package_fallback") = some a.packageFallback := by
  obtain ⟨m, inner, heq, hbelow⟩ :=
    exists_entry_eq h (show "resolution" ∈ sections by decide) (resolutionSection other) other fun _ => rfl
  cases a
  simp [heq, hbelow, resolutionSection, fieldsOf_table, bind_eq_ok_iff, Fields.get_ofTable reads_string,
    Fields.get_ofTable reads_boolean, pure, Except.pure, and_comm, -Bool.exists_bool]

theorem entry_extraction_eq_ok_iff (h : Tidy entries) (other a : ExtractionSection) :
    entry entries "extraction" (extractionSection other) other = .ok a ↔
      viewOr (Layered.natural? limit64) other.parallelThreads
        (below? entries (some "extraction") "parallel_threads") = some a.parallelThreads := by
  obtain ⟨m, inner, heq, hbelow⟩ :=
    exists_entry_eq h (show "extraction" ∈ sections by decide) (extractionSection other) other fun _ => rfl
  cases a
  simp [heq, hbelow, extractionSection, fieldsOf_table, bind_eq_ok_iff,
    Fields.get_ofTable (reads_natural "usize" limit64), pure, Except.pure]

end Sections

/-- The value that entries give to a leaf. -/
def Leaf.given? (l : Leaf) (entries : Entries) : Option (Option l.Content) :=
  (below? entries l.group? l.key).map l.of?

/-- **Settings are read leaf by leaf**: they are the ones in which each leaf has the value that the
entries give to it, or the other value if they give none. -/
theorem ofEntries_eq_ok_iff {other s : Settings} {entries : Entries} (h : Tidy entries) :
    ofEntries other entries = .ok s ↔
      ∀ l : Leaf, (l.given? entries).getD (some (l.get other)) = some (l.get s) := by
  have hroot : Reader.Reads (fun keys v => (Reader.path keys v).map some) Leaf.workspaceRoot.of? :=
    Reader.reads_path.map some
  rw [ofEntries]
  simp only [bind_eq_ok_iff, entry_eq_ok_iff entries Reader.reads_boolean,
    entry_eq_ok_iff entries (Reader.reads_natural "u32" limit32), entry_eq_ok_iff entries hroot,
    entry_source_eq_ok_iff h, entry_introspection_eq_ok_iff h, entry_nullability_eq_ok_iff h,
    entry_resolution_eq_ok_iff h, entry_extraction_eq_ok_iff h]
  -- Left are the fields in the order in which they are read, each with what its leaf is seen as.
  constructor
  · rintro ⟨debug, hdebug, extraction, hthreads, introspection, ⟨hclasspath, hcatalog⟩, nullability,
      ⟨hnotNull, hnullable⟩, resolution, ⟨hnamespace, hfallback⟩, source, hextension, version, hversion,
      root, hroot, hs⟩
    cases hs
    intro l
    cases l <;> assumption
  · intro hl
    exact ⟨s.debug, hl .debug, s.extraction, hl .parallelThreads, s.introspection,
      ⟨hl .classpath, hl .jdkCatalog⟩, s.nullability, ⟨hl .notNull, hl .nullable⟩, s.resolution,
      ⟨hl .standardNamespace, hl .packageFallback⟩, s.source, hl .extension, s.version, hl .version,
      s.workspaceRoot, hl .workspaceRoot, rfl⟩

end MemberSpec.Settings
