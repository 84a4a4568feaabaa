import MemberSpec.Settings.Basic
import MemberSpec.Settings.Layer
import MemberSpec.Text.Quoted

/-!
# Settings from layers

Merged layers are read into settings key by key in alphabetical order, and the first value that does
not fit is the fault. Nothing is converted between types. A section is a table, in which keys that are
missing keep their defaults and other keys are ignored, or a sequence of its fields.

* `Fault`: why values are no settings, with its `message`.
* `ofEntries`: the settings in merged layers.
-/

namespace MemberSpec.Settings

/-- What is wrong with a value: its type, or that a number is out of range. -/
inductive Mismatch where
  | wrongType | outOfRange
deriving DecidableEq, Repr

/-- Why layers are no settings: a value does not fit, or a file cannot be used at all. -/
inductive Fault where
  | mismatch (kind : Mismatch) (found expected : String) (keys : List String) (mark : Mark)
  | unusableFile
deriving DecidableEq, Repr

/-- A value as it is shown. -/
def shown : Layered → String
  | .scalar _ (.boolean b) => "bool " ++ (if b then "true" else "false")
  | .scalar _ (.signed n) => s!"signed int `{n}`"
  | .scalar _ (.unsigned n) => s!"unsigned int `{n}`"
  | .scalar _ (.float x) => "float `" ++ x.text ++ "`"
  | .scalar _ (.text s) => "string " ++ Text.quoted s
  | .sequence .. => "sequence"
  | .table .. => "map"

/-- A key as the layer writes it that it is from. -/
def keyText (mark : Mark) (keys : List String) : String :=
  match mark with
  | .environment => String.intercalate "." (keys.map String.toUpper)
  | _ => String.intercalate "." ("default" :: keys)

def Mark.text : Mark → String
  | .defaults => "defaults"
  | .file path => path.text ++ " TOML file"
  | .environment => "`DOCSPEC_` environment variable(s)"

/-- What is said of a file that cannot be used for settings. These words are those of the reader of
documents, and are not settled here. -/
structure Refusals where
  /-- Of a file that is no document, when settings are loaded from it. -/
  unusable : String
  /-- Of a file that is no document of settings, when it is checked. -/
  corrupted : String

def Fault.message (refusals : Refusals) : Fault → String
  | .mismatch kind found expected keys mark =>
    let what := match kind with
      | .wrongType => s!"invalid type: found {found}, expected {expected}"
      | .outOfRange => s!"invalid value {found}, expected {expected}"
    what ++ " for key \"" ++ keyText mark keys ++ "\" in " ++ mark.text
  | .unusableFile => refusals.unusable

/-- Reads a value at the end of a path of keys. -/
abbrev Reader (α : Type) := List String → Layered → Except Fault α

namespace Reader

def wrongType {α : Type} (expected : String) (keys : List String) (v : Layered) : Except Fault α :=
  .error (.mismatch .wrongType (shown v) expected keys v.mark)

def boolean : Reader Bool := fun keys v =>
  match v with
  | .scalar _ (.boolean b) => .ok b
  | _ => wrongType "a boolean" keys v

/-- A number from zero up to a limit. -/
def natural (expected : String) (limit : Nat) : Reader Nat := fun keys v =>
  let within (n : Int) : Except Fault Nat :=
    if 0 ≤ n && n ≤ limit then .ok n.toNat
    else .error (.mismatch .outOfRange (shown v) expected keys v.mark)
  match v with
  | .scalar _ (.signed n) => within n
  | .scalar _ (.unsigned n) => within n
  | _ => wrongType expected keys v

def text (expected : String) : Reader String := fun keys v =>
  match v with
  | .scalar _ (.text s) => .ok s
  | _ => wrongType expected keys v

def string : Reader String := text "a string"

def path : Reader Path := fun keys v => (text "path string" keys v).map Path.mk

/-- The items of a sequence, from a position on. -/
def itemsFrom {α : Type} (read : Reader α) (keys : List String) (position : Nat) :
    List Layered → Except Fault (List α)
  | [] => .ok []
  | v :: rest => do
    let first ← read (keys ++ [String.ofList (Text.ofNat position)]) v
    let others ← itemsFrom read keys (position + 1) rest
    return first :: others

def sequence {α : Type} (read : Reader α) : Reader (List α) := fun keys v =>
  match v with
  | .sequence _ items => itemsFrom read keys 0 items
  | _ => wrongType "a sequence" keys v

end Reader

open Reader (boolean natural string path sequence)

/-- The fields of a section: the value of a field by its key or its position, and the key under which
the value stands. -/
structure Fields where
  find? : String → Nat → Option (String × Layered)
  /-- Whether the fields stand in a sequence. -/
  inSequence : Bool

/-- The fields of a section with the given name. -/
def fieldsOf (name : String) : Reader Fields := fun keys v =>
  match v with
  | .table _ entries => .ok ⟨fun key _ => (entries.lookup key).map fun v => (key, v), false⟩
  | .sequence _ items =>
    .ok ⟨fun _ position => items[position]?.map fun v => (String.ofList (Text.ofNat position), v), true⟩
  | _ => Reader.wrongType ("struct " ++ name) keys v

/-- A field of a section, or what holds if it is missing. -/
def Fields.get {α : Type} (f : Fields) (keys : List String) (key : String) (position : Nat)
    (read : Reader α) (other : α) : Except Fault α :=
  match f.find? key position with
  | some (found, v) => read (keys ++ [found]) v
  | none => .ok other

/-- The largest number of 32 bits. -/
def limit32 : Nat := 0xFFFFFFFF

/-- The largest number of 64 bits. -/
def limit64 : Nat := 0xFFFFFFFFFFFFFFFF

def sourceSection (other : SourceSection) : Reader SourceSection := fun keys v => do
  let f ← fieldsOf "SourceConfig" keys v
  return ⟨← f.get keys "extension" 0 string other.extension⟩

def introspectionSection (other : IntrospectionSection) : Reader IntrospectionSection :=
  fun keys v => do
    let f ← fieldsOf "IntrospectionConfig" keys v
    let classpath ← f.get keys "classpath" 0 (sequence path) other.classpath
    let jdkCatalog ← f.get keys "jdk_catalog" 1 boolean other.jdkCatalog
    return ⟨classpath, jdkCatalog⟩

def nullabilitySection (other : NullabilitySection) : Reader NullabilitySection := fun keys v => do
  let f ← fieldsOf "NullabilityConfig" keys v
  let notNull ← f.get keys "not_null" 0 (sequence string) other.notNull
  let nullable ← f.get keys "nullable" 1 (sequence string) other.nullable
  return ⟨notNull, nullable⟩

def resolutionSection (other : ResolutionSection) : Reader ResolutionSection := fun keys v => do
  let f ← fieldsOf "ResolutionConfig" keys v
  let standardNamespace := f.get keys "standard_namespace" 0 string other.standardNamespace
  let packageFallback := f.get keys "package_fallback" 1 boolean other.packageFallback
  if f.inSequence then
    let ns ← standardNamespace
    return ⟨ns, ← packageFallback⟩
  else
    let fallback ← packageFallback
    return ⟨← standardNamespace, fallback⟩

def extractionSection (other : ExtractionSection) : Reader ExtractionSection := fun keys v => do
  let f ← fieldsOf "ExtractionConfig" keys v
  return ⟨← f.get keys "parallel_threads" 0 (natural "usize" limit64) other.parallelThreads⟩

/-- An entry of the outermost table, or what holds if it is missing. -/
def entry {α : Type} (entries : Entries) (key : String) (read : Reader α) (other : α) :
    Except Fault α :=
  match entries.lookup key with
  | some v => read [key] v
  | none => .ok other

/-- The settings in the entries of merged layers. What is missing is as in `other`. -/
def ofEntries (other : Settings) (entries : Entries) : Except Fault Settings := do
  let debug ← entry entries "debug" boolean other.debug
  let extraction ← entry entries "extraction" (extractionSection other.extraction) other.extraction
  let introspection ←
    entry entries "introspection" (introspectionSection other.introspection) other.introspection
  let nullability ←
    entry entries "nullability" (nullabilitySection other.nullability) other.nullability
  let resolution ← entry entries "resolution" (resolutionSection other.resolution) other.resolution
  let source ← entry entries "source" (sourceSection other.source) other.source
  let version ← entry entries "version" (natural "u32" limit32) other.version
  let workspaceRoot ←
    entry entries "workspace_root" (fun keys v => (path keys v).map some) other.workspaceRoot
  return { version, workspaceRoot, debug, source, introspection, nullability, resolution, extraction }

end MemberSpec.Settings
