import MemberSpec.Settings.Entries
import MemberSpec.Settings.Environment
import MemberSpec.Toml.Reader
import MemberSpec.Toml.Writer

/-!
# Settings in files

Settings are kept in a file in a directory of their own, at the root of a workspace. They are loaded
from the defaults, the file and the environment, and saved to a file.

* `Settings.load`, `Settings.loadFrom`: the settings that hold, from the workspace or a given file.
* `Settings.fileIssue?`: what is wrong with the file of the workspace.
* `Settings.save`: writes settings to a file.
* `Settings.createFile`: writes a file with the defaults and comments.
-/

namespace MemberSpec.Settings

/-- What settings depend on beside the files. -/
structure Machine where
  /-- The variables of the environment in order. -/
  environment : List Environment.Variable
  /-- The number of processors. -/
  processors : Nat

def directoryName : String := ".docspec"

def fileName : String := "settings.toml"

/-- The path of a location from the root. -/
def pathOf (location : Location) : Path := ⟨"/" ++ String.intercalate "/" location⟩

/-- A location and all above it. -/
def ancestors (location : Location) : List Location :=
  location :: (FileTree.startsOf location).reverse.drop 1 ++ (if location.isEmpty then [] else [[]])

/-- The nearest directory above the working directory, or itself, that has settings. -/
def workspaceRootOf (files : FileTree) : Option Path :=
  ((ancestors files.here).map pathOf).find? fun p => files.isDirectory (p.join directoryName)

/-- The file with the settings of the workspace, or where it would be. -/
def filePath (files : FileTree) : Path :=
  ((((workspaceRootOf files).getD ⟨""⟩).join directoryName).join fileName)

/-- The file that a path stands for: a relative path is looked for in the working directory and then
in each one above it. -/
def findFile? (files : FileTree) (p : Path) : Option Path :=
  if p.isAbsolute then (if files.isFile p then some p else none)
  else ((ancestors files.here).map fun location => (pathOf location).join p.text).find? files.isFile

/-- A path as it is shown: from the working directory, if it has fewer parts then. -/
def shownPath (files : FileTree) (p : Path) : Path :=
  let relative := Path.relativeParts p.parts (pathOf files.here).parts
  if relative.length < p.parts.length then Path.ofParts relative else p

/-- The layer of a file; a file that is not there is an empty layer. -/
def fileLayer (files : FileTree) (p : Path) : Except Fault Entries :=
  match findFile? files p with
  | none => .ok []
  | some found =>
    match files.readText found with
    | .error _ => .error .unusableFile
    | .ok source =>
      match Toml.parse? source with
      | none => .error .unusableFile
      | some table => .ok (Layered.ofEntries (.file (shownPath files found)) table)

/-- The settings of the defaults, a file and the environment. -/
def loadFrom (files : FileTree) (machine : Machine) (p : Path) : Except Fault Settings := do
  let defaults := Settings.default machine.processors
  let base := Layered.ofEntries .defaults defaults.toToml
  let file ← fileLayer files p
  let merged := Layered.mergeEntries (Layered.mergeEntries base file)
    (Environment.layer machine.environment)
  ofEntries defaults merged

/-- The settings that hold in the working directory. -/
def load (files : FileTree) (machine : Machine) : Except Fault Settings := do
  let s ← loadFrom files machine (filePath files)
  return { s with workspaceRoot := s.workspaceRoot.orElse fun _ => workspaceRootOf files }

/-- Why the file of the workspace cannot be used. -/
inductive FileIssue where
  | missing
  | unreadable (fault : FileFault)
  | corrupted
deriving DecidableEq, Repr

def FileIssue.message (refusals : Refusals) : FileIssue → String
  | missing => "No configuration file found"
  | unreadable fault => "Cannot read configuration file: " ++ fault.message
  | corrupted => s!"Configuration file is corrupted: {refusals.corrupted}\n" ++
      "Run 'docspec init --force' to regenerate."

/-- What is wrong with the file of the workspace, if anything is. -/
def fileIssue? (files : FileTree) (machine : Machine) : Option FileIssue :=
  let p := filePath files
  if !files.has p then some .missing
  else
    match files.readText p with
    | .error fault => some (.unreadable fault)
    | .ok source =>
      match Toml.parse? source with
      | none => some .corrupted
      | some table =>
        match ofEntries (.default machine.processors) (Layered.ofEntries (.file p) table) with
        | .ok _ => none
        | .error _ => some .corrupted

/-- Why settings cannot be saved. -/
inductive SaveIssue where
  | noDirectory
  | alreadyThere
  | file (fault : FileFault)
  | numberTooLarge
deriving DecidableEq, Repr

def SaveIssue.message : SaveIssue → String
  | noDirectory => "Invalid path"
  | alreadyThere => "Configuration file already exists. Use --force to overwrite"
  | file fault => fault.message
  | numberTooLarge => "out-of-range value for u64 type"

/-- A change of the files. -/
def changeFiles (change : FileTree → Except FileFault FileTree) : Session FileTree SaveIssue Unit := do
  match change (← get) with
  | .ok next => set next
  | .error fault => throw (.file fault)

def bytesOf (s : String) : List UInt8 := s.toUTF8.toList

/-- Saves settings to a file, in a directory that is made if it is not there. -/
def save (s : Settings) (p : Path) : Session FileTree SaveIssue Unit := do
  match p.parent? with
  | none => throw .noDirectory
  | some parent =>
    changeFiles fun files => files.createDirectories parent
    match Toml.render? s.toToml with
    | none => throw .numberTooLarge
    | some rendered => changeFiles fun files => files.write p (bytesOf rendered)

/-- The lines of a new file. -/
def templateLines (processors : Nat) : List String :=
  ["# docspec configuration file",
   "",
   "# Version of the configuration schema",
   "version = 1",
   "",
   "# Global debug mode (debug-level logging on stderr)",
   "debug = false",
   "",
   "[source]",
   "# Extension of source files under the source root",
   "extension = \"java\"",
   "",
   "[introspection]",
   "# Directories holding compiled .class files, searched in order",
   "classpath = []",
   "",
   "# Resolve common JDK exception types (java.lang, java.io, java.util, ...)",
   "# without JDK class files on the classpath",
   "jdk_catalog = true",
   "",
   "[nullability]",
   "# Parameter annotations, matched by written or simple name",
   "not_null = [\"NotNull\", \"NonNull\", \"Nonnull\"]",
   "nullable = [\"Nullable\", \"CheckForNull\"]",
   "",
   "[resolution]",
   "# Package whose types need no import",
   "standard_namespace = \"java.lang\"",
   "",
   "# After scanning imports, also look up @throws names in the declaring",
   "# package and in wildcard imports",
   "package_fallback = false",
   "",
   "[extraction]",
   "# Number of classes extracted in parallel (defaults to CPU count)",
   "parallel_threads = " ++ String.ofList (Text.ofNat processors)]

/-- The text of a new file. -/
def template (processors : Nat) : String :=
  String.join ((templateLines processors).map fun line => line ++ "\n")

/-- Writes a new file in the working directory. One that is there is kept unless `force` is set. -/
def createFile (machine : Machine) (force : Bool) : Session FileTree SaveIssue Path := do
  let directory : Path := ⟨directoryName⟩
  let p := directory.join fileName
  if !force && (← get).has p then throw .alreadyThere
  changeFiles fun files => files.createDirectories directory
  changeFiles fun files => files.write p (bytesOf (template machine.processors))
  return p

end MemberSpec.Settings
