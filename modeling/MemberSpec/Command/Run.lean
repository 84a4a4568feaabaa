import MemberSpec.Command.Basic
import MemberSpec.Report
import MemberSpec.Settings.Store

/-!
# Running commands

A command is run on a file tree and gives the files behind it, what is printed, and an exit code: zero,
one for a failure, two for arguments that are refused.

* `run`: the outcome of arguments.
* `settingsPaths`, `dataPaths`: the files that arguments need.
-/

namespace MemberSpec.Command

open Settings (Machine Refusals)

/-- What a command leaves behind. -/
structure Result where
  exit : Nat
  stdout : String
  stderr : String
  files : FileTree

namespace Result

def ok (files : FileTree) (stdout : String) : Result := ⟨0, stdout, "", files⟩

/-- A failure with its message. -/
def failed (files : FileTree) (message : String) : Result :=
  ⟨1, "", "Error: " ++ message ++ "\n", files⟩

/-- The same with something printed before. -/
def after (r : Result) (stdout stderr : String) : Result :=
  { r with stdout := stdout ++ r.stdout, stderr := stderr ++ r.stderr }

end Result

/-- A message with the cause of it. -/
def withCause (message cause : String) : String := message ++ "\n\nCaused by:\n    " ++ cause

def versionText : String := "docspec 0.1.0\n"

def helpText : String :=
  "Usage: docspec [--config PATH] [--debug] init [--force]\n" ++
  "       docspec [--config PATH] [--debug] config\n" ++
  "       docspec [--config PATH] [--debug] extract [CLASS...] --source PATH\n" ++
  "               [--classpath PATH]... [--all] [--json] [--threads N]\n"

/-- The settings for a command and what is printed while they are loaded, or a failure. -/
def loadSettings (refusals : Refusals) (files : FileTree) (machine : Machine) (i : Invocation) :
    Except String (Settings × String) :=
  match i.settingsFile with
  | some p =>
    match Settings.loadFrom files machine p with
    | .ok s => .ok (s, "")
    | .error fault =>
      .error (withCause s!"Configuration error loading from {p.text}" (fault.message refusals))
  | none =>
    let warning := match i.action, Settings.fileIssue? files machine with
      | .init _, _ => ""
      | _, none => ""
      | _, some issue =>
        "Warning: " ++ issue.message refusals ++ "\nUsing default configuration for now.\n"
    match Settings.load files machine with
    | .ok s => .ok (s, warning)
    | .error fault =>
      .ok (.default machine.processors,
        warning ++ "Configuration error: " ++ fault.message refusals ++ "\n")

/-- Writes a settings file. -/
def runInit (files : FileTree) (machine : Machine) (force : Bool) : Result :=
  match (Settings.createFile machine force).run.run files with
  | (.ok p, next) =>
    .ok next (s!"Created configuration file at: {p.text}\n" ++
      "Edit this file to customize your settings.\n")
  | (.error issue, next) =>
    .failed next (withCause "Failed to write configuration" issue.message)

/-- Shows settings. -/
def runShow (files : FileTree) (s : Settings) : Result :=
  let title := "Current Configuration:\n" ++ String.ofList (List.replicate 50 '=') ++ "\n"
  match Toml.render? s.toToml with
  | some rendered => .ok files (title ++ rendered ++ "\n")
  | none => (Result.failed files Settings.SaveIssue.numberTooLarge.message).after title ""

/-- A failed class, as it is reported. -/
def failureText (className : String) (e : ExtractError) : String :=
  "Error [" ++ e.status ++ "] " ++ className ++ ": " ++ e.message ++ "\n" ++
    String.join (e.suggestions.map fun s => "  - " ++ s ++ "\n")

/-- The members of a class as text. -/
def membersText (className : String) (members : List Member) : String :=
  let lines := members.flatMap fun m => Text.lines m.display.toList
  className ++ "\n" ++ String.join (lines.map fun line => "  " ++ String.ofList line ++ "\n") ++ "\n"

/-- The outcome of several classes. -/
def extractionResult (files : FileTree) (asJson : Bool) (results : List ClassExtraction) : Result :=
  let failures := results.filterMap fun r =>
    match r.members with
    | .ok _ => none
    | .error e => some (failureText r.className e)
  let stdout :=
    if asJson then (JsonValue.array (results.map ClassExtraction.toJson)).pretty ++ "\n"
    else String.join (results.map fun r =>
      match r.members with
      | .ok members => membersText r.className members
      | .error _ => "")
  let summary := if failures.isEmpty then ""
    else s!"{failures.length} of {results.length} classes failed\n"
  ⟨if failures.isEmpty then 0 else 1, stdout, String.join failures ++ summary, files⟩

/-- The settings for an extraction. -/
def extractionSettings (s : Settings) (e : Extraction) : Settings :=
  { s with
    introspection := ⟨s.introspection.classpath ++ e.classpath, s.introspection.jdkCatalog⟩
    extraction := ⟨e.threads.getD s.extraction.parallelThreads⟩ }

/-- Extracts members. -/
def runExtract (files : FileTree) (s : Settings) (e : Extraction) : Result :=
  let extractor := (extractionSettings s e).extractor files
  let classes := match e.selection with
    | .all => discover files extractor.extension e.source
    | .classes names => names
  if classes.isEmpty then .failed files s!"No classes found under {e.source.text}"
  else extractionResult files e.asJson ((extractor.extractAll e.source classes).run []).1

/-- Runs a command. -/
def runInvocation (refusals : Refusals) (files : FileTree) (machine : Machine) (i : Invocation) :
    Result :=
  match loadSettings refusals files machine i with
  | .error message => .failed files message
  | .ok (loaded, printed) =>
    let s := if i.debug then { loaded with debug := true } else loaded
    let result := match i.action with
      | .init force => runInit files machine force
      | .showSettings => runShow files s
      | .extract e => runExtract files s e
    result.after "" printed

/-- Runs the command that arguments stand for. -/
def run (refusals : Refusals) (files : FileTree) (machine : Machine) (arguments : List String) :
    Result :=
  match parse arguments with
  | .ok i => runInvocation refusals files machine i
  | .error .version => .ok files versionText
  | .error .help => .ok files helpText
  | .error (.refused reason) => ⟨2, "", "error: " ++ reason ++ "\n", files⟩

/-- The settings files that arguments need, and every directory in which they are looked for. -/
def settingsPaths (files : FileTree) (arguments : List String) : List Path :=
  let above := (Settings.ancestors files.here).map Settings.pathOf
  let directories := above.map fun p => p.join Settings.directoryName
  match parse arguments with
  | .ok i =>
    match i.settingsFile with
    | some p => directories ++ above.map fun q => q.join p.text
    | none => directories
  | .error _ => []

/-- The sources and classes that arguments need. -/
def dataPaths (refusals : Refusals) (files : FileTree) (machine : Machine)
    (arguments : List String) : List Path :=
  match parse arguments with
  | .ok i =>
    match i.action, loadSettings refusals files machine i with
    | .extract e, .ok (s, _) => e.source :: (extractionSettings s e).introspection.classpath
    | _, _ => []
  | .error _ => []

end MemberSpec.Command
