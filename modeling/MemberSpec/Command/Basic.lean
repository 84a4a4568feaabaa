import MemberSpec.Command.Arguments
import MemberSpec.Path

/-!
# Commands

The three commands: to write a settings file, to show the settings that hold, and to extract the
members of classes. The options for a settings file and for more output can stand in front of a command
or behind it; behind it they count more.

* `parse`: the command that arguments stand for.
-/

namespace MemberSpec.Command

/-- What is extracted: every class under the source root, or the named ones. -/
inductive Selection where
  | all
  | classes (names : List String)
deriving DecidableEq, Repr

/-- How members are extracted. -/
structure Extraction where
  selection : Selection
  source : Path
  classpath : List Path
  asJson : Bool
  threads : Option Nat
deriving DecidableEq, Repr

inductive Action where
  | init (force : Bool)
  | showSettings
  | extract (e : Extraction)
deriving DecidableEq, Repr

/-- A command with the options for all commands. -/
structure Invocation where
  /-- The settings file to use in place of that of the workspace. -/
  settingsFile : Option Path
  debug : Bool
  action : Action
deriving DecidableEq, Repr

def sharedOptions : List Known :=
  [⟨"config", some 'c', .single, false⟩, ⟨"debug", none, .flag, false⟩,
   ⟨"help", some 'h', .flag, false⟩]

def versionOption : Known := ⟨"version", some 'V', .flag, false⟩

def initOptions : List Known := [⟨"force", some 'f', .flag, false⟩]

def extractOptions : List Known :=
  [⟨"source", some 's', .single, false⟩, ⟨"classpath", none, .repeated, false⟩,
   ⟨"all", none, .flag, false⟩, ⟨"json", none, .flag, false⟩, ⟨"threads", some 't', .single, true⟩]

/-- A number of threads: digits, maybe behind a plus sign, that fit into 64 bits. -/
def threads? (s : String) : Option Nat :=
  let cs := match s.toList with
    | '+' :: rest => rest
    | cs => cs
  let n := cs.foldl (fun n c => n * 10 + (c.toNat - '0'.toNat)) 0
  if !cs.isEmpty && cs.all Char.isDigit && n < 0x10000000000000000 then some n else none

/-- Reads the arguments of a command. -/
def scanAll (known : List Known) (arguments : List String) : Except Stop Found := do
  return (← scan known false (arguments.length + 1) .empty arguments).1

def noOthers (f : Found) : Except Stop Unit :=
  if f.others.isEmpty then .ok () else .error (.refused "too many arguments")

/-- What the extract command is asked to do. -/
def extractionOf (f : Found) : Except Stop Extraction := do
  let all := f.hasFlag "all"
  if all && !f.others.isEmpty then throw (.refused "--all cannot be used with classes")
  if !all && f.others.isEmpty then throw (.refused "a class is missing")
  match f.value? "source" with
  | none => throw (.refused "--source is missing")
  | some source =>
    let threads ← match f.value? "threads" with
      | none => pure none
      | some written =>
        match threads? written with
        | some n => pure (some n)
        | none => throw (.refused "--threads needs a number")
    return { selection := if all then .all else .classes f.others
             source := ⟨source⟩
             classpath := (f.valuesOf "classpath").map Path.mk
             asJson := f.hasFlag "json"
             threads }

/-- A command with options in front of it and behind it. -/
def invocation (front : Found) (behind : Found) (action : Action) : Invocation where
  settingsFile := ((behind.value? "config").orElse fun _ => front.value? "config").map Path.mk
  debug := front.hasFlag "debug" || behind.hasFlag "debug"
  action := action

/-- The names of the commands. -/
def commandNames : List String := ["init", "config", "extract", "help"]

/-- Help is there for the whole and for one command. -/
def helpOn : List String → Stop
  | [] => .help
  | [topic] => if commandNames.contains topic then .help else .refused s!"{topic} is no command"
  | _ => .refused "too many arguments"

/-- The command that arguments stand for. -/
def parse (arguments : List String) : Except Stop Invocation := do
  let (front, rest) ←
    scan (versionOption :: sharedOptions) true (arguments.length + 1) .empty arguments
  match rest with
  | "init" :: more =>
    let found ← scanAll (initOptions ++ sharedOptions) more
    noOthers found
    return invocation front found (.init (found.hasFlag "force"))
  | "config" :: more =>
    let found ← scanAll sharedOptions more
    noOthers found
    return invocation front found .showSettings
  | "extract" :: more =>
    let found ← scanAll (extractOptions ++ sharedOptions) more
    return invocation front found (.extract (← extractionOf found))
  | "help" :: topics => throw (helpOn topics)
  | [] => throw (.refused "a command is missing")
  | other :: _ => throw (.refused s!"{other} is no command")

end MemberSpec.Command
