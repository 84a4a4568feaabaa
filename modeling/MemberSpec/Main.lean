import MemberSpec.Command.Run

/-!
# The command line

Reads the files that a command needs, runs it, writes the files that it changed and prints what it
printed.
-/

namespace MemberSpec

open Settings (Machine Refusals)

/-- What is read from disk, one location at a time. -/
abbrev Listing := List (Location × Entry)

/-- All that is at a location and under it, up to a depth. -/
def listing : Nat → Location → IO Listing
  | 0, _ => return []
  | depth + 1, location => do
    let place := (← IO.currentDir) / (Settings.pathOf location).text
    if ← place.isDir then
      let mut found : Listing := [(location, .directory)]
      for child in ← place.readDir do
        found := found ++ (← listing depth (location ++ [child.fileName]))
      return found
    else if ← place.pathExists then
      return [(location, .file (← IO.FS.readBinFile place).toList)]
    else return []

/-- How deep directories are read. -/
def deepestDirectory : Nat := 64

/-- A file tree with all that paths name. -/
def gather (files : FileTree) (paths : List Path) : IO FileTree := do
  let mut tree := files
  for p in paths do
    let start := if p.isAbsolute then [] else files.here
    let location := (FileTree.steps p).foldl
      (fun l name => if name == "." then l else if name == ".." then l.dropLast else l ++ [name]) start
    for above in FileTree.startsOf location.dropLast do
      if (tree.entry? above).isNone then
        if ← ((← IO.currentDir) / (Settings.pathOf above).text).isDir then
          tree := tree.put above .directory
    for (place, found) in ← listing deepestDirectory location do
      if (tree.entry? place).isNone then tree := tree.put place found
  return tree

/-- The variables of the environment. -/
def environment : IO (List Settings.Environment.Variable) := do
  let bytes ← IO.FS.readBinFile "/proc/self/environ"
  let entries := Text.splitAt (· == Char.ofNat 0) ((String.fromUTF8? bytes).getD "").toList
  return entries.filterMap fun cs =>
    let name := cs.takeWhile (· != '=')
    if name.length < cs.length then
      some (String.ofList name, String.ofList (cs.drop (name.length + 1)))
    else none

/-- The number of processors, one if it is not known. -/
def processorCount : IO Nat := do
  let text ← try IO.FS.readFile "/proc/cpuinfo" catch _ => pure ""
  let count := (Text.lines text.toList).countP fun line => "processor".toList.isPrefixOf line
  return max 1 count

/-- Writes to disk what is different in a tree. -/
def store (before after : FileTree) : IO Unit := do
  for (location, found) in after.entries do
    if before.entry? location != some found then
      let place := (← IO.currentDir) / (Settings.pathOf location).text
      match found with
      | .directory => IO.FS.createDirAll place
      | .file bytes => IO.FS.writeBinFile place ⟨bytes.toArray⟩

/-- The names in a path from the root. -/
def locationOf (text : String) : Location :=
  ((Text.splitAt (· == '/') text.toList).map String.ofList).filter (!·.isEmpty)

/-- What is said here of files that cannot be used for settings. -/
def refusals : Refusals := ⟨"not a TOML document", "not a settings file"⟩

/-- Runs the command that arguments stand for, and gives the exit code. -/
def runArguments (arguments : List String) : IO UInt32 := do
  let machine : Machine := ⟨← environment, ← processorCount⟩
  let start := FileTree.empty (locationOf (← IO.currentDir).toString)
  let withSettings ← gather start (Command.settingsPaths start arguments)
  let files ← gather withSettings (Command.dataPaths refusals withSettings machine arguments)
  let result := Command.run refusals files machine arguments
  store files result.files
  (← IO.getStdout).putStr result.stdout
  (← IO.getStderr).putStr result.stderr
  return UInt32.ofNat result.exit

end MemberSpec

def main (arguments : List String) : IO UInt32 := MemberSpec.runArguments arguments
