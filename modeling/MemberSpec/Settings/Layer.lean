import MemberSpec.Path
import MemberSpec.Toml.Value

/-!
# Layers of settings

Settings come in layers: the defaults, a file and the environment. Every value carries a mark that says
which layer it is from. Tables of two layers are merged entry by entry, and for everything else the
later layer counts.

* `Layered.merge`: a layer on top of another.
* `Layered.ofToml`: the layer of a file.
-/

namespace MemberSpec.Settings

/-- Where a value is from. A file is shown by a path. -/
inductive Mark where
  | defaults
  | file (shown : Path)
  | environment
deriving DecidableEq, Repr

/-- A value without parts. Numbers of files have a sign, those of the environment only if they need
one. -/
inductive Scalar where
  | boolean (b : Bool)
  | signed (n : Int)
  | unsigned (n : Nat)
  | float (x : Binary64)
  | text (s : String)
deriving DecidableEq, Repr

/-- A value of a layer, or of several layers merged. -/
inductive Layered where
  | scalar (mark : Mark) (s : Scalar)
  | sequence (mark : Mark) (items : List Layered)
  | table (mark : Mark) (entries : List (String × Layered))

/-- The entries of a table. -/
abbrev Entries := List (String × Layered)

namespace Layered

def mark : Layered → Mark
  | scalar m _ => m
  | sequence m _ => m
  | table m _ => m

/-- Sets an entry, in its place if the key is there. -/
def setEntry (key : String) (v : Layered) : Entries → Entries
  | [] => [(key, v)]
  | (k, old) :: rest => if k == key then (key, v) :: rest else (k, old) :: setEntry key v rest

mutual

/-- A value with a later one on top. -/
def merge (earlier : Layered) : Layered → Layered
  | table m later =>
    match earlier with
    | table _ entries => table m (mergeEntries entries later)
    | _ => table m later
  | other => other

/-- Entries with later ones on top. -/
def mergeEntries (entries : Entries) : List (String × Layered) → Entries
  | [] => entries
  | (key, v) :: rest =>
    let merged := match entries.lookup key with
      | some old => merge old v
      | none => v
    mergeEntries (setEntry key merged entries) rest

end

/-- The key under which a date or time stands in a table of its own. -/
def datetimeKey : String := "$__toml_private_datetime"

mutual

/-- The value of a file. A date or time counts as a table. -/
def ofToml (mark : Mark) : Toml.Value → Layered
  | .string s => scalar mark (.text s)
  | .integer n => scalar mark (.signed n)
  | .float x => scalar mark (.float x)
  | .boolean b => scalar mark (.boolean b)
  | .datetime written => table mark [(datetimeKey, scalar mark (.text written))]
  | .array items => sequence mark (ofItems mark items)
  | .table entries => table mark (ofEntries mark entries)

def ofItems (mark : Mark) : List Toml.Value → List Layered
  | [] => []
  | v :: rest => ofToml mark v :: ofItems mark rest

def ofEntries (mark : Mark) : List (String × Toml.Value) → Entries
  | [] => []
  | (key, v) :: rest => (key, ofToml mark v) :: ofEntries mark rest

end

end Layered

end MemberSpec.Settings
