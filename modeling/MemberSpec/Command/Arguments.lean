import MemberSpec.Text.Split

/-!
# Command-line arguments

Options can stand before and behind what they belong to. A long option has its value behind `=` or in
the next argument, a short one also right behind its letter, and short flags can stand together. What
follows `--` is no option. A flag and an option with a single value stand at most once.

* `Known`: an option that can be given.
* `scan`: the options and other arguments of a row, or why it is refused.
-/

namespace MemberSpec.Command

/-- How often an option has a value. -/
inductive Arity where
  | flag | single | repeated
deriving DecidableEq, Repr

/-- An option that can be given. -/
structure Known where
  name : String
  letter : Option Char
  arity : Arity
  /-- Whether a value can be empty. -/
  allowsEmpty : Bool

/-- Why arguments are not run: they ask for the help or the version, or they are refused. -/
inductive Stop where
  | help
  | version
  | refused (reason : String)
deriving DecidableEq, Repr

/-- The options and the other arguments found so far. -/
structure Found where
  flags : List String
  values : List (String × String)
  others : List String
deriving Repr

namespace Found

def empty : Found := ⟨[], [], []⟩

def hasFlag (f : Found) (name : String) : Bool := f.flags.contains name

/-- The values of an option in order. -/
def valuesOf (f : Found) (name : String) : List String :=
  (f.values.filter (·.1 == name)).map (·.2)

def value? (f : Found) (name : String) : Option String := (f.valuesOf name).getLast?

def addFlag (f : Found) (k : Known) : Except Stop Found :=
  if k.name == "help" then .error .help
  else if k.name == "version" then .error .version
  else if f.hasFlag k.name then .error (.refused s!"--{k.name} is given twice")
  else .ok { f with flags := f.flags ++ [k.name] }

def addValue (f : Found) (k : Known) (value : String) : Except Stop Found :=
  if k.arity = .single && !(f.valuesOf k.name).isEmpty then
    .error (.refused s!"--{k.name} is given twice")
  else if value.isEmpty && !k.allowsEmpty then .error (.refused s!"--{k.name} needs a value")
  else .ok { f with values := f.values ++ [(k.name, value)] }

def addOther (f : Found) (argument : String) : Found := { f with others := f.others ++ [argument] }

end Found

/-- Whether an argument can only be an option. -/
def looksLikeOption (argument : String) : Bool :=
  argument.toList.head? == some '-' && argument != "-"

/-- The name and the value of a long option, from behind its dashes. -/
def splitLong (cs : List Char) : String × Option String :=
  let name := cs.takeWhile (· != '=')
  match cs.drop name.length with
  | _ :: value => (String.ofList name, some (String.ofList value))
  | [] => (String.ofList name, none)

/-- What a row of short options asks for: flags, and an option that has a value behind it. -/
inductive Short where
  | flags (f : Found)
  | valued (f : Found) (k : Known) (value : Option String)

/-- Reads short options that stand together. -/
def readShort (known : List Known) (f : Found) : List Char → Except Stop Short
  | [] => .ok (.flags f)
  | c :: rest =>
    match known.find? (·.letter == some c) with
    | none => .error (.refused ("-" ++ String.ofList [c] ++ " is not known"))
    | some k =>
      if k.arity = .flag then do readShort known (← f.addFlag k) rest
      else
        match rest with
        | [] => .ok (.valued f k none)
        | '=' :: value => .ok (.valued f k (some (String.ofList value)))
        | value => .ok (.valued f k (some (String.ofList value)))

/-- Takes the value of an option from the next argument. -/
def takeNext (f : Found) (k : Known) : List String → Except Stop (Found × List String)
  | [] => .error (.refused s!"--{k.name} needs a value")
  | value :: rest =>
    if looksLikeOption value then .error (.refused s!"--{k.name} needs a value")
    else do return (← f.addValue k value, rest)

/-- Reads the options and other arguments of a row. With `untilOther` the first argument that is no
option ends it. -/
def scan (known : List Known) (untilOther : Bool) :
    Nat → Found → List String → Except Stop (Found × List String)
  | 0, f, rest => .ok (f, rest)
  | _ + 1, f, [] => .ok (f, [])
  | fuel + 1, f, argument :: rest =>
    match argument.toList with
    | ['-', '-'] =>
      if untilOther then .error (.refused "a command is missing")
      else .ok ({ f with others := f.others ++ rest }, [])
    | '-' :: '-' :: long =>
      let (name, value) := splitLong long
      match known.find? (·.name == name) with
      | none => .error (.refused s!"--{name} is not known")
      | some k =>
        match k.arity, value with
        | .flag, none => do scan known untilOther fuel (← f.addFlag k) rest
        | .flag, some _ => .error (.refused s!"--{name} has no value")
        | _, some v => do scan known untilOther fuel (← f.addValue k v) rest
        | _, none => do
          let (next, rest) ← takeNext f k rest
          scan known untilOther fuel next rest
    | '-' :: c :: more => do
      match ← readShort known f (c :: more) with
      | .flags next => scan known untilOther fuel next rest
      | .valued next k (some v) => scan known untilOther fuel (← next.addValue k v) rest
      | .valued next k none =>
        let (next, rest) ← takeNext next k rest
        scan known untilOther fuel next rest
    | _ =>
      if untilOther then .ok (f, argument :: rest)
      else scan known untilOther fuel (f.addOther argument) rest

end MemberSpec.Command
