import MemberSpec.Toml.Value

/-!
# TOML documents

A document is a row of statements: headers that open a table, and assignments to keys of the open
table. No table can be opened twice, no key assigned twice, and what is assigned as a value cannot be
extended.

* `Statement`: the statements of a document.
* `assemble?`: the table that statements describe.
-/

namespace MemberSpec.Toml

/-- How a table came to be: above an opened one, by a header, or by a key with dots. -/
inductive TableKind where
  | implied | opened | dotted
deriving DecidableEq, Repr

/-- An entry of a table that is being made. -/
inductive Node where
  | value (v : Value)
  | table (kind : TableKind) (entries : List (String × Node))
  /-- The tables of an array of tables. -/
  | tables (items : List (List (String × Node)))

abbrev Nodes := List (String × Node)

mutual

/-- The value that an entry stands for. -/
def Node.toValue : Node → Value
  | .value v => v
  | .table _ entries => .table (toTable entries)
  | .tables items => .array (toTables items)

def toTable : List (String × Node) → List (String × Value)
  | [] => []
  | (key, node) :: rest => (key, node.toValue) :: toTable rest

def toTables : List (List (String × Node)) → List Value
  | [] => []
  | entries :: rest => .table (toTable entries) :: toTables rest

end

/-- Sets an entry, in its place if the key is there. -/
def setEntry (key : String) (node : Node) : Nodes → Nodes
  | [] => [(key, node)]
  | (k, old) :: rest => if k == key then (key, node) :: rest else (k, old) :: setEntry key node rest

/-- Changes the table at the end of a path below a table of some kind. Tables on the way that are not
there are made. In an array of tables the way goes on in the last one. Keys with dots cannot go through
an opened table. -/
def changeAt (byDots : Bool) (change : TableKind → Nodes → Option Nodes) :
    TableKind → List String → Nodes → Option Nodes
  | kind, [], entries => change kind entries
  | _, key :: path, entries =>
    let made := if byDots then TableKind.dotted else .implied
    match entries.lookup key with
    | none => do
      let inner ← changeAt byDots change made path []
      return setEntry key (.table made inner) entries
    | some (.table kind inner) =>
      if byDots && kind = .opened then none
      else do
        let inner ← changeAt byDots change kind path inner
        return setEntry key (.table kind inner) entries
    | some (.tables items) => do
      let last ← changeAt byDots change .opened path (items.getLast?.getD [])
      return setEntry key (.tables (items.dropLast ++ [last])) entries
    | some (.value _) => none

/-- Assigns a value to a key with dots below a table. A table that headers made cannot get entries by
dots. -/
def assign? (kind : TableKind) (path : List String) (v : Value) (entries : Nodes) : Option Nodes :=
  match path.getLast? with
  | none => none
  | some key =>
    changeAt true
      (fun found inner =>
        if (found = .dotted) = path.dropLast.isEmpty then none
        else if (inner.lookup key).isSome then none
        else some (inner ++ [(key, .value v)]))
      kind path.dropLast entries

/-- Opens the table that a header names. -/
def openTable? (path : List String) (root : Nodes) : Option Nodes :=
  match path.getLast? with
  | none => none
  | some key =>
    changeAt false
      (fun _ entries =>
        match entries.lookup key with
        | none => some (setEntry key (.table .opened []) entries)
        | some (.table .implied inner) => some (setEntry key (.table .opened inner) entries)
        | _ => none)
      .opened path.dropLast root

/-- Adds a table to the array of tables that a header names. -/
def openElement? (path : List String) (root : Nodes) : Option Nodes :=
  match path.getLast? with
  | none => none
  | some key =>
    changeAt false
      (fun _ entries =>
        match entries.lookup key with
        | none => some (setEntry key (.tables [[]]) entries)
        | some (.tables items) => some (setEntry key (.tables (items ++ [[]])) entries)
        | _ => none)
      .opened path.dropLast root

/-- A statement of a document. -/
inductive Statement where
  | assign (path : List String) (v : Value)
  | header (path : List String)
  | elementHeader (path : List String)

/-- The tables made so far, and the path of the open one. -/
structure Draft where
  root : Nodes
  current : List String

/-- What a statement makes of a draft. -/
def Draft.add? (d : Draft) : Statement → Option Draft
  | .assign path v => do
    let root ← changeAt false (fun kind entries => assign? kind path v entries) .opened d.current d.root
    return { d with root }
  | .header path => do return ⟨← openTable? path d.root, path⟩
  | .elementHeader path => do return ⟨← openElement? path d.root, path⟩

/-- The table that statements describe. -/
def assemble? (statements : List Statement) : Option Table := do
  let draft ← statements.foldlM Draft.add? ⟨[], []⟩
  return toTable draft.root

/-- The table between braces that assignments describe. -/
def inlineTable? (assignments : List (List String × Value)) : Option Table := do
  let entries ← assignments.foldlM (fun entries (path, v) => assign? .opened path v entries) []
  return toTable entries

end MemberSpec.Toml
