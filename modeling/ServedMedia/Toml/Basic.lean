/-!
# TOML nodes

A document is a table.  Tables remember how they came to be, because that
decides what may still be added to them; a table written inline is closed.
-/

namespace ServedMedia.Toml

/-- How a table came to be. -/
inductive Origin where
  /-- By its own header, or as the document. -/
  | header
  /-- On the way to another table's header. -/
  | path
  /-- On the way of a dotted key. -/
  | dotted
  deriving DecidableEq, Repr

inductive Node where
  | string (value : String)
  | boolean (value : Bool)
  | integer (value : Int)
  /-- A float, by its text. -/
  | float (text : String)
  /-- A date or a time, by its text. -/
  | moment (text : String)
  | array (items : List Node)
  | inlineTable (entries : List (String × Node))
  | table (origin : Origin) (entries : List (String × Node))
  /-- The tables of one name that are listed, last one first. -/
  | tables (elements : List (List (String × Node)))
  deriving Repr, Inhabited

abbrev Entries := List (String × Node)

namespace Entries

/-! ## Algorithm -/

def get? (key : String) : Entries → Option Node
  | [] => none
  | (k, node) :: rest => if k = key then some node else get? key rest

/-- Replaces the node of a key where it stands, or adds the key at the end. -/
def set (key : String) (node : Node) : Entries → Entries
  | [] => [(key, node)]
  | (k, old) :: rest => if k = key then (k, node) :: rest else (k, old) :: set key node rest

def remove (key : String) (entries : Entries) : Entries := entries.filter (·.1 ≠ key)

/-- Changes the table at the end of a path, whose tables are made when they are
missing.  Along a dotted key no table with a header may be passed. -/
def alter? (dotted : Bool) (change : Origin → Entries → Option Entries) :
    (path : List String) → Origin → Entries → Option Entries
  | [], origin, entries => change origin entries
  | key :: path, _, entries =>
    let made := if dotted then Origin.dotted else Origin.path
    match get? key entries with
    | none => (alter? dotted change path made []).map fun t => set key (.table made t) entries
    | some (.table origin t) =>
      if dotted && origin == .header then none
      else (alter? dotted change path origin t).map fun t => set key (.table origin t) entries
    | some (.tables (last :: earlier)) =>
      (alter? dotted change path .header last).map fun t =>
        set key (.tables (t :: earlier)) entries
    | some _ => none

/-- Adds a key that is not there yet. -/
def add? (key : String) (node : Node) (entries : Entries) : Option Entries :=
  if (get? key entries).isSome then none else some (set key node entries)

/-- Adds the value of a key, dotted if the path is not empty; a table that was
not made by dotted keys is closed to them. -/
def addPair? (path : List String) (key : String) (value : Node) (origin : Origin)
    (entries : Entries) : Option Entries :=
  alter? true (fun reached entries =>
    if (reached == .dotted) == path.isEmpty then none else add? key value entries)
    path origin entries

end Entries

end ServedMedia.Toml
