import RouteAudit.Toml.Value

/-!
# Growing tables

While a document is read its tables grow.  How a table came to be decides what may still be
added: one stated by a header is not stated again, one implied by a longer header may be
stated once, and one that grew from dotted keys grows by dotted keys alone.  A value, also
an array or a table written as a value, is complete at once.
-/

namespace RouteAudit
namespace Toml

inductive Origin where
  | implied
  | dotted
  | stated
  deriving DecidableEq, Repr

inductive Node where
  | value (v : Toml)
  | table (origin : Origin) (entries : List (String × Node))
  | tables (elements : List (List (String × Node)))

abbrev Entries := List (String × Node)

namespace Node

mutual

def close : Node → Toml
  | .value v => v
  | .table _ entries => .table (closeEntries entries)
  | .tables elements => .array (closeElements elements)

def closeEntries : List (String × Node) → List (String × Toml)
  | [] => []
  | (name, node) :: rest => (name, close node) :: closeEntries rest

def closeElements : List (List (String × Node)) → List Toml
  | [] => []
  | entries :: rest => .table (closeEntries entries) :: closeElements rest

end

end Node

namespace Entries

def node? (name : String) (entries : Entries) : Option Node :=
  (entries.find? fun e => e.1 = name).map Prod.snd

/-- Replaces the node of a name, which keeps its position, or adds it at the end. -/
def put (name : String) (node : Node) : Entries → Entries
  | [] => [(name, node)]
  | (n, old) :: rest => if n = name then (n, node) :: rest else (n, old) :: put name node rest

/-!
# Descending

A change is made at the end of a path of names.  Missing tables are made on the way, and an
array of tables is entered at its last element.  Dotted keys do not enter stated tables.
The change is told the origin of the table it is made in.
-/

def descend (keys : Bool) (change : Origin → Entries → Option Entries) :
    List String → Origin → Entries → Option Entries
  | [], origin, entries => change origin entries
  | name :: path, _, entries =>
      match node? name entries with
      | none =>
          let origin := if keys then .dotted else .implied
          (descend keys change path origin []).map fun sub =>
            put name (.table origin sub) entries
      | some (.value _) => none
      | some (.table origin sub) =>
          if keys && origin == .stated then none
          else
            (descend keys change path origin sub).map fun sub =>
              put name (.table origin sub) entries
      | some (.tables elements) =>
          match elements.getLast? with
          | none => none
          | some last =>
              (descend keys change path .stated last).map fun last =>
                put name (.tables (elements.dropLast ++ [last])) entries

/-- Adds a value under a dotted key to a table that was not grown from dotted keys.  A name
stands once, and the last table on the way was grown from dotted keys. -/
def assign (path : List String) (name : String) (value : Toml) (entries : Entries) :
    Option Entries :=
  let add := fun origin entries =>
    if (origin == Origin.dotted) == path.isEmpty then none
    else
      match node? name entries with
      | none => some (entries ++ [(name, .value value)])
      | some _ => none
  descend true add path .stated entries

/-- States the table of a header. -/
def stateTable (path : List String) (name : String) (entries : Entries) : Option Entries :=
  let state := fun _ entries =>
    match node? name entries with
    | none => some (put name (.table .stated []) entries)
    | some (.table .implied sub) => some (put name (.table .stated sub) entries)
    | some _ => none
  descend false state path .stated entries

/-- Adds an element to the array of tables of a header. -/
def addElement (path : List String) (name : String) (entries : Entries) : Option Entries :=
  let add := fun _ entries =>
    match node? name entries with
    | none => some (put name (.tables [[]]) entries)
    | some (.tables elements) => some (put name (.tables (elements ++ [[]])) entries)
    | some _ => none
  descend false add path .stated entries

end Entries
end Toml
end RouteAudit
