import EndpointMonitor.Json.Basic

/-!
# Tables of a TOML document

A document is built header by header and line by line. A table may be written once; a table
that only came into being as part of a longer name may still be written. Names with dots open
tables of their own kind, which no header may reopen.
-/

namespace EndpointMonitor.Toml

/-- How a table came into being. -/
structure Origin where
  /-- The table was only named on the way to another one. -/
  implicitly : Bool
  /-- The table was named by a key with dots. -/
  dotted : Bool

/-- A node of a document: a value, a table, or a list of tables, the last one first. -/
inductive Node where
  | value (v : Json)
  | table (origin : Origin) (entries : List (String × Node))
  | tables (items : List (List (String × Node)))

/-- The entries of a table. -/
abbrev Entries := List (String × Node)

namespace Entries

/-- The node of a key. -/
def get? (entries : Entries) (key : String) : Option Node :=
  (entries.find? (·.1 == key)).map (·.2)

/-- Put a node in place of the node of its key, or behind the others. -/
def put (key : String) (node : Node) : Entries → Entries
  | [] => [(key, node)]
  | (k, n) :: rest => if k = key then (key, node) :: rest else (k, n) :: put key node rest

end Entries

/-- Change the entries of the table at a path; missing tables come into being on the way. A key
with dots does not enter a table that has been written by a header. -/
def descend (dotted : Bool) (change : Origin → Entries → Option Entries) :
    List String → Origin → Entries → Option Entries
  | [], origin, entries => change origin entries
  | key :: path, _, entries =>
    match entries.get? key with
    | none => do
      let origin : Origin := ⟨true, dotted⟩
      let inner ← descend dotted change path origin []
      return entries.put key (.table origin inner)
    | some (.value _) => none
    | some (.tables []) => none
    | some (.tables (last :: earlier)) => do
      let inner ← descend dotted change path ⟨false, false⟩ last
      return entries.put key (.tables (inner :: earlier))
    | some (.table origin inner) =>
      if dotted && !origin.implicitly then none
      else do
        let inner ← descend dotted change path origin inner
        return entries.put key (.table origin inner)

/-- Add a value under a key with the given dotted path before it. -/
def addPair (path : List String) (key : String) (node : Node) (origin : Origin)
    (entries : Entries) : Option Entries :=
  descend true (fun origin entries =>
    if origin.dotted == path.isEmpty then none
    else if (entries.get? key).isSome then none
    else some (entries.put key node)) path origin entries

/-- Open a table by its header. -/
def openTable (path : List String) (key : String) (root : Entries) : Option Entries :=
  descend false (fun _ entries =>
    match entries.get? key with
    | none => some (entries.put key (.table ⟨false, false⟩ []))
    | some (.table origin inner) =>
      if origin.implicitly && !origin.dotted then
        some (entries.put key (.table ⟨false, false⟩ inner))
      else none
    | some _ => none) path ⟨false, false⟩ root

/-- Open a further table of a list of tables by its header. -/
def openTables (path : List String) (key : String) (root : Entries) : Option Entries :=
  descend false (fun _ entries =>
    match entries.get? key with
    | none => some (entries.put key (.tables [[]]))
    | some (.tables items) => some (entries.put key (.tables ([] :: items)))
    | some _ => none) path ⟨false, false⟩ root

/-- Add a value to the table that was opened last. -/
def addToTable (table : List String) (path : List String) (key : String) (node : Node)
    (root : Entries) : Option Entries :=
  descend false (fun origin entries =>
    addPair path key node { origin with dotted := false } entries) table ⟨false, false⟩ root

mutual

/-- The value of a node. -/
def Node.toJson : Node → Json
  | .value v => v
  | .table _ entries => Json.mkObj (entriesToJson entries)
  | .tables items => .arr (tablesToJson items).reverse

/-- The values of the entries. -/
def entriesToJson : List (String × Node) → List (String × Json)
  | [] => []
  | (key, node) :: rest => (key, node.toJson) :: entriesToJson rest

/-- The values of the tables, the last one first. -/
def tablesToJson : List (List (String × Node)) → List Json
  | [] => []
  | entries :: rest => Json.mkObj (entriesToJson entries) :: tablesToJson rest

end

end EndpointMonitor.Toml
