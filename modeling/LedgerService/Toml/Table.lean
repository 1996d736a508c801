import LedgerService.Toml.Value

/-!
# Tables of TOML under construction

A table can come about in several ways: under a header, as part of the way to another table, through keys with
points, or within one value. Which way it was decides what may still be added to it, and a key is never given
twice.
-/

namespace LedgerService.Toml

/-- How a table came about. -/
inductive Origin where
  /-- Under a header of its own. -/
  | header
  /-- On the way to a table with a header. -/
  | passage
  /-- Through a key with points. -/
  | dotted
deriving DecidableEq, Repr, Inhabited

/-- What a key leads to while the document is read. -/
inductive Node where
  | value (value : Toml)
  | table (origin : Origin) (entries : List (String × Node))
  /-- Tables under repeated headers, the latest one first. -/
  | tables (latest : List (String × Node)) (earlier : List (List (String × Node)))
deriving Inhabited

/-- The entries of a table. -/
abbrev Entries := List (String × Node)

/-- The node under a key. -/
def Entries.find? (entries : Entries) (key : String) : Option Node := entries.lookup key

/-- The entries with a node under a key, in the place of the one that is there or at the end. -/
def Entries.put (entries : Entries) (key : String) (node : Node) : Entries :=
  match entries with
  | [] => [(key, node)]
  | (otherKey, other) :: rest =>
    if otherKey = key then (key, node) :: rest else (otherKey, other) :: Entries.put rest key node

/-- The entries without a key. -/
def Entries.without (entries : Entries) (key : String) : Entries := entries.filter fun entry => entry.1 ≠ key

/--
Changes the entries of the table that a path leads to. A table on the way that is not there is made; a key with
points does not lead into a table under a header.
-/
def descend (dotted : Bool) (entries : Entries) (change : Origin → Entries → Option Entries) :
    (origin : Origin) → List String → Option Entries
  | origin, [] => change origin entries
  | _, key :: path =>
    match entries.find? key with
    | none => do
      let made := if dotted then .dotted else .passage
      return entries.put key (.table made (← descend dotted [] change made path))
    | some (.value _) => none
    | some (.tables latest earlier) => do
      return entries.put key (.tables (← descend dotted latest change .header path) earlier)
    | some (.table origin inner) => do
      if dotted && origin = .header then none
      return entries.put key (.table origin (← descend dotted inner change origin path))

/-- Adds a value under a key that is reached through a path from a table. -/
def addValue (entries : Entries) (path : List String) (key : String) (value : Toml) : Option Entries :=
  descend true entries
    (fun origin inner =>
      if (decide (origin = .dotted)) = path.isEmpty then none
      else if (inner.find? key).isSome then none
      else some (inner.put key (.value value)))
    .header path

mutual

/-- The value of a node. -/
def Node.toToml : Node → Toml
  | .value value => value
  | .table _ entries => .table (entriesToToml entries)
  | .tables latest earlier => .array (earlierToToml earlier ++ [.table (entriesToToml latest)])

/-- The entries of a finished table. -/
def entriesToToml : List (String × Node) → List (String × Toml)
  | [] => []
  | (key, node) :: rest => (key, node.toToml) :: entriesToToml rest

/-- The earlier ones of repeated tables in the order in which they were written. -/
def earlierToToml : List (List (String × Node)) → List Toml
  | [] => []
  | entries :: rest => earlierToToml rest ++ [.table (entriesToToml entries)]

end

end LedgerService.Toml
