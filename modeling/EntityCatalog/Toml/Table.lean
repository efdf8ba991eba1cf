import EntityCatalog.Json.Value

/-!
Tables of a TOML document while it is read.

A table may come into being in three ways, by a header of its own, on the way to another table's
header, or by a dotted key, and the way decides what may still be added to it.  Entries are kept
in the order of their keys, which is the order in which a table is read in the end.
-/

namespace EntityCatalog.Toml

/-- How a table came into being. -/
inductive Origin where
  /-- By a header that names it. -/
  | header
  /-- On the way to a table that a header names. -/
  | passage
  /-- By a dotted key. -/
  | dotted
deriving DecidableEq, Repr

/-- What stands under a key.  Nothing can be added to a plain value; of an array of tables the
latest is open. -/
inductive Node where
  | value (j : Json)
  | table (origin : Origin) (entries : List (String × Node))
  | tables (latest : List (String × Node)) (earlier : List (List (String × Node)))

/-- The entries of a table. -/
abbrev Entries := List (String × Node)

/-- Writes a node under a key, in the order of keys. -/
def place (key : String) (node : Node) : Entries → Entries
  | [] => [(key, node)]
  | (k, n) :: rest =>
      if k = key then (key, node) :: rest
      else if key < k then (key, node) :: (k, n) :: rest
      else (k, n) :: place key node rest

/-- Opens the table that a header names. -/
def openTable : (path : List String) → Entries → Option Entries
  | [], _ => none
  | [key], es =>
      match es.lookup key with
      | none => some (place key (.table .header []) es)
      | some (.table .passage sub) => some (place key (.table .header sub) es)
      | some _ => none
  | key :: rest, es =>
      match es.lookup key with
      | none => (openTable rest []).map fun sub => place key (.table .passage sub) es
      | some (.table origin sub) =>
          (openTable rest sub).map fun sub => place key (.table origin sub) es
      | some (.tables latest earlier) =>
          (openTable rest latest).map fun latest => place key (.tables latest earlier) es
      | some (.value _) => none

/-- Adds a table to the array that a header names. -/
def addTable : (path : List String) → Entries → Option Entries
  | [], _ => none
  | [key], es =>
      match es.lookup key with
      | none => some (place key (.tables [] []) es)
      | some (.tables latest earlier) => some (place key (.tables [] (latest :: earlier)) es)
      | some _ => none
  | key :: rest, es =>
      match es.lookup key with
      | none => (addTable rest []).map fun sub => place key (.table .passage sub) es
      | some (.table origin sub) =>
          (addTable rest sub).map fun sub => place key (.table origin sub) es
      | some (.tables latest earlier) =>
          (addTable rest latest).map fun latest => place key (.tables latest earlier) es
      | some (.value _) => none

/-- Writes a value under a dotted key.  The table that receives it was made by dotted keys too,
unless the key has one part only. -/
def assign (j : Json) : (path : List String) → Entries → Option Entries
  | [], _ => none
  | [key], es => if (es.lookup key).isSome then none else some (place key (.value j) es)
  | key :: next :: rest, es =>
      match es.lookup key with
      | none => (assign j (next :: rest) []).map fun sub => place key (.table .dotted sub) es
      | some (.table .dotted sub) =>
          (assign j (next :: rest) sub).map fun sub => place key (.table .dotted sub) es
      | some (.table .passage sub) =>
          if rest.isEmpty then none
          else (assign j (next :: rest) sub).map fun sub => place key (.table .passage sub) es
      | some (.tables latest earlier) =>
          if rest.isEmpty then none
          else
            (assign j (next :: rest) latest).map fun latest =>
              place key (.tables latest earlier) es
      | some (.table .header _) => none
      | some (.value _) => none

/-- Changes the table that a header opened. -/
def within (change : Entries → Option Entries) : (path : List String) → Entries → Option Entries
  | [], es => change es
  | key :: rest, es =>
      match es.lookup key with
      | some (.table origin sub) =>
          (within change rest sub).map fun sub => place key (.table origin sub) es
      | some (.tables latest earlier) =>
          (within change rest latest).map fun latest => place key (.tables latest earlier) es
      | _ => none

mutual
/-- What stands under a key, as a value. -/
def Node.toJson : Node → Json
  | .value j => j
  | .table _ es => .object (entriesToJson es)
  | .tables latest earlier => .array (tablesToJson earlier [.object (entriesToJson latest)])

/-- The entries of a table, as members. -/
def entriesToJson : List (String × Node) → List (String × Json)
  | [] => []
  | (key, node) :: rest => (key, node.toJson) :: entriesToJson rest

/-- The tables of an array, latest first, in front of those after them. -/
def tablesToJson : List (List (String × Node)) → List Json → List Json
  | [], after => after
  | es :: earlier, after => tablesToJson earlier (.object (entriesToJson es) :: after)
end

end EntityCatalog.Toml
