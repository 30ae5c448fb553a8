/-!
# Reading TOML: tables

A document is a table of tables. How a table came to be decides what may be added to it:
a table that was only passed through may still be opened by a header, one that dotted keys
made may be extended by dotted keys alone, and one that a header or braces opened is closed
to both. Of values only Booleans are told apart.
-/

namespace NativeCall
namespace Toml

inductive TableOrigin where
  /-- Opened by a header or by braces. -/
  | explicit
  /-- Passed through by a header. -/
  | passed
  /-- Passed through by a dotted key. -/
  | dotted
  deriving DecidableEq, Repr

inductive Value where
  | boolean (b : Bool)
  | other
  deriving DecidableEq, Repr

/-- A value, a table, or a list of tables under one key, the last one first. -/
inductive Node where
  | leaf (value : Value)
  | table (origin : TableOrigin) (entries : List (String × Node))
  | tables (last : List (String × Node)) (earlier : List (List (String × Node)))

structure Table where
  origin : TableOrigin
  entries : List (String × Node)

namespace Table

def empty (origin : TableOrigin) : Table :=
  { origin, entries := [] }

def toNode (table : Table) : Node :=
  .table table.origin table.entries

def get? (table : Table) (key : String) : Option Node :=
  table.entries.lookup key

def put (table : Table) (key : String) (node : Node) : Table :=
  { table with entries := table.entries.filter (·.1 != key) ++ [(key, node)] }

/-- Change the table at the end of a path; the tables on the way are made where they are
missing. A list of tables is entered through its last one. A dotted path enters no table
that a header or braces opened. -/
def update (isDotted : Bool) (change : Table -> Option Table) :
    List String -> Table -> Option Table
  | [], table => change table
  | key :: path, table =>
      match table.get? key with
      | none => do
          let origin := if isDotted then .dotted else .passed
          let child <- update isDotted change path (.empty origin)
          return table.put key child.toNode
      | some (.leaf _) => none
      | some (.tables last earlier) => do
          let child <- update isDotted change path { origin := .explicit, entries := last }
          return table.put key (.tables child.entries earlier)
      | some (.table origin entries) =>
          if isDotted && origin == .explicit then none
          else do
            let child <- update isDotted change path { origin, entries }
            return table.put key child.toNode

/-- Add a value under a dotted key. Each key is given once, and the table that the path
leads to is one that dotted keys made. -/
def insert (path : List String) (key : String) (value : Value) (table : Table) : Option Table :=
  table.update true
    (fun table =>
      if (table.origin == .dotted) == path.isEmpty then none
      else if (table.get? key).isSome then none
      else some (table.put key (.leaf value)))
    path

def openTable (path : List String) (key : String) (table : Table) : Option Table :=
  table.update false
    (fun parent =>
      match parent.get? key with
      | none => some (parent.put key (.table .explicit []))
      | some (.table .passed entries) => some (parent.put key (.table .explicit entries))
      | some _ => none)
    path

def openElement (path : List String) (key : String) (table : Table) : Option Table :=
  table.update false
    (fun parent =>
      match parent.get? key with
      | none => some (parent.put key (.tables [] []))
      | some (.tables last earlier) => some (parent.put key (.tables [] (last :: earlier)))
      | some _ => none)
    path

end Table
end Toml
end NativeCall
