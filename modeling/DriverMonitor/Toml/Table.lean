import DriverMonitor.Toml.Value

/-! # Building tables

A document names tables in three ways: by a header, by a longer header or by a dotted key. How a table
came to be decides what may be added to it later: a table with a header of its own is closed to
dotted keys and to a second header, a table that only a longer header named may still get a header of
its own, and a table made by a dotted key grows by dotted keys only. A finished value is closed to
everything.
-/

namespace DriverMonitor.Toml

/-- How a table came to be. -/
inductive TableOrigin where
  /-- It has a header of its own. -/
  | header
  /-- A longer header named it. -/
  | longerHeader
  | dottedKey
  deriving DecidableEq, Repr

/-- A table under construction, and what stands under its keys. -/
inductive Node where
  | value (v : TomlValue)
  | table (origin : TableOrigin) (members : List (String × Node))
  /-- An array of tables, the last of which is still open. -/
  | tables (closed : List (List (String × Node))) (last : List (String × Node))

/-- Members in the order in which their keys were written first. -/
abbrev Members := List (String × Node)

namespace Members

def find? (ms : Members) (key : String) : Option Node := ms.lookup key

/-- Puts a node in the place of the one under its key, or at the end. -/
def put (ms : Members) (key : String) (node : Node) : Members :=
  if ms.any (·.1 == key) then ms.map fun (k, n) => if k == key then (k, node) else (k, n)
  else ms ++ [(key, node)]

/-- Follows a path and changes the members of the table it leads to, which the change sees together
with whether a dotted key made it. Tables that are not there are made with `origin`. -/
def modifyAt (origin : TableOrigin) (f : Bool → Members → Option Members) :
    List String → Bool → Members → Option Members
  | [], dotted, ms => f dotted ms
  | key :: path, _, ms =>
    match find? ms key with
    | none => do
      let inner ← modifyAt origin f path (origin = .dottedKey) []
      return put ms key (.table origin inner)
    | some (.value _) => none
    | some (.tables closed last) => do
      let last ← modifyAt origin f path false last
      return put ms key (.tables closed last)
    | some (.table made inner) =>
      if origin = .dottedKey ∧ made = .header then none
      else do
        let inner ← modifyAt origin f path (made = .dottedKey) inner
        return put ms key (.table made inner)

/-- Adds a member under a key, the last part of which has to be new. -/
def assign (ms : Members) (key : List String) (v : TomlValue) : Option Members :=
  match key.getLast? with
  | none => none
  | some name =>
    modifyAt .dottedKey
      (fun dotted inner =>
        -- a dotted key has to end in a table that dotted keys made, a plain key in any other
        if dotted = key.dropLast.isEmpty ∨ (find? inner name).isSome then none
        else some (inner ++ [(name, .value v)]))
      key.dropLast false ms

def assignAll (ms : Members) (pairs : List (List String × TomlValue)) : Option Members :=
  pairs.foldlM (fun ms (key, v) => assign ms key v) ms

/-- Adds a table with a header of its own and the members that follow the header. -/
def addTable (ms : Members) (key : List String) (pairs : List (List String × TomlValue)) :
    Option Members :=
  match key.getLast? with
  | none => none
  | some name =>
    modifyAt .longerHeader
      (fun _ outer =>
        match find? outer name with
        | none => do return put outer name (.table .header (← assignAll [] pairs))
        | some (.table .longerHeader inner) => do
          return put outer name (.table .header (← assignAll inner pairs))
        | some _ => none)
      key.dropLast false ms

/-- Adds a table to an array of tables. -/
def addToTables (ms : Members) (key : List String) (pairs : List (List String × TomlValue)) :
    Option Members :=
  match key.getLast? with
  | none => none
  | some name =>
    modifyAt .longerHeader
      (fun _ outer =>
        match find? outer name with
        | none => do return put outer name (.tables [] (← assignAll [] pairs))
        | some (.tables closed last) => do
          return put outer name (.tables (closed ++ [last]) (← assignAll [] pairs))
        | some _ => none)
      key.dropLast false ms

end Members

mutual

/-- The value that a node has become. -/
def Node.toValue : Node → TomlValue
  | .value v => v
  | .table _ ms => .table (membersToValues ms)
  | .tables closed last => .array (tablesToValues closed ++ [.table (membersToValues last)])

def membersToValues : List (String × Node) → List (String × TomlValue)
  | [] => []
  | (k, n) :: rest => (k, n.toValue) :: membersToValues rest

def tablesToValues : List (List (String × Node)) → List TomlValue
  | [] => []
  | ms :: rest => .table (membersToValues ms) :: tablesToValues rest

end

end DriverMonitor.Toml
