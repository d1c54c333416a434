import DriverMonitor.Toml.Scalar
import DriverMonitor.Toml.Table
import DriverMonitor.Toml.Text

/-! # Reading TOML documents

A document is a sequence of sections, the first without a header. Every section adds its members to
the tables that the sections before it have built; `Toml.parse?` gives the table of the whole
document.

Every step of reading takes at least one character away, so the number of characters bounds the
number of steps.
-/

namespace DriverMonitor.Toml

/-! ## Blanks and comments -/

/-- What follows a comment, which ends before the end of its line. -/
def afterComment? : List Char → Option (List Char)
  | '#' :: rest => some (rest.dropWhile isPrintable)
  | _ => none

/-- What follows spaces, line ends and comments, all of which end with their lines. -/
def skipLines : Nat → List Char → List Char
  | 0, cs => cs
  | steps + 1, cs =>
    let cs := skipSpaces cs
    match afterNewline? cs with
    | some rest => skipLines steps rest
    | none =>
      match (afterComment? cs).bind afterNewline? with
      | some rest => skipLines steps rest
      | none => cs

/-- What follows the end of a line, with a comment before it or not. The last line ends with the
document. -/
def endLine? (cs : List Char) : Option (List Char) :=
  let cs := skipSpaces cs
  match (afterComment? cs).getD cs with
  | [] => some []
  | rest => afterNewline? rest

/-! ## Values -/

mutual

/-- The value at the front. `depth` says how many arrays and tables may still be opened. -/
def readValue : Nat → Nat → List Char → Option (TomlValue × List Char)
  | 0, _, _ => none
  | steps + 1, depth, cs =>
    match cs with
    | '"' :: _ | '\'' :: _ => (readString cs).map fun (s, rest) => (.string s, rest)
    | '[' :: rest =>
      if depth = 0 then none
      else
        let rest := skipLines rest.length rest
        match rest with
        | ']' :: rest => some (.array [], rest)
        | rest => (readItems steps (depth - 1) rest).map fun (items, rest) => (.array items, rest)
    | '{' :: rest =>
      if depth = 0 then none
      else
        match skipSpaces rest with
        | '}' :: rest => some (.table [], rest)
        | rest => do
          let (pairs, rest) ← readPairs steps (depth - 1) rest
          return (.table (membersToValues (← Members.assignAll [] pairs)), rest)
    | cs => readScalar cs

/-- The items of an array up to its closing bracket. A comma may stand behind the last one. -/
def readItems : Nat → Nat → List Char → Option (List TomlValue × List Char)
  | 0, _, _ => none
  | steps + 1, depth, cs => do
    let (v, rest) ← readValue steps depth cs
    match skipLines rest.length rest with
    | ']' :: rest => some ([v], rest)
    | ',' :: rest =>
      match skipLines rest.length rest with
      | ']' :: rest => some ([v], rest)
      | rest => (readItems steps depth rest).map fun (items, rest) => (v :: items, rest)
    | _ => none

/-- The members of a table on one line up to its closing brace, at least one. -/
def readPairs : Nat → Nat → List Char → Option (List (List String × TomlValue) × List Char)
  | 0, _, _ => none
  | steps + 1, depth, cs => do
    let (key, rest) ← readKey cs
    let '=' :: rest := rest | none
    let (v, rest) ← readValue steps depth (skipSpaces rest)
    match skipSpaces rest with
    | '}' :: rest => some ([(key, v)], rest)
    | ',' :: rest => (readPairs steps depth rest).map fun (pairs, rest) => ((key, v) :: pairs, rest)
    | _ => none

end

/-! ## Documents -/

/-- What one line, or a member over several lines, adds to a document. -/
inductive Statement where
  | blank
  | member (key : List String) (v : TomlValue)
  | header (key : List String)
  | tablesHeader (key : List String)

/-- The statement at the front, behind spaces, with the end of its line. -/
def readStatement (cs : List Char) : Option (Statement × List Char) :=
  match cs with
  | '#' :: _ | '\n' :: _ | '\r' :: _ => do return (.blank, ← endLine? cs)
  | '[' :: '[' :: rest => do
    let (key, rest) ← readKey rest
    let ']' :: ']' :: rest := rest | none
    return (.tablesHeader key, ← endLine? rest)
  | '[' :: rest => do
    let (key, rest) ← readKey rest
    let ']' :: rest := rest | none
    return (.header key, ← endLine? rest)
  | cs => do
    let (key, rest) ← readKey cs
    let '=' :: rest := rest | none
    let rest := skipSpaces rest
    let (v, rest) ← readValue (rest.length + 1) (depthLimit - 1) rest
    return (.member key v, ← endLine? rest)

def readStatements : Nat → List Char → Option (List Statement)
  | 0, _ => none
  | steps + 1, cs =>
    match skipSpaces cs with
    | [] => some []
    | cs => do
      let (s, rest) ← readStatement cs
      return s :: (← readStatements steps rest)

/-- A document in progress: the finished tables, the header of the section being read, and the
members of that section, the last one first. -/
structure Draft where
  finished : Members := []
  /-- How the section is added to the finished tables. -/
  close : Members → List (List String × TomlValue) → Option Members := Members.assignAll
  pairs : List (List String × TomlValue) := []

def Draft.finish (d : Draft) : Option Members := d.close d.finished d.pairs.reverse

def Draft.add (d : Draft) : Statement → Option Draft
  | .blank => some d
  | .member key v => some { d with pairs := (key, v) :: d.pairs }
  | .header key => do return { finished := ← d.finish, close := (·.addTable key ·) }
  | .tablesHeader key => do return { finished := ← d.finish, close := (·.addToTables key ·) }

/-- The table that a document holds. A byte-order mark in front is passed over. -/
def parse? (text : String) : Option (List (String × TomlValue)) := do
  let cs := match text.toList with
    | '\ufeff' :: rest => rest
    | cs => cs
  let statements ← readStatements (cs.length + 1) cs
  let d ← statements.foldlM Draft.add {}
  return membersToValues (← d.finish)

end DriverMonitor.Toml
