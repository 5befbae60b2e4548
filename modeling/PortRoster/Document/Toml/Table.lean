import PortRoster.Document.Data

/-! # Tables of TOML

A document names its values by paths. A table arises in one of three ways: by a header of its own,
as a step on the path of another header, or as a step of a dotted key. Each table is defined once,
so the way in which it arose says what may still be added to it. -/

namespace PortRoster.Toml

/-- How a table arose. -/
inductive Origin where
  /-- By a header, or in one piece. -/
  | header
  /-- As a step on the path of a header. -/
  | implied
  /-- As a step of a dotted key. -/
  | dotted
  deriving DecidableEq, Repr

/-- What stands under a name. -/
inductive Node where
  | leaf (d : Data)
  | table (origin : Origin) (rows : List (String × Node))
  /-- The tables of headers with double brackets. -/
  | tables (parts : List (List (String × Node)))

/-- What stands under the names of one table. -/
abbrev Rows := List (String × Node)

/-- A row of a table: the steps of a dotted key, its last part, and the value. -/
structure Pair where
  path : List String
  key : String
  value : Data

/-- A header: its path, its last part, and whether it has double brackets. -/
structure Header where
  path : List String
  key : String
  isRepeated : Bool
  deriving DecidableEq, Repr

/-- A header and the rows under it. -/
structure Section where
  header : Header
  pairs : List Pair

namespace Rows

/-- Puts a node under a name, in its old place if the name is taken. -/
def put (rows : Rows) (name : String) (node : Node) : Rows :=
  match rows with
  | [] => [(name, node)]
  | (n, old) :: rest => if n = name then (n, node) :: rest else (n, old) :: put rest name node

/-- Changes the table at the end of a path, and makes the tables on the way that are missing. The
path of a dotted key passes through no table that has a header. -/
def descend (dotted : Bool) (change : Origin → Rows → Option Rows) :
    List String → Origin → Rows → Option Rows
  | [], origin, rows => change origin rows
  | name :: path, _, rows =>
    match rows.lookup name with
    | none =>
      let origin := if dotted then Origin.dotted else Origin.implied
      (descend dotted change path origin []).map fun sub => rows ++ [(name, .table origin sub)]
    | some (.table origin old) =>
      if dotted ∧ origin = .header then none
      else (descend dotted change path origin old).map fun sub => put rows name (.table origin sub)
    | some (.tables parts) =>
      parts.getLast?.bind fun old => (descend dotted change path .header old).map fun sub =>
        put rows name (.tables (parts.dropLast ++ [sub]))
    | some (.leaf _) => none

/-- Adds a value under a new name to a table. A dotted key ends in a table of dotted keys, and a
plain key in any other. -/
def insertHere (key : String) (value : Data) (isPlain : Bool) (origin : Origin) (rows : Rows) :
    Option Rows :=
  if (origin == .dotted) == isPlain ∨ (rows.lookup key).isSome then none
  else some (rows ++ [(key, .leaf value)])

/-- Adds a pair to a table that has a header. -/
def insert (rows : Rows) (p : Pair) : Option Rows :=
  descend true (insertHere p.key p.value p.path.isEmpty) p.path .header rows

/-- Adds pairs to a table that has a header. -/
def insertAll (rows : Rows) (pairs : List Pair) : Option Rows := pairs.foldlM insert rows

/-- Adds the table of a header under the last part of its path. -/
def openHere (s : Section) (_ : Origin) (rows : Rows) : Option Rows :=
  match rows.lookup s.header.key, s.header.isRepeated with
  | none, false => (insertAll [] s.pairs).map fun t => rows ++ [(s.header.key, .table .header t)]
  | none, true => (insertAll [] s.pairs).map fun t => rows ++ [(s.header.key, .tables [t])]
  | some (.table .implied old), false =>
    (insertAll old s.pairs).map fun t => put rows s.header.key (.table .header t)
  | some (.tables parts), true =>
    (insertAll [] s.pairs).map fun t => put rows s.header.key (.tables (parts ++ [t]))
  | _, _ => none

/-- Adds a section to the table of a document. -/
def addSection (rows : Rows) (s : Section) : Option Rows :=
  descend false (openHere s) s.header.path .header rows

end Rows

mutual

/-- The value of a node. -/
def Node.data : Node → Data
  | .leaf d => d
  | .table _ rows => .table (rowsData rows)
  | .tables parts => .list (partsData parts)

/-- The values of the rows of a table. -/
def rowsData : List (String × Node) → List (String × Data)
  | [] => []
  | (name, node) :: rows => (name, node.data) :: rowsData rows

/-- The values of a list of tables. -/
def partsData : List (List (String × Node)) → List Data
  | [] => []
  | rows :: parts => .table (rowsData rows) :: partsData parts

end

/-- The table that pairs in braces make. -/
def inlineTable (pairs : List Pair) : Option Data :=
  (Rows.insertAll [] pairs).map fun rows => .table (rowsData rows)

/-- The table that the pairs before the first header and the sections make. -/
def documentTable (pairs : List Pair) (sections : List Section) : Option Data := do
  let rows ← sections.foldlM Rows.addSection (← Rows.insertAll [] pairs)
  some (.table (rowsData rows))

end PortRoster.Toml
