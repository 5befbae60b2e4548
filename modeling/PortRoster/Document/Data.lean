/-! # Structured data

The values that a structured document holds, and how records and named choices are read from them.
A record is written as a table with the names of its fields, or as a list of the fields in order. -/

namespace PortRoster

/-- A format of structured documents. -/
inductive Format where
  | toml
  | json
  deriving DecidableEq, Repr

/-- A value of a document. Numbers with a fraction and points in time are kept as they are written,
since no setting is made of them. -/
inductive Data where
  | null
  | boolean (b : Bool)
  | integer (n : Int)
  | real (literal : String)
  | moment (literal : String)
  | text (s : String)
  | list (items : List Data)
  | table (rows : List (String × Data))

/-- Where a field of a record is looked for. -/
inductive Field where
  | present (d : Data)
  /-- The table has no row for the field. -/
  | unnamed
  /-- The list ends before the field. -/
  | beyond

namespace Field

/-- Reads a field that has to be there. -/
def required {α : Type} (read : Data → Option α) : Field → Option α
  | present d => read d
  | unnamed | beyond => none

/-- Reads a field that stands for a default when it is missing. -/
def orElse {α : Type} (default : α) (read : Data → Option α) : Field → Option α
  | present d => read d
  | unnamed | beyond => some default

/-- Reads a value that may be null. -/
def nullable {α : Type} (read : Data → Option α) : Data → Option (Option α)
  | .null => some none
  | d => (read d).map some

/-- Reads a field that may be left out of a table, but not of a list. -/
def optional {α : Type} (read : Data → Option α) : Field → Option (Option α)
  | present d => nullable read d
  | unnamed => some none
  | beyond => none

end Field

namespace Data

/-- The row of a table under a name. -/
def row (rows : List (String × Data)) (name : String) : Field :=
  match rows.lookup name with
  | some d => .present d
  | none => .unnamed

/-- The item of a list at a position. -/
def item (items : List Data) (position : Nat) : Field :=
  match items[position]? with
  | some d => .present d
  | none => .beyond

/-- At most one row has the name. -/
def namedOnce (rows : List (String × Data)) (name : String) : Bool :=
  (rows.filter (·.1 == name)).length ≤ 1

/-- The fields of a record, by name or by position. Rows of other names are passed over, and so are
further items of a list in TOML. A point in time in TOML is a table with none of the names. -/
def fields (format : Format) (names : List String) : Data → Option (List Field)
  | table rows => if names.all (namedOnce rows) then some (names.map (row rows)) else none
  | list items =>
    if format = .json ∧ names.length < items.length then none
    else some ((List.range names.length).map (item items))
  | moment _ => if format = .toml then some (names.map fun _ => .unnamed) else none
  | _ => none

/-- Reads a text. -/
def toText : Data → Option String
  | text s => some s
  | _ => none

/-- Reads a truth value. -/
def toBool : Data → Option Bool
  | boolean b => some b
  | _ => none

/-- Reads a number of 32 bits. -/
def toWord : Data → Option UInt32
  | integer n => if 0 ≤ n ∧ n < 4294967296 then some (UInt32.ofNat n.toNat) else none
  | _ => none

/-- Reads a list. -/
def toListOf {α : Type} (read : Data → Option α) : Data → Option (List α)
  | list items => items.mapM read
  | _ => none

/-- The value that a choice without content may carry after its name. -/
def isNothing (format : Format) : Data → Bool
  | null => format = .json
  | list items => format = .toml && items.isEmpty
  | table rows => format = .toml && rows.isEmpty
  | _ => false

/-- Reads the name of a choice: a text, or a table with the name as its only row. -/
def toName (format : Format) : Data → Option String
  | text s => some s
  | table [(name, content)] => if content.isNothing format then some name else none
  | _ => none

end Data

end PortRoster
