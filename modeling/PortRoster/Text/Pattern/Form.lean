import PortRoster.Text.Pattern.Length

/-! # Patterns as they are put together

A pattern in the form in which it has been written, but for what can be said more simply. A row
within a row is part of that row, characters in a row are one literal, a choice between characters
is a set, and what can only be empty is not repeated. -/

namespace PortRoster.Text.Pattern

/-- A pattern as it is put together. -/
inductive Form where
  | empty
  /-- Characters in a row. -/
  | literal (cs : List Char)
  | set (s : CharSet)
  | edge (e : Edge)
  /-- A number of stretches in a row: so many, and some more up to a limit if there is one. -/
  | repeated (least : Nat) (more : Option Nat) (f : Form)
  /-- A group whose stretch is to be found. -/
  | group (f : Form)
  | row (fs : List Form)
  | choice (fs : List Form)

namespace Form

/-- The pattern of characters in a row. -/
def ofChars (cs : List Char) : Pattern :=
  cs.foldr (fun c p => .seq (.one (.single c.toNat)) p) .empty

mutual

/-- The pattern that a form describes. -/
def pattern : Form → Pattern
  | empty => .empty
  | literal cs => ofChars cs
  | set s => .one s
  | edge e => .edge e
  | repeated least more f => .repeated least more f.pattern
  | group f => f.pattern
  | row fs => rowPattern fs
  | choice fs => choicePattern fs

/-- The pattern of forms in a row. -/
def rowPattern : List Form → Pattern
  | [] => .empty
  | f :: fs => .seq f.pattern (rowPattern fs)

/-- The pattern of a choice between forms. -/
def choicePattern : List Form → Pattern
  | [] => .one .empty
  | [f] => f.pattern
  | f :: g :: fs => .alt f.pattern (choicePattern (g :: fs))

end

/-! ### Simpler forms -/

/-- The form of a set. A set of one character is a literal. -/
def ofSet (s : CharSet) : Form :=
  match s.changes with
  | [p, q] => if q = p + 1 ∧ p.isValidChar then .literal [Char.ofNat p] else .set s
  | _ => .set s

/-- The members of a row, or a form as a row of its own. -/
def members : Form → List Form
  | empty => []
  | row fs => fs
  | f => [f]

/-- A form in front of a row. Characters in front of a literal become part of it. -/
def prepend : Form → List Form → List Form
  | literal cs, literal ds :: fs => .literal (cs ++ ds) :: fs
  | f, fs => f :: fs

/-- The form of forms in a row. -/
def ofList (fs : List Form) : Form :=
  match (fs.flatMap members).foldr prepend [] with
  | [] => .empty
  | [f] => f
  | fs => .row fs

/-- The branches of a choice, or a form as the only one. -/
def branches : Form → List Form
  | choice fs => fs
  | f => [f]

/-- The set of a literal of one character. -/
def charSet? : Form → Option CharSet
  | literal [c] => some (.single c.toNat)
  | _ => none

/-- The set of a form that is one. -/
def set? : Form → Option CharSet
  | set s => some s
  | _ => none

/-- The form of a choice. -/
def oneOf (fs : List Form) : Form :=
  match fs.flatMap branches with
  | [f] => f
  | fs =>
    match (fs.mapM charSet?).or (fs.mapM set?) with
    | some ss => ofSet (.unions ss)
    | none => .choice fs

/-- The counts that are enough for what can only be empty. -/
def voidCounts (least : Nat) (more : Option Nat) : Nat × Option Nat :=
  if least = 0 then (0, some (min (more.getD 1) 1)) else (1, some 0)

/-- The form of a number of stretches in a row. -/
def ofCounts (f : Form) : Nat × Option Nat → Form
  | (0, some 0) => .empty
  | (1, some 0) => f
  | (least, more) => .repeated least more f

/-- The form of a number of stretches in a row. What can only be empty needs one round at most. -/
def ofCount (least : Nat) (more : Option Nat) (f : Form) : Form :=
  f.ofCounts (if f.pattern.isVoid then voidCounts least more else (least, more))

end Form

end PortRoster.Text.Pattern
