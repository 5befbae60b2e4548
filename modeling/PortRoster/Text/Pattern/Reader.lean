import PortRoster.Text.Pattern.Automaton
import PortRoster.Text.Pattern.CharClass

/-! # Patterns as texts

A pattern is written as a text: signs in a row, choices between bars, groups in parentheses, and
repetitions behind what is repeated. Groups may have names, and repetitions may prefer fewer rounds.
Neither matters for whether the pattern occurs.

A text is refused for the first fault in how it is written, or else for signs that are nested too
deep, or else for the first sign without a meaning, or else for its size. -/

namespace PortRoster.Text.Pattern

/-- A form that has been read, and how deep its signs are nested. -/
structure Branch where
  form : Form
  levels : Levels

/-- A form in a row of others. Flags stand in the row, too, and cannot be repeated. -/
structure Item extends Branch where
  /-- The place where it begins. -/
  first : Nat
  repeatable : Bool := true

/-- The innermost row of what has been read: the finished branches of a choice and the items of its
last one, both from last to first. -/
structure Row where
  /-- The place where the choice begins. -/
  start : Nat := 0
  /-- The place where its last branch begins. -/
  branchStart : Nat := 0
  branches : List Branch := []
  items : List Item := []

namespace Row

/-- An empty row. -/
def startingAt (place : Nat) : Row := { start := place, branchStart := place }

/-- The last branch, which ends at a place. The items of a longer one are nested in it. -/
def branch (r : Row) (behind : Nat) : Branch :=
  match r.items with
  | [i] => i.toBranch
  | items =>
    let levels := items.foldl (fun levels i => i.levels.join levels) []
    ⟨.ofList (items.reverse.map (·.form)),
      if items = [] then levels else ⟨r.branchStart, behind⟩ :: levels⟩

/-- The whole of a row that ends at a place. The branches of a choice are nested in it. -/
def close (r : Row) (behind : Nat) : Branch :=
  let last := r.branch behind
  if r.branches = [] then last
  else
    ⟨.oneOf ((last :: r.branches).reverse.map (·.form)),
      ⟨r.start, behind⟩ :: r.branches.foldl (fun levels b => b.levels.join levels) last.levels⟩

/-- The row with another branch, which begins behind a bar. -/
def addBranch (r : Row) (bar : Part) : Row :=
  { r with
    branches := r.branch bar.first :: r.branches
    branchStart := bar.behind
    items := [] }

end Row

/-- A group that has been begun, and the row in which it stands. -/
structure OpenGroup where
  opened : Part
  flags : Flags
  spaced : Bool
  /-- Its stretch is to be found. -/
  captures : Bool
  outer : Row

/-- What has been read. -/
structure Progress where
  flags : Flags := {}
  row : Row := {}
  groups : List OpenGroup := []
  /-- The names of groups, with the parts where they stand. -/
  names : List (List Char × Part) := []

/-- Adds an item to the row. -/
def Progress.add (p : Progress) (i : Item) : Progress :=
  { p with row.items := i :: p.row.items }

/-! ### Flags and groups -/

/-- The letters of flags, and the sign that turns off those behind it. -/
def flagSigns : List Char := ['i', 'm', 's', 'U', 'u', 'R', 'x', '-']

/-- Reads flags up to a colon or a closing parenthesis, from last to first, with their parts. -/
def readFlagSigns : (rounds : Nat) → List (Char × Part) → Cursor →
    Except ReadError (List (Char × Part) × Cursor)
  | 0, _, c => stopAt .flagOpen c.here
  | rounds + 1, read, c =>
    match c.peek with
    | none => stopAt .flagOpen c.here
    | some d =>
      if d = ':' ∨ d = ')' then
        match read with
        | ('-', part) :: _ => stopAt .flagDangling part
        | _ => .ok (read, c)
      else if d ∈ flagSigns then
        match read.lookup d with
        | some part =>
          .error (.fault (if d = '-' then .flagNegatedAgain else .flagRepeated) [part, c.sign])
        | none => readFlagSigns rounds ((d, c.sign) :: read) c.bump
      else stopAt .flagUnknown c.sign

/-- Turns a flag on or off. -/
def setFlag (on : Bool) (f : Flags) : Char → Flags
  | 'i' => { f with ignoreCase := on }
  | 'm' => { f with multiLine := on }
  | 's' => { f with dotAll := on }
  | 'u' => { f with unicode := on }
  | 'R' => { f with crlf := on }
  | _ => f

/-- Applies flags that are given from first to last: what they mean for signs, and whether blanks
count. -/
def applyFlags : (on : Bool) → List Char → Flags × Bool → Flags × Bool
  | _, [], s => s
  | on, d :: ds, (f, spaced) =>
    if d = '-' then applyFlags false ds (f, spaced)
    else applyFlags on ds (setFlag on f d, if d = 'x' then on else spaced)

/-- A character may begin the name of a group. -/
def beginsGroupName (d : Char) : Bool := d == '_' || Property.alphabetic.set.contains d

/-- A character may stand in the name of a group. -/
def continuesGroupName (d : Char) : Bool :=
  beginsGroupName d || CategoryGroup.number.set.contains d || d ∈ ['.', '[', ']']

/-- The characters in front that are a name of a group. -/
def groupName : List Char → List Char
  | [] => []
  | d :: ds => if beginsGroupName d then d :: ds.takeWhile continuesGroupName else []

/-- Reads the name of a group, from behind its opening bracket to behind the closing one. -/
def readGroupName (p : Progress) (c : Cursor) : Except ReadError (Progress × Cursor) :=
  let name := groupName c.rest
  let behind : Cursor :=
    { c with place := c.place + name.length, rest := c.rest.drop name.length }
  let part := behind.since c.place
  match behind.peek with
  | none => stopAt .groupNameOpen behind.here
  | some '>' =>
    if name = [] then stopAt .groupNameEmpty part
    else
      match p.names.lookup name with
      | some earlier => .error (.fault .groupNameRepeated [earlier, part])
      | none => .ok ({ p with names := (name, part) :: p.names }, behind.bump)
  | some _ => stopAt .groupNameCharacter behind.sign

/-- Begins a group. -/
def beginGroup (p : Progress) (opened : Part) (outer : Bool) (captures : Bool) (flags : Flags)
    (c : Cursor) : Progress × Cursor :=
  ({ p with
      flags
      row := .startingAt c.place
      groups := ⟨opened, p.flags, outer, captures, p.row⟩ :: p.groups }, c)

/-- The texts that would begin a look around. -/
def lookAroundStarts : List String := ["?=", "?!", "?<=", "?<!"]

/-- Reads an opening parenthesis and what belongs to it: a name, or flags for the group or for what
follows in it. -/
def readOpening (p : Progress) (c : Cursor) : Except ReadError (Progress × Cursor) :=
  let opened := c.sign
  let inside := c.bumpSkip
  let behind := fun (start : String) =>
    (afterStart? start.toList inside.rest).map fun rest =>
      ({ inside with place := inside.place + start.length, rest } : Cursor)
  match lookAroundStarts.findSome? behind with
  | some b => stopAt .lookAround ⟨opened.first, b.place⟩
  | none =>
    match (behind "?P<").or (behind "?<") with
    | some b => (readGroupName p b).map fun (p, b) => beginGroup p opened b.spaced true p.flags b
    | none =>
      match behind "?" with
      | none => .ok (beginGroup p opened inside.spaced true p.flags inside)
      | some b =>
        if b.isDone then stopAt .groupOpen opened
        else do
          let (read, b) ← readFlagSigns (b.rest.length + 1) [] b
          let (flags, spaced) := applyFlags true (read.reverse.map Prod.fst) (p.flags, b.spaced)
          let next := { b.bump with spaced }
          if b.peek = some ')' then
            if read = [] then stopAt .repetitionOfNothing inside.here
            else .ok ({ p with flags }.add ⟨⟨.empty, []⟩, opened.first, false⟩, next)
          else .ok (beginGroup p opened b.spaced false flags next)

/-- Reads a closing parenthesis. -/
def readClosing (p : Progress) (c : Cursor) : Except ReadError (Progress × Cursor) :=
  match p.groups with
  | [] => stopAt .groupUnopened c.sign
  | g :: groups =>
    let inner := p.row.close c.place
    let behind := { c.bump with spaced := g.spaced }
    let form := if g.captures then .group inner.form else inner.form
    let levels := behind.since g.opened.first :: inner.levels
    let p := { p with flags := g.flags, row := g.outer, groups }
    .ok (p.add ⟨⟨form, levels⟩, g.opened.first, true⟩, behind)

/-! ### Repetitions -/

/-- The cursor behind a sign for fewer rounds, if there is one. -/
def skipLazy (c : Cursor) : Cursor := if c.peek = some '?' then c.bump else c

/-- The item that a repetition follows, and the row without it. -/
def lastItem (p : Progress) (c : Cursor) : Except ReadError (Item × Progress) :=
  match p.row.items with
  | i :: items =>
    if i.repeatable then .ok (i, { p with row.items := items })
    else stopAt .repetitionOfNothing c.here
  | [] => stopAt .repetitionOfNothing c.here

/-- An item that is repeated, up to a place. -/
def Item.repeated (i : Item) (least : Nat) (more : Option Nat) (behind : Nat) : Item :=
  { i with
    form := .ofCount least more i.form
    levels := ⟨i.first, behind⟩ :: i.levels }

/-- Reads a sign for a repetition. -/
def readRepetition (p : Progress) (c : Cursor) (least : Nat) (more : Option Nat) :
    Except ReadError (Progress × Cursor) := do
  let (i, p) ← lastItem p c
  let behind := skipLazy c.bump
  .ok (p.add (i.repeated least more behind.place), behind)

/-- The largest count is below this bound. -/
def countBound : Nat := wordBound

/-- Reads a count. Blanks around it do not matter. -/
def readCount (c : Cursor) : Except ReadError Nat × Cursor :=
  let blanks := (c.rest.takeWhile isBlank).length
  let start : Cursor := { c with place := c.place + blanks, rest := c.rest.drop blanks }
  let (ds, behind) := start.takeSigns Char.isDigit
  let part := behind.since start.place
  let count : Except ReadError Nat :=
    if ds = [] then stopAt .countMissing part
    else
      match readDigits 10 countBound 0 ds with
      | .ok n => .ok n
      | .error _ => stopAt .numberTooLarge part
  (count, (behind.takeSigns isBlank).2)

/-- Reads a repetition with counts in braces. -/
def readCounted (p : Progress) (c : Cursor) : Except ReadError (Progress × Cursor) := do
  let (i, p) ← lastItem p c
  let orOpen := fun (b : Cursor) =>
    if b.isDone then stopAt .countOpen (b.since c.place) else .ok b
  let b ← orOpen c.bumpSkip
  let (least, b) := readCount b
  let b ← orOpen b
  let (least, more, b) ←
    if b.peek = some ',' then do
      let b ← orOpen b.bumpSkip
      if b.peek = some '\x7d' then .ok (← least, none, b)
      else do
        let least ← least
        let (most, b) := readCount b
        .ok (least, some (← most), b)
    else do
      let least ← least
      .ok (least, some least, b)
  if b.peek ≠ some '\x7d' then stopAt .countOpen (b.since c.place)
  else
    let b := skipLazy b.bumpSkip
    if more.any (· < least) then stopAt .countRange (b.since c.place)
    else .ok (p.add (i.repeated least (more.map (· - least)) b.place), b)

/-! ### Whole patterns -/

/-- The form of a sign. -/
def Sign.toForm (f : Flags) : Sign → Form
  | .literal c _ => .ofSet (f.fold (.single c.toNat))
  | .set s => .ofSet s
  | .edge e => .edge e

/-- Reads a sign of its own. -/
def readSingle (f : Flags) (c : Cursor) (d : Char) : Except ReadError (Branch × Cursor) :=
  match d with
  | '[' => (readClass f c).map fun (piece, b) => (⟨.ofSet piece.set, piece.levels⟩, b)
  | '.' => .ok (⟨.ofSet f.anySet, []⟩, f.checkUnicode c.sign c.bump)
  | '^' => .ok (⟨.edge f.startEdge, []⟩, c.bump)
  | '$' => .ok (⟨.edge f.endEdge, []⟩, c.bump)
  | d => do
    let (sign, b) ← if d = '\\' then readEscape f c else .ok (.literal d false, c.bump)
    let b := match sign with
      | .literal d isByte => f.checkByte d isByte (b.since c.place) b
      | .set _ | .edge _ => b
    .ok (⟨sign.toForm f, []⟩, b)

/-- Reads the next sign. -/
def readSign (p : Progress) (c : Cursor) (d : Char) : Except ReadError (Progress × Cursor) :=
  match d with
  | '(' => readOpening p c
  | ')' => readClosing p c
  | '|' => .ok ({ p with row := p.row.addBranch c.sign }, c.bump)
  | '?' => readRepetition p c 0 (some 1)
  | '*' => readRepetition p c 0 none
  | '+' => readRepetition p c 1 none
  | '\x7b' => readCounted p c
  | d => do
    let (branch, b) ← readSingle p.flags c d
    .ok (p.add ⟨branch, c.place, true⟩, b)

/-- Ends the reading at the end of the text. -/
def finish (p : Progress) (c : Cursor) : Except ReadError Branch :=
  match p.groups with
  | g :: _ => stopAt .groupOpen g.opened
  | [] =>
    let whole := p.row.close c.place
    match whole.levels.tooDeep?.or c.refused with
    | some e => .error e
    | none => .ok whole

/-- Reads signs up to the end. Every round reads a character at least, so as many rounds suffice as
there are characters. -/
def readSigns : (rounds : Nat) → Progress → Cursor → Except ReadError Branch
  | 0, p, c => finish p c
  | rounds + 1, p, c =>
    let c := c.skip
    match c.peek with
    | none => finish p c
    | some d => do
      let (p, b) ← readSign p c d
      readSigns rounds p b

/-- Reads the text of a pattern. -/
def ofText (text : List Char) : Except ReadError Pattern := do
  let whole ← readSigns (text.length + 1) {} ⟨0, text, false, none⟩
  if whole.form.fits then .ok whole.form.pattern else .error .tooLarge

end PortRoster.Text.Pattern
