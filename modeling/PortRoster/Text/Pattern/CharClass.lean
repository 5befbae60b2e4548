import PortRoster.Text.Pattern.Escape
import PortRoster.Text.Pattern.Nesting

/-! # Classes in brackets

A class in brackets lists characters, ranges and other classes. Lists may be combined by operators,
which are applied from left to right. A circumflex at the beginning stands for all other
characters. -/

namespace PortRoster.Text.Pattern

/-- A piece of a class: its characters, where it stands, and how deep it is nested. -/
structure Piece where
  set : CharSet
  part : Part
  levels : Levels := []

/-- The runs of the class that has a name between colons. -/
def namedRuns? (name : String) : Option (List Run) :=
  match name with
  | "alnum" => some [(0x30, 0x39), (0x41, 0x5A), (0x61, 0x7A)]
  | "alpha" => some [(0x41, 0x5A), (0x61, 0x7A)]
  | "ascii" => some [(0x00, 0x7F)]
  | "blank" => some [(0x09, 0x09), (0x20, 0x20)]
  | "cntrl" => some [(0x00, 0x1F), (0x7F, 0x7F)]
  | "digit" => some [(0x30, 0x39)]
  | "graph" => some [(0x21, 0x7E)]
  | "lower" => some [(0x61, 0x7A)]
  | "print" => some [(0x20, 0x7E)]
  | "punct" => some [(0x21, 0x2F), (0x3A, 0x40), (0x5B, 0x60), (0x7B, 0x7E)]
  | "space" => some [(0x09, 0x0D), (0x20, 0x20)]
  | "upper" => some [(0x41, 0x5A)]
  | "word" => some [(0x30, 0x39), (0x41, 0x5A), (0x5F, 0x5F), (0x61, 0x7A)]
  | "xdigit" => some [(0x30, 0x39), (0x41, 0x46), (0x61, 0x66)]
  | _ => none

/-- Reads a class that is named between colons, if there is one. -/
def readNamedClass? (f : Flags) (c : Cursor) : Option (Piece × Cursor) :=
  match c.rest with
  | '[' :: ':' :: cs =>
    let (negated, cs) := match cs with
      | '^' :: cs => (true, cs)
      | cs => (false, cs)
    match cs.dropWhile (· != ':') with
    | ':' :: ']' :: rest =>
      let behind := { c with place := c.place + (c.rest.length - rest.length), rest }
      let part := behind.since c.place
      (namedRuns? (String.ofList (cs.takeWhile (· != ':')))).map fun runs =>
        (⟨(f.fold (.ofRuns runs)).complementIf negated, part, []⟩,
          if negated then f.checkUnicode part behind else behind)
    | _ => none
  | _ => none

/-- An operator between lists of characters. -/
inductive SetOperator where
  | intersection
  | difference
  | symmetricDifference
  deriving DecidableEq, Repr

namespace SetOperator

/-- The sign of an operator, which is written twice. -/
def sign : SetOperator → Char
  | intersection => '&'
  | difference => '-'
  | symmetricDifference => '~'

/-- All operators. -/
def all : List SetOperator := [intersection, difference, symmetricDifference]

/-- The operator that comes next, if there is one. -/
def next? (c : Cursor) : Option SetOperator :=
  all.find? fun o => startsWith [o.sign, o.sign] c.rest

/-- The characters that an operator takes from two sets. -/
def apply : SetOperator → CharSet → CharSet → CharSet
  | intersection => CharSet.inter
  | difference => CharSet.diff
  | symmetricDifference => CharSet.symmDiff

end SetOperator

/-- A class that has been begun. -/
structure OpenClass where
  /-- The opening bracket and what belongs to it. -/
  opened : Part
  negated : Bool
  /-- The operator in front of the list, with what stands on its left. -/
  pending : Option (SetOperator × Piece)
  /-- How many pieces the list has so far. -/
  count : Nat
  /-- The pieces of the list as one. -/
  listed : Piece

namespace OpenClass

/-- The class with another piece in its list. -/
def add (o : OpenClass) (p : Piece) : OpenClass :=
  { o with
    count := o.count + 1
    listed :=
      if o.count = 0 then p
      else
        ⟨o.listed.set.union p.set, ⟨o.listed.part.first, p.part.behind⟩,
          o.listed.levels.join p.levels⟩ }

/-- The list as a piece. The pieces of a longer list are nested in it. -/
def list (o : OpenClass) : Piece :=
  if 2 ≤ o.count then { o.listed with levels := o.listed.part :: o.listed.levels } else o.listed

/-- All lists so far as one piece. -/
def combine (f : Flags) (o : OpenClass) : Piece :=
  match o.pending with
  | some (operator, left) =>
    let right := o.list
    let part := ⟨left.part.first, right.part.behind⟩
    ⟨operator.apply (f.fold left.set) (f.fold right.set), part,
      part :: left.levels.join right.levels⟩
  | none => o.list

/-- The class with an operator behind its lists, and an empty list behind that. -/
def addOperator (f : Flags) (o : OpenClass) (operator : SetOperator) (place : Nat) : OpenClass :=
  { o with
    pending := some (operator, o.combine f)
    count := 0
    listed := ⟨.empty, ⟨place, place⟩, []⟩ }

/-- The class as a piece, and the cursor behind its closing bracket. -/
def close (f : Flags) (o : OpenClass) (c : Cursor) : Piece × Cursor :=
  let behind := c.bump
  let part := behind.since o.opened.first
  let inner := o.combine f
  (⟨(f.fold inner.set).complementIf o.negated, part, part :: inner.levels⟩,
    if o.negated then f.checkUnicode part behind else behind)

end OpenClass

/-- The piece of one character. -/
def pieceOfChar (d : Char) (part : Part) : Piece := ⟨.single d.toNat, part, []⟩

/-- Reads dashes at the beginning of a list, which stand for themselves. -/
def readDashes (start : Nat) : (rounds : Nat) → OpenClass → Cursor →
    Except ReadError (OpenClass × Cursor)
  | 0, o, c => .ok (o, c)
  | rounds + 1, o, c =>
    if c.peek = some '-' then
      if c.bumpSkip.isDone then stopAt .classOpen ⟨start, start⟩
      else readDashes start rounds (o.add (pieceOfChar '-' c.sign)) c.bumpSkip
    else .ok (o, c)

/-- Reads the beginning of a class. A closing bracket that stands first is part of the list. -/
def openClass (c : Cursor) : Except ReadError (OpenClass × Cursor) := do
  let start := c.place
  let orOpen := fun (c : Cursor) =>
    if c.isDone then stopAt .classOpen (c.since start) else .ok c
  let c ← orOpen c.bumpSkip
  let negated := c.peek = some '^'
  let c ← if negated then orOpen c.bumpSkip else .ok c
  let (o, c) ← readDashes start c.rest.length ⟨c.here, negated, none, 0, ⟨.empty, c.here, []⟩⟩ c
  let bracket := o.count = 0 ∧ c.peek = some ']'
  let o := if bracket then o.add (pieceOfChar ']' c.sign) else o
  let c ← if bracket then orOpen c.bumpSkip else .ok c
  .ok ({ o with opened := c.since start }, c)

/-- Reads one sign in a class, and the part that it takes. -/
def readClassSign (f : Flags) (c : Cursor) : Except ReadError (Sign × Part × Cursor) :=
  match c.peek with
  | none => stopAt .classOpen c.here
  | some '\\' => (readEscape f c).map fun (s, behind) => (s, behind.since c.place, behind)
  | some d => .ok (.literal d false, c.sign, c.bump)

/-- The cursor behind a character of a class. Where sets are restricted to ASCII, it has to belong
to it. -/
def Flags.checkMember (f : Flags) (d : Char) (isByte : Bool) (part : Part) (c : Cursor) : Cursor :=
  if f.unicode || d.toNat < 0x80 then c
  else c.refuse (if isByte then .beyondAscii else .unicodeForbidden) part

/-- The piece that a sign stands for in a list. -/
def Sign.toPiece (f : Flags) (s : Sign) (part : Part) (c : Cursor) :
    Except ReadError (Piece × Cursor) :=
  match s with
  | .literal d isByte => .ok (pieceOfChar d part, f.checkMember d isByte part c)
  | .set s => .ok (⟨s, part, []⟩, c)
  | .edge _ => stopAt .classEscape part

/-- The character that a sign stands for at an end of a range. -/
def Sign.toLiteral (s : Sign) (part : Part) : Except ReadError (Char × Bool) :=
  match s with
  | .literal d isByte => .ok (d, isByte)
  | .set _ | .edge _ => stopAt .classRangeEnd part

/-- Reads a member of a list: a sign, or a range between two signs. -/
def readMember (f : Flags) (o : OpenClass) (c : Cursor) : Except ReadError (Piece × Cursor) := do
  let (first, firstPart, behind) ← readClassSign f c
  let behind := behind.skip
  let after := behind.peekBehind
  if behind.isDone then stopAt .classOpen o.opened
  else if behind.peek ≠ some '-' ∨ after = some ']' ∨ after = some '-' then
    first.toPiece f firstPart behind
  else if behind.bumpSkip.isDone then stopAt .classOpen o.opened
  else
    let (last, lastPart, behind) ← readClassSign f behind.bumpSkip
    let (a, aIsByte) ← first.toLiteral firstPart
    let (b, bIsByte) ← last.toLiteral lastPart
    let part := ⟨firstPart.first, lastPart.behind⟩
    if a ≤ b then
      let behind := f.checkMember b bIsByte lastPart (f.checkMember a aIsByte firstPart behind)
      .ok (⟨.ofRun (a.toNat, b.toNat), part, []⟩, behind)
    else stopAt .classRange part

/-- Reads lists up to the end of the outermost class. Every round reads a character at least, so as
many rounds suffice as there are characters. -/
def readLists (f : Flags) :
    (rounds : Nat) → OpenClass → List OpenClass → Cursor → Except ReadError (Piece × Cursor)
  | 0, o, _, _ => stopAt .classOpen o.opened
  | rounds + 1, o, outer, c => do
    let c := c.skip
    match c.peek with
    | none => stopAt .classOpen o.opened
    | some ']' =>
      let (piece, behind) := o.close f c
      match outer with
      | [] => .ok (piece, behind)
      | o' :: outer => readLists f rounds (o'.add piece) outer behind
    | some '[' =>
      match readNamedClass? f c with
      | some (piece, behind) => readLists f rounds (o.add piece) outer behind
      | none =>
        let (inner, behind) ← openClass c
        readLists f rounds inner (o :: outer) behind
    | some _ =>
      match SetOperator.next? c with
      | some operator =>
        let behind := c.bump.bump
        readLists f rounds (o.addOperator f operator behind.place) outer behind
      | none =>
        let (piece, behind) ← readMember f o c
        readLists f rounds (o.add piece) outer behind

/-- Reads a class in brackets. -/
def readClass (f : Flags) (c : Cursor) : Except ReadError (Piece × Cursor) := do
  let (o, behind) ← openClass c
  readLists f (behind.rest.length + 1) o [] behind

end PortRoster.Text.Pattern
