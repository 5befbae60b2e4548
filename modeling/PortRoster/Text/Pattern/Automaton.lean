import PortRoster.Text.ByteRow
import PortRoster.Text.Pattern.Fault
import PortRoster.Text.Pattern.Form

/-! # Automata of patterns

A pattern is refused if an automaton for it would be too large. There are two automata, which read
the bytes of a text forward and backward. An automaton has states with links between them: a state
for every byte of a literal, states for the ways to write the characters of a set, and states where
ways part and meet again. -/

namespace PortRoster.Text.Pattern

/-- The direction in which an automaton reads a text. -/
inductive Direction where
  | forward
  | backward
  deriving DecidableEq, Repr

/-- The bytes that a state takes. -/
def stateSize : Nat := 32

/-- The bytes that a link takes at a state where ways part. -/
def linkSize : Nat := 4

/-- The bytes that a link takes if it is for a run of bytes. -/
def runSize : Nat := 8

/-- The bytes that a state with two ways takes. -/
def forkSize : Nat := stateSize + 2 * linkSize

/-- All bytes together. -/
def total (sizes : List Nat) : Nat := sizes.foldr (· + ·) 0

/-! ### Sets -/

/-- Rows in groups that begin with the same run. -/
def byFirstRun (rows : List ByteRow) : List (List ByteRow) :=
  rows.splitBy fun a b => a.head? == b.head?

/-- What remains of rows behind their first runs, for every first run, and again for what remains.
Rows have so many runs at most. -/
def remainders : (longest : Nat) → List ByteRow → List (List ByteRow)
  | 0, _ => []
  | n + 1, rows =>
    rows :: (byFirstRun rows).flatMap fun group =>
      let tails := group.map List.tail
      if tails.contains [] then [] else remainders n tails

/-- The number of runs that two rows have in common at their beginnings. -/
def commonRuns : ByteRow → ByteRow → Nat
  | r :: a, s :: b => if r = s then commonRuns a b + 1 else 0
  | _, _ => 0

/-- The bytes that the characters of a set take. Read forward, rows share states for what remains of
them, and read backward, for what they begin with. -/
def setSize (s : CharSet) : Direction → Nat
  | d =>
    if s.runs.all (·.2 < 0x80) then 2 * stateSize + runSize * s.runs.length
    else
      let rows := s.byteRows
      match d with
      | .forward =>
        let sizes := (remainders 4 rows).eraseDups.map fun rest =>
          stateSize + runSize * (byFirstRun rest).length
        stateSize + total sizes
      | .backward =>
        let shared := total (List.zipWith commonRuns rows rows.tail)
        let runs := total (rows.map List.length)
        2 * stateSize + linkSize * rows.length + stateSize * (runs - shared)

/-! ### Choices between literals -/

/-- The bytes of characters as they are read. -/
def bytesRead (cs : List Char) : Direction → List UInt8
  | .forward => (String.ofList cs).toUTF8.toList
  | .backward => (String.ofList cs).toUTF8.toList.reverse

/-- Literals up to each one that ends here, and those behind the last of these. -/
def cutAtEnds : List (List UInt8) → List (List (List UInt8))
  | [] => [[]]
  | [] :: ls => [] :: cutAtEnds ls
  | (b :: l) :: ls =>
    match cutAtEnds ls with
    | [] => [[b :: l]]
    | part :: parts => ((b :: l) :: part) :: parts

/-- The bytes that a choice between literals takes. Literals share states for what they begin with,
as far as none that stands between them ends there. They have so many bytes at most. -/
def literalsSize : (longest : Nat) → List (List UInt8) → Nat
  | 0, _ => 0
  | n + 1, ls =>
    let parts := cutAtEnds (ls.dropWhile (· = []))
    let ends := parts.length - 1 + if ls.head? = some [] then 1 else 0
    let sizes := parts.map fun part =>
      let firsts := (part.filterMap List.head?).eraseDups
      let ways := if firsts.length ≤ 1 then stateSize * firsts.length
        else stateSize + runSize * firsts.length
      let next := firsts.map fun b =>
        literalsSize n ((part.filter fun l => l.head? = some b).map List.tail)
      (if firsts = [] then 0 else linkSize) + ways + total next
    if ls.all (· = []) then 0 else stateSize + linkSize * ends + total sizes

/-! ### Whole patterns -/

/-- The bytes that a repetition takes, by the bytes of one round. -/
def repeatedSize (least : Nat) (more : Option Nat) (moves : Bool) (size : Nat) : Nat :=
  match least, more with
  | 0, some 1 => size + forkSize + stateSize
  | 0, none => if moves then size + forkSize else size + 2 * forkSize + stateSize
  | n, none => n * size + forkSize
  | n, some 0 => n * size
  | n, some m =>
    (if n = 0 then stateSize else n * size) + m * (size + forkSize) + stateSize

namespace Form

/-- The characters of a literal. -/
def chars? : Form → Option (List Char)
  | literal cs => some cs
  | _ => none

/-- The bytes that the ends of a group take. They are not looked for backward. -/
def groupSize : Direction → Nat
  | .forward => 2 * stateSize
  | .backward => 0

mutual

/-- The bytes that the automaton of a form takes. -/
def size (d : Direction) : Form → Nat
  | empty => stateSize
  | literal cs => stateSize * (bytesRead cs d).length
  | set s => setSize s d
  | edge _ => stateSize
  | repeated least more f => repeatedSize least more f.pattern.moves (f.size d)
  | group f => f.size d + groupSize d
  | row fs => rowSize d fs
  | choice fs =>
    match fs.mapM chars? with
    | some ls =>
      let ls := ls.map (bytesRead · d)
      stateSize + literalsSize (total (ls.map List.length) + 1) ls
    | none => rowSize d fs + 2 * stateSize + linkSize * fs.length

/-- The bytes that the automata of some forms take. -/
def rowSize (d : Direction) : List Form → Nat
  | [] => 0
  | f :: fs => f.size d + rowSize d fs

end

/-- The bytes of an automaton that looks for a pattern anywhere in a text: those of the whole as a
group, of the state at the end, and of the states that pass over what is in front. -/
def searchSize (d : Direction) (f : Form) : Nat :=
  (group f).size d + stateSize + (forkSize + 2 * stateSize + runSize)

/-- The automata are not too large. -/
def fits (f : Form) : Bool :=
  [Direction.forward, .backward].all fun d => f.searchSize d ≤ largestSize

end Form

end PortRoster.Text.Pattern
