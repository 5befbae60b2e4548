import PortRoster.Text.CharSet

/-! # Characters as rows of bytes

A character is written as one to four bytes: the first one has a mark for their number, and every
other one has six binary digits. The characters of a run are written by rows of runs of bytes, where
the bytes of a row may be chosen independently of one another. -/

namespace PortRoster.Text

/-- Runs of bytes, one for each byte of a character. -/
abbrev ByteRow := List Run

/-- The mark of a byte that is not the first one of its character. -/
def furtherMark : Nat := 0x80

/-- Rows behind a first byte. -/
def behindLead (lead : Nat) (rows : List ByteRow) : List ByteRow := rows.map ((lead, lead) :: ·)

/-- The row for all numbers that begin as those of a run, with so many other bytes. -/
def wholeRow (others lead lead' : Nat) : ByteRow :=
  (lead, lead') :: List.replicate others (furtherMark, furtherMark + 63)

/-- The rows for the numbers of a run, written as a first byte with a mark and so many others. The
numbers that begin as the first one are apart if not all of them belong to the run, and likewise
those that begin as the last one. -/
def byteRows : (others : Nat) → (mark : Nat) → Run → List ByteRow
  | 0, mark, (first, last) => [[(mark + first, mark + last)]]
  | n + 1, mark, (first, last) =>
    let unit := Nat.pow 64 (n + 1)
    let (a, head) := (first / unit, first % unit)
    let (b, tail) := (last / unit, last % unit)
    let rest := byteRows n furtherMark
    if head = 0 ∧ tail + 1 = unit then [wholeRow (n + 1) (mark + a) (mark + b)]
    else if a = b then behindLead (mark + a) (rest (head, tail))
    else
      let a' := if head = 0 then a else a + 1
      let b' := if tail + 1 = unit then b + 1 else b
      (if head = 0 then [] else behindLead (mark + a) (rest (head, unit - 1)))
        ++ (if a' < b' then [wholeRow (n + 1) (mark + a') (mark + b' - 1)] else [])
        ++ (if tail + 1 = unit then [] else behindLead (mark + b) (rest (0, tail)))

/-- Characters that are written with the same number of bytes: how many there are behind the first
one, the mark of that one, and the characters. -/
structure ByteLength where
  others : Nat
  mark : Nat
  chars : Run

/-- The lengths of characters. Code points between two of these runs are no characters. -/
def byteLengths : List ByteLength :=
  [⟨0, 0x00, (0x00, 0x7F)⟩, ⟨1, 0xC0, (0x80, 0x7FF)⟩, ⟨2, 0xE0, (0x800, 0xD7FF)⟩,
    ⟨2, 0xE0, (0xE000, 0xFFFF)⟩, ⟨3, 0xF0, (0x10000, 0x10FFFF)⟩]

/-- The rows for the characters of a run. -/
def byteRowsOfRun (r : Run) : List ByteRow :=
  byteLengths.flatMap fun l =>
    let common : Run := (max r.1 l.chars.1, min r.2 l.chars.2)
    if common.1 ≤ common.2 then byteRows l.others l.mark common else []

/-- The rows for the characters of a set, in ascending order. -/
def CharSet.byteRows (s : CharSet) : List ByteRow := s.runs.flatMap byteRowsOfRun

end PortRoster.Text
