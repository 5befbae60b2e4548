/-! # The natural order of labels

A label is cut into *pieces*: a longest run of decimal digits is one piece, every other character is
one piece. Labels compare piece by piece. Two runs of digits compare by the number they denote, and
runs of one number by their length, so that of `7` and `07` the shorter comes first; two other
characters compare by code point, and a run stands among them where its first digit does. A label
that is the beginning of another comes before it.

* `text_pieces`: the pieces of a label, put together, are the label. -/

namespace PortRoster.Text

/-- A longest run of digits, or one other character. -/
inductive Piece where
  | digits (run : List Char)
  | other (c : Char)
  deriving DecidableEq, Repr

namespace Piece

/-- The characters of a piece. -/
def text : Piece → List Char
  | digits run => run
  | other c => [c]

/-- The order of two runs of digits: by the length without leading zeros, then by the digits, then
by the whole length. The first two together compare the numbers. -/
def compareRuns (x y : List Char) : Ordering :=
  let x' := x.dropWhile (· == '0')
  let y' := y.dropWhile (· == '0')
  (compare x'.length y'.length).then <|
    (List.compareLex compare x' y').then (compare x.length y.length)

/-- The order of two pieces. -/
def order : Piece → Piece → Ordering
  | digits x, digits y => compareRuns x y
  | digits x, other d => compare (x.headD '0') d
  | other c, digits y => compare c (y.headD '0')
  | other c, other d => compare c d

end Piece

/-- The pieces of a text, from left to right. -/
def pieces : List Char → List Piece
  | [] => []
  | c :: cs =>
    if c.isDigit then .digits (c :: cs.takeWhile Char.isDigit) :: pieces (cs.dropWhile Char.isDigit)
    else .other c :: pieces cs
termination_by cs => cs.length
decreasing_by
  · exact Nat.lt_succ_of_le (List.dropWhile_sublist _).length_le
  · exact Nat.lt_succ_self _

theorem text_pieces (cs : List Char) : (pieces cs).flatMap Piece.text = cs := by
  fun_induction pieces cs with
  | case1 => rfl
  | case2 c cs h ih => simp [Piece.text, ih, List.takeWhile_append_dropWhile]
  | case3 c cs h ih => simp [Piece.text, ih]

/-- The natural order of two texts. -/
def naturalOrder (a b : String) : Ordering :=
  List.compareLex Piece.order (pieces a.toList) (pieces b.toList)

/-- The first text does not come after the second. -/
def naturalLe (a b : String) : Bool := (naturalOrder a b).isLE

end PortRoster.Text
