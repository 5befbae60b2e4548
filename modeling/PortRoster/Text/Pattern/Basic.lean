import PortRoster.Text.Pattern.Edge

/-! # Patterns

A pattern describes stretches of a text: single characters of a class, places between characters,
and what is made of these by sequence, choice and repetition. A place of a text is the number of
characters in front of it.

Whether a pattern occurs in a text is found out with *marks*, one for every place of the text. A
pattern carries marks from the places where a stretch may begin to those where it may end, for all
places at once. -/

namespace PortRoster.Text

/-- A description of stretches of a text. -/
inductive Pattern where
  /-- Nothing, at any place. -/
  | empty
  /-- One character of a set. -/
  | one (set : CharSet)
  /-- Nothing, at an edge. -/
  | edge (e : Pattern.Edge)
  | seq (p q : Pattern)
  | alt (p q : Pattern)
  /-- A number of stretches in a row: so many, and some more up to a limit if there is one. -/
  | repeated (least : Nat) (more : Option Nat) (p : Pattern)

namespace Pattern

/-- The characters around every place of a text, given the one in front of it. -/
def around (before : Option Char) : List Char → List (Option Char × Option Char)
  | [] => [(before, none)]
  | c :: cs => (before, some c) :: around (some c) cs

/-! ### Marks -/

/-- Applies a function so many times, or until it changes nothing. -/
def times (f : List Bool → List Bool) : Nat → List Bool → List Bool
  | 0, marks => marks
  | n + 1, marks =>
    let next := f marks
    if next = marks then marks else times f n next

/-- Adds marks so many times, or until there are no new ones. -/
def spread (f : List Bool → List Bool) : Nat → List Bool → List Bool
  | 0, marks => marks
  | n + 1, marks =>
    let more := List.zipWith or marks (f marks)
    if more = marks then marks else spread f n more

/-- Carries marks over a pattern. A repetition without a limit needs no more rounds than the text
has characters, since a round that does not move a mark can be left out. -/
def advance (text : List Char) : Pattern → List Bool → List Bool
  | empty, marks => marks
  | one set, marks => false :: List.zipWith (fun c b => b && set.contains c) text marks
  | edge e, marks => List.zipWith (fun p b => b && e.holds p.1 p.2) (around none text) marks
  | seq p q, marks => advance text q (advance text p marks)
  | alt p q, marks => List.zipWith or (advance text p marks) (advance text q marks)
  | repeated least more p, marks =>
    spread (advance text p) (more.getD text.length) (times (advance text p) least marks)

/-- The pattern covers a stretch of the text. -/
def occursIn (p : Pattern) (text : List Char) : Bool :=
  (advance text p (List.replicate (text.length + 1) true)).contains true

end Pattern

end PortRoster.Text
