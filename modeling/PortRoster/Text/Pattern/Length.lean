import PortRoster.Text.Pattern.Basic

/-! # How long stretches are

Bounds on the number of characters in the stretches of a text that a pattern covers. -/

namespace PortRoster.Text.Pattern

/-- The fewest characters of a stretch. Nothing is said about a pattern that has a part of which
there are no stretches. -/
def fewest : Pattern → Option Nat
  | empty => some 0
  | one set => if set = .empty then none else some 1
  | edge _ => some 0
  | seq p q => (fewest p).bind fun m => (fewest q).map fun n => m + n
  | alt p q => (fewest p).bind fun m => (fewest q).map fun n => min m n
  | repeated least _ p => (fewest p).map fun n => least * n

/-- All stretches are without characters. -/
def isVoid : Pattern → Bool
  | empty => true
  | one _ => false
  | edge _ => true
  | seq p q => isVoid p && isVoid q
  | alt p q => isVoid p && isVoid q
  | repeated _ _ p => isVoid p

/-- All stretches have characters. -/
def moves (p : Pattern) : Bool := p.fewest.any (0 < ·)

end PortRoster.Text.Pattern
