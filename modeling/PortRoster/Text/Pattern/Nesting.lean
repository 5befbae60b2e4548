import PortRoster.Text.Pattern.Fault

/-! # Nesting

How deep the signs of a pattern are nested in one another. For every depth the first part at that
depth is kept, so that it can be shown where the nesting goes too deep. -/

namespace PortRoster.Text.Pattern

/-- The first part at every depth, from the outermost depth on. -/
abbrev Levels := List Part

namespace Levels

/-- The levels of what stands side by side. -/
def join : Levels → Levels → Levels
  | [], qs => qs
  | ps, [] => ps
  | p :: ps, _ :: qs => p :: join ps qs

/-- The fault that the nesting is too deep, shown at the first part that is. -/
def tooDeep? (levels : Levels) : Option ReadError :=
  levels[deepest]?.map fun part => .fault .tooDeep [part]

end Levels

end PortRoster.Text.Pattern
