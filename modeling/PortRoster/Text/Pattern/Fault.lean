import PortRoster.Text.Cut

/-! # Faults of patterns

What can be wrong with the text of a pattern, and how it is shown: the text, marks under the
characters at fault, and the reason. A text of several lines is shown with the numbers of its lines,
and a part that reaches over several lines is named by its ends. -/

namespace PortRoster.Text.Pattern

/-- So deep may signs be nested. -/
def deepest : Nat := 250

/-- What is wrong with the text of a pattern. -/
inductive Fault where
  | classEscape
  | classRange
  | classRangeEnd
  | classOpen
  | numberTooLarge
  | countMissing
  | countOpen
  | countRange
  | hexadecimalEmpty
  | hexadecimalNoCharacter
  | hexadecimalDigit
  | escapeOpen
  | escapeUnknown
  | flagDangling
  | flagRepeated
  | flagNegatedAgain
  | flagOpen
  | flagUnknown
  | groupNameRepeated
  | groupNameEmpty
  | groupNameCharacter
  | groupNameOpen
  | groupOpen
  | groupUnopened
  | repetitionOfNothing
  | wordEdgeOpen
  | wordEdgeUnknown
  | wordEdgeOrCountOpen
  | propertyName
  | propertyUnknown
  | propertyValueUnknown
  | backreference
  | lookAround
  | unicodeForbidden
  | beyondAscii
  | tooDeep
  deriving DecidableEq, Repr

/-- The wording of a fault. -/
def Fault.message : Fault → String
  | classEscape => "invalid escape sequence found in character class"
  | classRange => "invalid character class range, the start must be <= the end"
  | classRangeEnd => "invalid range boundary, must be a literal"
  | classOpen => "unclosed character class"
  | numberTooLarge => "decimal literal invalid"
  | countMissing => "repetition quantifier expects a valid decimal"
  | countOpen => "unclosed counted repetition"
  | countRange => "invalid repetition count range, the start must be <= the end"
  | hexadecimalEmpty => "hexadecimal literal empty"
  | hexadecimalNoCharacter => "hexadecimal literal is not a Unicode scalar value"
  | hexadecimalDigit => "invalid hexadecimal digit"
  | escapeOpen => "incomplete escape sequence, reached end of pattern prematurely"
  | escapeUnknown => "unrecognized escape sequence"
  | flagDangling => "dangling flag negation operator"
  | flagRepeated => "duplicate flag"
  | flagNegatedAgain => "flag negation operator repeated"
  | flagOpen => "expected flag but got end of regex"
  | flagUnknown => "unrecognized flag"
  | groupNameRepeated => "duplicate capture group name"
  | groupNameEmpty => "empty capture group name"
  | groupNameCharacter => "invalid capture group character"
  | groupNameOpen => "unclosed capture group name"
  | groupOpen => "unclosed group"
  | groupUnopened => "unopened group"
  | repetitionOfNothing => "repetition operator missing expression"
  | wordEdgeOpen =>
    "special word boundary assertion is either unclosed or contains an invalid character"
  | wordEdgeUnknown =>
    "unrecognized special word boundary assertion, valid choices are: "
      ++ "start, end, start-half or end-half"
  | wordEdgeOrCountOpen =>
    "found either the beginning of a special word boundary or a bounded repetition "
      ++ "on a \\b with an opening brace, but no closing brace"
  | propertyName => "invalid Unicode character class"
  | propertyUnknown => "Unicode property not found"
  | propertyValueUnknown => "Unicode property value not found"
  | backreference => "backreferences are not supported"
  | lookAround => "look-around, including look-ahead and look-behind, is not supported"
  | unicodeForbidden => "Unicode not allowed here"
  | beyondAscii => "pattern can match invalid UTF-8"
  | tooDeep =>
    "exceed the maximum number of nested parentheses/brackets (" ++ toString deepest ++ ")"

/-- A part of the text of a pattern: the place of its first character, and the place behind its
last one. -/
structure Part where
  first : Nat
  behind : Nat
  deriving DecidableEq, Repr

/-- Why a text is not read as a pattern. -/
inductive ReadError where
  /-- There is a fault in the text, shown by parts of it from left to right. -/
  | fault (fault : Fault) (parts : List Part)
  /-- An automaton for the pattern would be too large. -/
  | tooLarge
  deriving DecidableEq, Repr

/-! ### Lines -/

/-- The line of a place, from zero on. -/
def lineOf (text : List Char) (place : Nat) : Nat := (text.take place).count '\n'

/-- The column of a place in its line, from zero on. -/
def columnOf (text : List Char) (place : Nat) : Nat :=
  ((text.take place).reverse.takeWhile (· != '\n')).length

/-- A line as it is shown. A carriage return belongs to the end of a line. -/
def shownLine (line : List Char) : List Char :=
  if line.getLast? = some '\r' then line.dropLast else line

/-- The lines of a text as they are shown. An empty one at the end is left out. -/
def shownLines (text : List Char) : List (List Char) :=
  let lines := cutAt '\n' text
  let last := (lines.getLast?.getD []) :: []
  lines.dropLast.map shownLine ++ last.filter (· ≠ [])

/-- Marks under parts of a line, from a column on. Every part has at least one. -/
def underline (column : Nat) : List Part → List Char
  | [] => []
  | p :: ps =>
    let size := max 1 (p.behind - p.first)
    List.replicate (p.first - column) ' ' ++ List.replicate size '^'
      ++ underline (max column p.first + size) ps

/-- The parts in a line, by their columns. -/
def partsInLine (text : List Char) (line : Nat) (parts : List Part) : List Part :=
  (parts.filter fun p => lineOf text p.first = line && lineOf text p.behind = line).map fun p =>
    ⟨columnOf text p.first, columnOf text p.behind⟩

/-- A text in a column of a width, with blanks in front. -/
def alignRight (width : Nat) (s : String) : String :=
  String.ofList (List.replicate (width - s.length) ' ') ++ s

/-- The lines of a text with what is in front of them, and marks under the parts. -/
def markedLines (text : List Char) (margin : Nat → String) (parts : List Part) : String :=
  let row := fun (line : List Char × Nat) =>
    let indent := margin (line.2 + 1)
    let marks := partsInLine text line.2 parts
    indent ++ String.ofList line.1 ++ "\n" ++
      if marks = [] then ""
      else
        String.ofList (List.replicate indent.length ' ' ++ underline 0 marks) ++ "\n"
  String.join ((shownLines text).zipIdx.map row)

/-- The ends of a part that reaches over several lines. -/
def spanNote (text : List Char) (p : Part) : String :=
  "on line " ++ toString (lineOf text p.first + 1) ++ " (column "
    ++ toString (columnOf text p.first + 1) ++ ") through line "
    ++ toString (lineOf text p.behind + 1) ++ " (column " ++ toString (columnOf text p.behind)
    ++ ")\n"

/-- The line above and below a text of several lines. -/
def divider : String := String.ofList (List.replicate 79 '~') ++ "\n"

/-- A text with marks under its parts. -/
def marked (text : List Char) (parts : List Part) : String :=
  if text.contains '\n' then
    let width := (toString (lineOf text text.length + 1)).length
    let long := parts.filter fun p => lineOf text p.first ≠ lineOf text p.behind
    divider ++ markedLines text (fun n => alignRight width (toString n) ++ ": ") parts ++ divider
      ++ String.join (long.map (spanNote text))
  else markedLines text (fun _ => "    ") parts

/-- The most bytes that an automaton may take. -/
def largestSize : Nat := 10 * 1024 * 1024

/-- The message about a text that is not read as a pattern. -/
def ReadError.message (pattern : String) : ReadError → String
  | fault f parts =>
    "regex parse error:\n" ++ marked pattern.toList parts ++ "error: " ++ f.message
  | tooLarge => "Compiled regex exceeds size limit of " ++ toString largestSize ++ " bytes."

end PortRoster.Text.Pattern
