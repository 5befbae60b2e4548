import PortRoster.Document.Data
import PortRoster.Text.Numeral

/-! # Writing JSON

A value is written on one line, or with every item and row on a line of its own, set in by two
blanks for each level. -/

namespace PortRoster.Json

/-- A digit of a hexadecimal escape, letters in small. -/
def smallHex (d : Nat) : Char :=
  if d < 10 then Char.ofNat ('0'.toNat + d) else Char.ofNat ('a'.toNat + (d - 10))

/-- A character between quotes. Quotes, backslashes and the characters below the blank are escaped,
and no others. -/
def escape (c : Char) : List Char :=
  if c = '"' then ['\\', '"']
  else if c = '\\' then ['\\', '\\']
  else if c = '\n' then ['\\', 'n']
  else if c = '\r' then ['\\', 'r']
  else if c = '\t' then ['\\', 't']
  else if c = '\x08' then ['\\', 'b']
  else if c = '\x0c' then ['\\', 'f']
  else if c.toNat < 32 then ['\\', 'u', '0', '0', smallHex (c.toNat / 16), smallHex (c.toNat % 16)]
  else [c]

/-- A text in quotes. -/
def quoted (cs : List Char) : List Char := '"' :: cs.flatMap escape ++ ['"']

/-- How the parts of a value are set apart. -/
structure Layout where
  /-- What stands between parts on a level. -/
  gap : Nat → List Char
  /-- What stands between a name and its value. -/
  colon : List Char

/-- Everything on one line. -/
def Layout.line : Layout := ⟨fun _ => [], [':']⟩

/-- Every part on a line of its own, set in by two blanks for each level. -/
def Layout.pretty : Layout := ⟨fun level => '\n' :: List.replicate (2 * level) ' ', [':', ' ']⟩

/-- The parts of a list or table between its brackets. -/
def bracketed (layout : Layout) (level : Nat) (first last : Char) (parts : List (List Char)) :
    List Char :=
  match parts with
  | [] => [first, last]
  | parts =>
    first :: (layout.gap (level + 1)
      ++ (',' :: layout.gap (level + 1)).intercalate parts ++ layout.gap level ++ [last])

/-- The text of a whole number. -/
def integer (n : Int) : List Char :=
  if n < 0 then '-' :: Text.decimal n.natAbs else Text.decimal n.natAbs

mutual

/-- The text of a value on a level. -/
def write (layout : Layout) (level : Nat) : Data → List Char
  | .null => "null".toList
  | .boolean b => (if b then "true" else "false").toList
  | .integer n => integer n
  | .real literal => literal.toList
  | .moment literal => quoted literal.toList
  | .text s => quoted s.toList
  | .list items => bracketed layout level '[' ']' (writeItems layout (level + 1) items)
  | .table rows => bracketed layout level '\x7b' '\x7d' (writeRows layout (level + 1) rows)

/-- The texts of the items of a list. -/
def writeItems (layout : Layout) (level : Nat) : List Data → List (List Char)
  | [] => []
  | d :: items => write layout level d :: writeItems layout level items

/-- The texts of the rows of a table. -/
def writeRows (layout : Layout) (level : Nat) : List (String × Data) → List (List Char)
  | [] => []
  | (name, d) :: rows =>
    (quoted name.toList ++ layout.colon ++ write layout level d) :: writeRows layout level rows

end

/-- The text of a value on one line. -/
def line (d : Data) : String := String.ofList (write .line 0 d)

/-- The text of a value with every part on a line of its own. -/
def pretty (d : Data) : String := String.ofList (write .pretty 0 d)

end PortRoster.Json
