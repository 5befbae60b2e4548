import PortRoster.Document.Toml.Quoted
import PortRoster.Document.Data

/-! # Writing TOML

One section of a document: a header, and under it a row for each text or number. -/

namespace PortRoster.Toml

/-- A value that is written on one row. -/
inductive Scalar where
  | text (s : String)
  | number (n : Nat)
  deriving DecidableEq, Repr

namespace Scalar

/-- The value as it is written. -/
def write : Scalar → List Char
  | text s => quoted s.toList
  | number n => Text.decimal n

/-- The value as it is read. -/
def data : Scalar → Data
  | text s => .text s
  | number n => .integer n

end Scalar

/-- A row: the name, an equals sign between blanks, and the value. -/
def writeRow (name : String) (value : Scalar) : List Char :=
  name.toList ++ [' ', '=', ' '] ++ value.write ++ ['\n']

/-- A header with one name. -/
def writeHeader (name : String) : List Char := '[' :: name.toList ++ [']', '\n']

/-- A section of a document. -/
def writeSection (name : String) (rows : List (String × Scalar)) : List Char :=
  writeHeader name ++ rows.flatMap fun row => writeRow row.1 row.2

end PortRoster.Toml
