import PortRoster.Text.Hidden
import PortRoster.Text.Numeral

/-! # Texts made visible

A text in double quotes in which every character can be seen: hidden characters are written by their
numbers. -/

namespace PortRoster.Text

/-- The hexadecimal digits of a number, letters in small. -/
def smallHexadecimal (n : Nat) : List Char := Nat.toDigits 16 n

/-- A character as it is seen between double quotes. -/
def visible (c : Char) : List Char :=
  if c = '\x00' then ['\\', '0']
  else if c = '\t' then ['\\', 't']
  else if c = '\r' then ['\\', 'r']
  else if c = '\n' then ['\\', 'n']
  else if c = '\\' then ['\\', '\\']
  else if c = '"' then ['\\', '"']
  else if isHidden c then ['\\', 'u', '\x7b'] ++ smallHexadecimal c.toNat ++ ['\x7d']
  else [c]

/-- A text in double quotes with every character visible. -/
def inQuotes (s : String) : String := String.ofList ('"' :: s.toList.flatMap visible ++ ['"'])

end PortRoster.Text
