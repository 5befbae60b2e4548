import PortRoster.Document.Data
import PortRoster.Text.Numeral
import PortRoster.Text.Cut

/-! # Reading JSON

Every reader takes what it needs from the front of a text and returns what is left.

* `readCodes_cons`: a character that needs no escape stands for itself. -/

namespace PortRoster.Json

/-- The characters that may stand between the parts of a value. -/
def isGap (c : Char) : Bool := c == ' ' || c == '\n' || c == '\r' || c == '\t'

/-- The text without the gap at its front. -/
def skip (cs : List Char) : List Char := cs.dropWhile isGap

/-- The number written by four hexadecimal digits. -/
def hexQuad (a b c d : Char) : Option Nat := do
  let a ← Text.digitValue a
  let b ← Text.digitValue b
  let c ← Text.digitValue c
  let d ← Text.digitValue d
  some (((a * 16 + b) * 16 + c) * 16 + d)

/-- The code that a letter after a backslash stands for. -/
def escaped? (c : Char) : Option Nat :=
  if c = '"' ∨ c = '\\' ∨ c = '/' then some c.toNat
  else if c = 'b' then some 8
  else if c = 'f' then some 12
  else if c = 'n' then some 10
  else if c = 'r' then some 13
  else if c = 't' then some 9
  else none

/-- Reads a text up to its closing quote, as codes of 16 bits or more. -/
def readCodes : List Char → Option (List Nat × List Char)
  | [] => none
  | '"' :: cs => some ([], cs)
  | '\\' :: 'u' :: a :: b :: c :: d :: cs =>
    (hexQuad a b c d).bind fun n => (readCodes cs).map fun p => (n :: p.1, p.2)
  | '\\' :: c :: cs => (escaped? c).bind fun n => (readCodes cs).map fun p => (n :: p.1, p.2)
  | c :: cs =>
    if c = '\\' ∨ c.toNat < 32 then none
    else (readCodes cs).map fun p => (c.toNat :: p.1, p.2)

/-- The code is the first half of a character. -/
def isHigh (n : Nat) : Bool := 0xD800 ≤ n && n < 0xDC00

/-- The code is the second half of a character. -/
def isLow (n : Nat) : Bool := 0xDC00 ≤ n && n < 0xE000

/-- The characters of a list of codes. A half of a character may not stand alone. -/
def joinCodes : List Nat → Option (List Char)
  | [] => some []
  | [n] => if isHigh n || isLow n then none else some [Char.ofNat n]
  | n :: m :: ns =>
    if isHigh n then
      if isLow m then
        (joinCodes ns).map (Char.ofNat (0x10000 + (n - 0xD800) * 0x400 + (m - 0xDC00)) :: ·)
      else none
    else if isLow n then none
    else (joinCodes (m :: ns)).map (Char.ofNat n :: ·)

/-- Reads a text after its opening quote. -/
def readText (cs : List Char) : Option (String × List Char) := do
  let (ns, rest) ← readCodes cs
  let text ← joinCodes ns
  some (String.ofList text, rest)

/-- The digits at the front of a text, of which there has to be one. -/
def digits1 (cs : List Char) : Option (List Char × List Char) :=
  match cs.takeWhile Char.isDigit with
  | [] => none
  | ds => some (ds, cs.dropWhile Char.isDigit)

/-- Reads the whole part of a number, which has no zero in front unless it is all there is. -/
def readWhole : List Char → Option (List Char × List Char)
  | '0' :: cs => if (cs.head?.any Char.isDigit) then none else some (['0'], cs)
  | cs => digits1 cs

/-- Reads the fraction of a number, if there is one. -/
def readFraction : List Char → Option (List Char × List Char)
  | '.' :: cs => (digits1 cs).map fun (ds, rest) => ('.' :: ds, rest)
  | cs => some ([], cs)

/-- Reads the sign of an exponent, if there is one. -/
def readSign : List Char → List Char × List Char
  | '+' :: cs => (['+'], cs)
  | '-' :: cs => (['-'], cs)
  | cs => ([], cs)

/-- Reads the exponent of a number, if there is one. -/
def readExponent : List Char → Option (List Char × List Char)
  | c :: cs =>
    if c = 'e' ∨ c = 'E' then do
      let (sign, cs) := readSign cs
      let (ds, rest) ← digits1 cs
      some (c :: sign ++ ds, rest)
    else some ([], c :: cs)
  | [] => some ([], [])

/-- The number with a sign, whole part, fraction and exponent. It is whole when it has neither
fraction nor exponent and fits in 64 bits; a negative zero is not. -/
def numberOf (negative : Bool) (whole fraction exponent : List Char) : Data :=
  let n := whole.foldl (fun n c => n * 10 + (c.toNat - '0'.toNat)) 0
  let literal := (if negative then ['-'] else []) ++ whole ++ fraction ++ exponent
  if fraction = [] ∧ exponent = [] then
    if negative then
      if n ≠ 0 ∧ n ≤ Nat.pow 2 63 then .integer (-(n : Int)) else .real (String.ofList literal)
    else if n < Nat.pow 2 64 then .integer n else .real (String.ofList literal)
  else .real (String.ofList literal)

/-- Reads a number. -/
def readNumber (cs : List Char) : Option (Data × List Char) := do
  let (negative, cs) := match cs with
    | '-' :: rest => (true, rest)
    | cs => (false, cs)
  let (whole, cs) ← readWhole cs
  let (fraction, cs) ← readFraction cs
  let (exponent, cs) ← readExponent cs
  some (numberOf negative whole fraction exponent, cs)

/-- Reads a word, a number or a text. -/
def readAtom : List Char → Option (Data × List Char)
  | '"' :: cs => (readText cs).map fun (s, rest) => (.text s, rest)
  | 'n' :: cs => (Text.afterStart? "ull".toList cs).map (.null, ·)
  | 't' :: cs => (Text.afterStart? "rue".toList cs).map (.boolean true, ·)
  | 'f' :: cs => (Text.afterStart? "alse".toList cs).map (.boolean false, ·)
  | cs => readNumber cs

mutual

/-- Reads a value, with the gap in front of it. -/
def readValue : (fuel : Nat) → List Char → Option (Data × List Char)
  | 0, _ => none
  | fuel + 1, cs =>
    match skip cs with
    | '[' :: cs =>
      match skip cs with
      | ']' :: rest => some (.list [], rest)
      | cs => (readItems fuel cs).map fun (items, rest) => (.list items, rest)
    | '\x7b' :: cs =>
      match skip cs with
      | '\x7d' :: rest => some (.table [], rest)
      | cs => (readRows fuel cs).map fun (rows, rest) => (.table rows, rest)
    | cs => readAtom cs

/-- Reads the items of a list and its closing bracket. -/
def readItems : (fuel : Nat) → List Char → Option (List Data × List Char)
  | 0, _ => none
  | fuel + 1, cs => do
    let (d, rest) ← readValue fuel cs
    match skip rest with
    | ',' :: rest => (readItems fuel rest).map fun (items, rest) => (d :: items, rest)
    | ']' :: rest => some ([d], rest)
    | _ => none

/-- Reads the rows of a table and its closing brace. -/
def readRows : (fuel : Nat) → List Char → Option (List (String × Data) × List Char)
  | 0, _ => none
  | fuel + 1, cs =>
    match skip cs with
    | '"' :: cs => do
      let (name, rest) ← readText cs
      let rest ← Text.afterStart? [':'] (skip rest)
      let (d, rest) ← readValue fuel rest
      match skip rest with
      | ',' :: rest => (readRows fuel rest).map fun (rows, rest) => ((name, d) :: rows, rest)
      | '\x7d' :: rest => some ([(name, d)], rest)
      | _ => none
    | _ => none

end

/-- Reads a text that holds one value and nothing else. Every step of the reading takes a character
or is the first on its level, so twice the length of the text is enough fuel. -/
def read (s : String) : Option Data :=
  let cs := s.toList
  match readValue (2 * cs.length + 2) cs with
  | some (d, rest) => if skip rest = [] then some d else none
  | none => none

theorem readCodes_cons {c : Char} (h : 32 ≤ c.toNat) (hq : c ≠ '"') (hb : c ≠ '\\')
    (cs : List Char) :
    readCodes (c :: cs) = (readCodes cs).map fun p => (c.toNat :: p.1, p.2) := by
  rw [readCodes]
  · rw [if_neg]
    rintro (h' | h')
    · exact hb h'
    · omega
  all_goals intros; simp_all

end PortRoster.Json
