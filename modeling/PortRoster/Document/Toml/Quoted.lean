import PortRoster.Text.Numeral

/-! # Quoted texts of TOML

A text stands between quotes in one of four ways. A *basic* text is written with escapes between
double quotes, a *literal* text as it is between apostrophes. With three quotes on either side a
text is *long* and may hold line ends.

Writing takes the first of these that shows the text best: a basic text without escapes, a literal
text, a long basic text without escapes, a long literal text, and at last a text with escapes. -/

namespace PortRoster.Toml

/-- A control character, other than tab and line feed. -/
def isControl (c : Char) : Bool :=
  (c.toNat < 32 && c != '\t' && c != '\n') || c.toNat == 127

/-- A text read from the front, and what is left. -/
abbrev Taken := Option (List Char × List Char)

/-- Puts characters in front of a text that has been read. -/
def Taken.put (cs : List Char) (t : Taken) : Taken := t.map fun p => (cs ++ p.1, p.2)

/-! ### Escapes -/

/-- The character that a letter after a backslash stands for. -/
def escaped? (c : Char) : Option Char :=
  if c = '"' ∨ c = '\\' then some c
  else if c = 'b' then some '\x08'
  else if c = 'f' then some '\x0c'
  else if c = 'n' then some '\n'
  else if c = 'r' then some '\r'
  else if c = 't' then some '\t'
  else none

/-- The character with a hexadecimal number, if there is one. -/
def codePoint? (digits : List Char) : Option Char := do
  let ds ← digits.mapM Text.digitValue
  let n := ds.foldl (fun n d => n * 16 + d) 0
  if n.isValidChar then some (Char.ofNat n) else none

/-- A character inside a basic text. -/
def escape (c : Char) : List Char :=
  if c = '"' then ['\\', '"']
  else if c = '\\' then ['\\', '\\']
  else if c = '\n' then ['\\', 'n']
  else if c = '\r' then ['\\', 'r']
  else if c = '\t' then ['\\', 't']
  else if c = '\x08' then ['\\', 'b']
  else if c = '\x0c' then ['\\', 'f']
  else if isControl c then '\\' :: 'u' :: Text.hexadecimal 4 c.toNat
  else [c]

/-! ### Reading -/

/-- Reads a basic text after its opening quote. -/
def readBasic : List Char → Taken
  | [] => none
  | '"' :: cs => some ([], cs)
  | '\\' :: 'u' :: a :: b :: c :: d :: cs =>
    (codePoint? [a, b, c, d]).bind fun x => (readBasic cs).put [x]
  | '\\' :: 'U' :: a :: b :: c :: d :: e :: f :: g :: h :: cs =>
    (codePoint? [a, b, c, d, e, f, g, h]).bind fun x => (readBasic cs).put [x]
  | '\\' :: c :: cs => (escaped? c).bind fun x => (readBasic cs).put [x]
  | c :: cs => if c = '\\' ∨ c = '\n' ∨ isControl c then none else (readBasic cs).put [c]

/-- Reads a literal text after its opening quote. -/
def readLiteral : List Char → Taken
  | [] => none
  | '\'' :: cs => some ([], cs)
  | c :: cs => if c = '\n' ∨ isControl c then none else (readLiteral cs).put [c]

/-- The end of a long text after three quotes: up to two more quotes belong to the text. -/
def closeLong (quote : Char) : List Char → List Char × List Char
  | a :: b :: cs =>
    if a = quote then if b = quote then ([a, b], cs) else ([a], b :: cs) else ([], a :: b :: cs)
  | [a] => if a = quote then ([a], []) else ([], [a])
  | [] => ([], [])

/-- What follows a backslash is the rest of its line, without any text. -/
def endsLine (cs : List Char) : Bool :=
  match cs.dropWhile fun c => c == ' ' || c == '\t' with
  | '\n' :: _ => true
  | '\r' :: '\n' :: _ => true
  | _ => false

/-- Reads a long basic text after its opening quotes. After a backslash at the end of a line,
`skipping` is on and everything up to the next text is passed over. -/
def readLong : (skipping : Bool) → List Char → Taken
  | _, [] => none
  | _, '"' :: '"' :: '"' :: cs => some (closeLong '"' cs)
  | _, '\\' :: 'u' :: a :: b :: c :: d :: cs =>
    (codePoint? [a, b, c, d]).bind fun x => (readLong false cs).put [x]
  | _, '\\' :: 'U' :: a :: b :: c :: d :: e :: f :: g :: h :: cs =>
    (codePoint? [a, b, c, d, e, f, g, h]).bind fun x => (readLong false cs).put [x]
  | skipping, '\r' :: '\n' :: cs =>
    if skipping then readLong true cs else (readLong false cs).put ['\n']
  | _, '\\' :: c :: cs =>
    if endsLine (c :: cs) then readLong true (c :: cs)
    else (escaped? c).bind fun x => (readLong false cs).put [x]
  | skipping, c :: cs =>
    if skipping ∧ (c = ' ' ∨ c = '\t' ∨ c = '\n') then readLong true cs
    else if c = '\\' ∨ isControl c then none
    else (readLong false cs).put [c]

/-- Reads a long literal text after its opening quotes. -/
def readLongLiteral : List Char → Taken
  | [] => none
  | '\'' :: '\'' :: '\'' :: cs => some (closeLong '\'' cs)
  | '\r' :: '\n' :: cs => (readLongLiteral cs).put ['\n']
  | c :: cs => if isControl c then none else (readLongLiteral cs).put [c]

/-- The text after a line end that directly follows the opening quotes. -/
def afterOpening : List Char → List Char
  | '\n' :: cs => cs
  | '\r' :: '\n' :: cs => cs
  | cs => cs

/-- Reads a text in any of the four forms, with its opening quotes. -/
def readQuoted : List Char → Taken
  | '"' :: '"' :: '"' :: cs => readLong false (afterOpening cs)
  | '\'' :: '\'' :: '\'' :: cs => readLongLiteral (afterOpening cs)
  | '"' :: cs => readBasic cs
  | '\'' :: cs => readLiteral cs
  | _ => none

/-! ### Writing -/

/-- The quote does not stand three times in a row. -/
def noTriple (quote : Char) : List Char → Bool
  | a :: b :: c :: cs => !(a == quote && b == quote && c == quote) && noTriple quote (b :: c :: cs)
  | _ => true

/-- The inside of a basic text. -/
def basicBody (cs : List Char) : List Char := cs.flatMap escape

/-- The inside of a long basic text. Line ends and up to two quotes in a row stand for themselves;
`quotes` counts the quotes just written. -/
def longBody : (quotes : Nat) → List Char → List Char
  | _, [] => []
  | quotes, c :: cs =>
    if c = '"' then
      if quotes < 2 then c :: longBody (quotes + 1) cs else '\\' :: c :: longBody 0 cs
    else if c = '\n' then c :: longBody 0 cs
    else escape c ++ longBody 0 cs

/-- A line end after the opening quotes of a long text that has line ends itself. -/
def opening (cs : List Char) : List Char := if '\n' ∈ cs then ['\n'] else []

/-- The form of a text. -/
inductive Form where
  | basic
  | literal
  | long
  | longLiteral
  deriving DecidableEq, Repr

/-- The form in which a text is written. -/
def formOf (cs : List Char) : Form :=
  let controls := cs.any isControl
  if !controls && !('"' ∈ cs) && !('\\' ∈ cs) && !('\n' ∈ cs) then .basic
  else if !controls && !('\n' ∈ cs) && !('\'' ∈ cs) then .literal
  else if !controls && !('\\' ∈ cs) && noTriple '"' cs then .long
  else if !controls && noTriple '\'' cs then .longLiteral
  else if '\n' ∈ cs then .long
  else .basic

/-- A text in a form. -/
def Form.write (cs : List Char) : Form → List Char
  | basic => '"' :: basicBody cs ++ ['"']
  | literal => '\'' :: cs ++ ['\'']
  | long => ['"', '"', '"'] ++ opening cs ++ longBody 0 cs ++ ['"', '"', '"']
  | longLiteral => ['\'', '\'', '\''] ++ opening cs ++ cs ++ ['\'', '\'', '\'']

/-- A text as it is written. -/
def quoted (cs : List Char) : List Char := (formOf cs).write cs

end PortRoster.Toml
