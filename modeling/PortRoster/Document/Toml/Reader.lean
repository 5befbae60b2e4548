import PortRoster.Document.Toml.Quoted
import PortRoster.Document.Toml.Table
import PortRoster.Document.Toml.Word

/-! # Reading TOML

A document is a sequence of lines, each of them a pair, a header, a comment or nothing. Values in
brackets may go over several lines. Every reader takes what it needs from the front of a text and
returns what is left. -/

namespace PortRoster.Toml

/-- The number of brackets that may be open at once. -/
def nestingLimit : Nat := 79

/-- The number of parts that a dotted key may have. -/
def keyLimit : Nat := 79

/-! ### Between the parts -/

/-- A blank or a tab. -/
def isSpace (c : Char) : Bool := c == ' ' || c == '\t'

/-- The text without blanks and tabs at its front. -/
def skipSpaces (cs : List Char) : List Char := cs.dropWhile isSpace

/-- The text after a comment at its front, if there is one. A comment ends before the line end, or
before a control character, which no reader accepts. -/
def skipComment : List Char → List Char
  | '#' :: cs => cs.dropWhile fun c => c != '\n' && !isControl c
  | cs => cs

/-- The text after a line end at its front. The end of the text counts as one. -/
def takeLineEnd : List Char → Option (List Char)
  | [] => some []
  | '\n' :: cs => some cs
  | '\r' :: '\n' :: cs => some cs
  | _ => none

/-- The text after the rest of a line that holds nothing but blanks and a comment. -/
def takeRest (cs : List Char) : Option (List Char) := takeLineEnd (skipComment (skipSpaces cs))

/-- The text without blanks, line ends and comments at its front. -/
def skipLines : (fuel : Nat) → List Char → List Char
  | 0, cs => cs
  | fuel + 1, cs =>
    match cs with
    | '\n' :: rest => skipLines fuel rest
    | '\r' :: '\n' :: rest => skipLines fuel rest
    | c :: rest =>
      if isSpace c then skipLines fuel rest
      else if c = '#' then skipLines fuel (skipComment cs)
      else cs
    | [] => []

/-- The text without blanks, line ends and comments at its front. Every step takes a character. -/
def skipGap (cs : List Char) : List Char := skipLines cs.length cs

/-! ### Keys -/

/-- A character of a key without quotes. -/
def isBare (c : Char) : Bool := c.isAlphanum || c == '_' || c == '-'

/-- Reads one part of a key. -/
def readPart : List Char → Taken
  | '"' :: cs => readBasic cs
  | '\'' :: cs => readLiteral cs
  | cs =>
    match cs.takeWhile isBare with
    | [] => none
    | part => some (part, cs.dropWhile isBare)

/-- Reads a key with the blanks around its parts. The number bounds the parts. -/
def readKey : Nat → List Char → Option (List String × List Char)
  | 0, _ => none
  | limit + 1, cs => do
    let (part, rest) ← readPart (skipSpaces cs)
    match skipSpaces rest with
    | '.' :: rest => do
      let (parts, rest) ← readKey limit rest
      some (String.ofList part :: parts, rest)
    | rest => some ([String.ofList part], rest)

/-- Reads a key, as the steps to its last part and the last part. -/
def readPath (cs : List Char) : Option ((List String × String) × List Char) := do
  let (parts, rest) ← readKey keyLimit cs
  some ((parts.dropLast, ← parts.getLast?), rest)

/-! ### Values -/

/-- A word at the front of a text. A date takes in a time that follows it after one blank. -/
def takeWord (cs : List Char) : List Char × List Char :=
  let word := cs.takeWhile isWordChar
  let rest := cs.dropWhile isWordChar
  match rest with
  | ' ' :: more =>
    let time := more.takeWhile isWordChar
    if isDate word ∧ isTimeWithOffset time then (word ++ 'T' :: time, more.dropWhile isWordChar)
    else (word, rest)
  | _ => (word, rest)

/-- Reads a value that has no brackets. -/
def readSimple (cs : List Char) : Option (Data × List Char) :=
  match cs with
  | '"' :: _ | '\'' :: _ => (readQuoted cs).map fun p => (.text (String.ofList p.1), p.2)
  | cs =>
    let (word, rest) := takeWord cs
    (word? word).map (·, rest)

mutual

/-- Reads a value. At most `depth` brackets may be open in it. -/
def readValue (depth : Nat) : (fuel : Nat) → List Char → Option (Data × List Char)
  | 0, _ => none
  | fuel + 1, cs =>
    match depth, cs with
    | 0, '[' :: _ | 0, '\x7b' :: _ => none
    | depth + 1, '[' :: cs => (readItems depth fuel cs).map fun p => (.list p.1, p.2)
    | depth + 1, '\x7b' :: cs =>
      match skipSpaces cs with
      | '\x7d' :: rest => some (.table [], rest)
      | cs => do
        let (pairs, rest) ← readPairs depth fuel cs
        some (← inlineTable pairs, rest)
    | _, cs => readSimple cs

/-- Reads the items of a list and its closing bracket. A comma may stand after the last item. -/
def readItems (depth : Nat) : (fuel : Nat) → List Char → Option (List Data × List Char)
  | 0, _ => none
  | fuel + 1, cs =>
    match skipGap cs with
    | ']' :: rest => some ([], rest)
    | cs => do
      let (d, rest) ← readValue depth fuel cs
      match skipGap rest with
      | ',' :: rest => (readItems depth fuel rest).map fun p => (d :: p.1, p.2)
      | ']' :: rest => some ([d], rest)
      | _ => none

/-- Reads the pairs of a table and its closing brace. -/
def readPairs (depth : Nat) : (fuel : Nat) → List Char → Option (List Pair × List Char)
  | 0, _ => none
  | fuel + 1, cs => do
    let ((path, key), rest) ← readPath cs
    match rest with
    | '=' :: rest => do
      let (value, rest) ← readValue depth fuel (skipSpaces rest)
      match skipSpaces rest with
      | ',' :: rest => (readPairs depth fuel rest).map fun p => (⟨path, key, value⟩ :: p.1, p.2)
      | '\x7d' :: rest => some ([⟨path, key, value⟩], rest)
      | _ => none
    | _ => none

end

/-! ### Lines -/

/-- What a line of a document says. -/
inductive Line where
  | nothing
  | pair (p : Pair)
  | header (h : Header)

/-- Reads a header after its opening brackets, up to the given closing brackets. -/
def readHeader (isRepeated : Bool) (closing : List Char) (cs : List Char) :
    Option (Line × List Char) := do
  let ((path, key), rest) ← readPath cs
  let rest ← takeRest (← Text.afterStart? closing rest)
  some (.header ⟨path, key, isRepeated⟩, rest)

/-- Reads a pair. A value of a document is read with twice as much fuel as the text has characters,
since every step takes a character or is the first on its level. -/
def readPair (cs : List Char) : Option (Line × List Char) := do
  let ((path, key), rest) ← readPath cs
  match rest with
  | '=' :: rest => do
    let (value, rest) ← readValue nestingLimit (2 * rest.length + 2) (skipSpaces rest)
    some (.pair ⟨path, key, value⟩, ← takeRest rest)
  | _ => none

/-- Reads a line and its end. -/
def readLine (cs : List Char) : Option (Line × List Char) :=
  match skipSpaces cs with
  | [] => some (.nothing, [])
  | '[' :: '[' :: cs => readHeader true [']', ']'] cs
  | '[' :: cs => readHeader false [']'] cs
  | c :: cs =>
    if c = '#' ∨ c = '\n' ∨ c = '\r' then (takeRest (c :: cs)).map (.nothing, ·)
    else readPair (c :: cs)

/-- Reads the lines of a document. -/
def readLines : (fuel : Nat) → List Char → Option (List Line)
  | _, [] => some []
  | 0, _ => none
  | fuel + 1, cs => do
    let (line, rest) ← readLine cs
    some (line :: (← readLines fuel rest))

/-- The pairs before the first header, and the headers with the pairs that follow each of them. -/
def sections : List Line → List Pair × List Section
  | [] => ([], [])
  | .nothing :: ls => sections ls
  | .pair p :: ls => (p :: (sections ls).1, (sections ls).2)
  | .header h :: ls => ([], ⟨h, (sections ls).1⟩ :: (sections ls).2)

/-- The text without the mark of its encoding. -/
def skipMark : List Char → List Char
  | c :: cs => if c.toNat = 0xFEFF then cs else c :: cs
  | [] => []

/-- Reads a document. Every line takes a character, so the length of the text is enough fuel. -/
def read (s : String) : Option Data := do
  let cs := skipMark s.toList
  let lines ← readLines cs.length cs
  documentTable (sections lines).1 (sections lines).2

end PortRoster.Toml
