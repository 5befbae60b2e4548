import PortRoster.Text.CaseVariant
import PortRoster.Text.Cut
import PortRoster.Text.Numeral
import PortRoster.Text.Pattern.Basic
import PortRoster.Text.Pattern.Cursor
import PortRoster.Text.Property.Name

/-! # Single signs of a pattern

What one sign of a pattern stands for: a character, a set of characters, or an edge. Flags change
the meaning of some signs. A flag restricts signs to ASCII, and then a sign has no meaning if it
stands for more. -/

namespace PortRoster.Text.Pattern

/-- The meaning of signs. -/
structure Flags where
  ignoreCase : Bool := false
  /-- The signs for the ends of the text stand for the ends of its lines. -/
  multiLine : Bool := false
  /-- The sign for any character stands for a line break, too. -/
  dotAll : Bool := false
  /-- A line may end with a carriage return and a line feed. -/
  crlf : Bool := false
  /-- Sets hold characters beyond ASCII. -/
  unicode : Bool := true
  deriving DecidableEq, Repr

/-- What one sign stands for. -/
inductive Sign where
  /-- A character, which may be written as a byte. -/
  | literal (c : Char) (isByte : Bool)
  | set (s : CharSet)
  | edge (e : Edge)

namespace Flags

/-- A set, with the other forms of its letters if case does not count. -/
def fold (f : Flags) (s : CharSet) : CharSet :=
  if f.ignoreCase then
    if f.unicode then s.foldCase else s.union ((s.inter asciiSet).foldCase.inter asciiSet)
  else s

/-- The cursor behind a sign that stands for characters beyond ASCII in any case. -/
def checkUnicode (f : Flags) (part : Part) (c : Cursor) : Cursor :=
  if f.unicode then c else c.refuse .beyondAscii part

/-- The cursor behind a character. A byte beyond ASCII is no character. -/
def checkByte (f : Flags) (d : Char) (isByte : Bool) (part : Part) (c : Cursor) : Cursor :=
  if isByte && 0x80 ≤ d.toNat then f.checkUnicode part c else c

/-- The line breaks. -/
def lineBreaks (f : Flags) : CharSet :=
  if f.crlf then .ofRuns [(0x0A, 0x0A), (0x0D, 0x0D)] else .single 0x0A

/-- Any character, line breaks apart unless they are included. -/
def anySet (f : Flags) : CharSet :=
  if f.dotAll then CharSet.empty.complement else f.lineBreaks.complement

/-- The edge where the text or a line begins. -/
def startEdge (f : Flags) : Edge := if f.multiLine then .lineStart f.crlf else .textStart

/-- The edge where the text or a line ends. -/
def endEdge (f : Flags) : Edge := if f.multiLine then .lineEnd f.crlf else .textEnd

end Flags

/-! ### Characters by their numbers -/

/-- The character with a number that is written in hexadecimal digits. -/
def charOfHexadecimal? (digits : List Char) : Option Char :=
  let n := digits.foldl (fun n d => 16 * n + (digitOf 16 d).getD 0) 0
  if n.isValidChar then some (Char.ofNat n) else none

/-- Reads so many hexadecimal digits. -/
def readHexDigits : Nat → Cursor → Except ReadError (List Char × Cursor)
  | 0, c => .ok ([], c)
  | n + 1, c =>
    match c.peek with
    | none => stopAt .escapeOpen c.here
    | some d =>
      if (digitOf 16 d).isSome then do
        let (ds, behind) ← readHexDigits n c.bumpSkip
        .ok (d :: ds, behind)
      else stopAt .hexadecimalDigit c.sign

/-- Reads the number of a character, from its letter on: in braces, or as many digits as the letter
stands for. -/
def readHexadecimal (size : Nat) (c : Cursor) : Except ReadError (Char × Cursor) := do
  let start := c.bumpSkip
  match start.peek with
  | none => stopAt .escapeOpen start.here
  | some '\x7b' =>
    let (ds, behind) := start.bumpSkip.takeSigns fun d => (digitOf 16 d).isSome
    match behind.peek with
    | none => stopAt .escapeOpen (behind.since start.place)
    | some '\x7d' =>
      if ds = [] then stopAt .hexadecimalEmpty (behind.bumpSkip.since start.place)
      else
        match charOfHexadecimal? ds with
        | some d => .ok (d, behind.bumpSkip)
        | none => stopAt .hexadecimalNoCharacter (behind.since (start.place + 1))
    | some _ => stopAt .hexadecimalDigit behind.sign
  | some _ =>
    let (ds, behind) ← readHexDigits size start
    match charOfHexadecimal? ds with
    | some d => .ok (d, behind)
    | none => stopAt .hexadecimalNoCharacter (behind.since start.place)

/-! ### Escapes -/

/-- The set that a letter behind a backslash stands for. -/
def setOfLetter? : Char → Option CharSet
  | 'd' => some digitSet
  | 's' => some blankSet
  | 'w' => some wordSet
  | _ => none

/-- The edge that a character behind a backslash stands for, if it is an end of the text. -/
def endOfLetter? : Char → Option Edge
  | 'A' => some .textStart
  | 'z' => some .textEnd
  | _ => none

/-- The place at a word that a character behind a backslash stands for. -/
def wordPlaceOfLetter? : Char → Option WordPlace
  | 'b' => some .edge
  | 'B' => some .inner
  | '<' => some .start
  | '>' => some .stop
  | _ => none

/-- The character that a letter behind a backslash stands for. -/
def controlOfLetter? : Char → Option Char
  | 'a' => some '\x07'
  | 'f' => some '\x0c'
  | 't' => some '\t'
  | 'n' => some '\n'
  | 'r' => some '\r'
  | 'v' => some '\x0b'
  | _ => none

/-- A character stands for itself behind a backslash. -/
def escapesItself (c : Char) : Bool :=
  c.toNat < 0x80 && !c.isAlphanum && c != '<' && c != '>'

/-- The place at a word that a name in braces stands for. -/
def wordPlaceOfName? (name : String) : Option WordPlace :=
  match name with
  | "start" => some .start
  | "end" => some .stop
  | "start-half" => some .startHalf
  | "end-half" => some .stopHalf
  | _ => none

/-- Reads what follows the sign for the edge of a word: a name in braces that says which place it
is, if it is not the count of a repetition. -/
def readWordPlace (start : Nat) (c : Cursor) : Except ReadError (WordPlace × Cursor) :=
  let isLetter := fun (d : Char) => d.isAlpha || d == '-'
  let inside := c.bumpSkip
  let (name, behind) := inside.takeSigns isLetter
  if c.peek ≠ some '\x7b' then .ok (.edge, c)
  else if inside.isDone then stopAt .wordEdgeOrCountOpen (inside.since start)
  else if name = [] then .ok (.edge, c)
  else if behind.peek = some '\x7d' then
    match wordPlaceOfName? (String.ofList name) with
    | some place => .ok (place, behind.bump)
    | none => stopAt .wordEdgeUnknown (behind.since inside.place)
  else stopAt .wordEdgeOpen (behind.since c.place)

/-- The parts of a text around the first place where a separator stands. -/
def cutAround? (sep : List Char) : List Char → Option (List Char × List Char)
  | [] => none
  | c :: cs =>
    match afterStart? sep (c :: cs) with
    | some rest => some ([], rest)
    | none => (cutAround? sep cs).map fun r => (c :: r.1, r.2)

/-- The signs between a property and its value. All of them mean that it has the value. -/
def valueSigns : List (List Char) := [['!', '='], [':'], ['=']]

/-- The set of the characters with a property, which may be written with a value. -/
def setOfProperty (text : List Char) : Except NameFault CharSet :=
  match valueSigns.findSome? (cutAround? · text) with
  | some (property, value) => CharSet.ofValue property value
  | none => CharSet.ofName text

/-- The fault of a text that is not the name of a property. -/
def faultOfName : NameFault → Fault
  | .unknownProperty => .propertyUnknown
  | .unknownValue => .propertyValueUnknown

/-- The set of the characters with a property, or of all others, and the cursor behind its name. -/
def propertySign (f : Flags) (negated : Bool) (name : List Char) (part : Part) (behind : Cursor) :
    Sign × Cursor :=
  if f.unicode then
    match setOfProperty name with
    | .ok s => (.set ((f.fold s).complementIf negated), behind)
    | .error e => (.set .empty, behind.refuse (faultOfName e) part)
  else (.set .empty, behind.refuse .unicodeForbidden part)

/-- Reads the name of a property: one letter, or more in braces. -/
def readProperty (f : Flags) (negated : Bool) (start : Nat) (c : Cursor) :
    Except ReadError (Sign × Cursor) :=
  let name := c.bumpSkip
  match name.peek with
  | none => stopAt .escapeOpen name.here
  | some '\\' => stopAt .propertyName name.sign
  | some '\x7b' =>
    let (letters, behind) := name.bumpSkip.takeSigns (· != '\x7d')
    if behind.isDone then stopAt .escapeOpen behind.here
    else .ok (propertySign f negated letters (behind.bump.since start) behind.bump)
  | some d =>
    let behind := name.bumpSkip
    .ok (propertySign f negated [d] (behind.since start) behind)

/-- The set that a letter stands for, or all other characters for a capital. -/
def letterSign (f : Flags) (s : CharSet) (negated : Bool) (part : Part) (c : Cursor) :
    Sign × Cursor :=
  let s := if f.unicode then s else s.inter asciiSet
  (.set (s.complementIf negated), if negated then f.checkUnicode part c else c)

/-- Reads a backslash and what belongs to it. -/
def readEscape (f : Flags) (c : Cursor) : Except ReadError (Sign × Cursor) :=
  let start := c.place
  let c := c.bump
  let hexadecimal := fun (size : Nat) =>
    (readHexadecimal size c).map fun r =>
      (Sign.literal r.1 (size == 2 && c.bumpSkip.peek != some '\x7b'), r.2)
  match c.peek with
  | none => stopAt .escapeOpen (c.since start)
  | some d =>
    let behind := c.bump
    if d.isDigit then stopAt .backreference (behind.since start)
    else if d = 'x' then hexadecimal 2
    else if d = 'u' then hexadecimal 4
    else if d = 'U' then hexadecimal 8
    else if d = 'p' ∨ d = 'P' then readProperty f (d = 'P') start c
    else if d = 'b' then
      (readWordPlace start behind).map fun r => (.edge (.word r.1 f.unicode), r.2)
    else if escapesItself d then .ok (.literal d false, behind)
    else
      match setOfLetter? d.toLower, endOfLetter? d, wordPlaceOfLetter? d, controlOfLetter? d with
      | some s, _, _, _ => .ok (letterSign f s d.isUpper (behind.since start) behind)
      | none, some e, _, _ => .ok (.edge e, behind)
      | none, none, some place, _ => .ok (.edge (.word place f.unicode), behind)
      | none, none, none, some control => .ok (.literal control false, behind)
      | none, none, none, none => stopAt .escapeUnknown (behind.since start)

end PortRoster.Text.Pattern
