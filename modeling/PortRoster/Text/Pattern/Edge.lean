import PortRoster.Text.Property.Basic

/-! # Edges

An edge is a place between two characters, or at an end of the text, that is recognised by the
characters around it: the beginnings and the ends of the text, of lines and of words. -/

namespace PortRoster.Text

/-- The digits of all scripts. -/
def digitSet : CharSet := Category.decimalNumber.set

/-- The blanks of all scripts. -/
def blankSet : CharSet := Property.whiteSpace.set

/-- The characters of words: letters, marks, digits, punctuation that connects, and the characters
that join others or keep them apart. -/
def wordSet : CharSet :=
  .unions [Property.alphabetic.set, CategoryGroup.mark.set, digitSet,
    Category.connectorPunctuation.set, Property.joinControl.set]

/-- The characters of ASCII. -/
def asciiSet : CharSet := .ofRun (0, 0x7F)

/-- The characters of words that belong to ASCII. -/
def asciiWordSet : CharSet := wordSet.inter asciiSet

namespace Pattern

/-- A kind of place at a word. -/
inductive WordPlace where
  /-- A word begins or ends. -/
  | edge
  /-- No word begins or ends. -/
  | inner
  | start
  | stop
  /-- What is in front belongs to no word. -/
  | startHalf
  /-- What is behind belongs to no word. -/
  | stopHalf
  deriving DecidableEq, Repr

/-- A place that is recognised by the characters around it. -/
inductive Edge where
  | textStart
  | textEnd
  /-- A line begins. It may end with a carriage return and a line feed. -/
  | lineStart (crlf : Bool)
  | lineEnd (crlf : Bool)
  /-- A place at a word of the characters of all scripts, or of those of ASCII. -/
  | word (place : WordPlace) (unicode : Bool)
  deriving DecidableEq, Repr

/-- The place is of a kind, given whether the characters around it belong to words. -/
def WordPlace.holds (p : WordPlace) (before after : Bool) : Bool :=
  match p with
  | edge => before != after
  | inner => before == after
  | start => !before && after
  | stop => before && !after
  | startHalf => !before
  | stopHalf => !after

/-- The characters of words, in all scripts or in ASCII. -/
def wordChars (unicode : Bool) : CharSet := if unicode then wordSet else asciiWordSet

/-- An edge is between two characters. At an end of the text one of them is missing. -/
def Edge.holds (e : Edge) (before after : Option Char) : Bool :=
  match e with
  | textStart => before.isNone
  | textEnd => after.isNone
  | lineStart crlf =>
    before.isNone || before == some '\n' || crlf && before == some '\r' && after != some '\n'
  | lineEnd crlf =>
    after.isNone || if crlf then after == some '\r' || after == some '\n' && before != some '\r'
      else after == some '\n'
  | word place unicode =>
    let isWordChar := fun c => (wordChars unicode).contains c
    place.holds (before.any isWordChar) (after.any isWordChar)

end Pattern

end PortRoster.Text
