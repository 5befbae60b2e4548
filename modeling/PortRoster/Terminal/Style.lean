import PortRoster.Terminal.Sequence

/-! # Styled texts

A styled text is made of spans, each shown in a style of its own. On a terminal the styles are
control sequences around the text of a span. -/

namespace PortRoster.Terminal

/-- A style, as the numbers that select it one after the other. -/
abbrev Style := List Nat

namespace Style

/-- The style of what is to be typed as it stands. -/
def literal : Style := [1]

/-- The style of a heading: bold and underlined. -/
def heading : Style := [1, 4]

/-- The style of the brackets around a mark. -/
def bracket : Style := [90]

/-- The control sequence that selects one number. -/
def select (n : Nat) : List Char := [escapeChar, '['] ++ Nat.toDigits 10 n ++ ['m']

/-- The control sequences that select a style. -/
def start (s : Style) : List Char := s.flatMap select

/-- The control sequence that ends a style, if there is one. -/
def stop (s : Style) : List Char := if s = [] then [] else select 0

end Style

/-- A piece of text in a style. -/
structure Span where
  style : Style
  text : String
  deriving DecidableEq, Repr

/-- A text in styles. -/
abbrev StyledText := List Span

/-- A text without a style. -/
def bare (text : String) : Span := ⟨[], text⟩

/-- A text in the style of what is to be typed. -/
def literal (text : String) : Span := ⟨.literal, text⟩

namespace StyledText

/-- The text of all spans. -/
def text (t : StyledText) : String := String.join (t.map Span.text)

/-- How many characters are seen. -/
def width (t : StyledText) : Nat := t.text.length

/-- A span with the control sequences of its style. -/
def writeSpan (s : Span) : String :=
  String.ofList s.style.start ++ s.text ++ String.ofList s.style.stop

/-- The text with the control sequences of its styles. -/
def write (t : StyledText) : String := String.join (t.map writeSpan)

end StyledText

/-! ### Streams -/

/-- The environment gives a variable a value that is not empty. -/
def isGiven (env : String → Option String) (name : String) : Bool :=
  ((env name).filter (· ≠ "")).isSome

/-- The variable that forbids styles. -/
def forbidVariable : String := "NO_COLOR"

/-- The variable that asks for styles where there is no terminal. -/
def forceVariable : String := "CLICOLOR_FORCE"

/-- The standard streams, which are no terminals, show styles. -/
def showsStyles (env : String → Option String) : Bool :=
  !isGiven env forbidVariable && isGiven env forceVariable

/-- What a stream gets of a text with control sequences. -/
def send (styles : Bool) (text : String) : String := if styles then text else plainText text

end PortRoster.Terminal
