/-! # Control sequences

A text for a terminal holds control sequences between its visible characters. They begin with the
escape character and are read from left to right by a machine with few states. A stream that is no
terminal gets the text without them, and without control characters other than white space.

The machine is asked only while characters are left out. Once a visible character has been found,
all that follows is visible up to the next control character; the state stays what it was, so that a
sequence which a line break interrupts goes on behind the text that follows it. -/

namespace PortRoster.Terminal

/-- How far a control sequence has been read. -/
inductive State where
  /-- Outside of all sequences. -/
  | ground
  /-- Behind the escape character. -/
  | escape
  /-- In an escape sequence that goes on. -/
  | escapeIntermediate
  /-- At the beginning of a sequence with parameters. -/
  | sequence
  | parameters
  | intermediate
  /-- In a sequence with parameters that is ill-formed, up to its end. -/
  | illFormed
  /-- At the beginning of a control string for a device. -/
  | device
  | deviceParameters
  | deviceIntermediate
  /-- In a string for the device or the application. -/
  | string
  /-- In a command for the operating system. -/
  | command
  deriving DecidableEq, Repr

/-- The code of the character lies between two others. -/
def within (first last : Nat) (c : Char) : Bool := first ≤ c.toNat && c.toNat ≤ last

/-- The escape character. -/
def escapeChar : Char := '\x1b'

/-- The character breaks a sequence off. -/
def isCancel (c : Char) : Bool := c == '\x18' || c == '\x1a'

/-- The byte that ends a string is among the bytes of the character. -/
def hasTerminator (c : Char) : Bool := (String.utf8EncodeChar c).contains 0x9C

namespace State

/-- The state behind a character that neither begins nor breaks off a sequence. -/
def step (s : State) (c : Char) : State :=
  match s with
  | ground => ground
  | escape =>
    if within 0x20 0x2F c then escapeIntermediate
    else if c = '[' then sequence
    else if c = ']' then command
    else if c = 'P' then device
    else if c = 'X' ∨ c = '^' ∨ c = '_' then string
    else if within 0x30 0x7E c then ground
    else escape
  | escapeIntermediate => if within 0x30 0x7E c then ground else escapeIntermediate
  | sequence =>
    if within 0x20 0x2F c then intermediate
    else if within 0x30 0x3F c then parameters
    else if within 0x40 0x7E c then ground
    else sequence
  | parameters =>
    if within 0x20 0x2F c then intermediate
    else if within 0x3C 0x3F c then illFormed
    else if within 0x40 0x7E c then ground
    else parameters
  | intermediate =>
    if within 0x30 0x3F c then illFormed
    else if within 0x40 0x7E c then ground
    else intermediate
  | illFormed => if within 0x40 0x7E c then ground else illFormed
  | device =>
    if within 0x20 0x2F c then deviceIntermediate
    else if within 0x30 0x3F c then deviceParameters
    else if within 0x40 0x7E c then string
    else device
  | deviceParameters =>
    if within 0x20 0x2F c then deviceIntermediate
    else if within 0x3C 0x7E c then string
    else deviceParameters
  | deviceIntermediate => if within 0x30 0x7E c then string else deviceIntermediate
  | string => if hasTerminator c then ground else string
  | command => if c = '\x07' then ground else command

/-- The state behind a character. -/
def next (s : State) (c : Char) : State :=
  if isCancel c then ground else if c = escapeChar then escape else s.step c

/-- Control characters are carried out, and do not belong to a string. -/
def carriesOut : State → Bool
  | ground | escape | escapeIntermediate | sequence | parameters | intermediate | illFormed => true
  | device | deviceParameters | deviceIntermediate | string | command => false

/-- A character is visible: white space where control characters are carried out, and any other one
outside of sequences unless it is a control character. -/
def shows (s : State) (c : Char) : Bool :=
  if c = '\t' ∨ c = '\n' ∨ c = '\x0c' ∨ c = '\r' then s.carriesOut
  else s = ground && 0x20 ≤ c.toNat && c != '\x7f'

end State

/-- The visible characters of a text. While they follow one another, `running` is on and the state
has no say. Beyond ASCII a visible character ends every sequence. -/
def visibleFrom : (running : Bool) → State → List Char → List Char
  | _, _, [] => []
  | running, s, c :: cs =>
    if (if running then .ground else s).shows c then
      c :: visibleFrom true (if c.toNat < 0x80 then s else .ground) cs
    else visibleFrom false (s.next c) cs

/-- A text without its control sequences. -/
def plainText (text : String) : String := String.ofList (visibleFrom false .ground text.toList)

end PortRoster.Terminal
