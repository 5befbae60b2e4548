import PortRoster.Kind

/-! # Sources of ports

A source answers what ports of one family are present. It may fail, and it may know the name of a
port that is not present.

* `Sources.get_set`: a change of one slot leaves the others as they were. -/

namespace PortRoster

/-- A port that a source has found. -/
structure Discovery where
  kind : Kind
  /-- What tells the port from others of its kind. -/
  value : String
  /-- The name of the port, if it has one. -/
  label : Option String := none
  help : Option String := none
  deriving DecidableEq, Repr

/-- The name of a discovery, or its value when it has none. -/
def Discovery.shownLabel (d : Discovery) : String := d.label.getD d.value

/-- A family of ports that one source looks for. -/
inductive Family where
  | serial
  | bluetooth
  | usbSerial
  | uart
  deriving DecidableEq, Repr

namespace Family

/-- All families, in the order in which a list shows them. -/
def all : List Family := [serial, bluetooth, usbSerial, uart]

/-- The name of a family in messages. -/
def name : Family → String
  | serial => "serial"
  | bluetooth => "bluetooth"
  | usbSerial => "usb-serial"
  | uart => "uart"

/-- The family with exactly this name. -/
def ofName? (s : String) : Option Family := all.find? (·.name == s)

/-- The family as one word, for the report on a set of sources. -/
def word : Family → String
  | serial => "Serial"
  | bluetooth => "Bluetooth"
  | usbSerial => "UsbSerial"
  | uart => "Uart"

end Family

/-- Why a source finds nothing. -/
inductive SourceError where
  /-- The host does not provide the family. -/
  | unavailable (family : Family)
  /-- The search itself failed. -/
  | io (detail : String)
  deriving DecidableEq, Repr

/-- The wording of a failure. -/
def SourceError.message : SourceError → String
  | unavailable family => "Transport unavailable: " ++ family.name
  | io detail => "I/O error: " ++ detail

/-- A source of ports. -/
structure Source where
  family : Family
  /-- What the source finds. -/
  discover : Except SourceError (List Discovery)
  /-- The name that the source knows for a value, whether or not it is found. -/
  nameFor : String → Option String := fun _ => none
  /-- What the source notes for the log while it searches. -/
  remarks : List String := []

namespace Source

/-- What a source contributes to a list. -/
def found (s : Source) : List Discovery :=
  match s.discover with
  | .ok ds => ds
  | .error _ => []

/-- A family that the host does not provide. -/
def unavailable (family : Family) : Source where
  family
  discover := .error (.unavailable family)

/-- A source whose search fails. -/
def broken (family : Family) (detail : String) : Source where
  family
  discover := .error (.io detail)

end Source

/-- One source for each family. -/
structure Sources where
  serial : Source := Source.unavailable .serial
  bluetooth : Source := Source.unavailable .bluetooth
  usbSerial : Source := Source.unavailable .usbSerial
  uart : Source := Source.unavailable .uart

namespace Sources

/-- No family is provided. -/
def none : Sources := {}

/-- The source in the slot of a family. -/
def get (s : Sources) : Family → Source
  | .serial => s.serial
  | .bluetooth => s.bluetooth
  | .usbSerial => s.usbSerial
  | .uart => s.uart

/-- Puts a source into the slot of a family. -/
def set (s : Sources) (slot : Family) (source : Source) : Sources :=
  match slot with
  | .serial => { s with serial := source }
  | .bluetooth => { s with bluetooth := source }
  | .usbSerial => { s with usbSerial := source }
  | .uart => { s with uart := source }

/-- The report on the families in the four slots. -/
def text (s : Sources) : String :=
  "Transports \x7b serial: " ++ s.serial.family.word ++ ", bluetooth: " ++ s.bluetooth.family.word
    ++ ", usb_serial: " ++ s.usbSerial.family.word ++ ", uart: " ++ s.uart.family.word ++ " \x7d"

/-- **A change of one slot leaves the others as they were.** -/
theorem get_set (s : Sources) (slot family : Family) (source : Source) :
    (s.set slot source).get family = if family = slot then source else s.get family := by
  cases slot <;> cases family <;> rfl

end Sources

end PortRoster
