import PortRoster.Kind
import PortRoster.Text.Numeral

/-! # Saved ports

The port that a device uses, as its settings keep it. The kind says which of the other fields is in
use; the rest keep what was stored in them last.

* `readLine_uartText`: the number of a UART line is read back from the value of its entry. -/

namespace PortRoster

/-- A saved port. -/
structure SavedPort where
  kind : Kind
  /-- The device path, or the id of a USB adapter. -/
  path : String
  bluetoothMac : String
  uartLine : UInt32
  deriving DecidableEq, Repr

namespace SavedPort

/-- The port of a kind with all other fields empty. -/
def ofKind (kind : Kind) : SavedPort := ⟨kind, "", "", 0⟩

/-- The port that is saved where nothing was saved. -/
def unset : SavedPort := ofKind .disabled

instance : Inhabited SavedPort := ⟨unset⟩

/-- A serial device at a path. -/
def serial (path : String) : SavedPort := { ofKind .serial with path }

/-- The USB adapter with an id. -/
def usbSerial (id : String) : SavedPort := { ofKind .usbSerial with path := id }

/-- A Bluetooth device of some kind at an address. -/
def bluetooth (kind : Kind) (mac : String) : SavedPort := { ofKind kind with bluetoothMac := mac }

/-- A UART line. -/
def ioioUart (line : UInt32) : SavedPort := { ofKind .ioioUart with uartLine := line }

/-- The address is the field in use. -/
def usesMac (s : SavedPort) : Bool := s.kind.usesMac

/-- The number of the UART line as the value of an entry. -/
def uartText (s : SavedPort) : String := Text.decimalText s.uartLine.toNat

/-- The field in use, as the value of an entry. -/
def value (s : SavedPort) : Option String :=
  match s.kind.key with
  | .none => none
  | .path => some s.path
  | .bluetoothMac => some s.bluetoothMac
  | .uartIndex => some s.uartText

/-- The line that the value of an entry names; a value that is no number names line 0. -/
def readLine (value : String) : UInt32 :=
  match Text.readWord 10 value.toList with
  | .ok n => n
  | .error _ => 0

/-- **The number of a UART line is read back from the value of its entry.** -/
theorem readLine_uartText (s : SavedPort) : readLine s.uartText = s.uartLine := by
  simp [readLine, uartText, Text.decimalText, Text.readWord_decimal]

/-- The port for a kind and the value of an entry, which goes into the field that the kind uses. -/
def ofValue (kind : Kind) (value : String) : SavedPort :=
  match kind.key with
  | .none => ofKind kind
  | .path => { ofKind kind with path := value }
  | .bluetoothMac => { ofKind kind with bluetoothMac := value }
  | .uartIndex => { ofKind kind with uartLine := readLine value }

end SavedPort

end PortRoster
