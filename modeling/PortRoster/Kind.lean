import PortRoster.Text.LetterCase

/-! # Kinds of port

The closed list of port kinds, what identifies one instance of each, and their names.

* `ofDiscriminant?_eq_some_iff`: numbers and kinds correspond one to one.
* `ofName?_name`: every name is read back.
* `ValueKey.canonical_canonical`: a canonical spelling is its own canonical spelling. -/

namespace PortRoster

/-- What identifies one instance of a kind. -/
inductive ValueKey where
  /-- The kind alone is the whole selection. -/
  | none
  /-- A device path, or the id a USB driver gives. -/
  | path
  /-- A Bluetooth address. -/
  | bluetoothMac
  /-- The number of a UART line. -/
  | uartIndex
  deriving DecidableEq, Repr

namespace ValueKey

/-- The word for a key in reports. -/
def name : ValueKey → String
  | none => "none"
  | path => "path"
  | bluetoothMac => "bluetooth_mac"
  | uartIndex => "uart_index"

/-- All keys. -/
def all : List ValueKey := [none, path, bluetoothMac, uartIndex]

/-- The key with a given name. -/
def ofName? (s : String) : Option ValueKey := all.find? (·.name == s)

/-- Canonical spelling of an address: without blanks at the ends, ASCII letters in upper case. -/
def canonicalMac (value : String) : String :=
  String.ofList (Text.capitals (Text.trim value.toList))

/-- Canonical spelling of an instance value. Only addresses have several spellings. -/
def canonical : ValueKey → String → String
  | bluetoothMac, value => canonicalMac value
  | none, value | path, value | uartIndex, value => value

theorem canonicalMac_canonicalMac (value : String) :
    canonicalMac (canonicalMac value) = canonicalMac value := by
  simp only [canonicalMac, String.toList_ofList]
  rw [Text.trim_capitals, Text.trim_trim, Text.capitals_capitals]

/-- **A canonical spelling is its own canonical spelling.** -/
theorem canonical_canonical (k : ValueKey) (value : String) :
    k.canonical (k.canonical value) = k.canonical value := by
  cases k
  case bluetoothMac => exact canonicalMac_canonicalMac value
  all_goals rfl

end ValueKey

/-- The kind of a communication port. -/
inductive Kind where
  | disabled
  | serial
  | rfcomm
  | rfcommServer
  | ioioUart
  | droidSoarV2
  | nunchuck
  | i2cPressureSensor
  | ioioVoltage
  | auto
  | internal
  | tcpClient
  | tcpListener
  | udpListener
  | pty
  | bleSensor
  | bleHm10
  | gliderLink
  | usbSerial
  deriving DecidableEq, Repr, Inhabited

/-- The text is not the name of a kind; it is kept as it was given. -/
structure UnknownKind where
  input : String
  deriving DecidableEq, Repr

/-- The wording of the failure. -/
def UnknownKind.message (e : UnknownKind) : String := "Unknown port kind: " ++ e.input

namespace Kind

/-- All kinds, in the order of their numbers. -/
def all : List Kind :=
  [disabled, serial, rfcomm, rfcommServer, ioioUart, droidSoarV2, nunchuck, i2cPressureSensor,
   ioioVoltage, auto, internal, tcpClient, tcpListener, udpListener, pty, bleSensor, bleHm10,
   gliderLink, usbSerial]

/-- The number of a kind. -/
def discriminant : Kind → Nat
  | disabled => 0
  | serial => 1
  | rfcomm => 2
  | rfcommServer => 3
  | ioioUart => 4
  | droidSoarV2 => 5
  | nunchuck => 6
  | i2cPressureSensor => 7
  | ioioVoltage => 8
  | auto => 9
  | internal => 10
  | tcpClient => 11
  | tcpListener => 12
  | udpListener => 13
  | pty => 14
  | bleSensor => 15
  | bleHm10 => 16
  | gliderLink => 17
  | usbSerial => 18

/-- The kind with a given number. -/
def ofDiscriminant? (n : Nat) : Option Kind := all[n]?

/-- What identifies an instance of the kind. -/
def key : Kind → ValueKey
  | serial | usbSerial => .path
  | rfcomm | bleSensor | bleHm10 => .bluetoothMac
  | ioioUart => .uartIndex
  | disabled | rfcommServer | droidSoarV2 | nunchuck | i2cPressureSensor | ioioVoltage | auto
  | internal | tcpClient | tcpListener | udpListener | pty | gliderLink => .none

/-- An entry of the kind needs a value to be told from others of the kind. -/
def carriesValue (k : Kind) : Bool := k.key != .none

/-- The kind is addressed by a Bluetooth MAC. -/
def usesMac (k : Kind) : Bool := k.key == .bluetoothMac

/-- The name of the kind in settings and reports. -/
def name : Kind → String
  | disabled => "disabled"
  | serial => "serial"
  | rfcomm => "rfcomm"
  | rfcommServer => "rfcomm_server"
  | ioioUart => "ioio_uart"
  | droidSoarV2 => "droid_soar_v2"
  | nunchuck => "nunchuck"
  | i2cPressureSensor => "i2c_pressure_sensor"
  | ioioVoltage => "ioio_voltage"
  | auto => "auto"
  | internal => "internal"
  | tcpClient => "tcp_client"
  | tcpListener => "tcp_listener"
  | udpListener => "udp_listener"
  | pty => "pty"
  | bleSensor => "ble_sensor"
  | bleHm10 => "ble_hm10"
  | gliderLink => "glider_link"
  | usbSerial => "usb_serial"

/-- The kind with exactly this name. -/
def ofName? (s : String) : Option Kind := all.find? (·.name == s)

/-- A kind name as a user writes it, with the spelling of the list of names: no blanks around it,
small letters, underscores for dashes. -/
def spelling (s : String) : String :=
  String.ofList ((Text.trim s.toList).map fun c => if c = '-' then '_' else c.toLower)

/-- Reads a kind name leniently. -/
def parse (s : String) : Except UnknownKind Kind :=
  match ofName? (spelling s) with
  | some k => .ok k
  | none => .error ⟨s⟩

theorem mem_all (k : Kind) : k ∈ all := by cases k <;> decide

theorem discriminant_lt (k : Kind) : k.discriminant < 19 := by cases k <;> decide

theorem ofDiscriminant?_discriminant (k : Kind) : ofDiscriminant? k.discriminant = some k := by
  cases k <;> rfl

/-- **Numbers and kinds correspond one to one.** -/
theorem ofDiscriminant?_eq_some_iff {n : Nat} {k : Kind} :
    ofDiscriminant? n = some k ↔ k.discriminant = n := by
  constructor
  · intro h
    have hn : n < 19 := (List.getElem?_eq_some_iff.1 h).1
    have : ∀ n < 19, ∀ k ∈ all, ofDiscriminant? n = some k → k.discriminant = n := by decide
    exact this n hn k (mem_all k) h
  · rintro rfl; exact ofDiscriminant?_discriminant k

theorem ofName?_name (k : Kind) : ofName? k.name = some k := by cases k <;> decide

end Kind

end PortRoster
