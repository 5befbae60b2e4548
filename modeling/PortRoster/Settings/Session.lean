import PortRoster.Document.Json.Writer
import PortRoster.Document.Toml.Writer
import PortRoster.Roster.Journal
import PortRoster.Settings.Basic

/-! # Sessions

A session is one roster, opened with settings on a host. Values that the user gives for it replace
those of the saved port field by field. At its end the chosen port is written as a section of a
settings file.

* `SavedPort.data_rows`: the rows of the section stand for the data of the port. -/

namespace PortRoster

/-- Values that the user gives instead of saved ones. -/
structure Overrides where
  kind : Option Kind := none
  path : Option String := none
  bluetoothMac : Option String := none
  uartLine : Option UInt32 := none
  deriving DecidableEq, Repr

/-- The saved port with the given values in place of its own. -/
def Overrides.onto (o : Overrides) (s : SavedPort) : SavedPort where
  kind := o.kind.getD s.kind
  path := o.path.getD s.path
  bluetoothMac := o.bluetoothMac.getD s.bluetoothMac
  uartLine := o.uartLine.getD s.uartLine

/-- What a session is opened with. -/
structure Session where
  settings : Settings
  overrides : Overrides := {}
  detected : Capabilities

namespace Session

/-- The port to select. -/
def device (s : Session) : SavedPort := s.overrides.onto s.settings.savedPort

/-- The capabilities in force. -/
def capabilities (s : Session) : Capabilities := s.settings.capabilities s.detected

/-- What the roster is built from. -/
def builder (s : Session) : Builder := s.settings.builder s.capabilities

/-- The roster. -/
def roster (s : Session) : Roster := s.builder.build s.device

/-- The log of opening the roster. -/
def journal (s : Session) : List Log.Record :=
  [⟨.debug, .capability, "Detected host capabilities: " ++ s.detected.text⟩,
   ⟨.debug, .commands, "Effective capabilities: " ++ s.capabilities.text⟩]
  ++ s.builder.journal s.device

end Session

namespace SavedPort

/-- The rows of the settings section of a port. -/
def rows (s : SavedPort) : List (String × Toml.Scalar) :=
  [("kind", .text s.kind.name), ("path", .text s.path), ("bluetooth_mac", .text s.bluetoothMac),
   ("ioio_uart_id", .number s.uartLine.toNat)]

/-- **The rows of the section stand for the data of the port.** -/
theorem data_rows (s : SavedPort) : .table (s.rows.map fun r => (r.1, r.2.data)) = s.toData := rfl

/-- The port as a section of a settings file. -/
def toToml (s : SavedPort) : String := String.ofList (Toml.writeSection "device" s.rows)

/-- The port as a JSON text. -/
def toJson (s : SavedPort) : String := Json.pretty s.toData

end SavedPort

end PortRoster
