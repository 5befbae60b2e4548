import PortRoster.Capability
import PortRoster.Document.Toml.Reader
import PortRoster.Roster.Builder
import PortRoster.Settings.Records
import PortRoster.Source.Uart

/-! # Settings

The settings that a file holds: the saved port, switches for capabilities, and descriptions of what
the helpers of a host report. Settings are put on top of one another, and a roster is opened with
them.

* `merge_empty`, `empty_merge`: settings that say nothing change nothing. -/

namespace PortRoster

/-- Capabilities that are turned on or off by the user. -/
structure Switches where
  internalSensors : Option Bool := none
  bluetooth : Option Bool := none
  usbSerial : Option Bool := none
  ioio : Option Bool := none
  debugSensors : Option Bool := none
  serialScan : Option Bool := none
  deriving DecidableEq, Repr

namespace Switches

/-- The switch of a capability. -/
def get (s : Switches) : Capability → Option Bool
  | .internalSensors => s.internalSensors
  | .bluetooth => s.bluetooth
  | .usbSerial => s.usbSerial
  | .ioio => s.ioio
  | .debugSensors => s.debugSensors
  | .serialScan => s.serialScan

/-- The switches with others on top: a switch that is set there counts. -/
def merge (s t : Switches) : Switches where
  internalSensors := t.internalSensors.or s.internalSensors
  bluetooth := t.bluetooth.or s.bluetooth
  usbSerial := t.usbSerial.or s.usbSerial
  ioio := t.ioio.or s.ioio
  debugSensors := t.debugSensors.or s.debugSensors
  serialScan := t.serialScan.or s.serialScan

/-- Sets capabilities as the switches say. -/
def onto (s : Switches) (caps : Capabilities) : Capabilities :=
  Capability.all.foldl
    (fun caps c => match s.get c with
      | some on => caps.set c on
      | none => caps)
    caps

end Switches

/-- The settings that a file holds. -/
structure Settings where
  device : Option SavedPort := none
  switches : Switches := {}
  /-- The bonded devices that the host reports. -/
  bonded : List BondedDevice := []
  /-- The adapters that the driver reports. -/
  adapters : List UsbAdapter := []
  /-- The number of UART lines of the board. -/
  uartCount : Option UInt32 := none
  uartHelp : List String := []
  deriving DecidableEq, Repr

namespace Settings

/-- Settings that say nothing. -/
def empty : Settings := {}

/-- The settings with others on top. What is set there counts, except that devices and adapters come
after those that are already described. -/
def merge (s t : Settings) : Settings where
  device := t.device.or s.device
  switches := s.switches.merge t.switches
  bonded := s.bonded ++ t.bonded
  adapters := s.adapters ++ t.adapters
  uartCount := t.uartCount.or s.uartCount
  uartHelp := if t.uartHelp.isEmpty then s.uartHelp else t.uartHelp

/-- The saved port. -/
def savedPort (s : Settings) : SavedPort := s.device.getD .unset

/-- A capability of which the settings describe the devices. -/
def describes (s : Settings) : Capability → Bool
  | .bluetooth => !s.bonded.isEmpty
  | .usbSerial => !s.adapters.isEmpty
  | .ioio => s.uartCount.isSome
  | .internalSensors | .debugSensors | .serialScan => false

/-- The capabilities in force on a host: those detected and those described, and then as the
switches say. -/
def capabilities (s : Settings) (detected : Capabilities) : Capabilities :=
  s.switches.onto (Capability.all.foldl
    (fun caps c => if s.describes c then caps.set c true else caps) detected)

/-- The sources that the settings describe, for the families that the capabilities allow. No serial
ports are looked for. -/
def sources (s : Settings) (caps : Capabilities) : Sources where
  bluetooth := if caps.bluetooth then .bonded s.bonded else .unavailable .bluetooth
  usbSerial := if caps.usbSerial then .adapters s.adapters else .unavailable .usbSerial
  uart :=
    if caps.ioio then .uartLines (s.uartCount.getD 0).toNat s.uartHelp else .unavailable .uart

/-- The builder for the capabilities in force. -/
def builder (s : Settings) (caps : Capabilities) : Builder where
  table := .forCapabilities caps
  sources := s.sources caps

/-! ### Reading -/

/-- Reads switches. -/
def switchesOfData (format : Format) (d : Data) : Option Switches := do
  match ← d.fields format (Capability.all.map Capability.name) with
  | [internalSensors, bluetooth, usbSerial, ioio, debugSensors, serialScan] =>
    some {
      internalSensors := ← internalSensors.optional Data.toBool
      bluetooth := ← bluetooth.optional Data.toBool
      usbSerial := ← usbSerial.optional Data.toBool
      ioio := ← ioio.optional Data.toBool
      debugSensors := ← debugSensors.optional Data.toBool
      serialScan := ← serialScan.optional Data.toBool }
  | _ => none

/-- Reads a record with one field, a list that may be missing. -/
def listRecord {α : Type} (name : String) (read : Data → Option α) (format : Format) (d : Data) :
    Option (List α) := do
  match ← d.fields format [name] with
  | [items] => items.orElse [] (Data.toListOf read)
  | _ => none

/-- Reads the description of UART lines: their number and their help texts. -/
def uartOfData (format : Format) (d : Data) : Option (Option UInt32 × List String) := do
  match ← d.fields format ["count", "help"] with
  | [count, help] =>
    some (← count.optional Data.toWord, ← help.orElse [] (Data.toListOf Data.toText))
  | _ => none

/-- Reads settings. Every section may be missing, and other sections are passed over. -/
def ofData (format : Format) (d : Data) : Option Settings := do
  match ← d.fields format ["device", "capabilities", "bluetooth", "usb_serial", "uart"] with
  | [device, switches, bluetooth, usb, uart] =>
    let device ← device.optional (SavedPort.ofData format)
    let switches ← switches.orElse {} (switchesOfData format)
    let bonded ← bluetooth.orElse [] (listRecord "bonded" (BondedDevice.ofData format) format)
    let adapters ← usb.orElse [] (listRecord "devices" (UsbAdapter.ofData format) format)
    let (uartCount, uartHelp) ← uart.orElse (none, []) (uartOfData format)
    some { device, switches, bonded, adapters, uartCount, uartHelp }
  | _ => none

/-- Reads a settings file. -/
def ofToml (text : String) : Option Settings := (Toml.read text).bind (ofData .toml)

/-! ### Laws -/

theorem merge_empty (s : Settings) : s.merge empty = s := by
  cases s; simp [merge, empty, Switches.merge]

theorem empty_merge (s : Settings) : empty.merge s = s := by
  cases s; simp [merge, empty, Switches.merge]

end Settings

end PortRoster
