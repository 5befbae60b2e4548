/-! # Host capabilities

What a host may offer, and the set of what one host does offer.

* `has_set`: a change of one capability leaves the others as they were.
* `ext_has`: a set is known by its members. -/

namespace PortRoster

/-- A feature of the host that some kinds of port depend on. -/
inductive Capability where
  /-- Built-in GPS and sensors. -/
  | internalSensors
  /-- A Bluetooth radio with bonded devices. -/
  | bluetooth
  /-- Drivers for USB-serial adapters. -/
  | usbSerial
  /-- A connected IOIO board. -/
  | ioio
  /-- Kinds for developers. -/
  | debugSensors
  /-- A scan of the serial devices. -/
  | serialScan
  deriving DecidableEq, Repr

namespace Capability

/-- All capabilities, in the order in which they are reported. -/
def all : List Capability :=
  [internalSensors, bluetooth, usbSerial, ioio, debugSensors, serialScan]

/-- The name of a capability in settings and reports. -/
def name : Capability → String
  | internalSensors => "internal_sensors"
  | bluetooth => "bluetooth"
  | usbSerial => "usb_serial"
  | ioio => "ioio"
  | debugSensors => "debug_sensors"
  | serialScan => "serial_scan"

/-- The capability with exactly this name. -/
def ofName? (s : String) : Option Capability := all.find? (·.name == s)

theorem mem_all (c : Capability) : c ∈ all := by cases c <;> decide

theorem ofName?_name (c : Capability) : ofName? c.name = some c := by cases c <;> decide

end Capability

/-- A set of capabilities. -/
structure Capabilities where
  internalSensors : Bool
  bluetooth : Bool
  usbSerial : Bool
  ioio : Bool
  debugSensors : Bool
  serialScan : Bool
  deriving DecidableEq, Repr

namespace Capabilities

/-- The empty set. -/
def none : Capabilities := ⟨false, false, false, false, false, false⟩

/-- The full set. -/
def all : Capabilities := ⟨true, true, true, true, true, true⟩

/-- The capabilities of this host: a desktop machine, which offers the kinds for developers if the
program was built with them. -/
def detect (forDevelopers : Bool) : Capabilities := { none with debugSensors := forDevelopers }

/-- The capability is in the set. -/
def has (s : Capabilities) : Capability → Bool
  | .internalSensors => s.internalSensors
  | .bluetooth => s.bluetooth
  | .usbSerial => s.usbSerial
  | .ioio => s.ioio
  | .debugSensors => s.debugSensors
  | .serialScan => s.serialScan

/-- Puts a capability into the set or takes it out. -/
def set (s : Capabilities) (c : Capability) (on : Bool) : Capabilities :=
  match c with
  | .internalSensors => { s with internalSensors := on }
  | .bluetooth => { s with bluetooth := on }
  | .usbSerial => { s with usbSerial := on }
  | .ioio => { s with ioio := on }
  | .debugSensors => { s with debugSensors := on }
  | .serialScan => { s with serialScan := on }

/-- Every one of the capabilities is in the set. -/
def hasAll (s : Capabilities) (required : List Capability) : Bool := required.all s.has

/-- The set with exactly these capabilities. -/
def ofList (cs : List Capability) : Capabilities := cs.foldl (fun s c => s.set c true) none

/-- The capabilities in the set, in the order in which they are reported. -/
def toList (s : Capabilities) : List Capability := Capability.all.filter s.has

/-- A capability and whether it is present, as log lines show it. -/
def memberText (s : Capabilities) (c : Capability) : String :=
  c.name ++ ": " ++ (if s.has c then "true" else "false")

/-- The whole set, as log lines show it. -/
def text (s : Capabilities) : String :=
  "Capabilities \x7b " ++ ", ".intercalate (Capability.all.map s.memberText) ++ " \x7d"

/-- **A change of one capability leaves the others as they were.** -/
theorem has_set (s : Capabilities) (c d : Capability) (on : Bool) :
    (s.set c on).has d = if d = c then on else s.has d := by
  cases c <;> cases d <;> rfl

/-- **A set is known by its members.** -/
theorem ext_has {s t : Capabilities} (h : ∀ c, s.has c = t.has c) : s = t := by
  cases s; cases t
  have h1 := h .internalSensors
  have h2 := h .bluetooth
  have h3 := h .usbSerial
  have h4 := h .ioio
  have h5 := h .debugSensors
  have h6 := h .serialScan
  simp only [has] at h1 h2 h3 h4 h5 h6
  simp [h1, h2, h3, h4, h5, h6]

end Capabilities

end PortRoster
