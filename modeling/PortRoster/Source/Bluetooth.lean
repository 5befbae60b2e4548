import PortRoster.Source.Basic
import PortRoster.Text.LetterCase

/-! # Bonded Bluetooth devices

The devices that the host has bonded with, given as records or as one flat list of three texts for
each device: address, name, and type of radio.

* `BondedDevice.ofFlat_toFlat`: a flat list gives back the records it was written from. -/

namespace PortRoster

/-- The type of radio that a device has. -/
inductive RadioType where
  | classic
  /-- Low energy. -/
  | ble
  deriving DecidableEq, Repr

namespace RadioType

/-- The type that a flat list names: low energy for `BLE`, classic for all else. -/
def ofWord (word : Option String) : RadioType :=
  if word = some "BLE" then .ble else .classic

/-- The kind of port that such a device gives. -/
def kind : RadioType → Kind
  | classic => .rfcomm
  | ble => .bleHm10

/-- The name of a type in settings and reports. -/
def name : RadioType → String
  | classic => "classic"
  | ble => "ble"

/-- The type with exactly this name. -/
def ofName? (s : String) : Option RadioType := [classic, ble].find? (·.name == s)

/-- The type as log lines show it. -/
def word : RadioType → String
  | classic => "Classic"
  | ble => "Ble"

theorem ofName?_name (r : RadioType) : ofName? r.name = some r := by cases r <;> decide

end RadioType

/-- A device that the host has bonded with. -/
structure BondedDevice where
  address : String
  name : Option String
  radio : RadioType
  deriving DecidableEq, Repr

namespace BondedDevice

/-- Reads a flat list. A triple without an address is left out, and so is what remains after the
last whole triple. -/
def ofFlat : List (Option String) → List BondedDevice
  | some address :: name :: word :: rest => ⟨address, name, .ofWord word⟩ :: ofFlat rest
  | none :: _ :: _ :: rest => ofFlat rest
  | _ => []

/-- The flat form of a list of devices. -/
def toFlat (devices : List BondedDevice) : List (Option String) :=
  devices.flatMap fun d => [some d.address, d.name, if d.radio = .ble then some "BLE" else none]

/-- The device as a source reports it. -/
def discovery (d : BondedDevice) : Discovery where
  kind := d.radio.kind
  value := d.address
  label := d.name

/-- What is noted for the log when the device is found. -/
def remark (d : BondedDevice) : String :=
  "Found bonded device: " ++ d.address ++ " (" ++ d.radio.word ++ ")"

/-- The name of the first device with an address, whatever the case of its letters. -/
def nameFor (devices : List BondedDevice) (value : String) : Option String :=
  (devices.find? fun d => Text.sameLetters d.address value).bind (·.name)

/-- **A flat list gives back the records it was written from.** -/
theorem ofFlat_toFlat (devices : List BondedDevice) : ofFlat (toFlat devices) = devices := by
  induction devices with
  | nil => rfl
  | cons d ds ih =>
    obtain ⟨a, n, r⟩ := d
    unfold toFlat at ih ⊢
    cases r <;> simp [ofFlat, ih, RadioType.ofWord]

end BondedDevice

/-- The source that reports bonded devices. -/
def Source.bonded (devices : List BondedDevice) : Source where
  family := .bluetooth
  discover := .ok (devices.map BondedDevice.discovery)
  nameFor := BondedDevice.nameFor devices
  remarks := devices.map BondedDevice.remark

end PortRoster
