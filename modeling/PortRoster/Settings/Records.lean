import PortRoster.Document.Data
import PortRoster.SavedPort
import PortRoster.Source.Bluetooth
import PortRoster.Source.Usb

/-! # Records in documents

How a document holds kinds, saved ports, bonded devices and adapters. Names are exact, and a value
of another type is refused.

* `SavedPort.ofData_toData`: a saved port is read back from what it is written as. -/

namespace PortRoster

/-- Reads a kind by its name. -/
def Kind.ofData (format : Format) (d : Data) : Option Kind := (d.toName format).bind Kind.ofName?

/-- Reads a type of radio by its name. -/
def RadioType.ofData (format : Format) (d : Data) : Option RadioType :=
  (d.toName format).bind RadioType.ofName?

namespace SavedPort

/-- The names of the fields of a saved port. -/
def fieldNames : List String := ["kind", "path", "bluetooth_mac", "ioio_uart_id"]

/-- Reads a saved port. Every field may be missing. -/
def ofData (format : Format) (d : Data) : Option SavedPort := do
  match ← d.fields format fieldNames with
  | [kind, path, mac, line] =>
    some {
      kind := ← kind.orElse .disabled (Kind.ofData format)
      path := ← path.orElse "" Data.toText
      bluetoothMac := ← mac.orElse "" Data.toText
      uartLine := ← line.orElse 0 Data.toWord }
  | _ => none

/-- A saved port as a document holds it. -/
def toData (s : SavedPort) : Data :=
  .table [("kind", .text s.kind.name), ("path", .text s.path),
    ("bluetooth_mac", .text s.bluetoothMac), ("ioio_uart_id", .integer s.uartLine.toNat)]

end SavedPort

/-- Reads a bonded device. Only the address has to be there. -/
def BondedDevice.ofData (format : Format) (d : Data) : Option BondedDevice := do
  match ← d.fields format ["address", "name", "type"] with
  | [address, name, radio] =>
    some {
      address := ← address.required Data.toText
      name := ← name.orElse none (Field.nullable Data.toText)
      radio := ← radio.orElse .classic (RadioType.ofData format) }
  | _ => none

/-- Reads an adapter. -/
def UsbAdapter.ofData (format : Format) (d : Data) : Option UsbAdapter := do
  match ← d.fields format ["id", "name"] with
  | [id, name] =>
    some { id := ← id.required Data.toText, name := ← name.required Data.toText }
  | _ => none

theorem toWord_toNat (n : UInt32) : Data.toWord (.integer n.toNat) = some n := by
  have h := n.toNat_lt
  have hn : (0 : Int) ≤ n.toNat ∧ (n.toNat : Int) < 4294967296 := by omega
  simp [Data.toWord, hn]

/-- **A saved port is read back from what it is written as.** -/
theorem SavedPort.ofData_toData (format : Format) (s : SavedPort) :
    ofData format s.toData = some s := by
  obtain ⟨kind, path, mac, line⟩ := s
  simp [ofData, toData, Data.fields, fieldNames, Data.namedOnce, Data.row, List.lookup_cons,
    Field.orElse, Kind.ofData, Data.toName, Kind.ofName?_name, Data.toText, toWord_toNat]

end PortRoster
