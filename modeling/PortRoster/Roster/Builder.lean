import PortRoster.Roster.Operation
import PortRoster.Source.Basic
import PortRoster.Text.NaturalOrder

/-! # Building a roster

A roster is built in five stages: the fixed kinds, then what the sources find, family by family. A
stage first adds its entries and then *settles* the saved port: it selects the entry for it, or adds
a placeholder, if the saved port belongs to the family. UART lines and fixed kinds that are not
offered get no placeholder.

* `addUart_of_savedLine_eq_none`: where no line is saved, the lines are only added. -/

namespace PortRoster

/-- A fixed kind as it is shown. -/
def FixedKind.item (s : FixedKind) : Item := ⟨s.kind, "", s.label, none⟩

/-- A discovery as it is shown. -/
def Discovery.item (d : Discovery) : Item := ⟨d.kind, d.value, d.shownLabel, d.help⟩

/-- A discovered adapter as it is shown: its label names the family too. -/
def Discovery.usbItem (d : Discovery) : Item := { d.item with label := "USB: " ++ d.shownLabel }

/-- The natural order of the labels of two entries. -/
def Entry.labelLe (a b : Entry) : Bool := Text.naturalLe a.label b.label

namespace Roster

/-- Adds the fixed kinds. -/
def addFixed (r : Roster) : Roster := r.pushAll (r.table.kinds.map FixedKind.item)

/-- Selects the fixed kind that is saved. -/
def settleFixed (saved : SavedPort) (r : Roster) : Roster :=
  if saved.kind.carriesValue then r
  else (r.selectFirst fun e => e.kind == saved.kind).1

/-- Adds the serial ports, in the natural order of their labels. -/
def addSerial (found : List Discovery) (r : Roster) : Roster :=
  r.append ((r.newEntries (found.map Discovery.item)).mergeSort Entry.labelLe)

/-- Settles a saved serial port, even one with an empty path. -/
def settleSerial (saved : SavedPort) (r : Roster) : Roster :=
  if saved.kind = .serial then (r.reconcile .serial saved.path).1 else r

/-- Adds the Bluetooth devices. -/
def addBluetooth (found : List Discovery) (r : Roster) : Roster :=
  r.pushAll (found.map Discovery.item)

/-- Settles a saved address, unless it is empty. A placeholder is shown by the name that the source
knows for the address as it was saved. -/
def settleBluetooth (nameFor : String → Option String) (saved : SavedPort) (r : Roster) : Roster :=
  if saved.usesMac ∧ saved.bluetoothMac ≠ "" then
    (r.reconcileLabelled saved.kind saved.bluetoothMac (nameFor saved.bluetoothMac)).1
  else r

/-- Adds the USB-serial adapters. -/
def addUsb (found : List Discovery) (r : Roster) : Roster :=
  r.pushAll (found.map Discovery.usbItem)

/-- Settles a saved adapter, unless its id is empty. -/
def settleUsb (saved : SavedPort) (r : Roster) : Roster :=
  if saved.kind = .usbSerial ∧ saved.path ≠ "" then (r.reconcile .usbSerial saved.path).1 else r

/-- The identifier given to the last of the found lines that has the saved number. -/
def savedLine? (found : List Discovery) (saved : SavedPort) (r : Roster) : Option PortId :=
  if saved.kind = .ioioUart then
    ((r.newEntries (found.map Discovery.item)).zip found).reverse.find?
      (fun p => p.2.value == saved.uartText) |>.map (·.1.id)
  else none

/-- Adds the UART lines, and selects the identifier of the saved one. -/
def addUart (found : List Discovery) (saved : SavedPort) (r : Roster) : Roster :=
  let listed := r.pushAll (found.map Discovery.item)
  match r.savedLine? found saved with
  | some id => (listed.select id).1
  | none => listed

/-- **Where no line is saved, the lines are only added.** -/
theorem addUart_of_savedLine_eq_none {found : List Discovery} {saved : SavedPort} {r : Roster}
    (h : r.savedLine? found saved = none) :
    r.addUart found saved = r.pushAll (found.map Discovery.item) := by
  simp [addUart, h]

end Roster

/-- What a roster is built from. -/
structure Builder where
  table : KindTable
  sources : Sources

namespace Builder

/-- The roster with the fixed kinds. -/
def fixedStage (b : Builder) (saved : SavedPort) : Roster :=
  (Roster.empty b.table).addFixed.settleFixed saved

/-- The roster with the serial ports. -/
def serialStage (b : Builder) (saved : SavedPort) : Roster :=
  ((b.fixedStage saved).addSerial b.sources.serial.found).settleSerial saved

/-- The roster with the Bluetooth devices. -/
def bluetoothStage (b : Builder) (saved : SavedPort) : Roster :=
  ((b.serialStage saved).addBluetooth b.sources.bluetooth.found).settleBluetooth
    b.sources.bluetooth.nameFor saved

/-- The roster with the USB-serial adapters. -/
def usbStage (b : Builder) (saved : SavedPort) : Roster :=
  ((b.bluetoothStage saved).addUsb b.sources.usbSerial.found).settleUsb saved

/-- The whole roster, with the saved port selected. -/
def build (b : Builder) (saved : SavedPort) : Roster :=
  (b.usbStage saved).addUart b.sources.uart.found saved

end Builder

end PortRoster
