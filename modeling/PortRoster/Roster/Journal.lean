import PortRoster.Log
import PortRoster.Roster.Builder
import PortRoster.Text.Visible

/-! # The journal of a build

The log records of building a roster: what each source answered, the entries that were added, the
placeholder, and the result. A stage has added a placeholder when settling makes the list longer. -/

namespace PortRoster

/-- The record of what came of a search. -/
def Source.resultRecord (s : Source) : Log.Record :=
  match s.discover with
  | .ok found =>
    ⟨.debug, .builder, s.family.name ++ " transport: " ++ Text.decimalText found.length ++ " found"⟩
  | .error e => ⟨.debug, .builder, s.family.name ++ " transport unavailable: " ++ e.message⟩

/-- What a source notes while it searches, and what came of it. Only the source for Bluetooth
devices has something to note. -/
def Source.journal (s : Source) : List Log.Record :=
  s.remarks.map (Log.Record.mk .trace .bluetooth) ++ [s.resultRecord]

/-- The record of an item that is added for a discovery. -/
def Discovery.journal (label : Discovery → String) (d : Discovery) : Log.Record :=
  ⟨.trace, .builder, "Adding " ++ d.kind.name ++ " port " ++ d.value ++ " (" ++ label d ++ ")"⟩

namespace Builder

/-- The record of a placeholder, if settling has added one. -/
def placeholderRecord (kind : Kind) (value : String) (before after : Roster) : List Log.Record :=
  if before.size < after.size then
    [⟨.debug, .roster, "Saved " ++ kind.name ++ " port "
      ++ Text.inQuotes (kind.key.canonical value) ++ " not present, adding placeholder"⟩]
  else []

/-- The records of the serial stage. -/
def serialJournal (b : Builder) (saved : SavedPort) : List Log.Record :=
  let found := b.sources.serial.found
  b.sources.serial.journal ++ found.map (Discovery.journal Discovery.shownLabel)
    ++ placeholderRecord .serial saved.path ((b.fixedStage saved).addSerial found)
      (b.serialStage saved)

/-- The records of the Bluetooth stage. -/
def bluetoothJournal (b : Builder) (saved : SavedPort) : List Log.Record :=
  let found := b.sources.bluetooth.found
  b.sources.bluetooth.journal ++ found.map (Discovery.journal Discovery.shownLabel)
    ++ placeholderRecord saved.kind saved.bluetoothMac ((b.serialStage saved).addBluetooth found)
      (b.bluetoothStage saved)

/-- The records of the USB stage. -/
def usbJournal (b : Builder) (saved : SavedPort) : List Log.Record :=
  let found := b.sources.usbSerial.found
  b.sources.usbSerial.journal ++ found.map (Discovery.journal fun d => d.usbItem.label)
    ++ placeholderRecord .usbSerial saved.path ((b.bluetoothStage saved).addUsb found)
      (b.usbStage saved)

/-- The record of the finished roster. -/
def resultRecord (b : Builder) (saved : SavedPort) : Log.Record :=
  let r := b.build saved
  let selected := match r.selected? with
    | some e => "Some(" ++ Text.inQuotes e.id.text ++ ")"
    | none => "None"
  ⟨.debug, .builder, "Built port registry: " ++ Text.decimalText r.size ++ " entries ("
    ++ Text.decimalText b.table.size ++ " static), selected " ++ selected⟩

/-- The records of a build. -/
def journal (b : Builder) (saved : SavedPort) : List Log.Record :=
  b.serialJournal saved ++ b.bluetoothJournal saved ++ b.usbJournal saved
    ++ b.sources.uart.journal ++ [b.resultRecord saved]

end Builder

end PortRoster
