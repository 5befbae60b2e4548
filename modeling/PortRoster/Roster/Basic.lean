import PortRoster.Entry
import PortRoster.KindTable
import PortRoster.SavedPort

/-! # Rosters

A roster is a list of ports together with the table of fixed kinds it was started from. Entries are
only ever added at the end, and at most one of them is selected.

The serial number of an entry is the number of entries before it at the time it was added, in
16 bits. So identifiers repeat in a list of more than 65536 entries, and whatever looks an
identifier up takes the first entry that has it.

* `size_pushAll`, `size_selectAt`: adding adds as many entries as items are given, and selecting
  adds none. -/

namespace PortRoster

/-- A list of ports over a table of fixed kinds. -/
structure Roster where
  table : KindTable
  entries : List Entry

namespace Roster

/-- The empty list over a table. -/
def empty (table : KindTable) : Roster := ⟨table, []⟩

/-- The number of entries. -/
def size (r : Roster) : Nat := r.entries.length

/-- The entries that a list gives to new items, by their places after its end. -/
def newEntries (r : Roster) (items : List Item) : List Entry := Entry.ofItems r.size items

/-- Adds entries at the end. -/
def append (r : Roster) (es : List Entry) : Roster := { r with entries := r.entries ++ es }

/-- Adds items at the end. -/
def pushAll (r : Roster) (items : List Item) : Roster := r.append (r.newEntries items)

/-- Adds one item at the end. -/
def push (r : Roster) (item : Item) : Roster := r.append [.ofItem item r.size]

/-- Selects the entry at a position and no other. -/
def selectAt (r : Roster) (i : Fin r.size) : Roster :=
  { r with entries := r.entries.mapIdx fun j e => { e with selected := decide (j = i) } }

/-- The position of the first entry with a property. -/
def position? (r : Roster) (p : Entry → Bool) : Option (Fin r.size) := r.entries.findFinIdx? p

/-- The position of an identifier. -/
def indexOf? (r : Roster) (id : PortId) : Option (Fin r.size) := r.position? fun e => e.id = id

/-- The entry with an identifier. -/
def get? (r : Roster) (id : PortId) : Option Entry := r.entries.find? fun e => e.id = id

/-- The selected entry. -/
def selected? (r : Roster) : Option Entry := r.entries.find? (·.selected)

/-- The entry at a position. -/
def entryAt (r : Roster) (i : Fin r.size) : Entry := r.entries.get i

/-- Selects the entry at a position, and returns its identifier. -/
def selectIndex (r : Roster) (i : Fin r.size) : Roster × PortId := (r.selectAt i, (r.entryAt i).id)

/-- Selects the entry with an identifier, and says whether there is one. -/
def select (r : Roster) (id : PortId) : Roster × Bool :=
  match r.indexOf? id with
  | some i => ((r.selectIndex i).1, true)
  | none => (r, false)

/-- Selects the first entry with a property, and returns its identifier, if there is one. -/
def selectFirst (r : Roster) (p : Entry → Bool) : Roster × Option PortId :=
  match r.position? p with
  | some i => ((r.selectIndex i).1, some (r.selectIndex i).2)
  | none => (r, none)

theorem size_pushAll (r : Roster) (items : List Item) :
    (r.pushAll items).size = r.size + items.length := by
  simp [pushAll, append, size, newEntries, Entry.length_ofItems]

theorem size_push (r : Roster) (item : Item) : (r.push item).size = r.size + 1 := by
  simp [push, append, size]

theorem size_selectAt (r : Roster) (i : Fin r.size) : (r.selectAt i).size = r.size := by
  simp [selectAt, size]

/-- Adds an item at the end and selects it. -/
def pushSelected (r : Roster) (item : Item) : Roster :=
  (r.push item).selectAt ⟨r.size, by rw [size_push]; exact Nat.lt_succ_self _⟩

end Roster

end PortRoster
