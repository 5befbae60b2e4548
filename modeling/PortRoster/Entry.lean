import PortRoster.PortId

/-! # Entries

What a list shows for one port. An *item* is the port with its label and help text; an *entry* is an
item that has been given an identifier and a place in a list.

* `Entry.value_ofItem`: the value of an entry is in canonical spelling. -/

namespace PortRoster

/-- A port as it is shown. -/
structure Item where
  kind : Kind
  /-- What tells the port from others of its kind; empty for fixed kinds. -/
  value : String
  label : String
  help : Option String
  deriving DecidableEq, Repr

/-- An item in a list. -/
structure Entry extends Item where
  id : PortId
  selected : Bool

namespace Entry

/-- The entry for an item that is added at a position. -/
def ofItem (item : Item) (position : Nat) : Entry where
  kind := item.kind
  value := item.kind.key.canonical item.value
  label := item.label
  help := item.help
  id := .encode item.kind position
  selected := false

/-- The entries for items that are added one after the other, the first of them at `start`. -/
def ofItems (start : Nat) (items : List Item) : List Entry :=
  items.mapIdx fun i item => ofItem item (start + i)

/-- The entry is for the port with this kind and value. Kinds that carry no value are told apart by
the kind, all others by what identifies them and by the canonical value. -/
def addresses (kind : Kind) (value : String) (e : Entry) : Bool :=
  match kind.key with
  | .none => e.kind == kind
  | key => e.kind.key == key && e.value == key.canonical value

/-- **The value of an entry is in canonical spelling.** -/
theorem value_ofItem (item : Item) (position : Nat) :
    (ofItem item position).kind.key.canonical (ofItem item position).value =
      (ofItem item position).value :=
  ValueKey.canonical_canonical _ _

theorem length_ofItems (start : Nat) (items : List Item) :
    (ofItems start items).length = items.length := by
  simp [ofItems]

end Entry

end PortRoster
