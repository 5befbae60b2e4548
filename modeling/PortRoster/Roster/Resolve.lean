import PortRoster.Roster.Basic

/-! # Words from a list widget

What a word that a list widget reports stands for in a roster: a kind, an entry, a saved port. The
word is a position below the size of the table, and otherwise an identifier.

* `toSaved_eq_none_iff`: a word has a saved port when it has an entry. -/

namespace PortRoster.Roster

/-- What the word stands for. -/
def formOf (r : Roster) (raw : UInt32) : RawForm := .classify raw r.table.size

/-- The kind that the word stands for. An identifier of no known kind counts as `disabled`. -/
def resolveKind (r : Roster) (raw : UInt32) : Kind :=
  match r.formOf raw with
  | .offset i => ((r.table.get? i).map FixedKind.kind).getD .disabled
  | .encoded raw => (kindOf? raw).getD .disabled

/-- The word is an identifier of no known kind. -/
def unknownKind (r : Roster) (raw : UInt32) : Bool :=
  match r.formOf raw with
  | .offset _ => false
  | .encoded raw => (kindOf? raw).isNone

/-- The entry that the word stands for. -/
def lookup (r : Roster) (raw : UInt32) : Option Entry :=
  match r.formOf raw with
  | .offset i => r.entries[i]?
  | .encoded raw => r.entries.find? fun e => e.id.raw = raw

/-- The saved port for the entry that the word stands for. -/
def toSaved (r : Roster) (raw : UInt32) : Option SavedPort :=
  (r.lookup raw).map fun e => .ofValue (r.resolveKind raw) e.value

/-- **A word has a saved port when it has an entry.** -/
theorem toSaved_eq_none_iff {r : Roster} {raw : UInt32} :
    r.toSaved raw = none ↔ r.lookup raw = none := by
  simp [toSaved]

end PortRoster.Roster
