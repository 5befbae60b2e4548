import PortRoster.Roster.Basic

/-! # Operations on a roster

Selecting by identifier, and finding a saved port again: the first entry for the port is selected,
and a port that is not in the list gets an entry of its own, a *placeholder*.

* `run_append`: a run of operations may be cut anywhere. -/

namespace PortRoster

/-- What is shown for a port that is not present: the given name, or else its value. -/
def placeholder (kind : Kind) (value : String) (label : Option String) : Item where
  kind
  value := kind.key.canonical value
  label := label.getD (kind.key.canonical value)
  help := none

namespace Roster

/-- Selects the entry for a port, and returns its identifier. A placeholder with the given label is
added where there is none. -/
def reconcileLabelled (r : Roster) (kind : Kind) (value : String) (label : Option String) :
    Roster × PortId :=
  match r.position? (Entry.addresses kind value) with
  | some i => r.selectIndex i
  | none => (r.pushSelected (placeholder kind value label), .encode kind r.size)

/-- Selects the entry for a port; the label of a placeholder is its value. -/
def reconcile (r : Roster) (kind : Kind) (value : String) : Roster × PortId :=
  r.reconcileLabelled kind value none

/-- Selects the entry for a saved port, and returns its identifier, if there is one. Only ports with
a path or an address get a placeholder. -/
def selectSaved (r : Roster) (saved : SavedPort) : Roster × Option PortId :=
  match saved.kind.key with
  | .none => r.selectFirst fun e => e.kind == saved.kind
  | .path =>
    let (after, id) := r.reconcile saved.kind saved.path
    (after, some id)
  | .bluetoothMac =>
    let (after, id) := r.reconcile saved.kind saved.bluetoothMac
    (after, some id)
  | .uartIndex => r.selectFirst fun e => e.kind == .ioioUart && e.value == saved.uartText

end Roster

/-- A call that may change a roster. -/
inductive Operation where
  | select (id : PortId)
  | reconcile (kind : Kind) (value : String)
  | reconcileLabelled (kind : Kind) (value : String) (label : Option String)
  | selectSaved (saved : SavedPort)

namespace Operation

/-- The roster after the call, and the identifier of the entry that the call selects. A call that
reports none fails. -/
def call : Operation → Roster → Roster × Option PortId
  | select id, r =>
    let (after, found) := r.select id
    (after, if found then some id else none)
  | reconcile kind value, r =>
    let (after, id) := r.reconcile kind value
    (after, some id)
  | reconcileLabelled kind value label, r =>
    let (after, id) := r.reconcileLabelled kind value label
    (after, some id)
  | selectSaved saved, r => r.selectSaved saved

/-- The roster after the call. -/
def perform (op : Operation) (r : Roster) : Roster := (op.call r).1

end Operation

namespace Roster

/-- The roster after a sequence of calls. -/
def run (r : Roster) (ops : List Operation) : Roster := ops.foldl (fun r op => op.perform r) r

/-- **A run of operations may be cut anywhere.** -/
theorem run_append (r : Roster) (ops more : List Operation) :
    r.run (ops ++ more) = (r.run ops).run more :=
  List.foldl_append

end Roster

end PortRoster
