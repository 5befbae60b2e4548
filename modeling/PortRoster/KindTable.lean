import PortRoster.Kind
import PortRoster.Capability

/-! # Fixed kinds

The kinds that need no discovery, each with its label and the capabilities that it needs, and the
table of those that one host offers.

* `carriesValue_of_mem_all`: a fixed kind carries no value.
* `KindTable.disabled_first`: every table starts with the kind `disabled`.
* `KindTable.nodup_kinds`: a table holds every kind at most once. -/

namespace PortRoster

/-- A kind that is offered without discovery. -/
structure FixedKind where
  kind : Kind
  /-- The label in the base language. -/
  label : String
  /-- The capabilities without which the kind is not offered. -/
  requires : List Capability
  deriving DecidableEq, Repr

namespace FixedKind

/-- All fixed kinds, in the order in which they are shown. -/
def all : List FixedKind :=
  [⟨.disabled, "Disabled", []⟩,
   ⟨.internal, "Built-in GPS & sensors", [.internalSensors]⟩,
   ⟨.rfcommServer, "Bluetooth server", [.bluetooth]⟩,
   ⟨.droidSoarV2, "DroidSoar V2", [.bluetooth]⟩,
   ⟨.gliderLink, "GliderLink traffic receiver", [.bluetooth]⟩,
   ⟨.nunchuck, "IOIO switches and Nunchuk", [.ioio, .debugSensors]⟩,
   ⟨.i2cPressureSensor, "IOIO I²C pressure sensor", [.ioio]⟩,
   ⟨.ioioVoltage, "IOIO voltage sensor", [.ioio]⟩,
   ⟨.tcpClient, "TCP client", []⟩,
   ⟨.tcpListener, "TCP port", []⟩,
   ⟨.udpListener, "UDP port", []⟩]

theorem carriesValue_of_mem_all {s : FixedKind} (h : s ∈ all) : s.kind.carriesValue = false := by
  have : ∀ s ∈ all, s.kind.carriesValue = false := by decide
  exact this s h

theorem nodup_all : (all.map FixedKind.kind).Nodup := by decide

/-- The fixed kinds for which a host has all that they need. -/
def offered (caps : Capabilities) : List FixedKind := all.filter fun s => caps.hasAll s.requires

end FixedKind

/-- The fixed kinds that one host offers. -/
structure KindTable where
  kinds : List FixedKind
  /-- The kinds are those that some set of capabilities allows. -/
  exists_caps : ∃ caps, kinds = FixedKind.offered caps

namespace KindTable

@[ext]
theorem ext {s t : KindTable} (h : s.kinds = t.kinds) : s = t := by
  cases s; cases t; cases h; rfl

/-- The table of a host with these capabilities. -/
def forCapabilities (caps : Capabilities) : KindTable := ⟨FixedKind.offered caps, caps, rfl⟩

/-- The table of a host without capabilities. -/
def basic : KindTable := forCapabilities .none

/-- The number of kinds in the table. -/
def size (t : KindTable) : Nat := t.kinds.length

/-- The fixed kind at a position. -/
def get? (t : KindTable) (offset : Nat) : Option FixedKind := t.kinds[offset]?

/-- The fixed kind with a given kind. -/
def find? (t : KindTable) (kind : Kind) : Option FixedKind := t.kinds.find? (·.kind == kind)

/-- The table offers the kind. -/
def offers (t : KindTable) (kind : Kind) : Bool := t.kinds.any (·.kind == kind)

theorem kinds_sublist (t : KindTable) : t.kinds.Sublist FixedKind.all := by
  obtain ⟨caps, h⟩ := t.exists_caps
  rw [h]
  exact List.filter_sublist

theorem size_le (t : KindTable) : t.size ≤ 11 := t.kinds_sublist.length_le

theorem carriesValue_of_mem {t : KindTable} {s : FixedKind} (h : s ∈ t.kinds) :
    s.kind.carriesValue = false :=
  FixedKind.carriesValue_of_mem_all (t.kinds_sublist.subset h)

/-- **A table holds every kind at most once.** -/
theorem nodup_kinds (t : KindTable) : (t.kinds.map FixedKind.kind).Nodup :=
  (t.kinds_sublist.map _).nodup FixedKind.nodup_all

/-- **Every table starts with the kind `disabled`.** -/
theorem disabled_first (t : KindTable) : t.kinds.head? = some ⟨.disabled, "Disabled", []⟩ := by
  obtain ⟨caps, h⟩ := t.exists_caps
  rw [h]
  rfl

end KindTable

end PortRoster
