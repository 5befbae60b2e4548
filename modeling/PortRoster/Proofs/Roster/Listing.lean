import Mathlib.Tactic.SplitIfs
import PortRoster.Proofs.Roster.Change
import PortRoster.Proofs.Text.NaturalOrder

/-! # The list that a build gives

The stages of a build write one behind the other into one list, and one of them sorts. What comes of
it is simple: the fixed kinds, then family by family what the sources have found, the serial ports in
the natural order of their labels, and at most one placeholder, directly behind the family that the
saved port belongs to. A placeholder stands there when no item before it is for the same port.

* `isStableSort_mergeSort`: putting in order is a stable sort.
* `items_build`: the items of a build, stage by stage.
* `exists_items_build`: the same, with the sort and the placeholder described by what they do. -/

namespace PortRoster

/-! ### Stable sorting -/

/-- The second list holds the elements of the first in ascending order, and elements that need not
be exchanged stay in the order they had. -/
structure IsStableSort {α : Type} (le : α → α → Bool) (l sorted : List α) : Prop where
  perm : sorted.Perm l
  ascending : sorted.Pairwise (fun a b => le a b)
  stable : ∀ c : List α, c.Sublist l → c.Pairwise (fun a b => le a b) → c.Sublist sorted

/-- The natural order of the labels of two items. -/
def Item.labelLe (a b : Item) : Bool := Text.naturalLe a.label b.label

/-- **Putting items in the natural order of their labels is a stable sort.** -/
theorem isStableSort_mergeSort (l : List Item) :
    IsStableSort Item.labelLe l (l.mergeSort Item.labelLe) := by
  have trans : ∀ a b c : Item, a.labelLe b → b.labelLe c → a.labelLe c :=
    fun _ _ _ hab hbc => Text.naturalLe_trans hab hbc
  have total : ∀ a b : Item, a.labelLe b || b.labelLe a := fun _ _ => Text.naturalLe_total _ _
  exact ⟨List.mergeSort_perm _ _, List.pairwise_mergeSort trans total l,
    fun c hc hle => List.sublist_mergeSort trans total hle hc⟩

/-! ### Items of the stages -/

/-- A discovery as its entry shows it: with the value in canonical spelling, and with the value for
a label that is not given. -/
def Discovery.shown (d : Discovery) : Item :=
  ⟨d.kind, d.kind.key.canonical d.value, d.label.getD d.value, d.help⟩

/-- A discovered adapter as its entry shows it. -/
def Discovery.shownUsb (d : Discovery) : Item :=
  ⟨d.kind, d.kind.key.canonical d.value, "USB: " ++ d.label.getD d.value, d.help⟩

/-- The placeholder for a port, if no item before it is for the port. -/
def Item.missingFrom (p : Item) (before : List Item) : List Item :=
  if ∃ i ∈ before, i.SamePort p then [] else [p]

theorem Item.mem_missingFrom {p q : Item} {before : List Item} :
    q ∈ p.missingFrom before ↔ q = p ∧ ∀ i ∈ before, ¬ i.SamePort p := by
  unfold missingFrom
  split_ifs with h
  · obtain ⟨i, hi, hs⟩ := h
    exact ⟨fun hq => absurd hq List.not_mem_nil, fun hq => absurd hs (hq.2 i hi)⟩
  · rw [List.mem_singleton]
    exact ⟨fun hq => ⟨hq, fun i hi hs => h ⟨i, hi, hs⟩⟩, And.left⟩

theorem Item.mem_ite_missingFrom {w : Prop} [Decidable w] {p q : Item} {before : List Item} :
    q ∈ (if w then p.missingFrom before else []) ↔
      w ∧ q = p ∧ ∀ i ∈ before, ¬ i.SamePort p := by
  split_ifs with h
  · simp [mem_missingFrom, h]
  · simp [h]

theorem Item.length_missingFrom_le (p : Item) (before : List Item) :
    (p.missingFrom before).length ≤ 1 := by
  unfold missingFrom
  split_ifs <;> simp

theorem FixedKind.canonical_item (s : FixedKind) : s.item.canonical = s.item := by
  have h (k : ValueKey) : k.canonical "" = "" := by cases k <;> rfl
  unfold Item.canonical item
  rw [h]

theorem canonical_placeholder (kind : Kind) (value : String) (label : Option String) :
    (placeholder kind value label).canonical = placeholder kind value label := by
  unfold Item.canonical placeholder
  rw [ValueKey.canonical_canonical]

namespace Roster

variable (r : Roster)

theorem items_addFixed : r.addFixed.items = r.items ++ r.table.kinds.map FixedKind.item := by
  rw [addFixed, items_pushAll, List.map_map]
  congr 1
  exact List.map_congr_left fun s _ => s.canonical_item

theorem items_addSerial (found : List Discovery) :
    (r.addSerial found).items =
      r.items ++ (found.map Discovery.shown).mergeSort Item.labelLe := by
  have h : ((r.newEntries (found.map Discovery.item)).mergeSort Entry.labelLe).map Entry.toItem =
      ((r.newEntries (found.map Discovery.item)).map Entry.toItem).mergeSort Item.labelLe :=
    List.map_mergeSort fun _ _ _ _ => rfl
  rw [addSerial, items_append, h, newEntries, Entry.map_toItem_ofItems, List.map_map]
  rfl

theorem items_addBluetooth (found : List Discovery) :
    (r.addBluetooth found).items = r.items ++ found.map Discovery.shown := by
  rw [addBluetooth, items_pushAll, List.map_map]
  rfl

theorem items_addUsb (found : List Discovery) :
    (r.addUsb found).items = r.items ++ found.map Discovery.shownUsb := by
  rw [addUsb, items_pushAll, List.map_map]
  rfl

theorem items_selectFirst (p : Entry → Bool) :
    (r.selectFirst p).1.items = r.items := by
  rcases selectFirst_cases (r := r) p with ⟨i, -, -, h⟩ | ⟨-, h⟩
  · rw [h]; exact r.items_selectAt i
  · rw [h]

theorem items_settleFixed (saved : SavedPort) : (r.settleFixed saved).items = r.items := by
  unfold settleFixed
  split_ifs
  · rfl
  · exact r.items_selectFirst _

theorem items_reconcileLabelled {kind : Kind} (hk : kind.carriesValue) (value : String)
    (label : Option String) :
    (r.reconcileLabelled kind value label).1.items =
      r.items ++ (placeholder kind value label).missingFrom r.items := by
  have hp := Entry.addresses_iff_samePort hk value label
  unfold Item.missingFrom
  rcases reconcileLabelled_cases (r := r) kind value label with ⟨i, hi, -, h⟩ | ⟨hn, h⟩
  · have hex : ∃ j ∈ r.items, j.SamePort (placeholder kind value label) :=
      ⟨_, List.mem_map_of_mem (r.entryAt_mem i), (hp _).1 hi⟩
    rw [h, if_pos hex, List.append_nil]
    exact r.items_selectAt i
  · have hne : ¬ ∃ j ∈ r.items, j.SamePort (placeholder kind value label) := by
      rintro ⟨j, hj, hs⟩
      obtain ⟨e, he, rfl⟩ := List.mem_map.1 hj
      exact hn e he ((hp e).2 hs)
    rw [h, if_neg hne]
    show (r.pushSelected _).items = _
    rw [items_pushSelected, canonical_placeholder]

theorem items_settleSerial (saved : SavedPort) :
    (r.settleSerial saved).items = r.items ++
      if saved.kind = .serial then (placeholder .serial saved.path none).missingFrom r.items
      else [] := by
  unfold settleSerial
  split_ifs
  · exact r.items_reconcileLabelled rfl _ _
  · exact (List.append_nil _).symm

theorem items_settleBluetooth (nameFor : String → Option String) (saved : SavedPort) :
    (r.settleBluetooth nameFor saved).items = r.items ++
      if saved.usesMac ∧ saved.bluetoothMac ≠ "" then
        (placeholder saved.kind saved.bluetoothMac (nameFor saved.bluetoothMac)).missingFrom r.items
      else [] := by
  unfold settleBluetooth
  split_ifs with h
  · refine r.items_reconcileLabelled ?_ _ _
    have hm : saved.kind.key = .bluetoothMac := by simpa [SavedPort.usesMac, Kind.usesMac] using h.1
    simp [Kind.carriesValue, hm]
  · exact (List.append_nil _).symm

theorem items_settleUsb (saved : SavedPort) :
    (r.settleUsb saved).items = r.items ++
      if saved.kind = .usbSerial ∧ saved.path ≠ "" then
        (placeholder .usbSerial saved.path none).missingFrom r.items
      else [] := by
  unfold settleUsb
  split_ifs
  · exact r.items_reconcileLabelled rfl _ _
  · exact (List.append_nil _).symm

theorem items_addUart (found : List Discovery) (saved : SavedPort) :
    (r.addUart found saved).items = r.items ++ found.map Discovery.shown := by
  have hl : (r.pushAll (found.map Discovery.item)).items = r.items ++ found.map Discovery.shown := by
    rw [items_pushAll, List.map_map]
    rfl
  unfold addUart
  cases r.savedLine? found saved with
  | none => exact hl
  | some id =>
    simp only [select]
    cases (r.pushAll (found.map Discovery.item)).indexOf? id with
    | none => exact hl
    | some i => exact (items_selectAt _ i).trans hl

end Roster

/-! ### Items of a build -/

namespace Builder

variable (b : Builder) (saved : SavedPort)

/-- The items of the fixed kinds. -/
def fixedItems : List Item := b.table.kinds.map FixedKind.item

/-- The items of the serial ports, in the natural order of their labels. -/
def serialItems : List Item :=
  (b.sources.serial.found.map Discovery.shown).mergeSort Item.labelLe

/-- The items of the Bluetooth devices. -/
def bluetoothItems : List Item := b.sources.bluetooth.found.map Discovery.shown

/-- The items of the USB-serial adapters. -/
def usbItems : List Item := b.sources.usbSerial.found.map Discovery.shownUsb

/-- The items of the UART lines. -/
def uartItems : List Item := b.sources.uart.found.map Discovery.shown

/-- The placeholder behind the serial ports, if there is one. -/
def serialGap : List Item :=
  if saved.kind = .serial then
    (placeholder .serial saved.path none).missingFrom (b.fixedItems ++ b.serialItems)
  else []

/-- The placeholder behind the Bluetooth devices, if there is one. -/
def bluetoothGap : List Item :=
  if saved.usesMac ∧ saved.bluetoothMac ≠ "" then
    (placeholder saved.kind saved.bluetoothMac
        (b.sources.bluetooth.nameFor saved.bluetoothMac)).missingFrom
      (b.fixedItems ++ b.serialItems ++ b.serialGap saved ++ b.bluetoothItems)
  else []

/-- The placeholder behind the USB-serial adapters, if there is one. -/
def usbGap : List Item :=
  if saved.kind = .usbSerial ∧ saved.path ≠ "" then
    (placeholder .usbSerial saved.path none).missingFrom
      (b.fixedItems ++ b.serialItems ++ b.serialGap saved ++ b.bluetoothItems ++
        b.bluetoothGap saved ++ b.usbItems)
  else []

theorem items_fixedStage : (b.fixedStage saved).items = b.fixedItems := by
  rw [fixedStage, Roster.items_settleFixed, Roster.items_addFixed]
  rfl

theorem items_serialStage :
    (b.serialStage saved).items = b.fixedItems ++ b.serialItems ++ b.serialGap saved := by
  rw [serialStage, Roster.items_settleSerial, Roster.items_addSerial, items_fixedStage]
  rfl

theorem items_bluetoothStage :
    (b.bluetoothStage saved).items = b.fixedItems ++ b.serialItems ++ b.serialGap saved ++
      b.bluetoothItems ++ b.bluetoothGap saved := by
  rw [bluetoothStage, Roster.items_settleBluetooth, Roster.items_addBluetooth, items_serialStage]
  rfl

theorem items_usbStage :
    (b.usbStage saved).items = b.fixedItems ++ b.serialItems ++ b.serialGap saved ++
      b.bluetoothItems ++ b.bluetoothGap saved ++ b.usbItems ++ b.usbGap saved := by
  rw [usbStage, Roster.items_settleUsb, Roster.items_addUsb, items_bluetoothStage]
  rfl

/-- **The items of a build, stage by stage.** -/
theorem items_build :
    (b.build saved).items = b.fixedItems ++ b.serialItems ++ b.serialGap saved ++
      b.bluetoothItems ++ b.bluetoothGap saved ++ b.usbItems ++ b.usbGap saved ++
      b.uartItems := by
  rw [build, Roster.items_addUart, items_usbStage]
  rfl

/-- The saved port belongs to one family, so there is one placeholder at most. -/
theorem length_gaps_le :
    (b.serialGap saved ++ b.bluetoothGap saved ++ b.usbGap saved).length ≤ 1 := by
  have hmac (hm : saved.usesMac) : saved.kind ≠ .serial ∧ saved.kind ≠ .usbSerial := by
    constructor <;> intro h <;> simp [SavedPort.usesMac, h, Kind.usesMac, Kind.key] at hm
  unfold serialGap bluetoothGap usbGap
  by_cases hs : saved.kind = .serial
  · have hm : ¬ (saved.usesMac ∧ saved.bluetoothMac ≠ "") := fun h => (hmac h.1).1 hs
    have hu : ¬ (saved.kind = .usbSerial ∧ saved.path ≠ "") := by
      rintro ⟨h, -⟩; rw [hs] at h; cases h
    rw [if_pos hs, if_neg hm, if_neg hu, List.append_nil, List.append_nil]
    exact Item.length_missingFrom_le _ _
  · by_cases hm : saved.usesMac ∧ saved.bluetoothMac ≠ ""
    · have hu : ¬ (saved.kind = .usbSerial ∧ saved.path ≠ "") := fun h => (hmac hm.1).2 h.1
      rw [if_neg hs, if_pos hm, if_neg hu, List.nil_append, List.append_nil]
      exact Item.length_missingFrom_le _ _
    · rw [if_neg hs, if_neg hm, List.nil_append, List.nil_append]
      split_ifs
      · exact Item.length_missingFrom_le _ _
      · exact Nat.zero_le _

theorem size_build_le :
    (b.build saved).size ≤ b.table.size + b.sources.serial.found.length +
      b.sources.bluetooth.found.length + b.sources.usbSerial.found.length +
      b.sources.uart.found.length + 1 := by
  have hg := b.length_gaps_le saved
  rw [← Roster.length_items, items_build]
  simp only [List.length_append] at hg ⊢
  simp only [fixedItems, serialItems, bluetoothItems, usbItems, uartItems, List.length_map,
    List.length_mergeSort, KindTable.size]
  omega

/-- **A build loses, doubles and mixes nothing.** Its items are the fixed kinds in the order of the
table, the serial ports sorted by their labels, and the finds of the other families as reported,
with at most one placeholder. That one stands behind the family of the saved port, when no item
before it is for the port. -/
theorem exists_items_build :
    ∃ serial p₁ p₂ p₃ : List Item,
      IsStableSort Item.labelLe (b.sources.serial.found.map Discovery.shown) serial ∧
      (b.build saved).items = b.table.kinds.map FixedKind.item ++ serial ++ p₁ ++
        b.sources.bluetooth.found.map Discovery.shown ++ p₂ ++
        b.sources.usbSerial.found.map Discovery.shownUsb ++ p₃ ++
        b.sources.uart.found.map Discovery.shown ∧
      (p₁ ++ p₂ ++ p₃).length ≤ 1 ∧
      (∀ p, p ∈ p₁ ↔ saved.kind = .serial ∧ p = placeholder .serial saved.path none ∧
        ∀ i ∈ b.table.kinds.map FixedKind.item ++ serial, ¬ i.SamePort p) ∧
      (∀ p, p ∈ p₂ ↔ (saved.usesMac ∧ saved.bluetoothMac ≠ "") ∧
        p = placeholder saved.kind saved.bluetoothMac
          (b.sources.bluetooth.nameFor saved.bluetoothMac) ∧
        ∀ i ∈ b.table.kinds.map FixedKind.item ++ serial ++ p₁ ++
          b.sources.bluetooth.found.map Discovery.shown, ¬ i.SamePort p) ∧
      ∀ p, p ∈ p₃ ↔ (saved.kind = .usbSerial ∧ saved.path ≠ "") ∧
        p = placeholder .usbSerial saved.path none ∧
        ∀ i ∈ b.table.kinds.map FixedKind.item ++ serial ++ p₁ ++
          b.sources.bluetooth.found.map Discovery.shown ++ p₂ ++
          b.sources.usbSerial.found.map Discovery.shownUsb, ¬ i.SamePort p := by
  refine ⟨b.serialItems, b.serialGap saved, b.bluetoothGap saved, b.usbGap saved,
    isStableSort_mergeSort _, b.items_build saved, b.length_gaps_le saved, ?_, ?_, ?_⟩
  · intro p
    rw [serialGap, Item.mem_ite_missingFrom]
    constructor <;> rintro ⟨hw, rfl, h⟩ <;> exact ⟨hw, rfl, h⟩
  · intro p
    rw [bluetoothGap, Item.mem_ite_missingFrom]
    constructor <;> rintro ⟨hw, rfl, h⟩ <;> exact ⟨hw, rfl, h⟩
  · intro p
    rw [usbGap, Item.mem_ite_missingFrom]
    constructor <;> rintro ⟨hw, rfl, h⟩ <;> exact ⟨hw, rfl, h⟩

end Builder

end PortRoster
