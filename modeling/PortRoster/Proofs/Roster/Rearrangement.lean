import PortRoster.Proofs.Roster.Selection

/-! # The order in which ports are found

A source may find its ports in another order each time. As long as no two ports of a family have one
value, this does not matter to the selection: a search among the items of a family has at most one
hit, which it has in every order. Identifiers do depend on the order, and so do positions, except
those of serial ports: these are put in order, and if their labels differ, there is only one order
to put them in.

* `find?_keyed_eq_of_perm`: a search with at most one hit has the same hit in every order.
* `Rearranged.serialItems_eq`: there is one way to put ports with different labels in order.
* `build_rearranged`: what does not depend on the order in which ports are found. -/

namespace PortRoster

/-! ### Searching in another order -/

/-- **A search for a value that no two items share has the same hit in every order.** -/
theorem find?_keyed_eq_of_perm {l l' : List Item} (h : l'.Perm l) (hn : (l.map Item.value).Nodup)
    (key : ValueKey) (value : String) :
    l'.find? (Item.keyed key value) = l.find? (Item.keyed key value) := by
  cases hfind : l.find? (Item.keyed key value) with
  | none =>
    rw [List.find?_eq_none] at hfind ⊢
    exact fun i hi => hfind i (h.mem_iff.1 hi)
  | some i =>
    have hi := List.mem_of_find?_eq_some hfind
    have hkeyed := List.find?_some hfind
    cases hfind' : l'.find? (Item.keyed key value) with
    | none => exact absurd hkeyed (List.find?_eq_none.1 hfind' i (h.mem_iff.2 hi))
    | some j =>
      have hj := h.mem_iff.1 (List.mem_of_find?_eq_some hfind')
      have hvalue : j.value = i.value :=
        (Item.keyed_iff.1 (List.find?_some hfind')).2.trans (Item.keyed_iff.1 hkeyed).2.symm
      rw [List.inj_on_of_nodup_map hn hj hi hvalue]

theorem KindTable.exists_get?_of_offers {t : KindTable} {kind : Kind} (h : t.offers kind) :
    ∃ i s, t.get? i = some s ∧ s.kind = kind := by
  obtain ⟨s, hs, hk⟩ := List.any_eq_true.1 h
  obtain ⟨i, hi⟩ := List.getElem?_of_mem hs
  exact ⟨i, s, hi, eq_of_beq hk⟩

namespace Roster

variable {r r' : Roster} {i : Nat} {x y : Item}

/-- What a list shows: the items, and which of them is selected. -/
def rows (r : Roster) : List (Item × Bool) := r.entries.map fun e => (e.toItem, e.selected)

theorem Selects.map_marked (h : r.Selects i x) : r.marked.map Entry.toItem = [x] := by
  obtain ⟨s, hs, -, hitem⟩ := h.exists_marked
  rw [hs, List.map_singleton, hitem]

theorem Selects.rows_eq (h : r.Selects i x) :
    r.rows = r.items.mapIdx fun j item => (item, decide (j = i)) := by
  refine List.ext_getElem (by simp [rows, items]) fun j hj _ => ?_
  have hj' : j < r.entries.length := by simpa [rows] using hj
  have hmark : r.entries[j].selected = decide (j = i) := by
    rw [Bool.eq_iff_iff, decide_eq_true_iff]
    exact h.selected j _ (List.getElem?_eq_getElem hj')
  simp [rows, items, hmark]

theorem rows_of_marked_eq_nil (h : r.marked = []) :
    r.rows = r.items.map fun item => (item, false) := by
  rw [rows, items, List.map_map]
  refine List.map_congr_left fun e he => ?_
  have hmark : e.selected = false := by simpa using List.filter_eq_nil_iff.1 h e he
  rw [hmark]
  rfl

end Roster

namespace Builder

open Roster

/-- The hosts have one table, they know the same names, and their sources find the same ports, each
in some order. -/
structure Rearranged (b b' : Builder) : Prop where
  table : b'.table = b.table
  found : ∀ family, (b'.sources.get family).found.Perm (b.sources.get family).found
  nameFor : b'.sources.bluetooth.nameFor = b.sources.bluetooth.nameFor

/-- No two ports of a family have one value, in canonical spelling. -/
def Distinct (b : Builder) : Prop :=
  ∀ family, ((b.sources.get family).found.map fun d => d.shown.value).Nodup

variable {b b' : Builder} {c : SavedPort}

/-! ### Values that do not repeat -/

section Distinct
variable (hd : b.Distinct)
include hd

theorem Distinct.nodup_serialItems : (b.serialItems.map Item.value).Nodup := by
  have hperm : b.serialItems.Perm (b.sources.serial.found.map Discovery.shown) :=
    List.mergeSort_perm _ _
  rw [(hperm.map Item.value).nodup_iff, List.map_map]
  exact hd .serial

theorem Distinct.nodup_bluetoothItems : (b.bluetoothItems.map Item.value).Nodup := by
  rw [bluetoothItems, List.map_map]
  exact hd .bluetooth

theorem Distinct.nodup_usbItems : (b.usbItems.map Item.value).Nodup := by
  rw [usbItems, List.map_map]
  exact hd .usbSerial

theorem Distinct.nodup_uartItems : (b.uartItems.map Item.value).Nodup := by
  rw [uartItems, List.map_map]
  exact hd .uart

theorem Distinct.eq_of_uartText {d d' : Discovery} (hmem : d ∈ b.sources.uart.found)
    (hmem' : d' ∈ b.sources.uart.found) (h : d.value = c.uartText) (h' : d'.value = c.uartText) :
    d = d' := by
  refine List.inj_on_of_nodup_map (hd .uart) hmem hmem' ?_
  show d.kind.key.canonical d.value = d'.kind.key.canonical d'.value
  rw [h, h', SavedPort.uartText, ValueKey.canonical_decimalText, ValueKey.canonical_decimalText]

end Distinct

/-! ### The selection in another order -/

section Rearranged
variable (h : Rearranged b b')
include h

theorem Rearranged.fixedItems_eq : b'.fixedItems = b.fixedItems := by
  unfold fixedItems
  rw [h.table]

theorem Rearranged.perm_serialItems : b'.serialItems.Perm b.serialItems :=
  (List.mergeSort_perm _ _).trans <|
    ((h.found .serial).map Discovery.shown).trans (List.mergeSort_perm _ _).symm

theorem Rearranged.perm_bluetoothItems : b'.bluetoothItems.Perm b.bluetoothItems :=
  (h.found .bluetooth).map Discovery.shown

theorem Rearranged.perm_usbItems : b'.usbItems.Perm b.usbItems :=
  (h.found .usbSerial).map Discovery.shownUsb

theorem Rearranged.perm_uartItems : b'.uartItems.Perm b.uartItems :=
  (h.found .uart).map Discovery.shown

theorem Rearranged.length_given : b'.given.length = b.given.length := by
  simp only [given, upTo, List.length_append, h.fixedItems_eq, h.perm_serialItems.length_eq,
    h.perm_bluetoothItems.length_eq, h.perm_usbItems.length_eq, h.perm_uartItems.length_eq]

theorem Rearranged.gap?_eq (c : SavedPort) : b'.gap? c = b.gap? c := by
  unfold gap?
  rw [h.nameFor]

/-- **A search finds the same item in every order**, family by family. -/
theorem Rearranged.find?_upTo_eq (hd : b.Distinct) (family : Family) (key : ValueKey)
    (value : String) :
    (b'.upTo family).find? (Item.keyed key value) =
      (b.upTo family).find? (Item.keyed key value) := by
  have hserial := find?_keyed_eq_of_perm h.perm_serialItems hd.nodup_serialItems key value
  have hbluetooth := find?_keyed_eq_of_perm h.perm_bluetoothItems hd.nodup_bluetoothItems key value
  have husb := find?_keyed_eq_of_perm h.perm_usbItems hd.nodup_usbItems key value
  have huart := find?_keyed_eq_of_perm h.perm_uartItems hd.nodup_uartItems key value
  cases family <;>
    simp only [upTo, List.find?_append, h.fixedItems_eq, hserial, hbluetooth, husb, huart]

theorem Rearranged.addsPlaceholder_iff (hd : b.Distinct) (c : SavedPort) :
    b'.AddsPlaceholder c ↔ b.AddsPlaceholder c := by
  have hgap' := h.gap?_eq c
  cases hgap : b.gap? c with
  | none =>
    rw [hgap] at hgap'
    exact iff_of_false (fun hp => hp (b'.items_build_of_gap?_eq_none hgap'))
      fun hp => hp (b.items_build_of_gap?_eq_none hgap)
  | some g =>
    obtain ⟨family, p⟩ := g
    rw [hgap] at hgap'
    rw [b'.addsPlaceholder_iff_of_gap? hgap', b.addsPlaceholder_iff_of_gap? hgap,
      h.find?_upTo_eq hd]

theorem Rearranged.map_marked_build_of_line (hd : b.Distinct) (hk : c.kind = .ioioUart)
    (hs : (b.build c).size ≤ serialBound) :
    (b'.build c).marked.map Entry.toItem = (b.build c).marked.map Entry.toItem := by
  have hs' : (b'.build c).size ≤ serialBound := by
    rw [← length_items, items_build_of_gap?_eq_none _ (gap?_of_line _ hk)] at hs ⊢
    rwa [h.length_given]
  have hperm : b'.sources.uart.found.Perm b.sources.uart.found := h.found .uart
  by_cases hex : ∃ d ∈ b.sources.uart.found, d.value = c.uartText
  · have hex' : ∃ d ∈ b'.sources.uart.found, d.value = c.uartText := by
      obtain ⟨d, hd, hv⟩ := hex
      exact ⟨d, hperm.mem_iff.2 hd, hv⟩
    obtain ⟨before, d, after, hfound, hv, hafter⟩ := exists_last_line hex
    obtain ⟨before', d', after', hfound', hv', hafter'⟩ := exists_last_line hex'
    have hmem : d ∈ b.sources.uart.found := by rw [hfound]; simp
    have hmem' : d' ∈ b.sources.uart.found := hperm.mem_iff.1 (by rw [hfound']; simp)
    rw [(b.selects_build_of_line hk hs hfound hv hafter).map_marked,
      (b'.selects_build_of_line hk hs' hfound' hv' hafter').map_marked,
      hd.eq_of_uartText hmem hmem' hv hv']
  · have hex' : ¬ ∃ d ∈ b'.sources.uart.found, d.value = c.uartText := fun ⟨d, hd, hv⟩ =>
      hex ⟨d, hperm.mem_iff.1 hd, hv⟩
    have hnil := b.marked_build_of_no_line hk hs hex
    have hnil' := b'.marked_build_of_no_line hk hs' hex'
    rw [hnil, hnil']

/-- **The same port is selected in every order**, or none is. -/
theorem Rearranged.map_marked_build (hd : b.Distinct) (hs : (b.build c).size ≤ serialBound) :
    (b'.build c).marked.map Entry.toItem = (b.build c).marked.map Entry.toItem := by
  rcases b.settled_cases c with ⟨family, p, hgap⟩ | hk | hk | ⟨hgap, hc, hline⟩
  · have hgap' := (h.gap?_eq c).trans hgap
    rw [(b.selects_build_of_gap? hgap).map_marked, (b'.selects_build_of_gap? hgap').map_marked,
      h.find?_upTo_eq hd]
  · by_cases ho : b.table.offers c.kind
    · obtain ⟨i, s, hget, hks⟩ := KindTable.exists_get?_of_offers ho
      have hget' : b'.table.get? i = some s := by rw [h.table, hget]
      rw [(b.selects_build_of_none hk hget hks).map_marked,
        (b'.selects_build_of_none hk hget' hks).map_marked]
    · rw [b.marked_build_of_not_offers hk ho, b'.marked_build_of_not_offers hk (by rwa [h.table])]
  · exact h.map_marked_build_of_line hd hk hs
  · have hgap' := (h.gap?_eq c).trans hgap
    rw [b.marked_build_of_gap?_eq_none hgap hc hline,
      b'.marked_build_of_gap?_eq_none hgap' hc hline]

/-! ### Serial ports in another order -/

variable (hlabels : (b.sources.serial.found.map Discovery.shownLabel).Nodup)
include hlabels

/-- **There is one way to put ports with different labels in order.** -/
theorem Rearranged.serialItems_eq : b'.serialItems = b.serialItems := by
  have hperm : b.serialItems.Perm (b.sources.serial.found.map Discovery.shown) :=
    List.mergeSort_perm _ _
  have hnodup : (b.serialItems.map Item.label).Nodup := by
    rw [(hperm.map Item.label).nodup_iff, List.map_map]
    exact hlabels
  have hantisymm : ∀ i j, i ∈ b'.serialItems → j ∈ b.serialItems → i.labelLe j → j.labelLe i →
      i = j := fun i j hi hj hij hji =>
    List.inj_on_of_nodup_map hnodup (h.perm_serialItems.mem_iff.1 hi) hj
      (Text.naturalLe_antisymm hij hji)
  exact List.Perm.eq_of_pairwise hantisymm (isStableSort_mergeSort _).ascending
    (isStableSort_mergeSort _).ascending h.perm_serialItems

variable (hother : ∀ family, family ≠ .serial →
  (b'.sources.get family).found = (b.sources.get family).found)
include hother

theorem Rearranged.upTo_eq (family : Family) : b'.upTo family = b.upTo family := by
  have hbluetooth : b'.bluetoothItems = b.bluetoothItems :=
    congrArg (List.map Discovery.shown) (hother .bluetooth (by decide))
  have husb : b'.usbItems = b.usbItems :=
    congrArg (List.map Discovery.shownUsb) (hother .usbSerial (by decide))
  have huart : b'.uartItems = b.uartItems :=
    congrArg (List.map Discovery.shown) (hother .uart (by decide))
  cases family <;>
    simp only [upTo, h.fixedItems_eq, h.serialItems_eq hlabels, hbluetooth, husb, huart]

theorem Rearranged.behind_eq (family : Family) : b'.behind family = b.behind family := by
  have hgiven : b'.upTo family ++ b'.behind family = b.upTo family ++ b.behind family := by
    rw [upTo_append_behind, upTo_append_behind]
    exact h.upTo_eq hlabels hother .uart
  rw [h.upTo_eq hlabels hother] at hgiven
  exact List.append_cancel_left hgiven

theorem Rearranged.items_build_eq (c : SavedPort) : (b'.build c).items = (b.build c).items := by
  have hgap' := h.gap?_eq c
  cases hgap : b.gap? c with
  | none =>
    rw [hgap] at hgap'
    rw [b.items_build_of_gap?_eq_none hgap, b'.items_build_of_gap?_eq_none hgap']
    exact h.upTo_eq hlabels hother .uart
  | some g =>
    obtain ⟨family, p⟩ := g
    rw [hgap] at hgap'
    rw [b.items_build_of_gap? hgap, b'.items_build_of_gap? hgap', h.upTo_eq hlabels hother,
      h.behind_eq hlabels hother]

/-- **A list is shown alike in whatever order serial ports are found**, if their labels differ. -/
theorem Rearranged.rows_build_eq (hs : (b.build c).size ≤ serialBound) :
    (b'.build c).rows = (b.build c).rows := by
  have hitems := h.items_build_eq hlabels hother c
  have hs' : (b'.build c).size ≤ serialBound := by rwa [← length_items, hitems, length_items]
  rcases b.settled_cases c with ⟨family, p, hgap⟩ | hk | hk | ⟨hgap, hc, hline⟩
  · have hgap' := (h.gap?_eq c).trans hgap
    rw [(b.selects_build_of_gap? hgap).rows_eq, (b'.selects_build_of_gap? hgap').rows_eq, hitems,
      h.upTo_eq hlabels hother]
  · by_cases ho : b.table.offers c.kind
    · obtain ⟨i, s, hget, hks⟩ := KindTable.exists_get?_of_offers ho
      have hget' : b'.table.get? i = some s := by rw [h.table, hget]
      rw [(b.selects_build_of_none hk hget hks).rows_eq,
        (b'.selects_build_of_none hk hget' hks).rows_eq, hitems]
    · rw [rows_of_marked_eq_nil (b.marked_build_of_not_offers hk ho),
        rows_of_marked_eq_nil (b'.marked_build_of_not_offers hk (by rwa [h.table])), hitems]
  · have hfound : b'.sources.uart.found = b.sources.uart.found := hother .uart (by decide)
    by_cases hex : ∃ d ∈ b.sources.uart.found, d.value = c.uartText
    · obtain ⟨before, d, after, hsplit, hv, hafter⟩ := exists_last_line hex
      rw [(b.selects_build_of_line hk hs hsplit hv hafter).rows_eq,
        (b'.selects_build_of_line hk hs' (hfound.trans hsplit) hv hafter).rows_eq, hitems,
        h.upTo_eq hlabels hother]
    · have hnil := b.marked_build_of_no_line hk hs hex
      have hnil' := b'.marked_build_of_no_line hk hs' (by rwa [hfound])
      rw [rows_of_marked_eq_nil hnil, rows_of_marked_eq_nil hnil', hitems]
  · have hgap' := (h.gap?_eq c).trans hgap
    rw [rows_of_marked_eq_nil (b.marked_build_of_gap?_eq_none hgap hc hline),
      rows_of_marked_eq_nil (b'.marked_build_of_gap?_eq_none hgap' hc hline), hitems]

end Rearranged

/-- The workbench, with its serial ports found in the other order. -/
def turnedWorkbench : Builder :=
  { workbench with
    sources :=
      { workbench.sources with
        serial := .devicePaths .serial ["/dev/ttyUSB9", "/dev/ttyUSB10"] } }

/-- **What does not depend on the order in which ports are found.** If no two ports of a family have
one value, the same port is selected, or none, and a placeholder is added in every order or in none.
If only serial ports change their order and their labels differ, the whole list is shown alike. -/
theorem build_rearranged {b b' : Builder} (h : Rearranged b b') (hd : b.Distinct) (c : SavedPort)
    (hs : (b.build c).size ≤ 65536) :
    (b'.build c).marked.map Entry.toItem = (b.build c).marked.map Entry.toItem ∧
    (b'.AddsPlaceholder c ↔ b.AddsPlaceholder c) ∧
    ((∀ family, family ≠ .serial →
        (b'.sources.get family).found = (b.sources.get family).found) →
      (b.sources.serial.found.map Discovery.shownLabel).Nodup →
      (b'.build c).rows = (b.build c).rows) :=
  ⟨h.map_marked_build hd hs, h.addsPlaceholder_iff hd c,
    fun hother hlabels => h.rows_build_eq hlabels hother hs⟩

/-- The saved serial port of the workbench is selected in both orders, and the lists look alike. -/
theorem build_rearranged_workbench :
    (turnedWorkbench.build (.serial "/dev/ttyUSB10")).rows =
        (workbench.build (.serial "/dev/ttyUSB10")).rows ∧
      (turnedWorkbench.build (.serial "/dev/ttyUSB10")).marked.map Entry.toItem =
        (workbench.build (.serial "/dev/ttyUSB10")).marked.map Entry.toItem := by
  have h : Rearranged workbench turnedWorkbench := by
    refine ⟨rfl, fun family => ?_, rfl⟩
    cases family with
    | serial => exact .swap _ _ _
    | bluetooth | usbSerial | uart => exact .refl _
  have hd : workbench.Distinct := by
    intro family
    cases family <;> decide
  obtain ⟨hmarked, -, hrows⟩ := build_rearranged h hd (.serial "/dev/ttyUSB10")
    (Nat.le_trans (size_workbench_le _) (by decide))
  refine ⟨hrows (fun family hne => ?_) (by decide), hmarked⟩
  cases family with
  | serial => exact absurd rfl hne
  | bluetooth | usbSerial | uart => rfl

end Builder

end PortRoster
