import PortRoster.Proofs.Roster.Mark
import PortRoster.Proofs.Roster.Saving

/-! # The selection of a build

Exactly which entry a build selects. A stage that settles a saved port searches the items that are
listed so far, and selects the first one for the port; if there is none, the placeholder behind
them. No other stage touches the mark. A saved port that is settled by such a search has a *gap*:
the family behind which its placeholder would stand.

* `items_build_of_gap?`, `selects_build_of_gap?`: the list and the selection where there is a gap.
* `selects_build_of_none`, `selects_build_of_line`: the selection of a fixed kind and of a line.
* `selects_placeholder`: a placeholder is selected.
* `build_selects`: the selection of every build. -/

namespace PortRoster

namespace SavedPort

variable {saved : SavedPort}

theorem key_of_usesMac (h : saved.usesMac) : saved.kind.key = .bluetoothMac := by
  simpa [usesMac, Kind.usesMac] using h

theorem kind_ne_of_usesMac (h : saved.usesMac) {kind : Kind} (hk : kind.key ≠ .bluetoothMac) :
    saved.kind ≠ kind := by
  rintro rfl
  exact hk (key_of_usesMac h)

theorem not_mac_of_kind_eq {kind : Kind} (h : saved.kind = kind) (hk : kind.key ≠ .bluetoothMac) :
    ¬ (saved.usesMac ∧ saved.bluetoothMac ≠ "") := fun hm => kind_ne_of_usesMac hm.1 hk h

theorem not_usb_of_kind_ne (h : saved.kind ≠ .usbSerial) :
    ¬ (saved.kind = .usbSerial ∧ saved.path ≠ "") := fun hu => h hu.1

end SavedPort

namespace Builder

variable (b : Builder) {saved : SavedPort}

/-! ### Where a placeholder may stand -/

/-- The items up to the end of a family, without placeholders. -/
def upTo : Family → List Item
  | .serial => b.fixedItems ++ b.serialItems
  | .bluetooth => b.fixedItems ++ b.serialItems ++ b.bluetoothItems
  | .usbSerial => b.fixedItems ++ b.serialItems ++ b.bluetoothItems ++ b.usbItems
  | .uart => b.fixedItems ++ b.serialItems ++ b.bluetoothItems ++ b.usbItems ++ b.uartItems

/-- The items behind a family. -/
def behind : Family → List Item
  | .serial => b.bluetoothItems ++ b.usbItems ++ b.uartItems
  | .bluetooth => b.usbItems ++ b.uartItems
  | .usbSerial => b.uartItems
  | .uart => []

/-- What the table offers and the sources find. -/
def given : List Item := b.upTo .uart

/-- The build lists more than it was given: a placeholder. -/
def AddsPlaceholder (saved : SavedPort) : Prop := (b.build saved).items ≠ b.given

/-- The family behind which a placeholder for the saved port may stand, and the placeholder. -/
def gap? (saved : SavedPort) : Option (Family × Item) :=
  if saved.kind = .serial then some (.serial, placeholder .serial saved.path none)
  else if saved.usesMac ∧ saved.bluetoothMac ≠ "" then
    some (.bluetooth, placeholder saved.kind saved.bluetoothMac
      (b.sources.bluetooth.nameFor saved.bluetoothMac))
  else if saved.kind = .usbSerial ∧ saved.path ≠ "" then
    some (.usbSerial, placeholder .usbSerial saved.path none)
  else none

variable {b} in
theorem key_of_mem_fixedItems {i : Item} (h : i ∈ b.fixedItems) : i.kind.key = .none := by
  obtain ⟨s, hs, rfl⟩ := List.mem_map.1 h
  have hc := KindTable.carriesValue_of_mem hs
  show s.kind.key = .none
  simpa [Kind.carriesValue] using hc

theorem find?_fixedItems {key : ValueKey} (hk : key ≠ .none) (value : String) :
    b.fixedItems.find? (Item.keyed key value) = none := by
  refine List.find?_eq_none.2 fun i hi hkeyed => hk ?_
  rw [← (Item.keyed_iff.1 hkeyed).1, key_of_mem_fixedItems hi]

theorem mem_serialItems {i : Item} :
    i ∈ b.serialItems ↔ ∃ d ∈ b.sources.serial.found, d.shown = i := by
  simp [serialItems, List.mem_mergeSort]

theorem upTo_append_behind (family : Family) : b.upTo family ++ b.behind family = b.given := by
  cases family <;> simp [upTo, behind, given]

theorem gap?_of_serial (h : saved.kind = .serial) :
    b.gap? saved = some (.serial, placeholder .serial saved.path none) := if_pos h

theorem gap?_of_mac (h : saved.usesMac) (hv : saved.bluetoothMac ≠ "") :
    b.gap? saved = some (.bluetooth, placeholder saved.kind saved.bluetoothMac
      (b.sources.bluetooth.nameFor saved.bluetoothMac)) := by
  unfold gap?
  rw [if_neg (SavedPort.kind_ne_of_usesMac h (by decide)), if_pos ⟨h, hv⟩]

theorem gap?_of_usb (h : saved.kind = .usbSerial) (hv : saved.path ≠ "") :
    b.gap? saved = some (.usbSerial, placeholder .usbSerial saved.path none) := by
  unfold gap?
  rw [if_neg (by rw [h]; decide), if_neg (SavedPort.not_mac_of_kind_eq h (by decide)),
    if_pos ⟨h, hv⟩]

theorem gap?_eq_none_iff : b.gap? saved = none ↔
    saved.kind ≠ .serial ∧ ¬ (saved.usesMac ∧ saved.bluetoothMac ≠ "") ∧
      ¬ (saved.kind = .usbSerial ∧ saved.path ≠ "") := by
  unfold gap?
  split_ifs with h₁ h₂ h₃
  · exact ⟨False.elim, fun h => absurd h₁ h.1⟩
  · exact ⟨False.elim, fun h => absurd h₂ h.2.1⟩
  · exact ⟨False.elim, fun h => absurd h₃ h.2.2⟩
  · exact ⟨fun _ => ⟨h₁, h₂, h₃⟩, fun _ => rfl⟩

theorem settled_cases (saved : SavedPort) :
    (∃ family p, b.gap? saved = some (family, p)) ∨ saved.kind.key = .none ∨
      saved.kind = .ioioUart ∨
      b.gap? saved = none ∧ saved.kind.carriesValue ∧ saved.kind ≠ .ioioUart := by
  cases hgap : b.gap? saved with
  | some g => exact .inl ⟨g.1, g.2, rfl⟩
  | none =>
    by_cases hline : saved.kind = .ioioUart
    · exact .inr (.inr (.inl hline))
    · by_cases hc : saved.kind.carriesValue
      · exact .inr (.inr (.inr ⟨rfl, hc, hline⟩))
      · exact .inr (.inl (by simpa [Kind.carriesValue] using hc))

theorem gap?_cases {family : Family} {p : Item} (h : b.gap? saved = some (family, p)) :
    (saved.kind = .serial ∧ family = .serial ∧ p = placeholder .serial saved.path none) ∨
      ((saved.usesMac ∧ saved.bluetoothMac ≠ "") ∧ family = .bluetooth ∧
        p = placeholder saved.kind saved.bluetoothMac
          (b.sources.bluetooth.nameFor saved.bluetoothMac)) ∨
      (saved.kind = .usbSerial ∧ saved.path ≠ "") ∧ family = .usbSerial ∧
        p = placeholder .usbSerial saved.path none := by
  unfold gap? at h
  split_ifs at h with h₁ h₂ h₃ <;> cases h
  · exact .inl ⟨h₁, rfl, rfl⟩
  · exact .inr (.inl ⟨h₂, rfl, rfl⟩)
  · exact .inr (.inr ⟨h₃, rfl, rfl⟩)

theorem serialGap_eq_nil (h : saved.kind ≠ .serial) : b.serialGap saved = [] := if_neg h

theorem bluetoothGap_eq_nil (h : ¬ (saved.usesMac ∧ saved.bluetoothMac ≠ "")) :
    b.bluetoothGap saved = [] := if_neg h

theorem usbGap_eq_nil (h : ¬ (saved.kind = .usbSerial ∧ saved.path ≠ "")) :
    b.usbGap saved = [] := if_neg h

theorem gaps_of_gap? {family : Family} {p : Item} (h : b.gap? saved = some (family, p)) :
    b.serialGap saved = (if family = .serial then p.missingFrom (b.upTo family) else []) ∧
      b.bluetoothGap saved = (if family = .bluetooth then p.missingFrom (b.upTo family) else []) ∧
      b.usbGap saved = (if family = .usbSerial then p.missingFrom (b.upTo family) else []) := by
  rcases b.gap?_cases h with ⟨hk, rfl, rfl⟩ | ⟨hm, rfl, rfl⟩ | ⟨hu, rfl, rfl⟩
  · refine ⟨if_pos hk, b.bluetoothGap_eq_nil (SavedPort.not_mac_of_kind_eq hk (by decide)), ?_⟩
    exact b.usbGap_eq_nil (SavedPort.not_usb_of_kind_ne (by rw [hk]; decide))
  · have hs : b.serialGap saved = [] :=
      b.serialGap_eq_nil (SavedPort.kind_ne_of_usesMac hm.1 (by decide))
    refine ⟨hs, ?_, b.usbGap_eq_nil (SavedPort.not_usb_of_kind_ne
      (SavedPort.kind_ne_of_usesMac hm.1 (by decide)))⟩
    unfold bluetoothGap
    rw [if_pos hm, hs, List.append_nil]
    rfl
  · have hs : b.serialGap saved = [] := b.serialGap_eq_nil (by rw [hu.1]; decide)
    have hm := b.bluetoothGap_eq_nil (SavedPort.not_mac_of_kind_eq hu.1 (by decide))
    refine ⟨hs, hm, ?_⟩
    unfold usbGap
    rw [if_pos hu, hs, hm, List.append_nil, List.append_nil]
    rfl

/-- **Where there is a gap, the list is what is given, with the placeholder in the gap if no item in
front of it is for the port.** -/
theorem items_build_of_gap? {family : Family} {p : Item} (h : b.gap? saved = some (family, p)) :
    (b.build saved).items =
      b.upTo family ++ p.missingFrom (b.upTo family) ++ b.behind family := by
  obtain ⟨hs, hm, hu⟩ := b.gaps_of_gap? h
  rw [items_build, hs, hm, hu]
  rcases b.gap?_cases h with ⟨-, rfl, -⟩ | ⟨-, rfl, -⟩ | ⟨-, rfl, -⟩ <;> simp [upTo, behind]

/-- **Where there is no gap, the list is what is given.** -/
theorem items_build_of_gap?_eq_none (h : b.gap? saved = none) :
    (b.build saved).items = b.given := by
  obtain ⟨hs, hm, hu⟩ := b.gap?_eq_none_iff.1 h
  rw [items_build, b.serialGap_eq_nil hs, b.bluetoothGap_eq_nil hm, b.usbGap_eq_nil hu]
  simp [given, upTo]

/-! ### Stages that settle nothing -/

theorem serialStage_eq (h : saved.kind ≠ .serial) :
    b.serialStage saved = (b.fixedStage saved).addSerial b.sources.serial.found := if_neg h

theorem bluetoothStage_eq (h : ¬ (saved.usesMac ∧ saved.bluetoothMac ≠ "")) :
    b.bluetoothStage saved = (b.serialStage saved).addBluetooth b.sources.bluetooth.found :=
  if_neg h

theorem usbStage_eq (h : ¬ (saved.kind = .usbSerial ∧ saved.path ≠ "")) :
    b.usbStage saved = (b.bluetoothStage saved).addUsb b.sources.usbSerial.found := if_neg h

theorem build_eq (h : saved.kind ≠ .ioioUart) :
    b.build saved = (b.usbStage saved).pushAll (b.sources.uart.found.map Discovery.item) :=
  Roster.addUart_of_savedLine_eq_none (if_neg h)

variable {i : Nat} {item : Item}

theorem selects_build_of_fixedStage (h : b.gap? saved = none) (hu : saved.kind ≠ .ioioUart)
    (hsel : (b.fixedStage saved).Selects i item) : (b.build saved).Selects i item := by
  obtain ⟨hs, hm, ha⟩ := b.gap?_eq_none_iff.1 h
  rw [b.build_eq hu, b.usbStage_eq ha, b.bluetoothStage_eq hm, b.serialStage_eq hs]
  refine Roster.Selects.pushAll (Roster.Selects.pushAll (Roster.Selects.pushAll ?_ _) _) _
  exact hsel.append fun _ he => Entry.selected_of_mem_ofItems (List.mem_mergeSort.1 he)

/-- **Where there is no gap and no fixed kind or line is saved, nothing is selected.** -/
theorem marked_build_of_gap?_eq_none (h : b.gap? saved = none) (hc : saved.kind.carriesValue)
    (hu : saved.kind ≠ .ioioUart) : (b.build saved).marked = [] := by
  obtain ⟨hs, hm, ha⟩ := b.gap?_eq_none_iff.1 h
  rw [b.build_eq hu, b.usbStage_eq ha, b.bluetoothStage_eq hm, b.serialStage_eq hs]
  rw [Roster.marked_pushAll, Roster.addUsb, Roster.marked_pushAll, Roster.addBluetooth,
    Roster.marked_pushAll, Roster.marked_addSerial, marked_fixedStage hc]

/-- **For an empty address or id, nothing is selected.** -/
theorem marked_build_of_empty (h : saved.kind.key = .bluetoothMac ∧ saved.bluetoothMac = "" ∨
    saved.kind = .usbSerial ∧ saved.path = "") : (b.build saved).marked = [] := by
  have hkey : saved.kind.key = .bluetoothMac ∨ saved.kind = .usbSerial := h.imp And.left And.left
  have hne (kind : Kind) (hm : kind.key ≠ .bluetoothMac) (hu : kind ≠ .usbSerial) :
      saved.kind ≠ kind := by
    rintro rfl
    exact hkey.elim hm hu
  have hmac : ¬ (saved.usesMac ∧ saved.bluetoothMac ≠ "") := by
    rintro ⟨hm, hv⟩
    rcases h with h | h
    · exact hv h.2
    · exact SavedPort.kind_ne_of_usesMac hm (by decide) h.1
  have husb : ¬ (saved.kind = .usbSerial ∧ saved.path ≠ "") := by
    rintro ⟨hu, hv⟩
    rcases h with h | h
    · rw [hu] at h
      exact absurd h.1 (by decide)
    · exact hv h.2
  have hgap : b.gap? saved = none :=
    b.gap?_eq_none_iff.2 ⟨hne _ (by decide) (by decide), hmac, husb⟩
  refine b.marked_build_of_gap?_eq_none hgap ?_ (hne _ (by decide) (by decide))
  rcases hkey with hk | hk
  · simp [Kind.carriesValue, hk]
  · rw [hk]
    rfl

/-! ### What a build selects -/

theorem selects_serialStage (h : saved.kind = .serial) :
    (b.serialStage saved).Selects ((b.upTo .serial).findIdx (Item.keyed .path saved.path))
      (((b.upTo .serial).find? (Item.keyed .path saved.path)).getD
        (placeholder .serial saved.path none)) := by
  have hitems : ((b.fixedStage saved).addSerial b.sources.serial.found).items = b.upTo .serial := by
    rw [Roster.items_addSerial, items_fixedStage]
    rfl
  have hstage : b.serialStage saved = (((b.fixedStage saved).addSerial
      b.sources.serial.found).reconcileLabelled .serial saved.path none).1 := if_pos h
  rw [hstage, ← hitems]
  exact Roster.selects_reconcileLabelled rfl saved.path none

theorem selects_bluetoothStage (h : saved.usesMac ∧ saved.bluetoothMac ≠ "") :
    (b.bluetoothStage saved).Selects
      ((b.upTo .bluetooth).findIdx
        (Item.keyed .bluetoothMac (ValueKey.canonicalMac saved.bluetoothMac)))
      (((b.upTo .bluetooth).find?
        (Item.keyed .bluetoothMac (ValueKey.canonicalMac saved.bluetoothMac))).getD
        (placeholder saved.kind saved.bluetoothMac
          (b.sources.bluetooth.nameFor saved.bluetoothMac))) := by
  have hkey := SavedPort.key_of_usesMac h.1
  have hc : saved.kind.carriesValue := by simp [Kind.carriesValue, hkey]
  have hitems : ((b.serialStage saved).addBluetooth b.sources.bluetooth.found).items =
      b.upTo .bluetooth := by
    rw [Roster.items_addBluetooth, items_serialStage,
      b.serialGap_eq_nil (SavedPort.kind_ne_of_usesMac h.1 (by decide)), List.append_nil]
    rfl
  have hstage : b.bluetoothStage saved = (((b.serialStage saved).addBluetooth
      b.sources.bluetooth.found).reconcileLabelled saved.kind saved.bluetoothMac
        (b.sources.bluetooth.nameFor saved.bluetoothMac)).1 := if_pos h
  have hsel := Roster.selects_reconcileLabelled
    (r := (b.serialStage saved).addBluetooth b.sources.bluetooth.found) hc saved.bluetoothMac
    (b.sources.bluetooth.nameFor saved.bluetoothMac)
  rw [hkey, hitems] at hsel
  rw [hstage]
  exact hsel

theorem selects_usbStage (h : saved.kind = .usbSerial ∧ saved.path ≠ "") :
    (b.usbStage saved).Selects ((b.upTo .usbSerial).findIdx (Item.keyed .path saved.path))
      (((b.upTo .usbSerial).find? (Item.keyed .path saved.path)).getD
        (placeholder .usbSerial saved.path none)) := by
  have hitems : ((b.bluetoothStage saved).addUsb b.sources.usbSerial.found).items =
      b.upTo .usbSerial := by
    rw [Roster.items_addUsb, items_bluetoothStage, b.serialGap_eq_nil (by rw [h.1]; decide),
      b.bluetoothGap_eq_nil (SavedPort.not_mac_of_kind_eq h.1 (by decide)), List.append_nil,
      List.append_nil]
    rfl
  have hstage : b.usbStage saved = (((b.bluetoothStage saved).addUsb
      b.sources.usbSerial.found).reconcileLabelled .usbSerial saved.path none).1 := if_pos h
  rw [hstage, ← hitems]
  exact Roster.selects_reconcileLabelled rfl saved.path none

/-- **Where there is a gap, the first item up to there that is for the port is selected, or else the
placeholder.** The stages behind the gap only add entries. -/
theorem selects_build_of_gap? {family : Family} {p : Item} (h : b.gap? saved = some (family, p)) :
    (b.build saved).Selects ((b.upTo family).findIdx (Item.keyed p.kind.key p.value))
      (((b.upTo family).find? (Item.keyed p.kind.key p.value)).getD p) := by
  rcases b.gap?_cases h with ⟨hk, rfl, rfl⟩ | ⟨hm, rfl, rfl⟩ | ⟨hu, rfl, rfl⟩
  · rw [b.build_eq (by rw [hk]; decide),
      b.usbStage_eq (SavedPort.not_usb_of_kind_ne (by rw [hk]; decide)),
      b.bluetoothStage_eq (SavedPort.not_mac_of_kind_eq hk (by decide))]
    exact (((b.selects_serialStage hk).pushAll _).pushAll _).pushAll _
  · have hsel := b.selects_bluetoothStage hm
    have hkey := SavedPort.key_of_usesMac hm.1
    rw [b.build_eq (SavedPort.kind_ne_of_usesMac hm.1 (by decide)), b.usbStage_eq
      (SavedPort.not_usb_of_kind_ne (SavedPort.kind_ne_of_usesMac hm.1 (by decide)))]
    simp only [placeholder, hkey, ValueKey.canonical] at hsel ⊢
    exact (hsel.pushAll _).pushAll _
  · rw [b.build_eq (by rw [hu.1]; decide)]
    exact (b.selects_usbStage hu).pushAll _

/-! ### Fixed kinds and lines -/

variable {b} in
theorem getElem?_fixedItems {s : FixedKind} (hs : b.table.get? i = some s) :
    b.fixedItems[i]? = some s.item := by
  rw [fixedItems, List.getElem?_map]
  exact congrArg (Option.map FixedKind.item) hs

theorem position_eq_of_kind_eq {j : Nat} {x y : Item} (hx : b.fixedItems[i]? = some x)
    (hy : b.fixedItems[j]? = some y) (h : x.kind = y.kind) : i = j := by
  have hnodup : (b.fixedItems.map Item.kind).Nodup := by
    have := b.table.nodup_kinds
    rwa [fixedItems, List.map_map]
  have hlt : i < (b.fixedItems.map Item.kind).length := by
    rw [List.length_map]
    exact (List.getElem?_eq_some_iff.1 hx).1
  refine (List.getElem?_inj hlt hnodup).1 ?_
  rw [List.getElem?_map, List.getElem?_map, hx, hy]
  exact congrArg some h

theorem selects_fixedStage (h : ¬ saved.kind.carriesValue) {s : FixedKind}
    (hs : b.table.get? i = some s) (hk : s.kind = saved.kind) :
    (b.fixedStage saved).Selects i s.item := by
  have hitems : (Roster.empty b.table).addFixed.items = b.fixedItems := by
    rw [Roster.items_addFixed]
    rfl
  have hget := getElem?_fixedItems hs
  unfold fixedStage Roster.settleFixed
  rw [if_neg h]
  rcases Roster.selectFirst_cases (r := (Roster.empty b.table).addFixed)
    (fun e => e.kind == saved.kind) with ⟨j, hj, -, hsel⟩ | ⟨hn, -⟩
  · have hget' := (Roster.empty b.table).addFixed.getElem?_items j
    rw [hitems] at hget'
    have hji : j = i := b.position_eq_of_kind_eq hget' hget ((eq_of_beq hj).trans hk.symm)
    have hitem : ((Roster.empty b.table).addFixed.entryAt j).toItem = s.item := by
      rw [hji, hget] at hget'
      exact (Option.some.inj hget').symm
    rw [hsel, ← hji, ← hitem]
    exact Roster.selects_selectAt j
  · have hmem : s.item ∈ (Roster.empty b.table).addFixed.items := by
      rw [hitems]
      exact List.mem_of_getElem? hget
    obtain ⟨e, he, hitem⟩ := List.mem_map.1 hmem
    have hke : e.kind = saved.kind := (congrArg Item.kind hitem).trans hk
    exact absurd (beq_iff_eq.2 hke) (hn e he)

theorem gap?_of_none (h : saved.kind.key = .none) : b.gap? saved = none := by
  have hne (k : Kind) (hk : k.key ≠ .none) : saved.kind ≠ k := by
    rintro rfl
    exact hk h
  have hm : ¬ (saved.usesMac ∧ saved.bluetoothMac ≠ "") := fun hm => by
    rw [SavedPort.key_of_usesMac hm.1] at h
    cases h
  exact b.gap?_eq_none_iff.2
    ⟨hne _ (by decide), hm, SavedPort.not_usb_of_kind_ne (hne _ (by decide))⟩

/-- **A fixed kind is selected where the table offers it.** -/
theorem selects_build_of_none (h : saved.kind.key = .none) {s : FixedKind}
    (hs : b.table.get? i = some s) (hk : s.kind = saved.kind) :
    (b.build saved).Selects i s.item := by
  have hline : saved.kind ≠ .ioioUart := by
    intro hline
    rw [hline] at h
    cases h
  refine b.selects_build_of_fixedStage (b.gap?_of_none h) hline (b.selects_fixedStage ?_ hs hk)
  simp [Kind.carriesValue, h]

theorem marked_build_of_not_offers (h : saved.kind.key = .none) (ho : ¬ b.table.offers saved.kind) :
    (b.build saved).marked = [] := by
  by_contra hne
  exact ho ((b.marked_build_of_none saved h).1.1 hne)

theorem gap?_of_line (h : saved.kind = .ioioUart) : b.gap? saved = none :=
  b.gap?_eq_none_iff.2 ⟨by rw [h]; decide, SavedPort.not_mac_of_kind_eq h (by decide),
    SavedPort.not_usb_of_kind_ne (by rw [h]; decide)⟩

theorem exists_last_line {found : List Discovery} {value : String}
    (h : ∃ d ∈ found, d.value = value) :
    ∃ before d after, found = before ++ d :: after ∧ d.value = value ∧
      ∀ d' ∈ after, d'.value ≠ value := by
  cases hfind : found.reverse.find? (fun d => d.value == value) with
  | none =>
    obtain ⟨d, hd, hv⟩ := h
    exact absurd (beq_iff_eq.2 hv) (List.find?_eq_none.1 hfind d (List.mem_reverse.2 hd))
  | some d =>
    obtain ⟨hv, after, before, hsplit, hafter⟩ := List.find?_eq_some_iff_append.1 hfind
    refine ⟨before.reverse, d, after.reverse, ?_, beq_iff_eq.1 hv, fun d' hd' => ?_⟩
    · have := congrArg List.reverse hsplit
      simpa using this
    · simpa using hafter d' (List.mem_reverse.1 hd')

theorem items_usbStage_of_line (h : saved.kind = .ioioUart) :
    (b.usbStage saved).items = b.upTo .usbSerial := by
  obtain ⟨hserial, hm, ha⟩ := b.gap?_eq_none_iff.1 (b.gap?_of_line h)
  rw [items_usbStage, b.serialGap_eq_nil hserial, b.bluetoothGap_eq_nil hm, b.usbGap_eq_nil ha]
  simp [upTo]

/-- **The last found line with the saved number is selected.** -/
theorem selects_build_of_line (h : saved.kind = .ioioUart) (hs : (b.build saved).size ≤ serialBound)
    {before after : List Discovery} {d : Discovery}
    (hfound : b.sources.uart.found = before ++ d :: after) (hd : d.value = saved.uartText)
    (hafter : ∀ d' ∈ after, d'.value ≠ saved.uartText) :
    (b.build saved).Selects ((b.upTo .usbSerial).length + before.length) d.shown := by
  have hlisted : (Roster.empty b.table).Reaches
      ((b.usbStage saved).pushAll (b.sources.uart.found.map Discovery.item)) :=
    (b.reaches_fixedStage saved).trans <|
      (b.reaches_usbStage_of_fixedStage saved).trans (Roster.reaches_pushAll _)
  have hsize : ((b.usbStage saved).pushAll (b.sources.uart.found.map Discovery.item)).size =
      (b.build saved).size := by
    rw [← Roster.length_items, ← Roster.length_items, build, Roster.items_addUart,
      Roster.items_pushAll]
    simp
  have hstart : (b.usbStage saved).size = (b.upTo .usbSerial).length := by
    rw [← Roster.length_items, b.items_usbStage_of_line h]
  have hr := Roster.coherent_of_reaches hlisted (Roster.coherent_empty _)
  rw [build, ← hstart]
  rw [← hsize] at hs
  rw [hfound] at hr hs ⊢
  exact Roster.selects_addUart h hd hafter hr hs

theorem marked_build_of_no_line (h : saved.kind = .ioioUart)
    (hs : (b.build saved).size ≤ serialBound)
    (hno : ¬ ∃ d ∈ b.sources.uart.found, d.value = saved.uartText) :
    (b.build saved).marked = [] := by
  by_contra hne
  exact hno ((b.marked_build_of_line saved h hs).1.1 hne)

/-! ### The selection of every build -/

theorem addsPlaceholder_iff_of_gap? {family : Family} {p : Item}
    (h : b.gap? saved = some (family, p)) :
    b.AddsPlaceholder saved ↔
      (b.upTo family).find? (Item.keyed p.kind.key p.value) = none := by
  have hitems := b.items_build_of_gap? h
  unfold AddsPlaceholder
  cases hfind : (b.upTo family).find? (Item.keyed p.kind.key p.value) with
  | some i =>
    rw [Item.missingFrom_of_find?_eq_some hfind, List.append_nil, upTo_append_behind] at hitems
    exact ⟨fun hne => absurd hitems hne, fun hnone => by cases hnone⟩
  | none =>
    refine ⟨fun _ => rfl, fun _ heq => ?_⟩
    have hlen := congrArg List.length heq
    rw [hitems, Item.missingFrom_of_find?_eq_none hfind, ← b.upTo_append_behind family] at hlen
    simp only [List.length_append, List.length_singleton] at hlen
    omega

/-- **For an address, the first item up to the Bluetooth devices that has it is selected, or else
the placeholder.** -/
theorem selects_build_of_mac (hm : saved.usesMac ∧ saved.bluetoothMac ≠ "") :
    (b.build saved).Selects
      ((b.upTo .bluetooth).findIdx
        (Item.keyed .bluetoothMac (ValueKey.canonicalMac saved.bluetoothMac)))
      (((b.upTo .bluetooth).find?
        (Item.keyed .bluetoothMac (ValueKey.canonicalMac saved.bluetoothMac))).getD
        (placeholder saved.kind saved.bluetoothMac
          (b.sources.bluetooth.nameFor saved.bluetoothMac))) := by
  have hkey := SavedPort.key_of_usesMac hm.1
  have hsel := b.selects_build_of_gap? (b.gap?_of_mac hm.1 hm.2)
  simp only [placeholder, hkey, ValueKey.canonical] at hsel ⊢
  exact hsel

theorem addsPlaceholder_iff_of_mac (hm : saved.usesMac ∧ saved.bluetoothMac ≠ "") :
    b.AddsPlaceholder saved ↔ (b.upTo .bluetooth).find?
      (Item.keyed .bluetoothMac (ValueKey.canonicalMac saved.bluetoothMac)) = none := by
  have hkey := SavedPort.key_of_usesMac hm.1
  have hadds := b.addsPlaceholder_iff_of_gap? (b.gap?_of_mac hm.1 hm.2)
  simp only [placeholder, hkey, ValueKey.canonical] at hadds
  exact hadds

theorem selects_placeholder_of_gap? {family : Family} {p : Item}
    (hgap : b.gap? saved = some (family, p)) (h : b.AddsPlaceholder saved) :
    ∃ i, (b.build saved).Selects i p ∧ (b.build saved).items.eraseIdx i = b.given := by
  have hitems := b.items_build_of_gap? hgap
  have hsel := b.selects_build_of_gap? hgap
  have hnone := (b.addsPlaceholder_iff_of_gap? hgap).1 h
  rw [hnone, Item.findIdx_of_find?_eq_none hnone] at hsel
  refine ⟨_, hsel, ?_⟩
  rw [hitems, Item.missingFrom_of_find?_eq_none hnone, ← b.upTo_append_behind family,
    List.append_assoc, List.eraseIdx_append_of_length_le (Nat.le_refl _), Nat.sub_self]
  rfl

/-- **A placeholder is selected.** Without it, the list is what is given. -/
theorem selects_placeholder (h : b.AddsPlaceholder saved) :
    ∃ i p, (b.build saved).Selects i p ∧ (b.build saved).items.eraseIdx i = b.given := by
  cases hgap : b.gap? saved with
  | none => exact absurd (b.items_build_of_gap?_eq_none hgap) h
  | some g =>
    obtain ⟨i, hi⟩ := b.selects_placeholder_of_gap? hgap h
    exact ⟨i, g.2, hi⟩

theorem find?_upTo_of_mac (hserial : ∀ d ∈ b.sources.serial.found, d.kind.key ≠ .bluetoothMac)
    (mac : String) :
    (b.upTo .bluetooth).find? (Item.keyed .bluetoothMac mac) =
      b.bluetoothItems.find? (Item.keyed .bluetoothMac mac) := by
  have hports : b.serialItems.find? (Item.keyed .bluetoothMac mac) = none := by
    refine List.find?_eq_none.2 fun i hi hfound => ?_
    obtain ⟨d, hd, rfl⟩ := b.mem_serialItems.1 hi
    exact hserial d hd (Item.keyed_iff.1 hfound).1
  rw [upTo, List.find?_append, List.find?_append, b.find?_fixedItems (by decide), hports]
  rfl

theorem find?_upTo_workbench :
    (workbench.upTo .bluetooth).find?
      (Item.keyed .bluetoothMac (ValueKey.canonicalMac " aa:bb")) =
      some ⟨.bleHm10, "AA:BB", "Vario", none⟩ := by
  rw [workbench.find?_upTo_of_mac (by decide)]
  decide

/-- **Which entry a build selects.** A fixed kind is selected where the table offers it. A serial
port, an address and an adapter are looked for among the items up to their family: the first one for
the port is selected, or else the placeholder behind them. A UART line is the last one found with
the saved number. An empty address or id selects nothing. One entry at most is selected, and a
placeholder always is. -/
theorem build_selects (b : Builder) (saved : SavedPort) (hs : (b.build saved).size ≤ 65536) :
    (saved.kind.key = .none →
      (∀ i s, b.table.get? i = some s → s.kind = saved.kind →
        (b.build saved).Selects i s.item) ∧
      (¬ b.table.offers saved.kind → (b.build saved).marked = [])) ∧
    (saved.kind = .serial → (b.build saved).Selects
      ((b.upTo .serial).findIdx (Item.keyed .path saved.path))
      (((b.upTo .serial).find? (Item.keyed .path saved.path)).getD
        (placeholder .serial saved.path none))) ∧
    (saved.kind.key = .bluetoothMac → saved.bluetoothMac ≠ "" → (b.build saved).Selects
      ((b.upTo .bluetooth).findIdx
        (Item.keyed .bluetoothMac (ValueKey.canonicalMac saved.bluetoothMac)))
      (((b.upTo .bluetooth).find?
        (Item.keyed .bluetoothMac (ValueKey.canonicalMac saved.bluetoothMac))).getD
        (placeholder saved.kind saved.bluetoothMac
          (b.sources.bluetooth.nameFor saved.bluetoothMac)))) ∧
    (saved.kind = .usbSerial → saved.path ≠ "" → (b.build saved).Selects
      ((b.upTo .usbSerial).findIdx (Item.keyed .path saved.path))
      (((b.upTo .usbSerial).find? (Item.keyed .path saved.path)).getD
        (placeholder .usbSerial saved.path none))) ∧
    (saved.kind = .ioioUart →
      (∀ before d after, b.sources.uart.found = before ++ d :: after →
        d.value = saved.uartText → (∀ d' ∈ after, d'.value ≠ saved.uartText) →
        (b.build saved).Selects ((b.upTo .usbSerial).length + before.length) d.shown) ∧
      ((∀ d ∈ b.sources.uart.found, d.value ≠ saved.uartText) → (b.build saved).marked = [])) ∧
    (saved.kind.key = .bluetoothMac ∧ saved.bluetoothMac = "" ∨
      saved.kind = .usbSerial ∧ saved.path = "" → (b.build saved).marked = []) ∧
    (b.build saved).marked.length ≤ 1 ∧
    (b.AddsPlaceholder saved →
      ∃ i p, (b.build saved).Selects i p ∧ (b.build saved).items.eraseIdx i = b.given) := by
  refine ⟨?_, ?_, ?_, ?_, ?_, ?_, ?_, b.selects_placeholder⟩
  · intro hk
    exact ⟨fun i s hget hks => b.selects_build_of_none hk hget hks,
      b.marked_build_of_not_offers hk⟩
  · intro hk
    exact b.selects_build_of_gap? (b.gap?_of_serial hk)
  · intro hk hv
    exact b.selects_build_of_mac ⟨by simp [SavedPort.usesMac, Kind.usesMac, hk], hv⟩
  · intro hk hv
    exact b.selects_build_of_gap? (b.gap?_of_usb hk hv)
  · intro hk
    refine ⟨fun before d after => b.selects_build_of_line hk hs, fun hno => ?_⟩
    refine b.marked_build_of_no_line hk hs ?_
    rintro ⟨d, hd, hv⟩
    exact hno d hd hv
  · exact b.marked_build_of_empty
  · exact (Roster.Reachable.build b saved).coherent.marked

/-- The bonded device is selected under its own kind, however its address was written. -/
theorem build_selects_bonded :
    ∃ i, (workbench.build (.bluetooth .rfcomm " aa:bb")).Selects i
      ⟨.bleHm10, "AA:BB", "Vario", none⟩ := by
  obtain ⟨-, -, hmac, -⟩ := build_selects workbench (.bluetooth .rfcomm " aa:bb")
    (Nat.le_trans (size_workbench_le _) (by decide))
  have hsel := hmac rfl (by decide)
  change Roster.Selects _ _ (((workbench.upTo .bluetooth).find?
    (Item.keyed .bluetoothMac (ValueKey.canonicalMac " aa:bb"))).getD _) at hsel
  rw [find?_upTo_workbench] at hsel
  exact ⟨_, hsel⟩

end Builder

end PortRoster
