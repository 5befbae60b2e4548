import Mathlib.Data.List.TakeWhile
import PortRoster.Proofs.Roster.Agreement
import PortRoster.Source.Usb

/-! # Saving the selection

When the selected entry is saved and the list is built again on the same host, nothing changes. This
is not obvious, since the saved port may change: an entry for the port may have another kind than
the saved one, and an address is saved in canonical spelling. Then another stage settles the port in
the second build, or the name of the placeholder is looked up for another spelling. The host is an
*ordinary* one: its sources find ports of their own kinds, and know the names of the bonded devices.

* `nameFor_eq_none_of_find?`: no placeholder gets its label from the bonded devices.
* `build_eq_of_canonicalMac_eq`: builds for one address agree, in whatever spelling it is saved.
* `build_resaved`: the roster for the saved selection is the roster that it was selected in. -/

namespace PortRoster

/-! ### Spellings of an address -/

namespace ValueKey

theorem canonicalMac_eq_of_sameLetters {a b : String} (h : Text.sameLetters a b) :
    canonicalMac a = canonicalMac b := by
  have hab : Text.capitals a.toList = Text.capitals b.toList := eq_of_beq h
  unfold canonicalMac
  rw [← Text.trim_capitals, ← Text.trim_capitals, hab]

theorem canonicalMac_ne_empty {value : String} (h : ∃ c ∈ value.toList, ¬ Text.isBlank c) :
    canonicalMac value ≠ "" := by
  obtain ⟨c, hc, hblank⟩ := h
  intro hempty
  have htrim : Text.trim value.toList = [] := by
    have := congrArg String.toList hempty
    rw [canonicalMac, String.toList_ofList] at this
    exact List.map_eq_nil_iff.1 this
  have hend : ∀ d ∈ value.toList.dropWhile Text.isBlank, Text.isBlank d := by
    intro d hd
    have hrev := List.reverse_eq_nil_iff.1 htrim
    exact List.dropWhile_eq_nil_iff.1 hrev d (List.mem_reverse.2 hd)
  cases hdrop : value.toList.dropWhile Text.isBlank with
  | nil => exact hblank (List.dropWhile_eq_nil_iff.1 hdrop c hc)
  | cons d ds =>
    have hhead : (value.toList.dropWhile Text.isBlank).head? = some d := by rw [hdrop]; rfl
    exact Text.not_head_dropWhile _ d hhead (hend d (by rw [hdrop]; exact List.mem_cons_self))

end ValueKey

theorem RadioType.key_kind (r : RadioType) : r.kind.key = .bluetoothMac := by cases r <;> rfl

theorem BondedDevice.nameFor_eq_none {devices : List BondedDevice} {value : String}
    (h : ∀ d ∈ devices, ValueKey.canonicalMac d.address ≠ ValueKey.canonicalMac value) :
    nameFor devices value = none := by
  have hfind : devices.find? (fun d => Text.sameLetters d.address value) = none :=
    List.find?_eq_none.2 fun d hd hsame => h d hd (ValueKey.canonicalMac_eq_of_sameLetters hsame)
  rw [nameFor, hfind]
  rfl

theorem Roster.mem_marked_of_selected? {r : Roster} {s : Entry} (h : r.selected? = some s) :
    s ∈ r.marked := by
  rw [selected?_eq_head?] at h
  exact List.mem_of_mem_head? h

theorem value_placeholder_of_mac {kind : Kind} (h : kind.key = .bluetoothMac) (value : String)
    (label : Option String) :
    (placeholder kind value label).value = ValueKey.canonicalMac value := by
  show kind.key.canonical value = _
  rw [h]
  rfl

namespace Builder

open Roster

/-! ### Ordinary hosts -/

/-- The sources of ports and lines find ports of their own kinds, and Bluetooth devices are the
bonded ones. -/
structure Ordinary (b : Builder) : Prop where
  serial : ∀ d ∈ b.sources.serial.found, d.kind = .serial
  bluetooth : ∃ devices, b.sources.bluetooth = .bonded devices
  usbSerial : ∀ d ∈ b.sources.usbSerial.found, d.kind = .usbSerial
  uart : ∀ d ∈ b.sources.uart.found, d.kind = .ioioUart

variable {b : Builder} {i : Item}

section Ordinary
variable (hb : b.Ordinary)
include hb

theorem Ordinary.kind_of_mem_serialItems (h : i ∈ b.serialItems) : i.kind = .serial := by
  obtain ⟨d, hd, rfl⟩ := b.mem_serialItems.1 h
  exact hb.serial d hd

theorem Ordinary.key_of_mem_bluetoothItems (h : i ∈ b.bluetoothItems) :
    i.kind.key = .bluetoothMac := by
  obtain ⟨devices, hdevices⟩ := hb.bluetooth
  obtain ⟨d, hd, rfl⟩ := List.mem_map.1 h
  rw [hdevices] at hd
  obtain ⟨device, -, rfl⟩ := List.mem_map.1 hd
  exact device.radio.key_kind

theorem Ordinary.kind_of_mem_usbItems (h : i ∈ b.usbItems) : i.kind = .usbSerial := by
  obtain ⟨d, hd, rfl⟩ := List.mem_map.1 h
  exact hb.usbSerial d hd

end Ordinary

/-! ### One address in several spellings -/

/-- **No placeholder gets its label from the bonded devices**: the name of a device is known for the
spellings of its address, and then the device is listed. -/
theorem nameFor_eq_none_of_find? {devices : List BondedDevice}
    (hdevices : b.sources.bluetooth = .bonded devices) {value : String}
    (h : (b.upTo .bluetooth).find?
      (Item.keyed .bluetoothMac (ValueKey.canonicalMac value)) = none) :
    b.sources.bluetooth.nameFor value = none := by
  rw [hdevices]
  refine BondedDevice.nameFor_eq_none fun d hd hsame => ?_
  have hkey := d.radio.key_kind
  have hmem : d.discovery.shown ∈ b.bluetoothItems := by
    unfold bluetoothItems
    rw [hdevices]
    exact List.mem_map_of_mem (List.mem_map_of_mem hd)
  refine List.find?_eq_none.1 h _ (List.mem_append_right _ hmem) (Item.keyed_iff.2 ⟨hkey, ?_⟩)
  show d.radio.kind.key.canonical d.address = _
  rw [hkey, ← hsame]
  rfl

/-- **Builds for one address agree**, in whatever spelling it is saved. If the device is found, they
agree whatever kind is saved. -/
theorem build_eq_of_canonicalMac_eq {devices : List BondedDevice}
    (hdevices : b.sources.bluetooth = .bonded devices) {c c' : SavedPort}
    (hc : c.usesMac ∧ c.bluetoothMac ≠ "") (hc' : c'.usesMac ∧ c'.bluetoothMac ≠ "")
    (hmac : ValueKey.canonicalMac c.bluetoothMac = ValueKey.canonicalMac c'.bluetoothMac)
    (hkind : (b.upTo .bluetooth).find?
      (Item.keyed .bluetoothMac (ValueKey.canonicalMac c.bluetoothMac)) = none →
      c.kind = c'.kind) :
    b.build c = b.build c' := by
  have hkey := SavedPort.key_of_usesMac hc.1
  have hkey' := SavedPort.key_of_usesMac hc'.1
  have hvalue := value_placeholder_of_mac hkey c.bluetoothMac
  have hvalue' := value_placeholder_of_mac hkey' c'.bluetoothMac
  refine build_eq_of_gap? (b.gap?_of_mac hc.1 hc.2) (b.gap?_of_mac hc'.1 hc'.2)
    (hkey.trans hkey'.symm) (by rw [hvalue, hvalue', hmac]) fun hnone => ?_
  have hnone : (b.upTo .bluetooth).find?
      (Item.keyed .bluetoothMac (ValueKey.canonicalMac c.bluetoothMac)) = none := by
    rw [hvalue] at hnone
    rwa [← hkey]
  have hname := nameFor_eq_none_of_find? hdevices hnone
  have hname' : b.sources.bluetooth.nameFor c'.bluetoothMac = none :=
    nameFor_eq_none_of_find? hdevices (by rwa [← hmac])
  rw [hname, hname']
  unfold placeholder
  rw [← hkind hnone, hkey]
  simp only [ValueKey.canonical, hmac]

/-! ### The second build -/

theorem selected_of_gap? {c : SavedPort} {s : Entry} {family : Family} {p : Item}
    (hgap : b.gap? c = some (family, p)) (hs : (b.build c).selected? = some s) :
    (s.kind.key = p.kind.key ∧ s.value = p.value) ∧
      ((b.upTo family).find? (Item.keyed p.kind.key p.value) = some s.toItem ∨
        (b.upTo family).find? (Item.keyed p.kind.key p.value) = none ∧ s.toItem = p) := by
  obtain ⟨-, hitem⟩ := (b.selects_build_of_gap? hgap).toItem_eq hs
  cases hfind : (b.upTo family).find? (Item.keyed p.kind.key p.value) with
  | some i =>
    rw [hfind, Option.getD_some] at hitem
    rw [← hitem] at hfind ⊢
    exact ⟨Item.keyed_iff.1 (List.find?_some hfind), .inl rfl⟩
  | none =>
    rw [hfind, Option.getD_none] at hitem
    rw [← hitem]
    exact ⟨⟨rfl, rfl⟩, .inr ⟨rfl, rfl⟩⟩

section Ordinary
variable (hb : b.Ordinary) {c : SavedPort} {s : Entry}
include hb

theorem Ordinary.build_resaved_serial (hk : c.kind = .serial)
    (hs : (b.build c).selected? = some s) : b.build (.ofValue s.kind s.value) = b.build c := by
  obtain ⟨⟨hpath, hvalue⟩, hsearch⟩ := selected_of_gap? (b.gap?_of_serial hk) hs
  have hpath : s.kind.key = .path := hpath
  have hvalue : s.value = c.path := hvalue
  have hkind : s.kind = .serial := by
    rcases hsearch with hfound | ⟨-, hitem⟩
    · rcases List.mem_append.1 (List.mem_of_find?_eq_some hfound) with hmem | hmem
      · rw [key_of_mem_fixedItems hmem] at hpath
        cases hpath
      · exact hb.kind_of_mem_serialItems hmem
    · exact congrArg Item.kind hitem
  refine b.build_congr (by rw [SavedPort.kind_ofValue, hkind, hk]) ?_
  rw [SavedPort.value_ofValue (.inl hpath), hvalue]
  simp [SavedPort.value, hk, Kind.key]

theorem Ordinary.build_resaved_mac (hm : c.usesMac ∧ c.bluetoothMac ≠ "")
    (hne : ValueKey.canonicalMac c.bluetoothMac ≠ "") (hs : (b.build c).selected? = some s) :
    b.build (.ofValue s.kind s.value) = b.build c := by
  obtain ⟨devices, hdevices⟩ := hb.bluetooth
  have hkey := SavedPort.key_of_usesMac hm.1
  obtain ⟨⟨hskey, hvalue⟩, hsearch⟩ := selected_of_gap? (b.gap?_of_mac hm.1 hm.2) hs
  rw [value_placeholder_of_mac hkey] at hvalue hsearch
  have hskey : s.kind.key = .bluetoothMac := hskey.trans hkey
  have hsmac : (SavedPort.ofValue s.kind s.value).bluetoothMac =
      ValueKey.canonicalMac c.bluetoothMac := by
    rw [SavedPort.bluetoothMac_ofValue hskey, hvalue]
  have huses : (SavedPort.ofValue s.kind s.value).usesMac := by
    simp [SavedPort.usesMac, Kind.usesMac, hskey]
  refine (build_eq_of_canonicalMac_eq hdevices hm ⟨huses, by rwa [hsmac]⟩ ?_ fun hnone => ?_).symm
  · rw [hsmac, ValueKey.canonicalMac_canonicalMac]
  · rw [SavedPort.kind_ofValue]
    rcases hsearch with hfound | ⟨-, hitem⟩
    · have hfound : (b.upTo .bluetooth).find?
          (Item.keyed c.kind.key (ValueKey.canonicalMac c.bluetoothMac)) = some s.toItem := hfound
      rw [hkey, hnone] at hfound
      cases hfound
    · exact (congrArg Item.kind hitem).symm

/-- A serial port that a search up to the adapters finds is found at the same place by a search up
to the serial ports: no item behind these is one. -/
theorem Ordinary.find_upTo_serial {path : String} {i : Item}
    (hfind : (b.upTo .usbSerial).find? (Item.keyed .path path) = some i) (hi : i.kind = .serial) :
    (b.upTo .serial).find? (Item.keyed .path path) = some i ∧
      (b.upTo .usbSerial).findIdx (Item.keyed .path path) =
        (b.upTo .serial).findIdx (Item.keyed .path path) := by
  have hsplit : b.upTo .usbSerial = b.upTo .serial ++ (b.bluetoothItems ++ b.usbItems) := by
    simp [upTo]
  rw [hsplit, List.find?_append] at hfind
  cases hserial : (b.upTo .serial).find? (Item.keyed .path path) with
  | some j =>
    have hlt : (b.upTo .serial).findIdx (Item.keyed .path path) < (b.upTo .serial).length :=
      List.findIdx_lt_length_of_exists
        ⟨j, List.mem_of_find?_eq_some hserial, List.find?_some hserial⟩
    rw [hserial, Option.some_or] at hfind
    exact ⟨hfind, by rw [hsplit, List.findIdx_append, if_pos hlt]⟩
  | none =>
    rw [hserial, Option.none_or] at hfind
    rcases List.mem_append.1 (List.mem_of_find?_eq_some hfind) with h | h
    · have hkey := hb.key_of_mem_bluetoothItems h
      rw [hi] at hkey
      cases hkey
    · have hkind := hb.kind_of_mem_usbItems h
      rw [hi] at hkind
      cases hkind

/-- An adapter stays what it is, unless a serial port has its path. Then the serial port is saved,
and is found where it was. -/
theorem Ordinary.build_resaved_usb (hu : c.kind = .usbSerial ∧ c.path ≠ "")
    (hs : (b.build c).selected? = some s) : b.build (.ofValue s.kind s.value) = b.build c := by
  obtain ⟨⟨hpath, hvalue⟩, hsearch⟩ := selected_of_gap? (b.gap?_of_usb hu.1 hu.2) hs
  have hpath : s.kind.key = .path := hpath
  have hvalue : s.value = c.path := hvalue
  rcases s.kind.eq_of_key_path hpath with hkind | hkind
  · have husb : (b.upTo .usbSerial).find? (Item.keyed .path c.path) = some s.toItem := by
      rcases hsearch with hfound | ⟨-, hitem⟩
      · exact hfound
      · rw [show s.kind = .usbSerial from congrArg Item.kind hitem] at hkind
        cases hkind
    obtain ⟨hserial, hidx⟩ := hb.find_upTo_serial husb hkind
    have hspath : (SavedPort.ofValue s.kind s.value).path = c.path := by
      rw [SavedPort.path_ofValue hpath, hvalue]
    have hgap : b.gap? (.ofValue s.kind s.value) =
        some (.serial, placeholder .serial (SavedPort.ofValue s.kind s.value).path none) :=
      b.gap?_of_serial (by rw [SavedPort.kind_ofValue, hkind])
    rw [hspath] at hgap
    exact (build_eq_of_found (b.gap?_of_usb hu.1 hu.2) hgap husb hserial hidx).symm
  · refine b.build_congr (by rw [SavedPort.kind_ofValue, hkind, hu.1]) ?_
    rw [SavedPort.value_ofValue (.inl hpath), hvalue]
    simp [SavedPort.value, hu.1, Kind.key]

theorem Ordinary.build_resaved_line (hk : c.kind = .ioioUart)
    (hsize : (b.build c).size ≤ serialBound) (hs : (b.build c).selected? = some s) :
    b.build (.ofValue s.kind s.value) = b.build c := by
  have hmem := mem_marked_of_selected? hs
  obtain ⟨hmarked, hvalues⟩ := b.marked_build_of_line c hk hsize
  obtain ⟨before, d, after, hfound, hd, hafter⟩ :=
    exists_last_line (hmarked.1 (List.ne_nil_of_mem hmem))
  obtain ⟨-, hitem⟩ := (b.selects_build_of_line hk hsize hfound hd hafter).toItem_eq hs
  have hkind : s.kind = .ioioUart := by
    rw [← hb.uart d (by rw [hfound]; simp)]
    exact congrArg Item.kind hitem
  refine b.build_congr (by rw [SavedPort.kind_ofValue, hkind, hk]) ?_
  have hvalue : c.value = some c.uartText := by simp [SavedPort.value, hk, Kind.key]
  rw [hvalue, hvalues s hmem, SavedPort.value_ofValue_line (by rw [hkind]; rfl),
    SavedPort.readLine_uartText]
  rfl

end Ordinary

theorem build_resaved_fixed {c : SavedPort} {s : Entry} (hk : c.kind.key = .none)
    (hs : (b.build c).selected? = some s) :
    b.build (.ofValue s.kind s.value) = b.build c := by
  have hkind : s.kind = c.kind := (b.marked_build_of_none c hk).2 s (mem_marked_of_selected? hs)
  refine b.build_congr (by rw [SavedPort.kind_ofValue, hkind]) ?_
  simp only [SavedPort.value, SavedPort.kind_ofValue, hkind, hk]

/-- **Saving the selection changes nothing.** The selected entry of a build on an ordinary host is
saved, and a build for that saved port gives the same roster: the same identifiers, kinds, values,
labels, help texts and marks. An address must not be all blanks. -/
theorem build_resaved {b : Builder} (hb : b.Ordinary) {c : SavedPort}
    (hmac : c.usesMac → c.bluetoothMac ≠ "" → ∃ ch ∈ c.bluetoothMac.toList, ¬ Text.isBlank ch)
    (hsize : (b.build c).size ≤ 65536) {s : Entry} (hs : (b.build c).selected? = some s) :
    ∃ c', (b.build c).toSaved s.id.raw = some c' ∧ b.build c' = b.build c := by
  have hr := b.coherent_run_build c []
  have hf := b.fronted_run_build c []
  have hmem : s ∈ (b.build c).entries := List.mem_of_find?_eq_some hs
  have hlook : (b.build c).lookup s.id.raw = some s := Roster.lookup_id hr hf hsize hmem
  refine ⟨.ofValue s.kind s.value, Roster.toSaved_of_lookup hr hf hlook, ?_⟩
  rcases b.settled_cases c with ⟨family, p, hgap⟩ | hk | hk | ⟨hgap, hc, hline⟩
  · rcases b.gap?_cases hgap with ⟨hk, -, -⟩ | ⟨hm, -, -⟩ | ⟨hu, -, -⟩
    · exact hb.build_resaved_serial hk hs
    · exact hb.build_resaved_mac hm (ValueKey.canonicalMac_ne_empty (hmac hm.1 hm.2)) hs
    · exact hb.build_resaved_usb hu hs
  · exact build_resaved_fixed hk hs
  · exact hb.build_resaved_line hk hsize hs
  · -- an empty address or id, for which nothing is selected
    have hmarked := mem_marked_of_selected? hs
    rw [b.marked_build_of_gap?_eq_none hgap hc hline] at hmarked
    exact absurd hmarked List.not_mem_nil

/-- An address is saved in canonical spelling and under the kind of the bonded device. -/
theorem build_resaved_bonded :
    ∃ s c', (workbench.build (.bluetooth .rfcomm " aa:bb")).selected? = some s ∧
      s.kind = .bleHm10 ∧ s.value = "AA:BB" ∧
      (workbench.build (.bluetooth .rfcomm " aa:bb")).toSaved s.id.raw = some c' ∧
      workbench.build c' = workbench.build (.bluetooth .rfcomm " aa:bb") := by
  have hb : workbench.Ordinary := ⟨by decide, ⟨_, rfl⟩, by decide, by decide⟩
  have hgap : workbench.gap? (.bluetooth .rfcomm " aa:bb") = some (.bluetooth,
      placeholder .rfcomm " aa:bb" (workbench.sources.bluetooth.nameFor " aa:bb")) :=
    workbench.gap?_of_mac rfl (by decide)
  have hsel := workbench.selects_build_of_gap? hgap
  obtain ⟨s, hmarked, -, hitem⟩ := hsel.exists_marked
  have hs : (workbench.build (.bluetooth .rfcomm " aa:bb")).selected? = some s := by
    rw [selected?_eq_head?, hmarked]
    rfl
  have hitem : s.toItem = ⟨.bleHm10, "AA:BB", "Vario", none⟩ := by
    rw [hitem]
    exact congrArg (Option.getD · _) find?_upTo_workbench
  obtain ⟨c', hc', hbuild⟩ := build_resaved hb (c := .bluetooth .rfcomm " aa:bb")
    (fun _ _ => ⟨'a', by decide, by decide⟩) (Nat.le_trans (size_workbench_le _) (by decide)) hs
  exact ⟨s, c', hs, congrArg Item.kind hitem, congrArg Item.value hitem, hc', hbuild⟩

end Builder

end PortRoster
