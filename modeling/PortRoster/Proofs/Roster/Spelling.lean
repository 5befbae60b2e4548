import PortRoster.Proofs.Roster.Resaving

/-! # The spelling of a saved address

A saved address is looked at in three forms: whether it is empty is asked of the address as it was
saved, the name of a device is looked for by letters of either case, and the list is searched for
the canonical spelling. On a host with bonded devices the last two agree: where a name is known, the
device is listed. The first one differs from them for an address of blanks. Its canonical spelling
is empty, but it is settled, while the empty address selects nothing.

* `build_respelled`: builds for two spellings of an address agree, unless only one is empty.
* `build_named`: a device whose name is known is selected, and a placeholder is labelled with the
  address. -/

namespace PortRoster

namespace Builder

open Roster

variable {b : Builder} {devices : List BondedDevice}

/-! ### Two spellings -/

theorem marked_build_eq_nil_iff {saved : SavedPort} (h : saved.usesMac) :
    (b.build saved).marked = [] ↔ saved.bluetoothMac = "" := by
  have hkey := SavedPort.key_of_usesMac h
  constructor
  · intro hnone
    by_contra hv
    obtain ⟨s, hs, -, -⟩ := b.exists_marked_build_of_mac saved hkey hv
    rw [hnone] at hs
    cases hs
  · intro hv
    exact b.marked_build_of_empty (.inl ⟨hkey, hv⟩)

theorem empty_iff_of_entries_eq {c c' : SavedPort} (hc : c.usesMac) (hc' : c'.usesMac)
    (h : (b.build c).entries = (b.build c').entries) :
    c.bluetoothMac = "" ↔ c'.bluetoothMac = "" := by
  rw [← marked_build_eq_nil_iff (b := b) hc, ← marked_build_eq_nil_iff (b := b) hc']
  unfold marked
  rw [h]

/-- **The spelling of a saved address does not matter, unless it is empty.** Builds for two
spellings of one address list the same entries, with the same marks, exactly when both are empty or
neither is. If only one is, then the other one is blank: the empty one selects nothing, and the
other one selects an entry without a value. -/
theorem build_respelled (hdevices : b.sources.bluetooth = .bonded devices) {c : SavedPort}
    (hc : c.usesMac) {mac : String}
    (hmac : ValueKey.canonicalMac c.bluetoothMac = ValueKey.canonicalMac mac) :
    ((b.build c).entries = (b.build { c with bluetoothMac := mac }).entries ↔
      (c.bluetoothMac = "" ↔ mac = "")) ∧
    (c.bluetoothMac = "" → mac ≠ "" → (b.build c).marked = [] ∧
      ∃ s, (b.build { c with bluetoothMac := mac }).marked = [s] ∧ s.value = "") := by
  have hc' : ({ c with bluetoothMac := mac } : SavedPort).usesMac := hc
  refine ⟨⟨empty_iff_of_entries_eq hc hc', fun hempty => ?_⟩, fun h h' => ?_⟩
  · by_cases h : c.bluetoothMac = ""
    · have hsame : { c with bluetoothMac := mac } = c := by rw [hempty.1 h, ← h]
      rw [hsame]
    · have h' : mac ≠ "" := fun h' => h (hempty.2 h')
      rw [build_eq_of_canonicalMac_eq hdevices ⟨hc, h⟩ ⟨hc', h'⟩ hmac fun _ => rfl]
  · obtain ⟨s, hs, -, hvalue⟩ := b.exists_marked_build_of_mac { c with bluetoothMac := mac }
      (SavedPort.key_of_usesMac hc') h'
    refine ⟨(marked_build_eq_nil_iff hc).2 h, s, hs, hvalue.trans ?_⟩
    show ValueKey.canonicalMac mac = ""
    rw [← hmac, h]
    rfl

/-- Two spellings of the address of the bonded device give the same list, while a tab does not give
the list of an empty address. -/
theorem build_respelled_workbench :
    (workbench.build (.bluetooth .rfcomm " aa:bb")).entries =
        (workbench.build (.bluetooth .rfcomm "Aa:bB\t")).entries ∧
      (workbench.build (.bluetooth .rfcomm "")).marked = [] ∧
      ∃ s, (workbench.build (.bluetooth .rfcomm "\t")).marked = [s] ∧ s.value = "" := by
  have hspelled : ValueKey.canonicalMac " aa:bb" = ValueKey.canonicalMac "Aa:bB\t" := by decide
  have hblank : ValueKey.canonicalMac "" = ValueKey.canonicalMac "\t" := by decide
  obtain ⟨hsame, -⟩ :=
    build_respelled (b := workbench) rfl (c := .bluetooth .rfcomm " aa:bb") rfl hspelled
  obtain ⟨-, hother⟩ := build_respelled (b := workbench) rfl (c := .bluetooth .rfcomm "") rfl hblank
  exact ⟨hsame.2 (by decide), hother rfl (by decide)⟩

/-- So it does not hold of all spellings that builds for them list the same entries. -/
theorem not_forall_build_respelled :
    ¬ ∀ (b : Builder) (devices : List BondedDevice) (c : SavedPort) (mac : String),
      b.sources.bluetooth = .bonded devices → c.usesMac →
      ValueKey.canonicalMac c.bluetoothMac = ValueKey.canonicalMac mac →
      (b.build c).entries = (b.build { c with bluetoothMac := mac }).entries := by
  intro h
  have heq := h ⟨.basic, { bluetooth := .bonded [] }⟩ [] (.bluetooth .rfcomm "") " " rfl rfl
    (by decide)
  have hempty := empty_iff_of_entries_eq rfl rfl heq
  exact absurd (hempty.1 rfl) (by decide)

/-! ### Names and placeholders -/

theorem exists_shown_of_key {i : Item} (hi : i ∈ b.upTo .bluetooth)
    (hkey : i.kind.key = .bluetoothMac) :
    ∃ d, (d ∈ b.sources.serial.found ∨ d ∈ b.sources.bluetooth.found) ∧ d.shown = i := by
  rcases List.mem_append.1 hi with hi | hi
  · rcases List.mem_append.1 hi with hi | hi
    · rw [key_of_mem_fixedItems hi] at hkey
      cases hkey
    · obtain ⟨d, hd, rfl⟩ := b.mem_serialItems.1 hi
      exact ⟨d, .inl hd, rfl⟩
  · obtain ⟨d, hd, rfl⟩ := List.mem_map.1 hi
    exact ⟨d, .inr hd, rfl⟩

theorem exists_shown_of_find? {mac : String} {i : Item} (h : (b.upTo .bluetooth).find?
      (Item.keyed .bluetoothMac (ValueKey.canonicalMac mac)) = some i) :
    ∃ d, (d ∈ b.sources.serial.found ∨ d ∈ b.sources.bluetooth.found) ∧ d.shown = i ∧
      d.kind.usesMac ∧ ValueKey.canonicalMac d.value = ValueKey.canonicalMac mac := by
  obtain ⟨hkey, hvalue⟩ := Item.keyed_iff.1 (List.find?_some h)
  obtain ⟨d, hd, rfl⟩ := exists_shown_of_key (List.mem_of_find?_eq_some h) hkey
  have hkey : d.kind.key = .bluetoothMac := hkey
  have hvalue : d.kind.key.canonical d.value = ValueKey.canonicalMac mac := hvalue
  rw [hkey] at hvalue
  exact ⟨d, hd, rfl, by simp [Kind.usesMac, hkey], hvalue⟩

/-- **Where the name for a saved address is known, nothing is added**, and a discovery with the
address is selected. -/
theorem selects_discovery_of_nameFor (hdevices : b.sources.bluetooth = .bonded devices)
    {saved : SavedPort} (hm : saved.usesMac ∧ saved.bluetoothMac ≠ "")
    (hname : (BondedDevice.nameFor devices saved.bluetoothMac).isSome) :
    (b.build saved).items = b.given ∧
      ∃ i d, (d ∈ b.sources.serial.found ∨ d ∈ b.sources.bluetooth.found) ∧
        (b.build saved).Selects i d.shown ∧ d.kind.usesMac ∧
        ValueKey.canonicalMac d.value = ValueKey.canonicalMac saved.bluetoothMac := by
  have hsel := b.selects_build_of_mac hm
  have hadds := b.addsPlaceholder_iff_of_mac hm
  cases hfind : (b.upTo .bluetooth).find?
      (Item.keyed .bluetoothMac (ValueKey.canonicalMac saved.bluetoothMac)) with
  | none =>
    have hnone : (Source.bonded devices).nameFor saved.bluetoothMac = none := by
      rw [← hdevices]
      exact nameFor_eq_none_of_find? hdevices hfind
    exact absurd hnone (Option.isSome_iff_ne_none.1 hname)
  | some i =>
    rw [hfind] at hsel hadds
    obtain ⟨d, hd, rfl, hkey, hvalue⟩ := exists_shown_of_find? hfind
    refine ⟨?_, _, d, hd, hsel, hkey, hvalue⟩
    by_contra hne
    cases hadds.1 hne

/-- **A placeholder for an address is labelled with the address**, in canonical spelling. -/
theorem selects_placeholder_of_mac (hdevices : b.sources.bluetooth = .bonded devices)
    {saved : SavedPort} (hm : saved.usesMac ∧ saved.bluetoothMac ≠ "")
    (h : b.AddsPlaceholder saved) :
    ∃ i, (b.build saved).Selects i ⟨saved.kind, ValueKey.canonicalMac saved.bluetoothMac,
        ValueKey.canonicalMac saved.bluetoothMac, none⟩ ∧
      (b.build saved).items.eraseIdx i = b.given := by
  have hname := nameFor_eq_none_of_find? hdevices ((b.addsPlaceholder_iff_of_mac hm).1 h)
  have hselected := b.selects_placeholder_of_gap? (b.gap?_of_mac hm.1 hm.2) h
  rw [hname] at hselected
  simpa only [placeholder, SavedPort.key_of_usesMac hm.1, ValueKey.canonical, Option.getD_none]
    using hselected

/-- **The names of the bonded devices label no placeholder.** Where the name for a saved address is
known, nothing is added, and a discovery with the address is selected. A placeholder has the kind
that is saved, and if it has an address, it is labelled with the canonical spelling of it. -/
theorem build_named (hdevices : b.sources.bluetooth = .bonded devices) (saved : SavedPort) :
    (saved.usesMac → saved.bluetoothMac ≠ "" →
      (BondedDevice.nameFor devices saved.bluetoothMac).isSome →
      (b.build saved).items = b.given ∧
      ∃ i d, (d ∈ b.sources.serial.found ∨ d ∈ b.sources.bluetooth.found) ∧
        (b.build saved).Selects i d.shown ∧ d.kind.usesMac ∧
        ValueKey.canonicalMac d.value = ValueKey.canonicalMac saved.bluetoothMac) ∧
    (b.AddsPlaceholder saved → ∃ i p, (b.build saved).Selects i p ∧
      (b.build saved).items.eraseIdx i = b.given ∧ p.kind = saved.kind ∧
      (saved.usesMac → p.value = ValueKey.canonicalMac saved.bluetoothMac ∧
        p.label = ValueKey.canonicalMac saved.bluetoothMac)) := by
  refine ⟨fun hc hv => selects_discovery_of_nameFor hdevices ⟨hc, hv⟩, fun hadds => ?_⟩
  cases hgap : b.gap? saved with
  | none => exact absurd (b.items_build_of_gap?_eq_none hgap) hadds
  | some g =>
    obtain ⟨family, p⟩ := g
    have hmac {kind : Kind} (hk : saved.kind = kind) (hkey : kind.key ≠ .bluetoothMac) :
        ¬ saved.usesMac := fun hm => SavedPort.kind_ne_of_usesMac hm hkey hk
    rcases b.gap?_cases hgap with ⟨hk, -, rfl⟩ | ⟨hm, -, -⟩ | ⟨⟨hk, -⟩, -, rfl⟩
    · obtain ⟨i, hsel, hgiven⟩ := b.selects_placeholder_of_gap? hgap hadds
      exact ⟨i, _, hsel, hgiven, hk.symm, fun hm => absurd hm (hmac hk (by decide))⟩
    · obtain ⟨i, hsel, hgiven⟩ := selects_placeholder_of_mac hdevices hm hadds
      exact ⟨i, _, hsel, hgiven, rfl, fun _ => ⟨rfl, rfl⟩⟩
    · obtain ⟨i, hsel, hgiven⟩ := b.selects_placeholder_of_gap? hgap hadds
      exact ⟨i, _, hsel, hgiven, hk.symm, fun hm => absurd hm (hmac hk (by decide))⟩

/-- The bonded device is listed once for its address, and another address is its own label. -/
theorem build_named_workbench :
    BondedDevice.nameFor [⟨"aa:bb", some "Vario", .ble⟩] "aA:BB" = some "Vario" ∧
      (workbench.build (.bluetooth .rfcomm "aA:BB")).items = workbench.given ∧
      ∃ i p, (workbench.build (.bluetooth .rfcomm " cc:dd")).Selects i p ∧
        (workbench.build (.bluetooth .rfcomm " cc:dd")).items.eraseIdx i = workbench.given ∧
        p.kind = .rfcomm ∧ p.value = "CC:DD" ∧ p.label = "CC:DD" := by
  have hname : BondedDevice.nameFor [⟨"aa:bb", some "Vario", .ble⟩] "aA:BB" = some "Vario" := by
    decide
  have hadds : workbench.AddsPlaceholder (.bluetooth .rfcomm " cc:dd") := by
    refine (workbench.addsPlaceholder_iff_of_mac ⟨rfl, by decide⟩).2 ?_
    rw [workbench.find?_upTo_of_mac (by decide)]
    decide
  obtain ⟨hknown, -⟩ := build_named (b := workbench) rfl (.bluetooth .rfcomm "aA:BB")
  obtain ⟨-, hunknown⟩ := build_named (b := workbench) rfl (.bluetooth .rfcomm " cc:dd")
  obtain ⟨i, p, hsel, hgiven, hkind, hspelled⟩ := hunknown hadds
  exact ⟨hname, (hknown rfl (by decide) (congrArg Option.isSome hname)).1, i, p, hsel, hgiven,
    hkind, hspelled rfl⟩

end Builder

end PortRoster
