import PortRoster.Proofs.Roster.Selection
import PortRoster.Settings.Session

/-! # What a session lists

Settings that describe devices speak twice: the capability of the family counts as present, and the
family is listed. A switch has the last word on both. Capabilities are put together by changing one
set step by step, so what comes of it is told by members: a *fold* of changes of single capabilities
leaves behind, for each capability, what its own change says (`Capabilities.has_foldl`).

* `Settings.has_capabilities`: a capability is in force as its switch says, or else if it is
  described or detected.
* `Builder.exists_items_eq_given`: without its placeholder, a build lists what it was given.
* `Session.given_builder`: what a session is given is what the settings describe.
* `Session.opens_listed`: the capabilities in force and the list of every session. -/

namespace PortRoster

/-! ### The capabilities in force -/

/-- If every step changes one capability only, a fold of steps changes each as its own step does.
The induction is on the capabilities that are still to be looked at; that one of them comes twice
does no harm, since its change is the same then. -/
theorem Capabilities.has_foldl {step : Capabilities → Capability → Capabilities}
    (change : Capability → Option Bool)
    (h : ∀ caps c d, (step caps c).has d = if d = c then (change d).getD (caps.has d) else caps.has d)
    (cs : List Capability) (caps : Capabilities) (d : Capability) :
    (cs.foldl step caps).has d = if d ∈ cs then (change d).getD (caps.has d) else caps.has d := by
  induction cs generalizing caps with
  | nil => simp
  | cons c cs ih =>
    rw [List.foldl_cons, ih, h]
    by_cases hc : d = c
    · rw [if_pos hc, hc, if_pos List.mem_cons_self]
      cases change c <;> simp
    · simp [hc]

/-- **Switches decide about a capability where they are set.** -/
theorem Switches.has_onto (s : Switches) (caps : Capabilities) (c : Capability) :
    (s.onto caps).has c = (s.get c).getD (caps.has c) := by
  unfold onto
  rw [Capabilities.has_foldl s.get, if_pos c.mem_all]
  intro caps c d
  cases hc : s.get c with
  | none =>
    split_ifs with hd
    · rw [hd, hc, Option.getD_none]
    · rfl
  | some on =>
    rw [Capabilities.has_set]
    split_ifs with hd
    · rw [hd, hc, Option.getD_some]
    · rfl

namespace Settings

variable (s : Settings) (caps : Capabilities)

/-- **A capability is in force as its switch says, or else if it is described or detected.** -/
theorem has_capabilities (c : Capability) :
    (s.capabilities caps).has c = (s.switches.get c).getD (s.describes c || caps.has c) := by
  unfold capabilities
  rw [Switches.has_onto,
    Capabilities.has_foldl (fun c => if s.describes c then some true else none),
    if_pos c.mem_all]
  · cases s.describes c <;> simp
  · intro caps c d
    cases hc : s.describes c
    · by_cases hd : d = c <;> simp [hd, hc]
    · by_cases hd : d = c <;> simp [Capabilities.has_set, hd, hc]

theorem describes_iff {c : Capability} :
    s.describes c ↔ (c = .bluetooth ∧ s.bonded ≠ []) ∨ (c = .usbSerial ∧ s.adapters ≠ []) ∨
      (c = .ioio ∧ s.uartCount ≠ none) := by
  cases c <;> simp [describes, Option.isSome_iff_ne_none]

/-! ### The sources of a session -/

/-- The bonded devices that are looked at. -/
def reported : List BondedDevice := if caps.bluetooth then s.bonded else []

theorem found_serial : (s.sources caps).serial.found = [] := rfl

theorem found_bluetooth :
    (s.sources caps).bluetooth.found = (s.reported caps).map BondedDevice.discovery := by
  show Source.found (if caps.bluetooth then .bonded s.bonded else .unavailable .bluetooth) = _
  unfold reported
  split_ifs <;> rfl

theorem found_usb :
    (s.sources caps).usbSerial.found =
      if caps.usbSerial then s.adapters.map UsbAdapter.discovery else [] := by
  show Source.found (if caps.usbSerial then .adapters s.adapters else .unavailable .usbSerial) = _
  split_ifs <;> rfl

theorem found_uart :
    (s.sources caps).uart.found =
      if caps.ioio then
        (List.range (s.uartCount.getD 0).toNat).map (uartDiscovery s.uartHelp) else [] := by
  show Source.found (if caps.ioio then .uartLines (s.uartCount.getD 0).toNat s.uartHelp
    else .unavailable .uart) = _
  split_ifs <;> rfl

/-! ### What is listed -/

/-- The fixed kinds that have all they need. -/
def listedKinds : List Item :=
  (FixedKind.all.filter fun k => k.requires.all caps.has).map fun k => ⟨k.kind, "", k.label, none⟩

/-- The bonded devices, in the order of their description. -/
def listedDevices : List Item :=
  if caps.has .bluetooth then
    s.bonded.map fun d =>
      ⟨d.radio.kind, ValueKey.canonicalMac d.address, d.name.getD d.address, none⟩
  else []

/-- The adapters, in the order of their description. -/
def listedAdapters : List Item :=
  if caps.has .usbSerial then s.adapters.map fun a => ⟨.usbSerial, a.id, "USB: " ++ a.name, none⟩
  else []

/-- The lines of the board, each with its help text as far as there are any. -/
def listedLines : List Item :=
  if caps.has .ioio then
    (List.range (s.uartCount.getD 0).toNat).map fun line =>
      ⟨.ioioUart, Text.decimalText line, "IOIO UART " ++ Text.decimalText line, s.uartHelp[line]?⟩
  else []

/-- What the settings list on a host with these capabilities. -/
def listed : List Item :=
  listedKinds caps ++ s.listedDevices caps ++ s.listedAdapters caps ++ s.listedLines caps

variable {s caps} in
theorem kind_ne_serial_of_mem_listed {i : Item} (h : i ∈ s.listed caps) : i.kind ≠ .serial := by
  unfold listed listedKinds listedDevices listedAdapters listedLines at h
  simp only [List.mem_append] at h
  rcases h with ((h | h) | h) | h
  · obtain ⟨k, hk, rfl⟩ := List.mem_map.1 h
    have hc := FixedKind.carriesValue_of_mem_all (List.mem_filter.1 hk).1
    intro hs
    rw [show k.kind = .serial from hs] at hc
    exact absurd hc (by decide)
  · split_ifs at h
    · obtain ⟨d, -, rfl⟩ := List.mem_map.1 h
      cases d.radio <;> exact nofun
    · exact absurd h List.not_mem_nil
  · split_ifs at h
    · obtain ⟨a, -, rfl⟩ := List.mem_map.1 h
      exact nofun
    · exact absurd h List.not_mem_nil
  · split_ifs at h
    · obtain ⟨line, -, rfl⟩ := List.mem_map.1 h
      exact nofun
    · exact absurd h List.not_mem_nil

end Settings

namespace Builder

variable (b : Builder)

theorem exists_placeholder_of_gap? {saved : SavedPort} {family : Family} {p : Item}
    (h : b.gap? saved = some (family, p)) :
    ∃ value label, saved.value = some value ∧ p = placeholder saved.kind value label := by
  rcases b.gap?_cases h with ⟨hk, -, rfl⟩ | ⟨hm, -, rfl⟩ | ⟨hu, -, rfl⟩
  · exact ⟨saved.path, none, by simp [SavedPort.value, hk, Kind.key], by rw [hk]⟩
  · exact ⟨saved.bluetoothMac, _, by simp [SavedPort.value, SavedPort.key_of_usesMac hm.1], rfl⟩
  · exact ⟨saved.path, none, by simp [SavedPort.value, hu.1, Kind.key], by rw [hu.1]⟩

/-- **Without its placeholder, a build lists what it was given.** There is a placeholder at most for
the saved port, and then nothing that stands before it is for the same port. -/
theorem exists_items_eq_given (saved : SavedPort) :
    ∃ before extra after : List Item,
      (b.build saved).items = before ++ extra ++ after ∧ before ++ after = b.given ∧
      (extra = [] ∨ ∃ value label, saved.value = some value ∧
        extra = [placeholder saved.kind value label] ∧
        ∀ i ∈ before, ¬ i.SamePort (placeholder saved.kind value label)) := by
  cases hgap : b.gap? saved with
  | none =>
    refine ⟨b.given, [], [], ?_, List.append_nil _, .inl rfl⟩
    rw [b.items_build_of_gap?_eq_none hgap, List.append_nil, List.append_nil]
  | some gap =>
    obtain ⟨family, p⟩ := gap
    obtain ⟨value, label, hvalue, rfl⟩ := b.exists_placeholder_of_gap? hgap
    refine ⟨b.upTo family, _, b.behind family, b.items_build_of_gap? hgap,
      b.upTo_append_behind family, ?_⟩
    by_cases hsame : ∃ i ∈ b.upTo family, i.SamePort (placeholder saved.kind value label)
    · exact .inl (if_pos hsame)
    · refine .inr ⟨value, label, hvalue, if_neg hsame, fun i hi hs => hsame ⟨i, hi, hs⟩⟩

end Builder

namespace Session

variable (s : Session)

theorem serialItems_builder : s.builder.serialItems = [] := by
  show ((s.settings.sources s.capabilities).serial.found.map Discovery.shown).mergeSort
    Item.labelLe = []
  rw [Settings.found_serial, List.map_nil, List.mergeSort_nil]

theorem bluetoothItems_builder :
    s.builder.bluetoothItems =
      (s.settings.reported s.capabilities).map fun d => d.discovery.shown := by
  show (s.settings.sources s.capabilities).bluetooth.found.map Discovery.shown = _
  rw [Settings.found_bluetooth, List.map_map]
  rfl

theorem fixedItems_builder : s.builder.fixedItems = Settings.listedKinds s.capabilities := rfl

theorem bluetoothItems_eq_listed :
    s.builder.bluetoothItems = s.settings.listedDevices s.capabilities := by
  rw [bluetoothItems_builder]
  unfold Settings.reported Settings.listedDevices
  show List.map _ (if s.capabilities.bluetooth then _ else _) =
    if s.capabilities.bluetooth then _ else _
  split_ifs
  · refine List.map_congr_left fun d _ => ?_
    obtain ⟨address, name, radio⟩ := d
    cases radio <;> rfl
  · rfl

theorem usbItems_eq_listed : s.builder.usbItems = s.settings.listedAdapters s.capabilities := by
  show (s.settings.sources s.capabilities).usbSerial.found.map Discovery.shownUsb =
    if s.capabilities.usbSerial then _ else _
  rw [Settings.found_usb]
  split_ifs
  · rw [List.map_map]
    rfl
  · rfl

theorem uartItems_eq_listed : s.builder.uartItems = s.settings.listedLines s.capabilities := by
  show (s.settings.sources s.capabilities).uart.found.map Discovery.shown =
    if s.capabilities.ioio then _ else _
  rw [Settings.found_uart]
  split_ifs
  · rw [List.map_map]
    rfl
  · rfl

/-- **What a session is given is what its settings list.** -/
theorem given_builder : s.builder.given = s.settings.listed s.capabilities := by
  unfold Builder.given Builder.upTo Settings.listed
  rw [fixedItems_builder, serialItems_builder, List.append_nil, bluetoothItems_eq_listed,
    usbItems_eq_listed, uartItems_eq_listed]

/-- **Capabilities gate the fixed kinds and the described devices together.** A capability is in
force if its switch is on, or if it has no switch and is detected or has devices that are described.
A session lists the fixed kinds, bonded devices, adapters and lines of the capabilities in force,
each family as it is described; beside these it lists a placeholder at most, which is for the port
to select. No serial port is found. -/
theorem opens_listed (s : Session) :
    (∀ c, s.capabilities.has c ↔
      s.settings.switches.get c = some true ∨
      (s.settings.switches.get c = none ∧
        (s.detected.has c ∨ (c = .bluetooth ∧ s.settings.bonded ≠ []) ∨
          (c = .usbSerial ∧ s.settings.adapters ≠ []) ∨
          (c = .ioio ∧ s.settings.uartCount ≠ none)))) ∧
    (∃ before extra after : List Item,
      s.roster.items = before ++ extra ++ after ∧
      before ++ after = s.settings.listed s.capabilities ∧
      (extra = [] ∨ ∃ value label, s.device.value = some value ∧
        extra = [placeholder s.device.kind value label] ∧
        ∀ i ∈ before, ¬ i.SamePort (placeholder s.device.kind value label))) ∧
    ∀ i ∈ s.settings.listed s.capabilities, i.kind ≠ .serial := by
  refine ⟨fun c => ?_, ?_, fun i => Settings.kind_ne_serial_of_mem_listed⟩
  · rw [capabilities, Settings.has_capabilities, ← Settings.describes_iff]
    cases s.settings.switches.get c with
    | none => simp [or_comm]
    | some on => simp
  · rw [← given_builder]
    exact s.builder.exists_items_eq_given s.device

end Session

end PortRoster
