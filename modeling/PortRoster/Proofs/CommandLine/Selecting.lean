import PortRoster.Proofs.CommandLine.Language
import PortRoster.Proofs.Roster.Reapplication
import PortRoster.Proofs.Settings.Opening
import PortRoster.Proofs.Settings.Written

/-! # Choosing without asking, from end to end

What the program prints and returns when it is to choose a port without asking. The settings and the
command line give the port to select and the capabilities, a roster is built from them, its selected
entry is chosen, and what is saved for that entry is printed. All of this comes to a simple answer,
which depends on the port to select, the capabilities, the bonded devices and the number of lines.
Whoever reads what is printed has this answer again.

* `Session.Selectable`, `Session.answer`: when there is an answer, and which.
* `Session.exists_selects_roster`, `Session.marked_roster_eq_nil`: the roster selects the answer, or
  nothing.
* `select_nonInteractive`: the exit code and the result of the program. -/

namespace PortRoster

/-! ### Sources of a session -/

namespace Settings

variable (s : Settings) (caps : Capabilities)

theorem kind_of_mem_usb {d : Discovery} (h : d ∈ (s.sources caps).usbSerial.found) :
    d.kind = .usbSerial := by
  rw [found_usb] at h
  split_ifs at h
  · obtain ⟨adapter, -, rfl⟩ := List.mem_map.1 h
    rfl
  · exact absurd h List.not_mem_nil

theorem kind_of_mem_uart {d : Discovery} (h : d ∈ (s.sources caps).uart.found) :
    d.kind = .ioioUart := by
  rw [found_uart] at h
  split_ifs at h
  · obtain ⟨line, -, rfl⟩ := List.mem_map.1 h
    rfl
  · exact absurd h List.not_mem_nil

theorem exists_mem_uart_iff {line : Nat} :
    (∃ d ∈ (s.sources caps).uart.found, d.value = Text.decimalText line) ↔
      caps.ioio ∧ line < (s.uartCount.getD 0).toNat := by
  have hline (n : Nat) : (uartDiscovery s.uartHelp n).value = Text.decimalText line ↔ n = line :=
    Text.decimalText_injective.eq_iff
  rw [found_uart]
  split_ifs with h <;> simp [h, hline]

end Settings

namespace Builder

open Roster

theorem toSaved_build_of_mem {b : Builder} {c : SavedPort} (hs : (b.build c).size ≤ serialBound)
    {e : Entry} (he : e ∈ (b.build c).entries) :
    (b.build c).toSaved e.id.raw = some (.ofValue e.kind e.value) := by
  have hr := b.coherent_run_build c []
  have hf := b.fronted_run_build c []
  exact toSaved_of_lookup hr hf (lookup_id hr hf hs he)

end Builder

/-! ### The answer of a session -/

namespace Session

open Roster

/-- There is an answer: the fixed kind is offered, the port is a serial one, its address or id is not
empty, or the board has the line. -/
def Selectable (s : Session) : Prop :=
  (s.device.kind.key = .none ∧ (KindTable.forCapabilities s.capabilities).offers s.device.kind) ∨
  s.device.kind = .serial ∨
  (s.device.usesMac ∧ s.device.bluetoothMac ≠ "") ∨
  (s.device.kind = .usbSerial ∧ s.device.path ≠ "") ∨
  (s.device.kind = .ioioUart ∧ s.capabilities.ioio ∧
    s.device.uartLine.toNat < (s.settings.uartCount.getD 0).toNat)

/-- The first bonded device at the address that is to be selected. -/
def bondedDevice? (s : Session) : Option BondedDevice :=
  (s.settings.reported s.capabilities).find? fun d =>
    ValueKey.canonicalMac d.address == ValueKey.canonicalMac s.device.bluetoothMac

/-- The answer: the port to select, with the field in use alone. An address is in canonical spelling,
and has the kind of the bonded device, if there is one. -/
def answer (s : Session) : SavedPort :=
  match s.device.kind.key with
  | .none => .ofKind s.device.kind
  | .path => { SavedPort.ofKind s.device.kind with path := s.device.path }
  | .bluetoothMac =>
    { SavedPort.ofKind ((s.bondedDevice?.map (·.radio.kind)).getD s.device.kind) with
      bluetoothMac := ValueKey.canonicalMac s.device.bluetoothMac }
  | .uartIndex => { SavedPort.ofKind s.device.kind with uartLine := s.device.uartLine }

variable (s : Session)

theorem kind_of_mem_usbItems {i : Item} (h : i ∈ s.builder.usbItems) : i.kind = .usbSerial := by
  obtain ⟨d, hd, rfl⟩ := List.mem_map.1 h
  exact s.settings.kind_of_mem_usb s.capabilities hd

theorem find?_upTo_bluetooth :
    (s.builder.upTo .bluetooth).find?
        (Item.keyed .bluetoothMac (ValueKey.canonicalMac s.device.bluetoothMac)) =
      s.bondedDevice?.map fun d => d.discovery.shown := by
  have hshown (d : BondedDevice) :
      Item.keyed .bluetoothMac (ValueKey.canonicalMac s.device.bluetoothMac) d.discovery.shown =
        (ValueKey.canonicalMac d.address == ValueKey.canonicalMac s.device.bluetoothMac) := by
    have hkey := d.radio.key_kind
    simp [Item.keyed, Discovery.shown, BondedDevice.discovery, hkey, ValueKey.canonical]
  rw [Builder.upTo, List.find?_append, List.find?_append,
    s.builder.find?_fixedItems (by decide), s.serialItems_builder, s.bluetoothItems_builder,
    List.find?_map]
  simp only [Function.comp_def, hshown, List.find?_nil, Option.none_or]
  rfl

/-- A search for a path finds adapters alone, since no serial ports are looked for. -/
theorem kind_of_find?_upTo_usbSerial {path : String} {i : Item}
    (h : (s.builder.upTo .usbSerial).find? (Item.keyed .path path) = some i) :
    i.kind = .usbSerial := by
  have hkey := (Item.keyed_iff.1 (List.find?_some h)).1
  have hmem := List.mem_of_find?_eq_some h
  simp only [Builder.upTo, List.mem_append] at hmem
  rcases hmem with ((hi | hi) | hi) | hi
  · rw [Builder.key_of_mem_fixedItems hi] at hkey
    cases hkey
  · rw [s.serialItems_builder] at hi
    exact absurd hi List.not_mem_nil
  · rw [s.bluetoothItems_builder] at hi
    obtain ⟨d, -, rfl⟩ := List.mem_map.1 hi
    rw [show d.discovery.shown.kind.key = .bluetoothMac from d.radio.key_kind] at hkey
    cases hkey
  · exact s.kind_of_mem_usbItems hi

/-! ### What the roster selects -/

variable {s}

theorem exists_selects_of_none (hk : s.device.kind.key = .none)
    (ho : (KindTable.forCapabilities s.capabilities).offers s.device.kind) :
    ∃ i x, s.roster.Selects i x ∧ SavedPort.ofValue x.kind x.value = s.answer := by
  obtain ⟨i, fixed, hget, hfixed⟩ := KindTable.exists_get?_of_offers ho
  refine ⟨i, fixed.item, s.builder.selects_build_of_none hk hget hfixed, ?_⟩
  show SavedPort.ofValue fixed.kind "" = s.answer
  rw [hfixed]
  simp [SavedPort.ofValue, answer, hk]

theorem exists_selects_of_serial (hk : s.device.kind = .serial) :
    ∃ i x, s.roster.Selects i x ∧ SavedPort.ofValue x.kind x.value = s.answer := by
  have hsel : s.roster.Selects _ (((s.builder.upTo .serial).find?
      (Item.keyed .path s.device.path)).getD (placeholder .serial s.device.path none)) :=
    s.builder.selects_build_of_gap? (s.builder.gap?_of_serial hk)
  have hnone : (s.builder.upTo .serial).find? (Item.keyed .path s.device.path) = none := by
    rw [Builder.upTo, s.serialItems_builder, List.append_nil]
    exact s.builder.find?_fixedItems (by decide) _
  rw [hnone] at hsel
  refine ⟨_, _, hsel, ?_⟩
  simp [SavedPort.ofValue, answer, hk, placeholder, Kind.key, ValueKey.canonical]

theorem exists_selects_of_mac (hm : s.device.usesMac) (hv : s.device.bluetoothMac ≠ "") :
    ∃ i x, s.roster.Selects i x ∧ SavedPort.ofValue x.kind x.value = s.answer := by
  have hkey := SavedPort.key_of_usesMac hm
  have hsel := s.builder.selects_build_of_mac ⟨hm, hv⟩
  simp only [placeholder, hkey, ValueKey.canonical, s.find?_upTo_bluetooth] at hsel
  refine ⟨_, _, hsel, ?_⟩
  unfold answer
  rw [hkey]
  cases hfind : s.bondedDevice? with
  | none => simp [SavedPort.ofValue, hkey]
  | some d =>
    have haddress : ValueKey.canonicalMac d.address =
        ValueKey.canonicalMac s.device.bluetoothMac := by
      simpa using List.find?_some hfind
    simp [SavedPort.ofValue, Discovery.shown, BondedDevice.discovery, d.radio.key_kind,
      ValueKey.canonical, haddress]

theorem exists_selects_of_usb (hk : s.device.kind = .usbSerial) (hv : s.device.path ≠ "") :
    ∃ i x, s.roster.Selects i x ∧ SavedPort.ofValue x.kind x.value = s.answer := by
  have hsel : s.roster.Selects _ (((s.builder.upTo .usbSerial).find?
      (Item.keyed .path s.device.path)).getD (placeholder .usbSerial s.device.path none)) :=
    s.builder.selects_build_of_gap? (s.builder.gap?_of_usb hk hv)
  have hanswer : SavedPort.ofValue .usbSerial s.device.path = s.answer := by
    simp [SavedPort.ofValue, answer, hk, Kind.key]
  cases hfind : (s.builder.upTo .usbSerial).find? (Item.keyed .path s.device.path) with
  | none =>
    rw [hfind] at hsel
    exact ⟨_, _, hsel, hanswer⟩
  | some i =>
    rw [hfind] at hsel
    refine ⟨_, _, hsel, ?_⟩
    rw [Option.getD_some, s.kind_of_find?_upTo_usbSerial hfind,
      (Item.keyed_iff.1 (List.find?_some hfind)).2]
    exact hanswer

theorem exists_selects_of_line (hk : s.device.kind = .ioioUart) (hs : s.roster.size ≤ serialBound)
    (hline : ∃ d ∈ s.builder.sources.uart.found, d.value = s.device.uartText) :
    ∃ i x, s.roster.Selects i x ∧ SavedPort.ofValue x.kind x.value = s.answer := by
  obtain ⟨before, d, after, hfound, hd, hafter⟩ := Builder.exists_last_line hline
  have hdk : d.kind = .ioioUart :=
    s.settings.kind_of_mem_uart s.capabilities (show d ∈ s.builder.sources.uart.found by
      rw [hfound]
      simp)
  refine ⟨_, _, s.builder.selects_build_of_line hk hs hfound hd hafter, ?_⟩
  have hread := SavedPort.readLine_uartText s.device
  simp [SavedPort.ofValue, answer, hk, hdk, Discovery.shown, Kind.key, ValueKey.canonical, hd, hread]

/-- **The roster selects the answer**, if there is one. -/
theorem exists_selects_roster (h : s.Selectable) (hs : s.roster.size ≤ serialBound) :
    ∃ i x, s.roster.Selects i x ∧ SavedPort.ofValue x.kind x.value = s.answer := by
  rcases h with ⟨hk, ho⟩ | hk | ⟨hm, hv⟩ | ⟨hk, hv⟩ | ⟨hk, hline⟩
  · exact exists_selects_of_none hk ho
  · exact exists_selects_of_serial hk
  · exact exists_selects_of_mac hm hv
  · exact exists_selects_of_usb hk hv
  · exact exists_selects_of_line hk hs ((s.settings.exists_mem_uart_iff s.capabilities).2 hline)

/-- **The roster selects nothing**, if there is no answer. -/
theorem marked_roster_eq_nil (h : ¬ s.Selectable) (hs : s.roster.size ≤ serialBound) :
    s.roster.marked = [] := by
  rcases s.builder.settled_cases s.device with ⟨family, p, hgap⟩ | hk | hk | ⟨hgap, hc, hline⟩
  · rcases s.builder.gap?_cases hgap with ⟨hk, -, -⟩ | ⟨hm, -, -⟩ | ⟨hu, -, -⟩
    · exact absurd (.inr (.inl hk)) h
    · exact absurd (.inr (.inr (.inl hm))) h
    · exact absurd (.inr (.inr (.inr (.inl hu)))) h
  · exact s.builder.marked_build_of_not_offers hk fun ho => h (.inl ⟨hk, ho⟩)
  · refine s.builder.marked_build_of_no_line hk hs fun hline => h ?_
    exact .inr (.inr (.inr (.inr ⟨hk, (s.settings.exists_mem_uart_iff s.capabilities).1 hline⟩)))
  · exact s.builder.marked_build_of_gap?_eq_none hgap hc hline

end Session

/-! ### The program -/

namespace CommandLine

/-- The text says which port is saved, and nothing else: as a JSON text, or as a settings file. -/
def SaysSaved (json : Bool) (text : String) (saved : SavedPort) : Prop :=
  if json then (Json.read text).bind (SavedPort.ofData .json) = some saved
  else Settings.ofToml text = some { Settings.empty with device := some saved }

theorem saysSaved_written (json : Bool) (saved : SavedPort) :
    SaysSaved json (if json then saved.toJson ++ "\n" else saved.toToml) saved := by
  cases json with
  | true => exact saved.read_toJson.2
  | false => exact Settings.ofToml_toToml saved

/-- The outcome gives the answer of the session, or says that there is none. What is printed is the
text that the program writes for the answer, and it is read back as the answer. -/
structure Answers (s : Session) (json : Bool) (o : Outcome) : Prop where
  exit : o.exit = 0 ↔ s.Selectable
  failure : ¬ s.Selectable → o.exit = 2 ∧ o.stdout = ""
  stdout : s.Selectable →
    o.stdout = if json then s.answer.toJson ++ "\n" else s.answer.toToml
  saved : s.Selectable → SaysSaved json o.stdout s.answer

variable {s : Session} {json : Bool}

theorem Answers.after {o : Outcome} (h : Answers s json o) (log : String) :
    Answers s json (o.after log) := ⟨h.exit, h.failure, h.stdout, h.saved⟩

theorem exists_toSaved_of_pick (hs : s.roster.size ≤ serialBound) {id : PortId}
    (h : (pick s.roster true).2 = .ok id) : ∃ saved, s.roster.toSaved id.raw = some saved := by
  obtain ⟨e, he, rfl⟩ := (pick_eq_ok_iff s.roster).1 h
  have hmem : e ∈ s.roster.entries := (List.mem_filter.1 (List.mem_of_mem_head? he)).1
  exact ⟨_, Builder.toSaved_build_of_mem hs hmem⟩

/-- **Choosing from the roster of a session gives its answer.** -/
theorem answers_select (hs : s.roster.size ≤ serialBound) (l : Locale) (quiet : Bool) :
    Answers s json (select l s.roster json true quiet) := by
  by_cases h : s.Selectable
  · obtain ⟨i, x, hsel, hanswer⟩ := Session.exists_selects_roster h hs
    obtain ⟨e, hmarked, hmem, rfl⟩ := hsel.exists_marked
    have hpick : pick s.roster true = (s.roster, .ok e.id) :=
      pick_eq_of_snd _ ((pick_eq_ok_iff s.roster).2 ⟨e, by rw [hmarked]; rfl, rfl⟩)
    have hsaved : s.roster.toSaved e.id.raw = some s.answer := by
      rw [← hanswer]
      exact Builder.toSaved_build_of_mem hs hmem
    unfold select
    rw [hpick]
    simp only [hsaved]
    exact ⟨iff_of_true rfl h, fun hn => absurd h hn, fun _ => rfl, fun _ => saysSaved_written _ _⟩
  · have hpick : pick s.roster true = (s.roster, .error .nothingSelected) :=
      pick_eq_of_snd _
        ((pick_eq_error_iff s.roster).2 ⟨Session.marked_roster_eq_nil h hs, rfl⟩)
    unfold select
    rw [hpick]
    exact ⟨iff_of_false (Nat.succ_ne_zero 1) h, fun _ => ⟨rfl, rfl⟩, fun hy => absurd hy h,
      fun hy => absurd hy h⟩

theorem run_eq_after {host : Host} {name : String} {args : List String} {i : Invocation}
    (hname : ¬ AsksForHelp name) (hparse : parse host.env args = .ok i)
    (hrequest : i.request = .select json) (hquietly : i.nonInteractive) :
    ∃ log, run host (name :: args) = (select (languageOf host.env (name :: args))
      (sessionOf host i).roster json true i.quiet).after log := by
  rw [run_of_parse hparse hname]
  unfold execute
  simp only [hrequest, hquietly]
  exact ⟨_, rfl⟩

/-- **Choosing without asking, from end to end.** There is an answer if the port to select is of a
fixed kind that the capabilities allow, a serial port, an address or an adapter that is not empty, or
a line that the board has. Then the program succeeds and prints the port to select with its other
fields empty, an address in canonical spelling and under the kind of the first bonded device that has
it; and what is printed is read back as this port. Otherwise the command line counts as one that
cannot be used, and nothing is printed. What is saved for the chosen entry is always known. -/
theorem select_nonInteractive (s : Session) (json : Bool) (hs : s.roster.size ≤ 65536) :
    (∀ l quiet, Answers s json (select l s.roster json true quiet)) ∧
    (∀ host name args i, ¬ AsksForHelp name → parse host.env args = .ok i →
      i.request = .select json → i.nonInteractive → sessionOf host i = s →
      Answers s json (run host (name :: args))) ∧
    ∀ id, (pick s.roster true).2 = .ok id → ∃ saved, s.roster.toSaved id.raw = some saved := by
  refine ⟨answers_select hs, ?_, fun id => exists_toSaved_of_pick hs⟩
  intro host name args i hname hparse hrequest hquietly hsession
  obtain ⟨log, hrun⟩ := run_eq_after hname hparse hrequest hquietly
  rw [hrun, hsession]
  exact (answers_select hs _ _).after log

/-- A session with one bonded device, the address of which is to be selected as that of another
kind. -/
def varioSession : Session where
  settings := { bonded := [⟨"aa:bb", some "Vario", .ble⟩] }
  overrides := { kind := some .rfcomm, bluetoothMac := some " AA:bb" }
  detected := .detect true

/-- A line that gives the same kind and address. -/
def varioArguments : List String := ["select", "--non-interactive", "--kind=rfcomm", "--mac= AA:bb"]

/-- What is printed is read back as the bonded device, under its own kind. On a host without it, the
address is printed under the kind that the command line gives. -/
theorem select_nonInteractive_vario :
    Settings.ofToml (select .en varioSession.roster false true true).stdout =
        some { Settings.empty with device := some (.bluetooth .bleHm10 "AA:BB") } ∧
      (run bareHost (programName :: varioArguments)).exit = 0 ∧
      Settings.ofToml (run bareHost (programName :: varioArguments)).stdout =
        some { Settings.empty with device := some (.bluetooth .rfcomm "AA:BB") } := by
  constructor
  · have hsize : varioSession.roster.size ≤ varioSession.builder.table.size + 0 + 1 + 0 + 0 + 1 :=
      varioSession.builder.size_build_le _
    obtain ⟨hselect, -, -⟩ := select_nonInteractive varioSession false
      (Nat.le_trans hsize (by decide))
    exact (hselect .en true).saved (.inr (.inr (.inl ⟨rfl, by decide⟩)))
  · obtain ⟨i, hparse, hrequest, hquietly, hsession⟩ :
        ∃ i, parse bareHost.env varioArguments = .ok i ∧ i.request = .select false ∧
          i.nonInteractive ∧ sessionOf bareHost i = { varioSession with settings := {} } :=
      ⟨_, rfl, rfl, rfl, rfl⟩
    have hsize : (sessionOf bareHost i).roster.size ≤
        (sessionOf bareHost i).builder.table.size + 0 + 0 + 0 + 0 + 1 := by
      rw [hsession]
      exact Builder.size_build_le _ _
    have htable := (sessionOf bareHost i).builder.table.size_le
    obtain ⟨-, hrun, -⟩ := select_nonInteractive (sessionOf bareHost i) false (by omega)
    have hanswers := hrun bareHost programName _ i (by decide) hparse hrequest hquietly rfl
    rw [hsession] at hanswers
    have hselectable : Session.Selectable { varioSession with settings := {} } :=
      .inr (.inr (.inl ⟨rfl, by decide⟩))
    exact ⟨hanswers.exit.2 hselectable, hanswers.saved hselectable⟩

end CommandLine

end PortRoster
